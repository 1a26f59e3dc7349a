/-!
# Words of a command line

A word is the name of an option with two dashes, perhaps with its value after an equals sign, a
cluster of letters with one dash, two dashes alone, which end the options, or a plain word.
-/

namespace FareSearch.CommandLine

/-- Why a command line was not accepted; asking for help is such a reason too. -/
inductive UsageError where
  | displayHelp
  | unknownArgument
  | invalidValue
  | valueValidation
  | tooManyValues
  | argumentConflict
  | missingRequiredArgument
  deriving DecidableEq

def UsageError.message : UsageError → String
  | displayHelp => "usage: --origin CODE --destination CODE --date YYYY-MM-DD [OPTIONS]"
  | unknownArgument => "unexpected argument"
  | invalidValue => "a value is missing or is none of the possible values"
  | valueValidation => "invalid value"
  | tooManyValues => "unexpected value for an option that takes none"
  | argumentConflict => "an option cannot be used multiple times"
  | missingRequiredArgument => "a required option was not provided"

inductive Word where
  | separator
  | long (name : String) (value : Option String)
  | short (letter : Char)
  | plain
  deriving DecidableEq

/-- The kind of a word. A single dash is a plain word. -/
def Word.of (text : String) : Word :=
  match text.toList with
  | ['-', '-'] => .separator
  | '-' :: '-' :: rest =>
    let name := rest.takeWhile (· != '=')
    let value := rest.drop (name.length + 1)
    .long (String.ofList name)
      (if name.length = rest.length then none else some (String.ofList value))
  | '-' :: letter :: _ => .short letter
  | _ => .plain

end FareSearch.CommandLine

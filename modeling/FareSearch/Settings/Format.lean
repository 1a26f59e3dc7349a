import FareSearch.Json.Reader
import FareSearch.Settings.Ini
import FareSearch.Settings.Json5
import FareSearch.Settings.Ron
import FareSearch.Settings.Toml.Document
import FareSearch.Settings.Yaml.Document

/-!
# Formats of settings files

The extension of a settings file tells its format. Whatever the format, a file is a table of named
values; only those at its top are assignments, and a text that breaks the rules of its format
assigns nothing.
-/

namespace FareSearch

inductive SettingsFormat where
  | toml
  | json
  | yaml
  | ini
  | ron
  | json5
  deriving DecidableEq

namespace SettingsFormat

/-- The extensions of the formats, in the order in which files are looked for. -/
def extensions : List (String × SettingsFormat) :=
  [("toml", toml), ("json", json), ("yaml", yaml), ("yml", yaml), ("ini", ini), ("ron", ron),
   ("json5", json5)]

/-- The parts of a path that name something, last first. -/
def namedParts (path : String) : List String :=
  ((path.splitOn "/").filter fun part ↦ !part.isEmpty && part != ".").reverse

/-- The text after the last point of the last part of a path, if something stands before it. -/
def extension? (path : String) : Option String :=
  match namedParts path with
  | file :: _ =>
    match (file.splitOn ".").reverse with
    | last :: first :: more => if more.isEmpty && first.isEmpty then none else some last
    | _ => none
  | [] => none

/-- The format of a file, by the extension in its path. -/
def ofPath? (path : String) : Option SettingsFormat :=
  (extension? path).bind fun extension ↦ (extensions.find? (·.1 == extension)).map (·.2)

/-- A path without the slashes, and the dots between them, after the last part that names
something; `chars` is the path last character first. -/
def trimmedPath : List Char → List Char
  | '/' :: rest => trimmedPath rest
  | '.' :: '/' :: rest => trimmedPath rest
  | chars => chars

/-- The paths with an extension added, where the path names a file. -/
def candidates (path : String) : List (String × SettingsFormat) :=
  match namedParts path with
  | [] => []
  | ".." :: _ => []
  | _ =>
    let trimmed := String.ofList (trimmedPath path.toList.reverse).reverse
    extensions.map fun (extension, format) ↦ (trimmed ++ "." ++ extension, format)

/-- The assignments of an object. -/
def assignmentsOfJson? : Json → Option (List Assignment)
  | .object members => some (members.map fun (name, value) ↦ (name, .ofJson value))
  | _ => none

/-- The assignments of the text of a file. -/
def assignments? (format : SettingsFormat) (text : String) : Option (List Assignment) :=
  match format with
  | json => ((Json.read? text).map Json.collapse).bind assignmentsOfJson?
  | toml => Toml.assignments? text
  | yaml => Yaml.assignments? text
  | ini => Ini.assignments? text
  | ron => Ron.assignments? text
  | json5 => Json5.assignments? text

end SettingsFormat

end FareSearch

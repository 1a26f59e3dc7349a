import FareSearch.Number.Reader
import FareSearch.Settings.EnvironmentLines
import FareSearch.Settings.Sources
import FareSearch.Text.AlphanumericTable

/-!
# Environment files

Lines that assign variables: a name, an equals sign and a value, which may be quoted, may refer to
other variables, and may be followed by a comment. A variable that is set already keeps its value,
and reading ends at the first line that is no assignment.
-/

namespace FareSearch.EnvironmentFile

open FareSearch.Text

/-- How a value is being read; `weak` tells whether double quotes are open. The name of a variable
that is referred to is kept last character first. -/
inductive ValueState where
  | text (weak : Bool)
  | escaped (weak : Bool)
  | strong
  | reference (weak : Bool) (name : List Char)
  | braced (weak : Bool) (name : List Char)
  | ended

/-- The value of the variable whose name was read last character first; empty where there is no
such variable. -/
def valueOf (environment : Environment) (name : List Char) : List Char :=
  ((environment.find? (·.1 == String.ofList name.reverse)).map (·.2.toList)).getD []

/-- The characters that a backslash may stand before. -/
def escaped? (c : Char) : Option Char :=
  if c == '\\' || c == '\'' || c == '"' || c == '$' || c == ' ' then some c
  else if c == 'n' then some '\n'
  else none

def isGap (c : Char) : Bool :=
  c == ' ' || c == '\t'

/-- Reads a value in a state; `read` is what was read so far, last first. A character that ends a
reference without braces is taken as it is. -/
def readValue (environment : Environment) (state : ValueState) (read : List Char) :
    List Char → Option (List Char)
  | [] =>
    match state with
    | .text weak => if weak then none else some read.reverse
    | .escaped weak => if weak then none else some read.reverse
    | .reference weak name =>
      if weak then none else some (read.reverse ++ valueOf environment name)
    | .ended => some read.reverse
    | .strong => none
    | .braced .. => none
  | c :: rest =>
    match state with
    | .ended =>
      if isGap c then readValue environment .ended read rest
      else if c == '#' then some read.reverse
      else none
    | .escaped weak =>
      match escaped? c with
      | some char => readValue environment (.text weak) (char :: read) rest
      | none => none
    | .strong =>
      if c == '\'' then readValue environment (.text false) read rest
      else readValue environment .strong (c :: read) rest
    | .reference weak name =>
      if isAlphanumeric c then readValue environment (.reference weak (c :: name)) read rest
      else if c == '\x7b' && name.isEmpty then readValue environment (.braced weak []) read rest
      else
        let read := (valueOf environment name).reverse ++ read
        if c == '$' then readValue environment (.reference weak []) read rest
        else readValue environment (.text weak) (c :: read) rest
    | .braced weak name =>
      if c == '\x7d' then
        readValue environment (.text weak) ((valueOf environment name).reverse ++ read) rest
      else readValue environment (.braced weak (c :: name)) read rest
    | .text weak =>
      if c == '$' then readValue environment (.reference weak []) read rest
      else if c == '\\' then readValue environment (.escaped weak) read rest
      else if c == '"' then readValue environment (.text !weak) read rest
      else if weak then readValue environment (.text weak) (c :: read) rest
      else if c == '\'' then readValue environment .strong read rest
      else if isGap c then readValue environment .ended read rest
      else readValue environment (.text weak) (c :: read) rest

def isNameStart (c : Char) : Bool :=
  isAsciiLetter c || c == '_'

def isNameChar (c : Char) : Bool :=
  isAsciiLetter c || Number.isDigit c || c == '_' || c == '.'

/-- A name and the text after it and after the white space there. -/
def readName? (chars : List Char) : Option (String × List Char) :=
  if chars.head?.any isNameStart then
    some (String.ofList (chars.takeWhile isNameChar), trimStart (chars.dropWhile isNameChar))
  else none

/-- The name of an assignment and the text after its equals sign. The word `export` may stand
before the name. -/
def readTarget? (chars : List Char) : Option (String × List Char) :=
  match readName? chars with
  | some (name, '=' :: rest) => some (name, trimStart rest)
  | some ("export", rest) =>
    match readName? rest with
    | some (name, '=' :: rest) => some (name, trimStart rest)
    | _ => none
  | _ => none

def isIdle (chars : List Char) : Bool :=
  chars.isEmpty || chars.head? == some '#'

/-- The assignment of a line. -/
def readAssignment? (environment : Environment) (chars : List Char) : Option (String × String) :=
  match readTarget? chars with
  | none => none
  | some (name, rest) =>
    if isIdle rest then some (name, "")
    else
      (readValue environment (.text false) [] rest).map fun value ↦ (name, String.ofList value)

/-- Adds the assignments of lines to an environment, up to a line that is none. -/
def extend (environment : Environment) : List (List Char) → Environment
  | [] => environment
  | line :: rest =>
    let chars := trimStart (trimEnd line)
    if isIdle chars then extend environment rest
    else
      match readAssignment? environment chars with
      | none => environment
      | some (name, value) =>
        if environment.any (·.1 == name) then extend environment rest
        else extend (environment ++ [(name, value)]) rest

/-- The environment together with the variables of a file. -/
def applyTo (environment : Environment) (text : String) : Environment :=
  extend environment (linesOf (withoutMark text.toList))

end FareSearch.EnvironmentFile

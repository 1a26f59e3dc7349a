import FareSearch.Settings.Toml.Scalar

/-!
# Documents of TOML

A document is a table whose lines assign values to dotted keys or open another table. A key is
given once. A table is opened once and in one way: by its header, as a parent of one, by dotted
keys, or as a part of a series of tables, of which the last one can still grow.
-/

namespace FareSearch.Toml

/-- How a table came to be. -/
inductive Origin where
  | header
  | parent
  | dotted
  deriving DecidableEq

/-- What stands under a key. A table in braces and a list are values. -/
inductive Node where
  | value (value : SettingValue)
  | table (origin : Origin) (entries : List (String × Node))
  | series (last : List (String × Node))

abbrev Entries := List (String × Node)

def lookUp? (key : String) (entries : Entries) : Option Node :=
  (entries.find? (·.1 == key)).map (·.2)

/-- Puts a node in place of the one that has its key, or at the end. -/
def replace (key : String) (node : Node) (entries : Entries) : Entries :=
  if entries.any (·.1 == key) then
    entries.map fun entry ↦ if entry.1 == key then (key, node) else entry
  else entries ++ [(key, node)]

/-- Assigns a value to a dotted key. Tables opened by a header are not added to in this way. -/
def assign (value : SettingValue) : List String → Entries → Option Entries
  | [], _ => none
  | [key], entries =>
    if (lookUp? key entries).isSome then none else some (entries ++ [(key, .value value)])
  | key :: path, entries =>
    match lookUp? key entries with
    | none => (assign value path []).map fun inner ↦ entries ++ [(key, .table .dotted inner)]
    | some (.table origin inner) =>
      if origin == .header then none
      else (assign value path inner).map fun inner ↦ replace key (.table origin inner) entries
    | some _ => none

/-- Goes to the table of a path, opening the tables on the way, and changes it there. -/
def changeAt? (change : String → Entries → Option Entries) : List String → Entries → Option Entries
  | [], _ => none
  | [key], entries => change key entries
  | key :: path, entries =>
    match lookUp? key entries with
    | none => (changeAt? change path []).map fun inner ↦ entries ++ [(key, .table .parent inner)]
    | some (.table origin inner) =>
      (changeAt? change path inner).map fun inner ↦ replace key (.table origin inner) entries
    | some (.series last) =>
      (changeAt? change path last).map fun last ↦ replace key (.series last) entries
    | some (.value _) => none

/-- Opens the table of a header. -/
def openTable (key : String) (entries : Entries) : Option Entries :=
  match lookUp? key entries with
  | none => some (entries ++ [(key, .table .header [])])
  | some (.table .parent inner) => some (replace key (.table .header inner) entries)
  | some _ => none

/-- Opens the next table of a series. -/
def openNext (key : String) (entries : Entries) : Option Entries :=
  match lookUp? key entries with
  | none => some (entries ++ [(key, .series [])])
  | some (.series _) => some (replace key (.series []) entries)
  | some _ => none

/-- Changes the entries of the table that is open. -/
def within (change : Entries → Option Entries) (key : String) (entries : Entries) :
    Option Entries :=
  match lookUp? key entries with
  | some (.table origin inner) =>
    (change inner).map fun inner ↦ replace key (.table origin inner) entries
  | some (.series last) => (change last).map fun last ↦ replace key (.series last) entries
  | _ => none

/-- The text after white space, line breaks and comments. -/
def skipIdle : Nat → List Char → List Char
  | 0, chars => chars
  | fuel + 1, chars =>
    match skipGaps chars with
    | '#' :: rest => skipIdle fuel (rest.dropWhile fun c ↦ !isControl c)
    | chars =>
      match afterBreak? chars with
      | some rest => skipIdle fuel rest
      | none => chars

/-- The text after the end of a line, a comment before it included. -/
def afterLine? (chars : List Char) : Option (List Char) :=
  let rest := match skipGaps chars with
    | '#' :: rest => rest.dropWhile fun c ↦ !isControl c
    | chars => chars
  if rest.isEmpty then some [] else afterBreak? rest

def isBareChar (c : Char) : Bool :=
  Text.isAsciiLetter c || Number.isDigit c || c == '_' || c == '-'

/-- One part of a key, bare or quoted. -/
def readPart (chars : List Char) : Option (String × List Char) :=
  match readQuoted chars with
  | some result => some result
  | none =>
    let name := chars.takeWhile isBareChar
    if name.isEmpty then none else some (String.ofList name, chars.drop name.length)

/-- A dotted key, and the text after it and after the gap there. -/
def readKey : Nat → List Char → Option (List String × List Char)
  | 0, _ => none
  | fuel + 1, chars =>
    match readPart (skipGaps chars) with
    | none => none
    | some (part, rest) =>
      match skipGaps rest with
      | '.' :: rest => (readKey fuel rest).map fun (parts, rest) ↦ (part :: parts, rest)
      | rest => some ([part], rest)

mutual

/-- A value of any kind; lists and tables in braces have no value as settings. -/
def readValue : Nat → List Char → Option (SettingValue × List Char)
  | 0, _ => none
  | fuel + 1, chars =>
    match chars with
    | '[' :: rest => (readItems fuel rest).map fun rest ↦ (.other, rest)
    | '\x7b' :: rest => (readEntries fuel [] rest).map fun rest ↦ (.other, rest)
    | '"' :: _ => (readString chars).map fun (text, rest) ↦ (.text text, rest)
    | '\'' :: _ => (readString chars).map fun (text, rest) ↦ (.text text, rest)
    | _ => readWord chars

/-- The items of a list up to its closing bracket. -/
def readItems : Nat → List Char → Option (List Char)
  | 0, _ => none
  | fuel + 1, chars =>
    match skipIdle fuel chars with
    | ']' :: rest => some rest
    | chars =>
      match readValue fuel chars with
      | none => none
      | some (_, rest) =>
        match skipIdle fuel rest with
        | ',' :: rest => readItems fuel rest
        | ']' :: rest => some rest
        | _ => none

/-- The entries of a table up to its closing brace. -/
def readEntries : Nat → Entries → List Char → Option (List Char)
  | 0, _, _ => none
  | fuel + 1, entries, chars =>
    match skipIdle fuel chars with
    | '\x7d' :: rest => some rest
    | chars =>
      match readKey fuel chars with
      | some (path, '=' :: rest) =>
        match readValue fuel (skipGaps rest) with
        | none => none
        | some (value, rest) =>
          match assign value path entries with
          | none => none
          | some entries =>
            match skipIdle fuel rest with
            | ',' :: rest => readEntries fuel entries rest
            | '\x7d' :: rest => some rest
            | _ => none
      | _ => none

end

/-- The entries of a document, and the path of the table that is open. -/
structure Document where
  entries : Entries := []
  place : List String := []

namespace Document

def assign (document : Document) (path : List String) (value : SettingValue) : Option Document :=
  let change := Toml.assign value path
  let entries := match document.place with
    | [] => change document.entries
    | place => changeAt? (within change) place document.entries
  entries.map fun entries ↦ { document with entries }

def goTo (document : Document) (place : List String)
    (change : String → Entries → Option Entries) : Option Document :=
  (changeAt? change place document.entries).map fun entries ↦ { entries, place }

/-- Reads one line. -/
def readLine (document : Document) (fuel : Nat) (chars : List Char) :
    Option (Document × List Char) := do
  match chars with
  | '[' :: '[' :: rest =>
    match ← readKey fuel rest with
    | (path, ']' :: ']' :: rest) => return (← document.goTo path openNext, ← afterLine? rest)
    | _ => none
  | '[' :: rest =>
    match ← readKey fuel rest with
    | (path, ']' :: rest) => return (← document.goTo path openTable, ← afterLine? rest)
    | _ => none
  | _ =>
    match ← readKey fuel chars with
    | (path, '=' :: rest) =>
      let (value, rest) ← readValue fuel (skipGaps rest)
      return (← document.assign path value, ← afterLine? rest)
    | _ => none

/-- Reads all lines. -/
def readAll : Nat → Document → List Char → Option Document
  | 0, _, _ => none
  | fuel + 1, document, chars =>
    match skipIdle fuel chars with
    | [] => some document
    | chars =>
      match document.readLine fuel chars with
      | some (document, rest) => readAll fuel document rest
      | none => none

end Document

def Node.toSetting : Node → SettingValue
  | .value setting => setting
  | _ => .other

/-- The assignments at the top of a document. -/
def assignments? (text : String) : Option (List Assignment) :=
  let chars := text.toList
  (Document.readAll (chars.length + 2) {} chars).map fun document ↦
    document.entries.map fun (key, node) ↦ (key, node.toSetting)

end FareSearch.Toml

import FareSearch.Settings.Assignment
import FareSearch.Text.Blank
import FareSearch.Json.Reader

/-!
# INI files

Sections in brackets, comments that take a line from its first column, and keys with a value after
an equals sign or a colon. A value goes on to the end of its line; parts of it may be quoted.
Every value is text, and of keys that are given twice the last one counts.
-/

namespace FareSearch.Ini

open FareSearch.Text

/-- A character that a backslash and a letter stand for. -/
def escaped (c : Char) : Char :=
  match c with
  | '0' => '\x00'
  | 'a' => '\x07'
  | 'b' => '\x08'
  | 't' => '\t'
  | 'r' => '\r'
  | 'n' => '\n'
  | c => c

/-- Reads up to a character at which a part ends, which is not taken; `last` tells whether the end
of the file ends the part too. -/
def readUntil (ends : Char → Bool) (last : Bool) (read : List Char) :
    Nat → List Char → Option (List Char × List Char)
  | 0, _ => none
  | _ + 1, [] => if last then some (read.reverse, []) else none
  | fuel + 1, c :: rest =>
    if ends c then some (read.reverse, c :: rest)
    else if c == '\\' then
      match rest with
      | [] => none
      | '\n' :: rest => readUntil ends last read fuel rest
      | 'x' :: rest =>
        match Json.unit? rest with
        | some (unit, rest) =>
          if (Char.ofNat unit).toNat = unit then
            readUntil ends last (Char.ofNat unit :: read) fuel rest
          else none
        | none => none
      | mark :: rest => readUntil ends last (escaped mark :: read) fuel rest
    else readUntil ends last (c :: read) fuel rest

/-- A part that ends with a character. -/
def readPart (ends : Char → Bool) (chars : List Char) : Option (List Char × List Char) :=
  readUntil ends false [] (chars.length + 1) chars

def isLineEnd (c : Char) : Bool :=
  c == '\n' || c == '\r'

/-- The rest of a line. -/
def readLine (chars : List Char) : Option (List Char × List Char) :=
  readUntil isLineEnd true [] (chars.length + 1) chars

/-- The parts of a value: quoted ones as they are, and at last the rest of the line. `first` tells
whether no part was read yet. -/
def readValue (first : Bool) : Nat → List Char → Option (List Char × List Char)
  | 0, _ => none
  | _ + 1, [] => some ([], [])
  | fuel + 1, c :: rest =>
    if c == '"' || c == '\'' then
      match readPart (· == c) rest with
      | none => none
      | some (part, rest) =>
        (readValue false fuel (rest.drop 1)).map fun (more, rest) ↦ (part ++ more, rest)
    else
      (readLine (c :: rest)).map fun (line, rest) ↦
        (trimEnd (if first then trimStart line else line), rest)

/-- What has been read: the name of the section, if one was opened, and the assignments. -/
structure Reading where
  current? : Option String := none
  assignments : List Assignment := []

namespace Reading

/-- A section is a setting of its own, which has parts. -/
def openSection (reading : Reading) (name : String) : Reading :=
  { current? := some name, assignments := reading.assignments ++ [(name, .other)] }

/-- A key in a section assigns to no setting. -/
def assign (reading : Reading) (key value : String) : Reading :=
  match reading.current? with
  | some _ => reading
  | none => { reading with assignments := reading.assignments ++ [(key, .text value)] }

end Reading

def textOf (chars : List Char) : String :=
  String.ofList (trimEnd (trimStart chars))

/-- Reads a file from a place; `atStart` tells whether a line begins there. -/
def readAll (reading : Reading) : Nat → Bool → List Char → Option Reading
  | 0, _, _ => none
  | _ + 1, _, [] => some reading
  | fuel + 1, atStart, c :: rest =>
    if isBlank c then readAll reading fuel (c == '\n') rest
    else if c == ';' || c == '#' then
      if atStart then readAll reading fuel true ((rest.dropWhile (· != '\n')).drop 1) else none
    else if c == '[' then
      match readPart (· == ']') rest with
      | some (name, rest) =>
        readAll (reading.openSection (textOf name)) fuel false (rest.drop 1)
      | none => none
    else
      match readPart (fun c ↦ c == '=' || c == ':') (c :: rest) with
      | some (key, rest) =>
        let key := textOf key
        let rest := (rest.drop 1).dropWhile fun c ↦ isBlank c && !isLineEnd c
        match readValue true (rest.length + 1) rest with
        | some (value, rest) =>
          if key.isEmpty then none
          else readAll (reading.assign key (String.ofList value)) fuel false rest
        | none => none
      | none => none

/-- The assignments at the top of a file; the last one of a key counts. -/
def assignments? (text : String) : Option (List Assignment) :=
  (readAll {} (text.length + 2) true text.toList).map (·.assignments)

end FareSearch.Ini

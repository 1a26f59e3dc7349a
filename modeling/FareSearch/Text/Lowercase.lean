import FareSearch.Text.CaseTable

/-!
# Lowercase text

Small letters by the full Unicode rule. One character can give two (the dotted capital I), and a
capital sigma gives the final small sigma where it ends a word. ASCII text needs no table.
-/

namespace FareSearch.Text

def isAsciiUpper (c : Char) : Bool :=
  'A' ≤ c && c ≤ 'Z'

def isAsciiLetter (c : Char) : Bool :=
  ('a' ≤ c && c ≤ 'z') || ('A' ≤ c && c ≤ 'Z')

def asciiLowerChar (c : Char) : Char :=
  if isAsciiUpper c then Char.ofNat (c.toNat + 32) else c

def asciiUpperChar (c : Char) : Char :=
  if 'a' ≤ c && c ≤ 'z' then Char.ofNat (c.toNat - 32) else c

/-- Small letters for the capitals `A` to `Z`; every other character is kept. -/
def asciiLower (text : String) : String :=
  text.map asciiLowerChar

/-- Capitals for the small letters `a` to `z`; every other character is kept. -/
def asciiUpper (text : String) : String :=
  text.map asciiUpperChar

/-- Equality that disregards the case of `A` to `Z` only. -/
def sameIgnoringAsciiCase (left right : String) : Bool :=
  asciiLower left == asciiLower right

def isCased (c : Char) : Bool :=
  inRanges casedRanges c.toNat

def isCaseIgnorable (c : Char) : Bool :=
  inRanges caseIgnorableRanges c.toNat

/-- The small letter of a character outside ASCII, when it is one character. -/
def lowerByTable (c : Char) : Char :=
  let n := c.toNat
  match lowercaseRuns.find? fun (first, last, step, _) ↦
      first ≤ n && n ≤ last && (n - first) % step == 0 with
  | some (_, _, _, shift) => Char.ofNat (Int.toNat (n + shift))
  | none => c

/-- Whether the first character that is not looked through has case. -/
def meetsCased (chars : List Char) : Bool :=
  match chars.dropWhile isCaseIgnorable with
  | c :: _ => isCased c
  | [] => false

/-- The small form of one character, given the text before it (nearest first) and after it. -/
def lowerInContext (before : List Char) (c : Char) (after : List Char) : List Char :=
  if c.toNat < 128 then [asciiLowerChar c]
  else if c == '\u0130' then ['i', '\u0307']
  else if c == '\u03A3' then
    [if meetsCased before && !meetsCased after then '\u03C2' else '\u03C3']
  else [lowerByTable c]

def lowerFrom (before : List Char) : List Char → List Char
  | [] => []
  | c :: after => lowerInContext before c after ++ lowerFrom (c :: before) after

/-- Small letters by the Unicode rule. -/
def lowercase (text : String) : String :=
  String.ofList (lowerFrom [] text.toList)

end FareSearch.Text

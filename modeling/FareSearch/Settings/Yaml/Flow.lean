import FareSearch.Settings.Yaml.Node
import FareSearch.Text.Series

/-!
# Quoted and bracketed nodes of YAML

Scalars in quotes, which may go on over lines, and lists and tables in brackets, in which line
breaks and comments count as white space. A line break inside a scalar is folded: one stands for a
space, each further one for itself.
-/

namespace FareSearch.Yaml

open FareSearch.Text

def isGap (c : Char) : Bool :=
  c == ' ' || c == '\t'

def skipGaps (chars : List Char) : List Char :=
  chars.dropWhile isGap

/-- Whether a word ends here: before white space, and at the end. -/
def isBreak (chars : List Char) : Bool :=
  chars.head?.all fun c ↦ isGap c || c == '\n'

/-- What line breaks and the gaps around them are folded to, and the text after them. -/
def fold (chars : List Char) : List Char × List Char :=
  let space := chars.takeWhile fun c ↦ isGap c || c == '\n'
  let breaks := space.countP (· == '\n')
  let rest := chars.drop space.length
  if breaks = 0 then (space, rest)
  else if breaks = 1 then ([' '], rest)
  else (List.replicate (breaks - 1) '\n', rest)

/-- A character by its number in so many hexadecimal digits. -/
def pointOf? (count : Nat) (chars : List Char) : Option (List Char × List Char) := do
  let values ← (chars.take count).mapM Json.hexValue?
  let point := values.foldl (fun value digit ↦ value * 16 + digit) 0
  if values.length = count && (Char.ofNat point).toNat = point then
    some ([Char.ofNat point], chars.drop count)
  else none

/-- The letters and marks that stand for one character after a backslash. -/
def marks : List (Char × Char) :=
  [('0', '\x00'), ('a', '\x07'), ('b', '\x08'), ('t', '\t'), ('\t', '\t'), ('n', '\n'),
   ('v', '\x0b'), ('f', '\x0c'), ('r', '\r'), ('e', '\x1b'), (' ', ' '), ('"', '"'), ('/', '/'),
   ('\\', '\\'), ('N', '\x85'), ('_', '\xa0'), ('L', '\u2028'), ('P', '\u2029')]

/-- What an escape stands for after its backslash; a line break stands for nothing. -/
def escaped? : List Char → Option (List Char × List Char)
  | [] => none
  | 'x' :: rest => pointOf? 2 rest
  | 'u' :: rest => pointOf? 4 rest
  | 'U' :: rest => pointOf? 8 rest
  | '\n' :: rest => some ([], skipGaps rest)
  | c :: rest => (marks.find? (·.1 == c)).map fun (_, char) ↦ ([char], rest)

/-- The rest of a scalar in quotes. A single quote is written twice inside single quotes. -/
def readQuotes (quote : Char) (read : List Char) : Nat → List Char → Option (String × List Char)
  | 0, _ => none
  | _ + 1, [] => none
  | fuel + 1, c :: rest =>
    if c == quote then
      if quote == '\'' && rest.head? == some '\'' then
        readQuotes quote ('\'' :: read) fuel (rest.drop 1)
      else some (String.ofList read.reverse, rest)
    else if c == '\\' && quote == '"' then
      match escaped? rest with
      | some (chars, rest) => readQuotes quote (chars.reverse ++ read) fuel rest
      | none => none
    else if isGap c || c == '\n' then
      let (folded, rest) := fold (c :: rest)
      readQuotes quote (folded.reverse ++ read) fuel rest
    else readQuotes quote (c :: read) fuel rest

/-- A scalar in quotes. -/
def readQuoted : List Char → Option (String × List Char)
  | '"' :: rest => readQuotes '"' [] (rest.length + 1) rest
  | '\'' :: rest => readQuotes '\'' [] (rest.length + 1) rest
  | _ => none

def isBracket (c : Char) : Bool :=
  c == ',' || c == '[' || c == ']' || c == '\x7b' || c == '\x7d'

/-- Marks that begin something other than a word. -/
def isIndicator (c : Char) : Bool :=
  isBracket c || "#&*!|>'\"%@`".toList.contains c

/-- Whether a word without quotes begins here. -/
def beginsWord : List Char → Bool
  | [] => false
  | c :: rest =>
    if c == '-' || c == '?' || c == ':' then !isBreak rest else !isIndicator c && !isBreak [c]

/-- The text after white space, line breaks and comments. -/
def skipIdle : Nat → List Char → List Char
  | 0, chars => chars
  | fuel + 1, chars =>
    match chars.dropWhile fun c ↦ isGap c || c == '\n' with
    | '#' :: rest => skipIdle fuel (rest.dropWhile (· != '\n'))
    | chars => chars

def skip (chars : List Char) : List Char :=
  skipIdle (chars.length + 1) chars

/-- The word without quotes inside brackets, last character first. -/
def wordInBrackets (read : List Char) : Nat → List Char → List Char × List Char
  | 0, chars => (read, chars)
  | _ + 1, [] => (read, [])
  | fuel + 1, c :: rest =>
    if isBracket c then (read, c :: rest)
    else if c == ':' && (isBreak rest || rest.head?.any isBracket) then (read, c :: rest)
    else if isGap c || c == '\n' then
      let (folded, after) := fold (c :: rest)
      if after.head? == some '#' then (read, after)
      else if after.head?.all isBracket then (read, after)
      else if after.head? == some ':' && isBreak (after.drop 1) then (read, after)
      else wordInBrackets (folded.reverse ++ read) fuel after
    else wordInBrackets (c :: read) fuel rest

/-- A scalar inside brackets. -/
def readScalar (chars : List Char) : Option (Node × List Char) :=
  match readQuoted chars with
  | some (text, rest) => some (.text text, rest)
  | none =>
    if beginsWord chars then
      let (word, rest) := wordInBrackets [] (chars.length + 1) chars
      some (Node.ofWord word.reverse, rest)
    else none

/-- A key and its value, which may be left out, given how nodes are read. -/
def readEntry (node : List Char → Option (Node × List Char)) (chars : List Char) :
    Option ((Node × Node) × List Char) := do
  let (key, rest) ← node chars
  match skip rest with
  | ':' :: rest =>
    let after := skip rest
    if after.head?.all fun c ↦ c == ',' || c == '\x7d' || c == ']' then
      return ((key, .null), after)
    else
      let (value, rest) ← node after
      return ((key, value), rest)
  | rest => return ((key, .null), rest)

/-- An item of a list: a node, or a key with its value. -/
def readItem (node : List Char → Option (Node × List Char)) (chars : List Char) :
    Option (Node × List Char) := do
  let (first, rest) ← node chars
  match skip rest with
  | ':' :: _ =>
    let (entry, rest) ← readEntry node chars
    return (.table [entry], rest)
  | _ => return (first, rest)

/-- A node inside brackets that nests at most so deep. -/
def readFlow : Nat → List Char → Option (Node × List Char)
  | 0, _ => none
  | depth + 1, chars =>
    match chars with
    | '[' :: rest =>
      (readSeries skip (readItem (readFlow depth)) ']' (rest.length + 1) rest).map
        fun (items, rest) ↦ (.list items, rest)
    | '\x7b' :: rest => do
      let (entries, rest) ←
        readSeries skip (readEntry (readFlow depth)) '\x7d' (rest.length + 1) rest
      return (← Node.tableOf? entries, rest)
    | _ => readScalar chars

end FareSearch.Yaml

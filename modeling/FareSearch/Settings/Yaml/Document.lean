import FareSearch.Settings.Yaml.Flow

/-!
# Documents of YAML

Nodes that are written by indentation. A table has one key on each line, a list one dash; what
belongs to a key or a dash stands further right, and the list of a key may stand right under it.
A node may be named by an anchor and taken again by an alias.
-/

namespace FareSearch.Yaml

/-- The text that is still to be read, and the nodes that have names. -/
structure Source where
  chars : List Char
  anchors : List (String × Node) := []

/-- A reader of a part of a document. -/
abbrev Reading (α : Type) := StateT Source Option α

namespace Reading

def chars : Reading (List Char) := do
  return (← get).chars

def goTo (chars : List Char) : Reading Unit :=
  modify fun source ↦ { source with chars }

def fail {α : Type} : Reading α :=
  fun _ ↦ none

/-- Gives a node a name. -/
def remember (name : String) (node : Node) : Reading Unit :=
  modify fun source ↦ { source with anchors := (name, node) :: source.anchors }

/-- The node of a name. -/
def named (name : String) : Reading Node :=
  fun source ↦ (source.anchors.find? (·.1 == name)).map fun (_, node) ↦ (node, source)

/-- Takes the result of a reader of text. -/
def take {α : Type} (result : Option (α × List Char)) : Reading α :=
  match result with
  | none => fail
  | some (value, rest) => do
    goTo rest
    return value

end Reading

def lineOf (chars : List Char) : List Char :=
  chars.takeWhile (· != '\n')

def afterLine (chars : List Char) : List Char :=
  (chars.dropWhile (· != '\n')).drop 1

/-- Whether nothing but a comment stands on the line. -/
def isIdle (chars : List Char) : Bool :=
  (skipGaps (lineOf chars)).head?.all (· == '#')

/-- The text from the next line on that is not idle. -/
def skipLines : Nat → List Char → List Char
  | 0, chars => chars
  | fuel + 1, chars =>
    if chars.isEmpty then []
    else if isIdle chars then skipLines fuel (afterLine chars)
    else chars

def nextLine (chars : List Char) : List Char :=
  skipLines (chars.length + 1) chars

def indentOf (chars : List Char) : Nat :=
  (chars.takeWhile (· == ' ')).length

/-- Whether the line separates documents. -/
def isMarker : List Char → Bool
  | '-' :: '-' :: '-' :: rest => isBreak rest
  | '.' :: '.' :: '.' :: rest => isBreak rest
  | _ => false

/-- Whether an item of a list begins here. -/
def isItem : List Char → Bool
  | '-' :: rest => isBreak rest
  | _ => false

/-- Goes to the next line, if nothing but a comment after a gap is left of this one. -/
def endLine : Reading Unit := do
  let chars ← Reading.chars
  let rest := skipGaps (lineOf chars)
  if rest.isEmpty || (rest.head? == some '#' && isBreak chars) then
    Reading.goTo (afterLine chars)
  else Reading.fail

/-- A word without quotes up to the end of its line, the gap before a comment or the colon after a
key, last character first. -/
def wordOnLine (read : List Char) : List Char → List Char × List Char
  | [] => (read, [])
  | c :: rest =>
    if c == '\n' then (read, c :: rest)
    else if c == ':' && isBreak rest then (read, c :: rest)
    else if isGap c && (skipGaps rest).head? == some '#' then (read, c :: rest)
    else wordOnLine (c :: read) rest

/-- A word as it is: without the gap at its end. -/
def trimmed (read : List Char) : List Char :=
  (read.dropWhile isGap).reverse

/-- The key that begins here, and the text after its colon. -/
def key? (chars : List Char) : Option (Node × List Char) :=
  let afterColon (key : Node) (rest : List Char) : Option (Node × List Char) :=
    match skipGaps rest with
    | ':' :: rest => if isBreak rest then some (key, rest) else none
    | _ => none
  match readQuoted chars with
  | some (text, rest) =>
    if chars.length - rest.length > (lineOf chars).length then none
    else afterColon (.text text) rest
  | none =>
    if beginsWord chars then
      let (read, rest) := wordOnLine [] chars
      afterColon (Node.ofWord (trimmed read)) rest
    else none

/-- The lines after the first one of a word without quotes, folded. They stand at least so far
right, and none of them is a comment or holds a key. -/
def moreWords (floor : Nat) (read : List Char) : Nat → List Char → Option (List Char × List Char)
  | 0, _ => none
  | fuel + 1, chars =>
    let (folded, rest) := fold chars
    let line := (chars.take (chars.length - rest.length)).reverse.takeWhile (· == ' ')
    if rest.isEmpty || rest.head? == some '#' || line.length < floor ||
        (line.isEmpty && isMarker rest) then some (read, chars)
    else
      let (word, after) := wordOnLine [] rest
      let read := word.dropWhile isGap ++ folded.reverse ++ read
      match after with
      | ':' :: _ => none
      | c :: _ => if isGap c then some (read, after) else moreWords floor read fuel after
      | [] => some (read, [])

/-- A word without quotes, over lines. -/
def readWords (floor : Nat) (chars : List Char) : Option (List Char × List Char) :=
  if !beginsWord chars then none
  else
    let (word, rest) := wordOnLine [] chars
    match rest with
    | ':' :: _ => none
    | c :: _ =>
      if isGap c then some (trimmed word, rest)
      else
        (moreWords floor (word.dropWhile isGap) (chars.length + 1) rest).map fun (read, rest) ↦
          (trimmed read, rest)
    | [] => some (trimmed word, [])

/-- The lines of a block of text that stand at least so far right, without that indentation. -/
def blockLines (indent : Nat) : Nat → List Char → List (List Char) × List Char
  | 0, chars => ([], chars)
  | fuel + 1, chars =>
    let line := lineOf chars
    if chars.isEmpty then ([], [])
    else if indentOf chars < indent && !(line.all (· == ' ')) then ([], chars)
    else
      let (lines, rest) := blockLines indent fuel (afterLine chars)
      (line.drop indent :: lines, rest)

/-- Joins the lines of a block of text: as they are, or with single breaks turned to spaces. -/
def joinBlock (folded : Bool) : List (List Char) → List Char
  | [] => []
  | [line] => line
  | line :: next :: rest =>
    let more := joinBlock folded (next :: rest)
    if folded && !line.isEmpty && !next.isEmpty && !line.head?.any isGap && !next.head?.any isGap
    then line ++ ' ' :: more
    else if folded && !line.isEmpty && next.isEmpty && !line.head?.any isGap then line ++ more
    else line ++ '\n' :: more

/-- A block of text after its mark: the lines that stand further right than its parent, at whose
end line breaks are dropped, kept, or cut to one. -/
def readBlockText (mark : Char) (floor : Nat) (chars : List Char) : Option (String × List Char) :=
  let header := (lineOf chars).takeWhile fun c ↦ c == '+' || c == '-' || ('1' ≤ c && c ≤ '9')
  let digits := header.filter Number.isDigit
  let signs := header.filter (!Number.isDigit ·)
  let tail := chars.drop header.length
  if digits.length > 1 || signs.length > 1 || !isBreak tail || !isIdle tail then none
  else
    let body := afterLine tail
    let first := body.dropWhile fun c ↦ c == ' ' || c == '\n'
    let found := ((body.take (body.length - first.length)).reverse.takeWhile (· == ' ')).length
    let indent := match digits with
      | digit :: _ => floor - 1 + Number.digitValue digit
      | [] => max floor found
    let (lines, rest) := blockLines indent (body.length + 1) body
    let filled := (lines.reverse.dropWhile (·.isEmpty)).reverse
    let text := joinBlock (mark == '>') filled
    let breaks := if signs == ['-'] || filled.isEmpty then 0 else 1
    let breaks := if signs == ['+'] then lines.length - filled.length + breaks else breaks
    some (String.ofList (text ++ List.replicate breaks '\n'), rest)

/-- A node under a tag. Only words without quotes are read anew. -/
def taggedWord (tag : String) (word : List Char) : Node :=
  if tag.startsWith "!!" then Node.ofTagged (String.ofList (tag.toList.drop 2)) word
  else .text (String.ofList word)

/-- The name after an anchor, an alias or a tag, and the text after it. -/
def nameOf (chars : List Char) : String × List Char :=
  let name := chars.takeWhile fun c ↦ !isGap c && c != '\n'
  (String.ofList name, chars.drop name.length)

mutual

/-- The node from the next line on that stands at least so far right; a list may begin at
`listFloor`. None is there where the next line stands further left. -/
def readBlock : Nat → Nat → Nat → Reading Node
  | 0, _, _ => Reading.fail
  | fuel + 1, floor, listFloor => do
    let chars := nextLine (← Reading.chars)
    Reading.goTo chars
    let indent := indentOf chars
    let content := chars.drop indent
    if content.isEmpty || isMarker chars then return .null
    else if isItem content && listFloor ≤ indent then
      return .list (← readList fuel indent)
    else if indent < floor then return .null
    else if (key? content).isSome then
      let entries ← readTable fuel indent
      match Node.tableOf? entries with
      | some table => return table
      | none => Reading.fail
    else
      Reading.goTo content
      readInline fuel none floor listFloor

/-- The entries of a table whose keys stand at an indentation. -/
def readTable : Nat → Nat → Reading (List (Node × Node))
  | 0, _ => Reading.fail
  | fuel + 1, indent => do
    let chars := nextLine (← Reading.chars)
    Reading.goTo chars
    if chars.isEmpty || isMarker chars || indentOf chars < indent then return []
    else if indent < indentOf chars then Reading.fail
    else
      match key? (chars.drop indent) with
      | none => Reading.fail
      | some (key, rest) =>
        Reading.goTo (skipGaps rest)
        let value ← readInline fuel none (indent + 1) indent
        return (key, value) :: (← readTable fuel indent)

/-- The items of a list whose dashes stand at an indentation. -/
def readList : Nat → Nat → Reading (List Node)
  | 0, _ => Reading.fail
  | fuel + 1, indent => do
    let chars := nextLine (← Reading.chars)
    Reading.goTo chars
    let content := chars.drop indent
    if indentOf chars ≠ indent || isMarker chars || !isItem content then
      if indent < indentOf chars then Reading.fail else return []
    else
      Reading.goTo (List.replicate (indent + 1) ' ' ++ content.drop 1)
      let item ← readBlock fuel (indent + 1) (indent + 1)
      return item :: (← readList fuel indent)

/-- A node that begins on the line, or the one on the lines below it. -/
def readInline : Nat → Option String → Nat → Nat → Reading Node
  | 0, _, _, _ => Reading.fail
  | fuel + 1, tag, floor, listFloor => do
    let chars ← Reading.chars
    if isIdle chars then
      Reading.goTo (afterLine chars)
      readBlock fuel floor listFloor
    else
      match chars with
      | '&' :: rest =>
        let (name, rest) := nameOf rest
        Reading.goTo (skipGaps rest)
        let node ← readInline fuel tag floor listFloor
        Reading.remember name node
        return node
      | '!' :: _ =>
        let (tag, rest) := nameOf chars
        Reading.goTo (skipGaps rest)
        readInline fuel (some tag) floor listFloor
      | '*' :: rest =>
        let (name, rest) := nameOf rest
        Reading.goTo rest
        endLine
        Reading.named name
      | '|' :: rest => return .text (← Reading.take (readBlockText '|' floor rest))
      | '>' :: rest => return .text (← Reading.take (readBlockText '>' floor rest))
      | c :: _ =>
        if c == '[' || c == '\x7b' then
          let node ← Reading.take (readFlow (chars.length + 1) chars)
          endLine
          return node
        else if c == '"' || c == '\'' then
          let text ← Reading.take (readQuoted chars)
          endLine
          return .text text
        else
          let word ← Reading.take (readWords floor chars)
          endLine
          return (tag.map (taggedWord · word)).getD (Node.ofWord word)
      | [] => return .null

end

/-- The text after the directives of a document and the mark of its beginning. -/
def afterDirectives : Nat → List Char → Option (Bool × List Char)
  | 0, _ => none
  | fuel + 1, chars =>
    match nextLine chars with
    | '%' :: rest =>
      match afterDirectives fuel (afterLine rest) with
      | some (true, rest) => some (true, rest)
      | _ => none
    | '-' :: '-' :: '-' :: rest => if isBreak rest then some (true, rest) else some (false, chars)
    | _ => some (false, chars)

/-- Line feeds in place of other line breaks. -/
def withLineFeeds : List Char → List Char
  | '\r' :: '\n' :: rest => '\n' :: withLineFeeds rest
  | '\r' :: rest => '\n' :: withLineFeeds rest
  | c :: rest => c :: withLineFeeds rest
  | [] => []

/-- The node of a document. -/
def readDocument (marked : Bool) (fuel : Nat) : Reading Node := do
  let chars ← Reading.chars
  if marked && !isIdle chars then
    Reading.goTo (skipGaps chars)
    readInline fuel none 0 0
  else
    Reading.goTo (if marked then afterLine chars else chars)
    readBlock fuel 0 0

/-- Whether nothing but the mark of an end is left. -/
def isEnd (chars : List Char) : Bool :=
  match nextLine chars with
  | [] => true
  | '.' :: '.' :: '.' :: rest => isIdle rest && (nextLine (afterLine rest)).isEmpty
  | _ => false

/-- The assignments of the one document of a file, which is a table; an empty file has none. -/
def assignments? (text : String) : Option (List Assignment) := do
  let chars := withLineFeeds text.toList
  let fuel := 4 * chars.length + 8
  if (nextLine chars).isEmpty then some []
  else
    let (marked, rest) ← afterDirectives fuel chars
    let (node, source) ← (readDocument marked fuel).run { chars := rest }
    if isEnd source.chars then node.assignments? else none

end FareSearch.Yaml

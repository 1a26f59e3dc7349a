import FareSearch.Text.Blank

/-!
# Lines of environment files

A line of an environment file ends with the text line, unless that stands inside quotes, right
after a backslash, or ends in white space without a line feed. A number sign after white space
begins a comment, which is cut off. Text that is still open where the file ends is no line.
-/

namespace FareSearch.EnvironmentFile

open FareSearch.Text

/-- Where a line stands after one of its characters. -/
inductive LineState where
  | complete
  | blank
  | escape
  | strong
  | strongEscape
  | weak
  | weakEscape
  deriving DecidableEq

/-- What a character outside quotes leads to. -/
def LineState.opened (c : Char) : LineState :=
  if c == '\\' then escape
  else if c == '"' then weak
  else if c == '\'' then strong
  else complete

def LineState.next (c : Char) : LineState → LineState
  | complete => if isBlank c && c != '\n' && c != '\r' then blank else opened c
  | blank => opened c
  | escape => complete
  | strong => if c == '\\' then strongEscape else if c == '\'' then complete else strong
  | strongEscape => strong
  | weak => if c == '\\' then weakEscape else if c == '"' then complete else weak
  | weakEscape => weak

/-- Follows a text line: the text before its comment if it has one, or the state at its end. -/
def follow (read : List Char) (state : LineState) : List Char → List Char ⊕ LineState
  | [] => .inr state
  | c :: rest =>
    if state == .blank && c == '#' then .inl read.reverse
    else follow (c :: read) (state.next c) rest

/-- The lines of a text, each with the line feed that ends it. -/
def textLines : List Char → List (List Char)
  | [] => []
  | c :: rest =>
    if c == '\n' then ['\n'] :: textLines rest
    else
      match textLines rest with
      | [] => [[c]]
      | line :: lines => (c :: line) :: lines

/-- A line without the line feed at its end and a carriage return before that. -/
def withoutLineFeed (line : List Char) : List Char :=
  match line.reverse with
  | '\n' :: '\r' :: before => before.reverse
  | '\n' :: before => before.reverse
  | _ => line

/-- Joins text lines; `pending` is the text of the line that is still open. A line that begins with
a number sign is empty, whatever its quotes. -/
def joinLines (pending : List Char) (state : LineState) : List (List Char) → List (List Char)
  | [] => []
  | line :: rest =>
    if (trimStart (pending ++ line)).head? == some '#' then [] :: joinLines [] .complete rest
    else
      match follow [] state line with
      | .inl kept => (pending ++ kept) :: joinLines [] .complete rest
      | .inr .complete => withoutLineFeed (pending ++ line) :: joinLines [] .complete rest
      | .inr state => joinLines (pending ++ line) state rest

/-- The lines of a file. -/
def linesOf (text : List Char) : List (List Char) :=
  joinLines [] .complete (textLines text)

end FareSearch.EnvironmentFile

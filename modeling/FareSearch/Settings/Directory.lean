/-!
# Directories of text files

Files are found by their path, relative to a directory or absolute. A path is followed part by
part: every part but the last one leads through a folder, and a folder is there if a file lies on
a path through it. The outer folders of the directory are taken to be there.
-/

namespace FareSearch

/-- Text files by path. -/
structure Directory where
  files : List (String × String) := []

namespace Directory

/-- The place from which a path is followed. A place is given by its parts, last first. -/
def startOf (path : String) : List String :=
  if path.toList.head? == some '/' then ["/"] else []

/-- Follows one part of a path. Empty parts and a single dot stay, two dots lead outwards. -/
def step (place : List String) (part : String) : List String :=
  if part.isEmpty || part == "." then place
  else if part == ".." then
    match place with
    | outer :: rest => if outer == ".." then part :: place else if outer == "/" then place else rest
    | [] => [part]
  else part :: place

/-- The places that a path leads through, and the one that it leads to. -/
def trail (place : List String) : List String → List (List String) × List String
  | [] => ([], place)
  | part :: rest =>
    let (through, last) := trail (step place part) rest
    (place :: through, last)

def trailOf (path : String) : List (List String) × List String :=
  trail (startOf path) (path.splitOn "/")

/-- Whether a place is a folder. -/
def isFolder (directory : Directory) (place : List String) : Bool :=
  place.head?.all (fun part ↦ part == ".." || part == "/") ||
    directory.files.any fun file ↦ (trailOf file.1).1.contains place

/-- Whether the path of a file leads to it through folders that are there. -/
def leadsTo (directory : Directory) (path : String) (file : String) : Bool :=
  let (through, last) := trailOf path
  last == (trailOf file).2 && !(["", ".", ".."].contains ((path.splitOn "/").getLast?.getD "")) &&
    through.all directory.isFolder

/-- The text of a file. A path under which a file was put into the directory finds it as it is. -/
def read? (directory : Directory) (path : String) : Option String :=
  let files := directory.files.reverse
  ((files.find? (·.1 == path)).or (files.find? fun file ↦ directory.leadsTo path file.1)).map (·.2)

end Directory

/-- The path of a file in a directory. -/
def joinPath (directory file : String) : String :=
  if directory.isEmpty then file
  else if directory.toList.getLast? == some '/' then directory ++ file
  else directory ++ "/" ++ file

/-- Text without the byte order mark at its start. -/
def withoutMark : List Char → List Char
  | '\uFEFF' :: rest => rest
  | chars => chars

end FareSearch

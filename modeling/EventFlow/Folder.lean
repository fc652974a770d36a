/-!
# Files in a folder

A path that is not absolute names a file of the folder in which a program runs.
Empty parts and single dots in a path stand for nothing, but behind the last
name they ask for a folder.
-/

namespace EventFlow

namespace Folder

/-- The parts of a path between slashes. -/
def parts (path : String) : List String :=
  path.splitOn "/"

/-- Whether a part of a path stands for nothing. -/
def isVoid (part : String) : Bool :=
  part.isEmpty || part = "."

/-- The names on a path. -/
def names (path : String) : List String :=
  (parts path).filter fun part => !isVoid part

/-- The shortest path that leads from the folder to the same place. -/
def plainPath (path : String) : String :=
  (if path.startsWith "/" then "/" else "") ++ "/".intercalate (names path)

/-- Whether a path may lead to a file: it ends in a name. -/
def endsInName (path : String) : Bool :=
  match (parts path).getLast? with
  | some part => !isVoid part
  | none => false

/-- The ending of the last name on a path: what stands behind its last dot. A
dot in front of a name starts no ending. -/
def ending? (path : String) : Option String :=
  match (names path).getLast? with
  | none => none
  | some name =>
    let behind := name.toList.reverse.takeWhile (· ≠ '.')
    match name.toList.reverse.dropWhile (· ≠ '.') with
    | [] => none
    | [_] => none
    | _ :: _ => if name = ".." then none else some (String.ofList behind.reverse)

/-- A path with an ending added to its last name, if it has one. -/
def addEnding (path ending : String) : Option String :=
  match (names path).getLast? with
  | none => none
  | some name => if name = ".." then none else some (plainPath path ++ "." ++ ending)

/-- The text of the file that a path leads to, given the folder's files by
name. -/
def file? (files : List (String × String)) (path : String) : Option String :=
  if endsInName path then
    (files.find? fun file => file.1 = plainPath path).map Prod.snd
  else none

end Folder

end EventFlow

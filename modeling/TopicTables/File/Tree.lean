import TopicTables.File.Path
import TopicTables.Text.Literal

/-! Trees of files.

A tree says what stands at which place below its root. A path is walked name by name, from
the root or from the working directory: a directory leads on, two dots lead back to the
directory above, a link leads to where it points, and nothing lies below a file. -/
namespace TopicTables

/-- A place in a tree: the names that lead to it from the root. -/
abbrev Place := List Text

/-- What stands at a place. -/
inductive FileNode where
  | directory
  | file (content : List Char)
  /-- Leads on to what a path names, seen from the directory of the link. -/
  | link (target : Path)
  /-- A terminal that nobody sits at. -/
  | terminal
  deriving DecidableEq, Repr

/-- A tree of files. The root is always a directory. -/
structure FileTree where
  nodes : List (Place × FileNode)
  /-- The directory that a path without a root starts from. -/
  working : Place

/-- What keeps a file from being read. -/
inductive Obstacle where
  | missing
  | noTerminal
  /-- A name on the way is a file. -/
  | notDirectory
  | isDirectory
  /-- A name on the way, or the whole path, is too long. -/
  | tooLong
  | tooManyLinks
  /-- A character of the path ends it for the system. -/
  | nul
  deriving DecidableEq, Repr

namespace Obstacle

/-- The number that the system gives to an obstacle. A path that ends too early never gets
to the system. -/
def number? : Obstacle → Option Nat
  | .missing => some 2
  | .noTerminal => some 6
  | .notDirectory => some 20
  | .isDirectory => some 21
  | .tooLong => some 36
  | .tooManyLinks => some 40
  | .nul => none

/-- What the obstacle is called. -/
def name : Obstacle → Text
  | .missing => "No such file or directory".toList
  | .noTerminal => "No such device or address".toList
  | .notDirectory => "Not a directory".toList
  | .isDirectory => "Is a directory".toList
  | .tooLong => "File name too long".toList
  | .tooManyLinks => "Too many levels of symbolic links".toList
  | .nul => "embedded null byte".toList

end Obstacle

/-- Why the file at a path cannot be read. -/
structure FileFault where
  obstacle : Obstacle
  path : Path
  deriving DecidableEq, Repr

def FileFault.message (fault : FileFault) : Text :=
  match fault.obstacle.number? with
  | some n =>
    "[Errno ".toList ++ decimal n ++ "] ".toList ++ fault.obstacle.name ++ ": ".toList
      ++ literal fault.path.text
  | none => fault.obstacle.name

/-- The greatest number of bytes in a name. -/
def maxNameBytes : Nat := 255

/-- The greatest number of bytes in a path. -/
def maxPathBytes : Nat := 4095

/-- The greatest number of links on the way to a file. -/
def maxLinks : Nat := 40

namespace FileTree

/-- What stands at a place. -/
def node? (tree : FileTree) (place : Place) : Option FileNode :=
  if place = [] then some .directory
  else (tree.nodes.find? fun e => e.1 = place).map Prod.snd

/-- What names lead to from a directory, over no more than so many links. -/
def walk (tree : FileTree) (links : Nat) (place : Place) (names : List Text) :
    Except Obstacle FileNode :=
  match names with
  | [] => .ok .directory
  | name :: rest =>
    if name = parentName then tree.walk links place.dropLast rest
    else if byteCount name > maxNameBytes then .error .tooLong
    else match tree.node? (place ++ [name]) with
      | none => .error .missing
      | some .directory => tree.walk links (place ++ [name]) rest
      | some (.link target) => match links with
        | 0 => .error .tooManyLinks
        | links + 1 =>
          tree.walk links (if target.root = [] then place else []) (target.names ++ rest)
      | some node => if rest = [] then .ok node else .error .notDirectory
termination_by (links, names.length)

/-- What a path leads to. -/
def find (tree : FileTree) (path : Path) : Except Obstacle FileNode :=
  if path.text.contains '\x00' then .error .nul
  else if byteCount path.text > maxPathBytes then .error .tooLong
  else tree.walk maxLinks (if path.root = [] then tree.working else []) path.names

/-- The content of the file at a path. -/
def read (tree : FileTree) (path : Path) : Except FileFault (List Char) :=
  match tree.find path with
  | .ok (.file content) => .ok content
  | .ok .terminal => .error ⟨.noTerminal, path⟩
  | .ok _ => .error ⟨.isDirectory, path⟩
  | .error obstacle => .error ⟨obstacle, path⟩

end FileTree
end TopicTables

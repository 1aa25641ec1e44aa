import CardSearch.Text.Basic
/-!
File paths and the part of a file system that a program can see. A path is normalised by dropping empty
parts and single dots; steps to the directory above stay in it.
-/
namespace CardSearch.Store

namespace Path

def parts (path : String) : List String :=
  (path.splitOn "/").filter fun part => part != "" && part != "."

/-- The beginning of a path that starts at the root; two slashes and no more are a root of their own. -/
def root (path : String) : String :=
  if path.startsWith "//" && !path.startsWith "///" then "//"
  else if path.startsWith "/" then "/"
  else ""

/-- The normal form of a path; the empty path is the current directory. -/
def normalize (path : String) : String :=
  let normal := root path ++ "/".intercalate (parts path)
  if normal.isEmpty then "." else normal

end Path

inductive Node where
  | file (content : List UInt8)
  | directory
deriving Repr, DecidableEq

/-- The files and directories below the current directory, each by the parts of its path. -/
structure FileTree where
  nodes : List (List String × Node)
deriving Repr

inductive ReadFault where
  | missing
  | isDirectory
  | notDirectory
  | nameTooLong
  | other (reason : String)
deriving Repr, DecidableEq

namespace FileTree

def empty : FileTree := ⟨[]⟩

/-- What stands at a place; the current directory itself is always there. -/
def find? (tree : FileTree) (place : List String) : Option Node :=
  if place.isEmpty then some .directory else (tree.nodes.find? (·.1 == place)).map (·.2)

def remove (place : List String) (tree : FileTree) : FileTree :=
  ⟨tree.nodes.filter (·.1 != place)⟩

def put (place : List String) (node : Node) (tree : FileTree) : FileTree :=
  ⟨(place, node) :: (tree.remove place).nodes⟩

def makeAbove (place : List String) (tree : FileTree) : FileTree :=
  (List.range place.length).foldl (fun tree n =>
    if n = 0 || (tree.find? (place.take n)).isSome then tree
    else tree.put (place.take n) .directory) tree

def write (path : String) (node : Node) (tree : FileTree) : FileTree :=
  let place := Path.parts path
  (tree.makeAbove place).put place node

def delete (path : String) (tree : FileTree) : FileTree := tree.remove (Path.parts path)

def maxName : Nat := 255

/-- Walks along the parts of a path from a directory. Outside the current directory nothing but
directories is seen. -/
def walk (tree : FileTree) : (here : List String) → (outside : Nat) → List String →
    Except ReadFault (List UInt8)
  | _, _, [] => .error .isDirectory
  | here, outside, part :: parts =>
    if part = ".." then
      if here.isEmpty then walk tree [] (outside + 1) parts
      else walk tree here.dropLast outside parts
    else if part.utf8ByteSize > maxName then .error .nameTooLong
    -- outside the current directory only the way back is known
    else if outside > 0 then .error .missing
    else
      match tree.find? (here ++ [part]), parts with
      | none, _ => .error .missing
      | some (.file content), [] => .ok content
      | some (.file _), _ :: _ => .error .notDirectory
      | some .directory, parts => walk tree (here ++ [part]) outside parts

def pathLimit : Nat := 4096

def read (tree : FileTree) (path : String) : Except ReadFault (List UInt8) :=
  if path.utf8ByteSize ≥ pathLimit then .error .nameTooLong
  else if path.startsWith "/" then
    if (Path.parts path).isEmpty then .error .isDirectory else .error .missing
  else walk tree [] 0 (Path.parts path)

end FileTree

end CardSearch.Store

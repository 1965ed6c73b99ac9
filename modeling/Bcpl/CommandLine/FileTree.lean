import Bcpl.Failure

/-!
A tree of files held in memory. A path is followed part by part from the root of the tree; what
lies above the root is unknown.
-/

namespace Bcpl

structure FileTree where
  /-- The files, each with the names that lead to it. -/
  files : List (List Text × ByteArray)
  /-- The names that lead to directories that need not hold a file. -/
  directories : List (List Text) := []

namespace FileTree

def maxNameSize : Nat := 255

def maxPathSize : Nat := 4095

def parts (path : Text) : List Text := path.splitOn '/'

def ofPaths (files : List (Text × ByteArray)) : FileTree where
  files := files.map fun (path, content) =>
    ((parts path).filter fun part => part != [] && part != ['.'], content)

inductive Place where
  | file (content : ByteArray)
  | directory (names : List Text)
  /-- A directory above the root. -/
  | above

def lookup? (tree : FileTree) (names : List Text) : Option Place :=
  match tree.files.find? fun file => file.1 == names with
  | some file => some (.file file.2)
  | none =>
      if names.isEmpty || tree.directories.contains names
          || tree.files.any fun file => names.isPrefixOf file.1 then
        some (.directory names)
      else none

/-- Go from a place to the entry of a name. Only directories have entries. -/
def enter (tree : FileTree) (place : Place) (name : Text) : Except Failure Place :=
  match place with
  | .file _ => .error .notDirectory
  | .above => .error .fileNotFound
  | .directory names =>
      if maxNameSize < Text.size name then .error .nameTooLong
      else
        match tree.lookup? (names ++ [name]) with
        | some entry => .ok entry
        | none => .error .fileNotFound

def leave : Place → Except Failure Place
  | .file _ => .error .notDirectory
  | .above => .ok .above
  | .directory names => .ok (if names.isEmpty then .above else .directory names.dropLast)

def stay : Place → Except Failure Place
  | .file _ => .error .notDirectory
  | place => .ok place

def step (tree : FileTree) (place : Place) : Text → Except Failure Place
  | [] | ['.'] => stay place
  | ['.', '.'] => leave place
  | name => tree.enter place name

/-- What is known of the tree of a whole system: its usual directories, and the device that is
always empty. -/
def ofSystem : FileTree where
  files := [(["dev", "null"].map String.toList, .empty)]
  directories :=
    ["bin", "dev", "etc", "home", "lib", "proc", "sbin", "sys", "tmp", "usr", "var"].map
      fun name => [name.toList]

/-- Go one part further in a tree whose root is its own parent. -/
def stepBelowRoot (tree : FileTree) (place : Place) (part : Text) : Except Failure Place :=
  match tree.step place part with
  | .ok .above => .ok (.directory [])
  | result => result

/-- What a path leads to. A path that starts with a slash leads from the root of the system. -/
def follow (tree : FileTree) (path : Text) : Except Failure Place :=
  if path.head? = some '/' then (parts path).foldlM ofSystem.stepBelowRoot (.directory [])
  else (parts path).foldlM tree.step (.directory [])

def readBytes (tree : FileTree) (path : Text) : Except Failure ByteArray :=
  if path.isEmpty then .error .fileNotFound
  else if maxPathSize < Text.size path then .error .nameTooLong
  else
    match tree.follow path with
    | .error failure => .error failure
    | .ok (.file content) => .ok content
    | .ok (.directory _) | .ok .above => .error .isDirectory

end FileTree

def textOfBytes (content : ByteArray) : Except Failure Text :=
  match String.fromUTF8? content with
  | some text => .ok text.toList
  | none => .error .invalidText

def FileTree.read (tree : FileTree) (path : Text) : Except Failure Text :=
  tree.readBytes path >>= textOfBytes

end Bcpl

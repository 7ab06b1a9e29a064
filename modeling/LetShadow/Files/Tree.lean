/-
**Trees of files.**

* `FileTree` — a file, or a directory with its entries by name.
* `FileTree.find` — **what a path leads to** in the tree. Two dots lead back to the directory above;
  the topmost directory has itself above. No name that is too long is looked up.
* `FileTree.holds` — whether a path leads to anything. A name that is too long leaves that open.
* `FileTree.paths` — the relative paths of everything below a directory.
-/

import LetShadow.Files.Path
import LetShadow.Files.Content

namespace LetShadow

/-- A file, or a directory with its entries. -/
inductive FileTree where
  | file (content : FileContent)
  | directory (entries : List (String × FileTree))

/-! ### Errors -/

/-- Why a path does not lead to a file. -/
inductive FileError where
  | notFound
  | notADirectory
  | isADirectory
  | nameTooLong
  /-- The path has a character that no path can have. -/
  | nullCharacter
deriving DecidableEq, Repr

/-- The report of a file error. -/
def FileError.message (error : FileError) (path : Path) : String :=
  match error with
  | .notFound => "[Errno 2] No such file or directory: " ++ path.quoted
  | .notADirectory => "[Errno 20] Not a directory: " ++ path.quoted
  | .isADirectory => "[Errno 21] Is a directory: " ++ path.quoted
  | .nameTooLong => "[Errno 36] File name too long: " ++ path.quoted
  | .nullCharacter => "embedded null byte"

/-- A path with a name that is too long. -/
structure LongPath where
  path : Path
deriving DecidableEq, Repr

/-- The report of a path with a name that is too long. -/
def LongPath.message (long : LongPath) : String :=
  FileError.nameTooLong.message long.path

namespace FileTree

/-! ### Finding -/

/-- The greatest number of bytes of a name. -/
def longestName : Nat :=
  255

/-- The greatest number of bytes of a path. -/
def longestPath : Nat :=
  4095

/-- What names lead to, one after the other; `above` are the directories above, the nearest first.
-/
def descend (above : List FileTree) (here : FileTree) : List String → Except FileError FileTree
  | [] => .ok here
  | name :: rest =>
    match here with
    | .file _ => .error .notADirectory
    | .directory entries =>
      if name = ".." then
        match above with
        | [] => descend [] here rest
        | parent :: others => descend others parent rest
      else if name.utf8ByteSize > longestName then .error .nameTooLong
      else
        match entries.lookup name with
        | some entry => descend (here :: above) entry rest
        | none => .error .notFound

/-- Where a path begins. Nothing is known of what absolute paths lead to. -/
def startOf (root : FileTree) (path : Path) : FileTree :=
  if path.slashes = 0 then root else .directory []

/-- What a path leads to, from the topmost directory. -/
def find (root : FileTree) (path : Path) : Except FileError FileTree :=
  if path.toString.toList.contains '\x00' then .error .nullCharacter
  else if path.toString.utf8ByteSize > longestPath then .error .nameTooLong
  else descend [] (startOf root path) path.parts

/-- Does a path lead to a file or a directory? -/
def holds (root : FileTree) (path : Path) : Except LongPath Bool :=
  match root.find path with
  | .ok _ => .ok true
  | .error .nameTooLong => .error ⟨path⟩
  | .error _ => .ok false

/-- The content of the file that a path leads to. -/
def content (root : FileTree) (path : Path) : Except FileError FileContent :=
  match root.find path with
  | .ok (.file content) => .ok content
  | .ok (.directory _) => .error .isADirectory
  | .error error => .error error

/-! ### Everything below -/

mutual

/-- The relative paths of everything below. -/
def paths : FileTree → List (List String)
  | .file _ => []
  | .directory entries => entryPaths entries

/-- The relative paths of some entries and of everything below them. -/
def entryPaths : List (String × FileTree) → List (List String)
  | [] => []
  | (name, entry) :: rest => [name] :: entry.paths.map (name :: ·) ++ entryPaths rest

end

end FileTree

end LetShadow

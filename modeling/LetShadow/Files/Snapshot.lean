/-
**Snapshots of files as JSON.**

A snapshot names files and directories by their paths. Of a file it holds the content, as a text or
as bytes in hexadecimal, and under `cst` the concrete tree that the Ruby parser lists for it, or
`null` if its text has a syntax error.

* `FileTree.insert` — a tree with one more entry; the directories on the way to it are made.
* `FileTree.ofSnapshot?` — **the tree of a snapshot.**
-/

import LetShadow.Files.Tree
import LetShadow.Ruby.Listing
import LetShadow.Text.Digit

namespace LetShadow

open LetShadow.Json

/-! ### Content -/

/-- The bytes that a text spells in hexadecimal, two digits each. -/
def hexBytes? : List Char → Option (List UInt8)
  | [] => some []
  | high :: low :: rest => do
    let high ← Text.digitValue? 16 high
    let low ← Text.digitValue? 16 low
    return UInt8.ofNat (16 * high + low) :: (← hexBytes? rest)
  | [_] => none

/-- The bytes of a file in a snapshot. -/
def snapshotBytes? (value : Value) : Option (List UInt8) :=
  match value.get? "text", value.get? "hex" with
  | some (.text text), _ => some text.toString.toUTF8.toList
  | none, some (.text digits) => hexBytes? digits.toString.toList
  | _, _ => none

/-- The listing of a file in a snapshot, if its text has no syntax error. -/
def snapshotListing? (value : Value) : Option (Option (List Ruby.Concrete.Entry)) :=
  match value.get? "cst" with
  | none | some .null => some none
  | some listing => (Ruby.Concrete.entries? listing).map some

/-! ### Trees -/

namespace FileTree

/-- A file or directory of a snapshot. -/
def ofEntry? (value : Value) : Option FileTree :=
  match value.get? "dir" with
  | some _ => some (.directory [])
  | none => do
    let bytes ← snapshotBytes? value
    let listing ← snapshotListing? value
    return .file (.ofListing bytes listing)

/-- Entries with one more, which names lead to. What has the same name already is kept, but a file
gives way to a directory that has to be made. -/
def insert (entry : FileTree) (entries : List (String × FileTree)) :
    List String → List (String × FileTree)
  | [] => entries
  | [name] => if (entries.lookup name).isSome then entries else (name, entry) :: entries
  | name :: rest =>
    let inner :=
      match entries.lookup name with
      | some (.directory inner) => inner
      | _ => []
    (name, .directory (insert entry inner rest)) :: entries.filter fun other => other.1 != name

/-- The tree of a snapshot. -/
def ofSnapshot? : Value → Option FileTree
  | .object entries => do
    let entries ← entries.foldlM (fun entries (name, value) => do
      return insert (← ofEntry? value) entries (Path.ofString name.toString).parts) []
    return .directory entries
  | _ => none

end FileTree

end LetShadow

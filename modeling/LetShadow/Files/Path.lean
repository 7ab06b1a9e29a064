/-
**Paths.**

A path is a list of names, after one or two slashes if it is absolute. Names that are empty or a
single dot do not count, so each path has one form. Two dots stay: what they lead to depends on the
files.

* `Path.ofString` — **the path that a text spells.**
* `Path.toString` — a path as it is shown; the empty relative path is a single dot.
* `Path.isDump` — does a file at the path hold a dump, by its name?
-/

import LetShadow.Text.Quoted

namespace LetShadow

/-- A path. -/
structure Path where
  /-- The slashes that an absolute path begins with; a relative path has none. -/
  slashes : Nat
  parts : List String
deriving DecidableEq, Repr

namespace Path

/-! ### Reading and showing -/

/-- The texts between the slashes of a text; `name` is the one begun so far, in reverse. -/
def splitFrom (name : List Char) : List Char → List (List Char)
  | [] => [name.reverse]
  | char :: rest =>
    if char = '/' then name.reverse :: splitFrom [] rest else splitFrom (char :: name) rest

/-- Does a text between two slashes count as a part of a path? -/
def isPart (name : List Char) : Bool :=
  !(name = [] || name = ['.'])

/-- The slashes that a path keeps: exactly two are kept apart, any more count as one. -/
def keptSlashes (text : List Char) : Nat :=
  match (text.takeWhile (· = '/')).length with
  | 0 => 0
  | 2 => 2
  | _ => 1

/-- The path that a text spells. -/
def ofString (text : String) : Path where
  slashes := keptSlashes text.toList
  parts := ((splitFrom [] text.toList).filter isPart).map String.ofList

/-- A path as it is shown. -/
def toString (path : Path) : String :=
  if path.slashes = 0 ∧ path.parts = [] then "."
  else String.ofList (List.replicate path.slashes '/') ++ "/".intercalate path.parts

/-- A path between quotes. -/
def quoted (path : Path) : String :=
  Text.quoted (path.toString.toList.map Char.toNat)

/-- The path of what lies below a path. -/
def below (path : Path) (parts : List String) : Path :=
  { path with parts := path.parts ++ parts }

/-! ### Names -/

/-- The last name of a path; empty if there is none. -/
def name (path : Path) : String :=
  path.parts.getLast?.getD ""

/-- The suffix of a name: its last dot and what follows, unless the dot begins or ends the name. -/
def suffixOf (name : List Char) : List Char :=
  let ending := (name.reverse.takeWhile (· ≠ '.')).reverse
  let stem := name.take (name.length - ending.length - 1)
  if stem = [] ∨ ending = [] then [] else '.' :: ending

/-- Does a file at the path hold a dump? -/
def isDump (path : Path) : Bool :=
  suffixOf path.name.toList = ".json".toList

end Path

end LetShadow

/-
**The analysis of a file.**

* `InputChoice` — how files are to be read; `auto` tells by the name.
* `loadFile` — the syntax tree of the file at a path.
* `analyzeFile` — **the result for a file.** The result names the file as it was named.
-/

import LetShadow.Files.Tree
import LetShadow.Source.Analysis
import LetShadow.Source.Dump

namespace LetShadow

/-- How files are to be read. -/
inductive InputChoice where
  | auto
  | ruby
  | dump
deriving DecidableEq, Repr

/-- Is the file at a path read as a dump? -/
def InputChoice.readsDump (choice : InputChoice) (path : Path) : Bool :=
  match choice with
  | .auto => path.isDump
  | .ruby => false
  | .dump => true

/-- The failure to read a file. -/
def Failure.unreadable (path : Path) (reason : String) : Failure :=
  .refused (.unreadable path.toString reason)

/-- The failure that a file error leads to. -/
def Failure.ofFileError (path : Path) : FileError → Failure
  | .nullCharacter => .aborted .nullInPath
  | error => .unreadable path (error.message path)

/-- The content of a file with its text. -/
def openFile (root : FileTree) (path : Path) : Except Failure (FileContent × List Char) := do
  let content ← (root.content path).mapError (.ofFileError path)
  let text ← (readText content.bytes).mapError fun fault => .unreadable path fault.message
  return (content, text)

/-- The syntax tree of the file at a path. -/
def loadFile (root : FileTree) (choice : InputChoice) (path : Path) : Except Failure Node := do
  let (content, text) ← openFile root path
  if choice.readsDump path then loadDump (String.ofList text)
  else loadRuby path.toString content.ruby

/-- The result for the file that a text names. -/
def analyzeFile (root : FileTree) (choice : InputChoice) (file : String) : Except Abort Result :=
  resultOf file (loadFile root choice (.ofString file))

end LetShadow

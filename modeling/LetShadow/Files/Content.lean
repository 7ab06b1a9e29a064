/-
**The content of files.**

* `readText` — **the text of some bytes:** UTF-8 without flaws. A carriage return, with a line feed
  after it or not, is read as a line feed.
* `FileContent` — the bytes of a file, and what the outside parser answers for its text as a Ruby
  file.
-/

import LetShadow.Ruby.Concrete
import LetShadow.Text.LineEnd

namespace LetShadow

/-- The text of some bytes, or the first flaw. -/
def readText (bytes : List UInt8) : Except Text.Utf8.Fault (List Char) :=
  (Text.Utf8.decode bytes).map Text.unifyLineEnds

/-- The bytes of a file, and the concrete tree of its text; none if the text has a syntax error. -/
structure FileContent where
  bytes : List UInt8
  ruby : Option Ruby.Concrete

/-- The content of a file from what the parser lists for its text. Offsets count in the text as it
is read. -/
def FileContent.ofListing (bytes : List UInt8) (listing : Option (List Ruby.Concrete.Entry)) :
    FileContent where
  bytes
  ruby := do
    let entries ← listing
    match readText bytes with
    | .ok text => Ruby.Concrete.ofListing? (String.ofList text).toUTF8 entries
    | .error _ => none

end LetShadow

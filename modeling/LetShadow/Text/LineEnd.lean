/-
**Ends of lines.**

* `unifyLineEnds` — **a text whose lines all end in line feeds:** a carriage return, with a line
  feed after it or not, becomes a line feed.
-/

namespace LetShadow.Text

/-- A text whose lines all end in line feeds. -/
def unifyLineEnds : List Char → List Char
  | [] => []
  | '\r' :: '\n' :: rest => '\n' :: unifyLineEnds rest
  | char :: rest => (if char = '\r' then '\n' else char) :: unifyLineEnds rest

end LetShadow.Text

/-
**Emoji and their names.**

* `Entry` — an emoji, of one character or several, with the names that it is called by. A name has
  no capital letters.
* `entryOf?` — the entry of a name in a table.
-/

namespace LetShadow.Emoji

/-- An emoji with its names. -/
structure Entry where
  emoji : String
  names : List String
deriving DecidableEq, Repr

/-- The entry of a name in a table. -/
def entryOf? (table : List Entry) (name : String) : Option Entry :=
  table.find? fun entry => entry.names.contains name

end LetShadow.Emoji

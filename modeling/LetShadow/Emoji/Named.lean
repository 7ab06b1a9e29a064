/-
**The emoji of a name.**

* `plainEmoji?` — the emoji of a name, from the tables.
* `emoji?` — **the emoji of a name:** a plain one, a flag, or a plain one in a skin tone.
-/

import LetShadow.Emoji.Activities
import LetShadow.Emoji.Faces
import LetShadow.Emoji.Flag
import LetShadow.Emoji.Food
import LetShadow.Emoji.Nature
import LetShadow.Emoji.Objects
import LetShadow.Emoji.People
import LetShadow.Emoji.Signs
import LetShadow.Emoji.Symbols
import LetShadow.Emoji.Tone
import LetShadow.Emoji.Travel

namespace LetShadow.Emoji

/-- The tables of emoji. No name is in two of them. -/
def tables : List (List Entry) :=
  [faces, people, nature, food, activities, travel, objects, signs, symbols]

/-- The plain emoji of a name. -/
def plainEmoji? (name : List Char) : Option (List Char) :=
  (tables.findSome? fun table => entryOf? table (String.ofList name)).map (·.emoji.toList)

/-- The emoji of a name that ends in the words of a tone. -/
def tonedEmoji? (name : List Char) : Option (List Char) := do
  let (name, tone) ← cutTone? name
  let emoji ← if tonedNames.contains (String.ofList name) then plainEmoji? name else none
  return tinted tone emoji

/-- The emoji of a name without capital letters. -/
def emoji? (name : List Char) : Option (List Char) :=
  plainEmoji? name <|> flagOf? name <|> tonedEmoji? name

end LetShadow.Emoji

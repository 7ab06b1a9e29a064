/-
**Reading UTF-8.**

Bytes are read one at a time. A byte either ends a character, or begins or continues one, or is a
flaw. A flaw covers the bytes of the character that it cuts short, but not the byte that does not
fit: that byte may begin the next character.

* `pieces` — **the characters and the flaws of some bytes,** in order.
* `decode` — **strict reading:** the text, or the first flaw with its offset in bytes.
* `decodeLoosely` — reading that drops the flaws.
-/

namespace LetShadow.Text.Utf8

/-- What can be wrong in a row of bytes. -/
inductive Flaw where
  /-- No character begins with the byte. -/
  | start
  /-- The next byte does not continue the character. -/
  | continuation
  /-- The bytes end inside a character. -/
  | truncated
deriving DecidableEq, Repr

/-- A character, or a flaw with the bytes that it covers. -/
inductive Piece where
  | char (value : Char)
  | flawed (flaw : Flaw) (bytes : List UInt8)
deriving Repr

/-- A character that has begun: its bytes in reverse, the bits read so far, the number of bytes
still owed, and the bounds of the next one. -/
structure Begun where
  reversed : List UInt8
  bits : Nat
  owed : Nat
  low : UInt8
  high : UInt8
deriving Repr

/-- What a byte between characters leads to: a piece, or a character that has begun. -/
def first (byte : UInt8) : Piece ⊕ Begun :=
  if byte < 0x80 then .inl (.char (Char.ofNat byte.toNat))
  else if byte < 0xC2 then .inl (.flawed .start [byte])
  else if byte < 0xE0 then .inr ⟨[byte], byte.toNat - 0xC0, 1, 0x80, 0xBF⟩
  else if byte < 0xF0 then
    .inr ⟨[byte], byte.toNat - 0xE0, 2, if byte = 0xE0 then 0xA0 else 0x80,
      if byte = 0xED then 0x9F else 0xBF⟩
  else if byte < 0xF5 then
    .inr ⟨[byte], byte.toNat - 0xF0, 3, if byte = 0xF0 then 0x90 else 0x80,
      if byte = 0xF4 then 0x8F else 0xBF⟩
  else .inl (.flawed .start [byte])

/-- The pieces read so far in reverse, and the character that has begun. -/
structure State where
  reversed : List Piece := []
  begun : Option Begun := none

/-- Reads a byte between characters. -/
def State.enter (pieces : List Piece) (byte : UInt8) : State :=
  match first byte with
  | .inl piece => { reversed := piece :: pieces }
  | .inr begun => { reversed := pieces, begun := some begun }

/-- Reads one byte. -/
def State.step (state : State) (byte : UInt8) : State :=
  match state.begun with
  | none => State.enter state.reversed byte
  | some begun =>
    if begun.low ≤ byte ∧ byte ≤ begun.high then
      let bits := begun.bits * 0x40 + (byte.toNat - 0x80)
      if begun.owed = 1 then { reversed := .char (Char.ofNat bits) :: state.reversed }
      else
        { state with
          begun := some ⟨byte :: begun.reversed, bits, begun.owed - 1, 0x80, 0xBF⟩ }
    else
      State.enter (.flawed .continuation begun.reversed.reverse :: state.reversed) byte

/-- The pieces at the end of the bytes. -/
def State.finish (state : State) : List Piece :=
  match state.begun with
  | none => state.reversed.reverse
  | some begun => (.flawed .truncated begun.reversed.reverse :: state.reversed).reverse

/-- The characters and the flaws of some bytes. -/
def pieces (bytes : List UInt8) : List Piece :=
  (bytes.foldl State.step {}).finish

/-- The characters of some bytes, without the flaws. -/
def decodeLoosely (bytes : List UInt8) : List Char :=
  (pieces bytes).filterMap fun
    | .char value => some value
    | .flawed .. => none

/-- A flaw at an offset. -/
structure Fault where
  flaw : Flaw
  bytes : List UInt8
  offset : Nat
deriving Repr

/-- The text that pieces make up, or the first flaw; `offset` counts the bytes before them. -/
def join (offset : Nat) (reversed : List Char) : List Piece → Except Fault (List Char)
  | [] => .ok reversed.reverse
  | .char value :: rest => join (offset + value.utf8Size) (value :: reversed) rest
  | .flawed flaw bytes :: _ => .error ⟨flaw, bytes, offset⟩

/-- The text of some bytes, or the first flaw. -/
def decode (bytes : List UInt8) : Except Fault (List Char) :=
  join 0 [] (pieces bytes)

/-- What a report says of a flaw. -/
def Flaw.message : Flaw → String
  | .start => "invalid start byte"
  | .continuation => "invalid continuation byte"
  | .truncated => "unexpected end of data"

/-- The report of a fault: a flaw of one byte shows the byte, a longer one shows where it ends. -/
def Fault.message (fault : Fault) : String :=
  let place :=
    match fault.bytes with
    | [byte] =>
      let digits := Nat.toDigits 16 byte.toNat
      "byte 0x" ++ String.ofList (List.replicate (2 - digits.length) '0' ++ digits) ++
        " in position " ++ toString fault.offset
    | bytes =>
      "bytes in position " ++ toString fault.offset ++ "-" ++
        toString (fault.offset + bytes.length - 1)
  "'utf-8' codec can't decode " ++ place ++ ": " ++ fault.flaw.message

end LetShadow.Text.Utf8

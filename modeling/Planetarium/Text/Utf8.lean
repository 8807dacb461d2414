/-!
# UTF-8

Bytes are read by a machine that holds at most one character under way. A byte that cannot go on with
that character ends it as ill-formed and is then read afresh, so each ill-formed piece is as long as it can
be and yields one mark.

* `scan` yields the characters of a byte string, and `none` for each ill-formed piece;
* `lossy` puts U+FFFD in the place of those pieces;
* `strict?` accepts the byte strings that have none;
* `encode` writes characters as bytes.
-/

namespace Planetarium.Text.Utf8

/-- A character under way: the bits read so far, the bytes still to come after the next one, and the range
in which the next byte must lie. -/
structure Pending where
  bits : Nat
  more : Nat
  low : UInt8
  high : UInt8

/-- The range in which a continuation byte lies when nothing narrows it. -/
def Pending.expect (bits more : Nat) : Pending := ⟨bits, more, 0x80, 0xbf⟩

/-- The machine: what it has yielded, the latest piece first, and the character under way. -/
structure Machine where
  yielded : List (Option Char) := []
  pending : Option Pending := none

namespace Machine

/-- Yields a piece, after which no character is under way. -/
def emit (m : Machine) (piece : Option Char) : Machine := { yielded := piece :: m.yielded }

/-- Begins a character of several bytes. -/
def await (m : Machine) (p : Pending) : Machine := { m with pending := some p }

/-- Reads a byte that begins a character. The ranges leave out what has a shorter form, the surrogates and
what lies above U+10FFFF. -/
def start (m : Machine) (b : UInt8) : Machine :=
  if b < 0x80 then m.emit (some (Char.ofNat b.toNat))
  else if 0xc2 ≤ b && b ≤ 0xdf then m.await (.expect (b.toNat - 0xc0) 0)
  else if b = 0xe0 then m.await ⟨0, 1, 0xa0, 0xbf⟩
  else if b = 0xed then m.await ⟨0xd, 1, 0x80, 0x9f⟩
  else if 0xe1 ≤ b && b ≤ 0xef then m.await (.expect (b.toNat - 0xe0) 1)
  else if b = 0xf0 then m.await ⟨0, 2, 0x90, 0xbf⟩
  else if 0xf1 ≤ b && b ≤ 0xf3 then m.await (.expect (b.toNat - 0xf0) 2)
  else if b = 0xf4 then m.await ⟨4, 2, 0x80, 0x8f⟩
  else m.emit none

/-- Reads one byte. -/
def feed (m : Machine) (b : UInt8) : Machine :=
  match m.pending with
  | none => m.start b
  | some p =>
    if p.low ≤ b && b ≤ p.high then
      let bits := p.bits * 64 + (b.toNat - 0x80)
      match p.more with
      | 0 => m.emit (some (Char.ofNat bits))
      | more + 1 => m.await (.expect bits more)
    -- The byte is no part of the character under way, so the next piece begins with it.
    else (m.emit none).start b

/-- All that the machine has yielded. Bytes that end within a character leave an ill-formed piece. -/
def finish (m : Machine) : List (Option Char) :=
  match m.pending with
  | none => m.yielded.reverse
  | some _ => (m.emit none).yielded.reverse

end Machine

/-- The characters of a byte string, with `none` for each ill-formed piece. -/
def scan (bs : List UInt8) : List (Option Char) := (bs.foldl Machine.feed {}).finish

/-- The text of a byte string, with U+FFFD for each ill-formed piece. -/
def lossy (bs : List UInt8) : List Char := (scan bs).map (·.getD '\ufffd')

/-- The text of a byte string, if no piece of it is ill-formed. -/
def strict? (bs : List UInt8) : Option (List Char) :=
  let pieces := scan bs
  if pieces.all Option.isSome then some (pieces.filterMap id) else none

/-- The bytes of a text. -/
def encode (cs : List Char) : List UInt8 := cs.flatMap String.utf8EncodeChar

end Planetarium.Text.Utf8

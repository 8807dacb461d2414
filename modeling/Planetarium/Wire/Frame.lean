import Planetarium.Text.Blank
import Planetarium.Text.Utf8

/-!
# Frames on the wire

Controllers send frames. A frame is written as its id, the length of its payload, both as four bytes with
the highest first, and the payload. A payload has at most 65536 bytes.

* `Packet.encode` writes a frame and `Packet.read` reads one from the front of a byte string;
* `Packet.send` puts a frame on a wire, part by part;
* `Packet.split` reads all frames of a byte string, up to what is no whole frame.
-/

namespace Planetarium

/-- A frame on the wire. -/
structure Packet where
  id : UInt32
  payload : List UInt8
  deriving DecidableEq

/-- Why no frame could be written or read. -/
inductive WireError where
  /-- The payload has more bytes than a frame can carry. -/
  | oversized (length : Nat)
  /-- The bytes end before or within the id and the length. -/
  | endInHeader
  /-- The bytes end within the payload. -/
  | endInPayload
  deriving DecidableEq

namespace Packet

/-- The id of the frames that carry messages. Others are for someone else. -/
def gameId : UInt32 := 32

/-- The greatest length of a payload. -/
def maxLength : Nat := 65536

/-- The frame that carries a message. -/
def game (text : String) : Packet := ⟨gameId, Text.Utf8.encode text.toList⟩

/-- Whether the payload is within the limit. -/
def fits (p : Packet) : Bool := p.payload.length ≤ maxLength

/-- The payload as text, without the terminators at its end. -/
def text (p : Packet) : String :=
  String.ofList (Text.trimTerminators (Text.Utf8.lossy p.payload))

/-- Four bytes for a number, the highest first. -/
def bigEndian (n : UInt32) : List UInt8 :=
  [(n >>> 24).toUInt8, (n >>> 16).toUInt8, (n >>> 8).toUInt8, n.toUInt8]

/-- The number that four bytes stand for. -/
def ofBigEndian (a b c d : UInt8) : UInt32 :=
  (a.toUInt32 <<< 24) ||| (b.toUInt32 <<< 16) ||| (c.toUInt32 <<< 8) ||| d.toUInt32

/-- The bytes of a frame. -/
def encode (p : Packet) : List UInt8 :=
  bigEndian p.id ++ bigEndian (UInt32.ofNat p.payload.length) ++ p.payload

/-- Writes a frame that is within the limit. -/
def write (p : Packet) : Except WireError (List UInt8) :=
  if p.fits then .ok p.encode else .error (.oversized p.payload.length)

/-- What puts bytes on a wire behind those that are there, and may refuse to. -/
abbrev Sending := EStateM WireError (List UInt8)

/-- Puts bytes on the wire. -/
def Sending.put (bytes : List UInt8) : Sending Unit := modify (· ++ bytes)

/-- The length of a payload in four bytes, if it has room there and is within the limit. -/
def Sending.length (n : Nat) : Sending UInt32 :=
  if n < UInt32.size ∧ (UInt32.ofNat n).toNat ≤ maxLength then return UInt32.ofNat n
  else throw (.oversized n)

/-- **Puts a frame on a wire,** one part after another. Its length is looked at before anything is put
there. -/
def send (p : Packet) : Sending Unit := do
  let length ← Sending.length p.payload.length
  Sending.put (bigEndian p.id)
  Sending.put (bigEndian length)
  Sending.put p.payload

/-- Reads a frame from the front: the frame, and the bytes after it. A length over the limit is an error
whatever follows it. -/
def read : List UInt8 → Except WireError (Packet × List UInt8)
  | i₀ :: i₁ :: i₂ :: i₃ :: l₀ :: l₁ :: l₂ :: l₃ :: rest =>
    let length := (ofBigEndian l₀ l₁ l₂ l₃).toNat
    let payload := rest.take length
    if maxLength < length then .error (.oversized length)
    else if payload.length < length then .error .endInPayload
    else .ok (⟨ofBigEndian i₀ i₁ i₂ i₃, payload⟩, rest.drop length)
  | _ => .error .endInHeader

/-- Reading takes bytes away. -/
theorem length_rest_lt {bs rest : List UInt8} {p : Packet} (h : read bs = .ok (p, rest)) :
    rest.length < bs.length := by
  unfold read at h
  split at h
  · simp only at h
    split at h
    · cases h
    · split at h
      · cases h
      · cases h
        simp only [List.length_drop, List.length_cons]
        omega
  · cases h

/-- Where the frames of a byte string end: why no further one could be read, and the bytes from there. -/
structure Ending where
  error : WireError
  rest : List UInt8
  deriving DecidableEq

/-- The frames of a byte string, and where they end. -/
def split (bs : List UInt8) : List Packet × Ending :=
  match _h : read bs with
  | .error e => ([], ⟨e, bs⟩)
  | .ok (p, rest) =>
    let (ps, ending) := split rest
    (p :: ps, ending)
termination_by bs.length
decreasing_by exact length_rest_lt _h

end Packet

/-- What an error says. -/
def WireError.message : WireError → String
  | .oversized length =>
    "payload of " ++ toString length ++ " bytes exceeds " ++ toString Packet.maxLength
  | .endInHeader => "unexpected end of file"
  | .endInPayload => "early eof"

end Planetarium

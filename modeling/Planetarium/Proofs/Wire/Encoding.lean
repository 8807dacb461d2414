import Mathlib.Algebra.Group.Nat.Defs
import Planetarium.Wire.Frame

/-! # The encoding of a frame

    A frame is written as two numbers of four bytes and its payload.  What the
    bytes of a number stand for is said by `magnitude`, and all else follows
    from it.

    * `eq_bigEndian_iff`: four bytes are the ones written for a number exactly
      if they stand for it.
    * `isEncoding_iff`: a frame within the limit has one encoding.
    * `read_header`, `read_of_short`: how a frame is read, whatever the bytes
      are.
    * `read_eq_ok_iff`: a frame is read exactly where its encoding stands. -/

namespace Planetarium.Packet

/-! ## Section 1: Numbers -/

/-- **The number that bytes stand for.**  Each byte counts 256 times as much as
    the one after it. -/
def magnitude : List UInt8 → Nat
  | [] => 0
  | b :: bs => b.toNat * 256 ^ bs.length + magnitude bs

theorem magnitude_append (as bs : List UInt8) :
    magnitude (as ++ bs) = magnitude as * 256 ^ bs.length + magnitude bs := by
  induction as with
  | nil => simp [magnitude]
  | cons a as ih =>
    simp only [List.cons_append, magnitude, ih, List.length_append, Nat.pow_add, Nat.add_mul,
      Nat.mul_assoc, Nat.add_assoc]

theorem magnitude_lt (bs : List UInt8) : magnitude bs < 256 ^ bs.length := by
  induction bs with
  | nil => decide
  | cons b bs ih =>
    have hb : b.toNat + 1 ≤ 256 := b.toNat_lt
    have hhigh : (b.toNat + 1) * 256 ^ bs.length ≤ 256 * 256 ^ bs.length :=
      Nat.mul_le_mul_right _ hb
    rw [Nat.add_mul, Nat.one_mul] at hhigh
    simp only [magnitude, List.length_cons, Nat.pow_succ']
    omega

theorem magnitude_replicate_zero (n : Nat) : magnitude (List.replicate n 0) = 0 := by
  induction n with
  | zero => rfl
  | succ n ih => simp [List.replicate_succ, magnitude, ih]

/-- Bytes of one length stand for different numbers. -/
theorem magnitude_inj {as bs : List UInt8} (hlength : as.length = bs.length)
    (h : magnitude as = magnitude bs) : as = bs := by
  induction as generalizing bs with
  | nil => exact (List.length_eq_zero_iff.mp hlength.symm).symm
  | cons a as ih =>
    cases bs with
    | nil => cases hlength
    | cons b bs =>
      have htail : as.length = bs.length := Nat.succ.inj hlength
      simp only [magnitude, htail] at h
      have ha := magnitude_lt as
      have hb := magnitude_lt bs
      rw [htail] at ha
      -- What the later bytes stand for is less than the first byte counts.
      have hpos : 0 < 256 ^ bs.length := Nat.pow_pos (by decide)
      have hfirst := congrArg (· / 256 ^ bs.length) h
      have hrest := congrArg (· % 256 ^ bs.length) h
      simp only [Nat.mul_comm _ (256 ^ bs.length), Nat.mul_add_div hpos, Nat.div_eq_of_lt ha,
        Nat.div_eq_of_lt hb, Nat.add_zero] at hfirst
      simp only [Nat.mul_comm _ (256 ^ bs.length), Nat.mul_add_mod, Nat.mod_eq_of_lt ha,
        Nat.mod_eq_of_lt hb] at hrest
      rw [UInt8.toNat_inj.mp hfirst, ih htail hrest]

theorem length_bigEndian (n : UInt32) : (bigEndian n).length = 4 := rfl

theorem magnitude_bigEndian (n : UInt32) : magnitude (bigEndian n) = n.toNat := by
  have hn := n.toNat_lt
  simp only [bigEndian, magnitude, UInt32.toNat_toUInt8, UInt32.toNat_shiftRight,
    UInt32.toNat_ofNat, Nat.shiftRight_eq_div_pow, List.length_cons, List.length_nil]
  simp only [Nat.reduceMod, Nat.reducePow] at *
  omega

theorem toNat_ofBigEndian (a b c d : UInt8) :
    (ofBigEndian a b c d).toNat = magnitude [a, b, c, d] := by
  have ha := a.toNat_lt
  have hb := b.toNat_lt
  have hc := c.toNat_lt
  have hd := d.toNat_lt
  -- Each byte fills the bits that the shifts of those before it have left free.
  have hlow : c.toNat <<< 8 ||| d.toNat = c.toNat <<< 8 + d.toNat :=
    (Nat.shiftLeft_add_eq_or_of_lt hd _).symm
  have hmid : b.toNat <<< 16 ||| (c.toNat <<< 8 + d.toNat) =
      b.toNat <<< 16 + (c.toNat <<< 8 + d.toNat) :=
    (Nat.shiftLeft_add_eq_or_of_lt (by omega) _).symm
  have hhigh : a.toNat <<< 24 ||| (b.toNat <<< 16 + (c.toNat <<< 8 + d.toNat)) =
      a.toNat <<< 24 + (b.toNat <<< 16 + (c.toNat <<< 8 + d.toNat)) :=
    (Nat.shiftLeft_add_eq_or_of_lt (by omega) _).symm
  simp only [ofBigEndian, magnitude, UInt32.toNat_or, UInt32.toNat_shiftLeft,
    UInt8.toNat_toUInt32, UInt32.toNat_ofNat, Nat.reduceMod, Nat.reducePow, List.length_cons,
    List.length_nil]
  rw [Nat.mod_eq_of_lt (by omega), Nat.mod_eq_of_lt (by omega), Nat.mod_eq_of_lt (by omega),
    Nat.or_assoc, Nat.or_assoc, hlow, hmid, hhigh]
  omega

/-- **Four bytes are the ones written for a number exactly if they stand for it.** -/
theorem eq_bigEndian_iff {bs : List UInt8} (h : bs.length = 4) (n : UInt32) :
    bs = bigEndian n ↔ magnitude bs = n.toNat := by
  constructor
  · rintro rfl
    exact magnitude_bigEndian n
  · intro hn
    exact magnitude_inj h (hn.trans (magnitude_bigEndian n).symm)

theorem ofBigEndian_bigEndian (n : UInt32) :
    ofBigEndian (n >>> 24).toUInt8 (n >>> 16).toUInt8 (n >>> 8).toUInt8 n.toUInt8 = n :=
  UInt32.toNat_inj.mp ((toNat_ofBigEndian _ _ _ _).trans (magnitude_bigEndian n))

theorem bigEndian_ofBigEndian (a b c d : UInt8) : bigEndian (ofBigEndian a b c d) = [a, b, c, d] :=
  ((eq_bigEndian_iff rfl _).mpr (toNat_ofBigEndian a b c d).symm).symm

theorem toNat_ofNat {n : Nat} (h : n < UInt32.size) : (UInt32.ofNat n).toNat = n :=
  UInt32.toNat_ofNat_of_lt' h

/-! ## Section 2: Encodings -/

theorem fits_iff (p : Packet) : p.fits = true ↔ p.payload.length ≤ 65536 := by
  unfold fits maxLength
  exact decide_eq_true_iff

theorem length_encode (p : Packet) : p.encode.length = 8 + p.payload.length := by
  simp only [encode, List.length_append, length_bigEndian]

/-- **The written form of a frame:** four bytes that stand for its id, four bytes
    that stand for the length of its payload, and the payload. -/
def IsEncoding (p : Packet) (bs : List UInt8) : Prop :=
  ∃ id length : List UInt8, bs = id ++ length ++ p.payload ∧ id.length = 4 ∧ length.length = 4 ∧
    magnitude id = p.id.toNat ∧ magnitude length = p.payload.length

/-- **A frame has one written form** if its length can be written at all. -/
theorem isEncoding_iff {p : Packet} (h : p.payload.length < UInt32.size) (bs : List UInt8) :
    p.IsEncoding bs ↔ bs = p.encode := by
  constructor
  · rintro ⟨id, length, rfl, hid, hlength, hidValue, hlengthValue⟩
    rw [← toNat_ofNat h] at hlengthValue
    rw [(eq_bigEndian_iff hid _).mpr hidValue, (eq_bigEndian_iff hlength _).mpr hlengthValue]
    rfl
  · rintro rfl
    exact ⟨_, _, rfl, rfl, rfl, magnitude_bigEndian _,
      (magnitude_bigEndian _).trans (toNat_ofNat h)⟩

/-! ## Section 3: Reading one frame -/

theorem exists_number {bs : List UInt8} (h : 4 ≤ bs.length) :
    ∃ (n : UInt32) (rest : List UInt8), bs = bigEndian n ++ rest := by
  match bs, h with
  | a :: b :: c :: d :: rest, _ =>
    refine ⟨ofBigEndian a b c d, rest, ?_⟩
    rw [bigEndian_ofBigEndian]
    rfl

/-- Eight bytes are enough for a header. -/
theorem exists_header {bs : List UInt8} (h : 8 ≤ bs.length) :
    ∃ (id length : UInt32) (rest : List UInt8), bs = bigEndian id ++ bigEndian length ++ rest := by
  have hid : 4 ≤ bs.length := by omega
  obtain ⟨id, behind, rfl⟩ := exists_number hid
  rw [List.length_append, length_bigEndian] at h
  have hlength : 4 ≤ behind.length := by omega
  obtain ⟨length, rest, rfl⟩ := exists_number hlength
  exact ⟨id, length, rest, (List.append_assoc _ _ _).symm⟩

theorem read_of_short {bs : List UInt8} (h : bs.length < 8) : read bs = .error .endInHeader := by
  unfold read
  split
  · simp only [List.length_cons] at h
    omega
  · rfl

/-- **How a frame is read** once its header has come. -/
theorem read_header (id length : UInt32) (rest : List UInt8) :
    read (bigEndian id ++ bigEndian length ++ rest) =
      if maxLength < length.toNat then .error (.oversized length.toNat)
      else if rest.length < length.toNat then .error .endInPayload
      else .ok (⟨id, rest.take length.toNat⟩, rest.drop length.toNat) := by
  simp only [bigEndian, List.cons_append, List.nil_append, read, ofBigEndian_bigEndian,
    List.length_take]
  have hshort : min length.toNat rest.length < length.toNat ↔ rest.length < length.toNat := by
    omega
  simp only [hshort]

/-- Whatever follows a frame is left for the next one. -/
theorem read_encode_append {p : Packet} (h : p.fits = true) (rest : List UInt8) :
    read (p.encode ++ rest) = .ok (p, rest) := by
  have hlength := p.fits_iff.mp h
  have htoNat : (UInt32.ofNat p.payload.length).toNat = p.payload.length :=
    toNat_ofNat (Nat.lt_of_le_of_lt hlength (by decide))
  rw [encode, List.append_assoc, read_header, htoNat, if_neg (by unfold maxLength; omega),
    if_neg (by simp)]
  simp

/-- **A frame is read exactly where its encoding stands.** -/
theorem read_eq_ok_iff {bs rest : List UInt8} {p : Packet} :
    read bs = .ok (p, rest) ↔ p.fits = true ∧ bs = p.encode ++ rest := by
  constructor
  · intro h
    have hlong : 8 ≤ bs.length := by
      refine Nat.le_of_not_lt ?_
      intro hshort
      rw [read_of_short hshort] at h
      cases h
    obtain ⟨id, length, body, rfl⟩ := exists_header hlong
    rw [read_header] at h
    split at h
    · cases h
    · next hlimit =>
      split at h
      · cases h
      · next henough =>
        -- The payload has the length that the header says.
        obtain ⟨rfl, rfl⟩ := Prod.mk.inj (Except.ok.inj h)
        have htaken : (body.take length.toNat).length = length.toNat := by
          rw [List.length_take]
          omega
        refine ⟨?_, ?_⟩
        · rw [fits_iff, htaken]
          unfold maxLength at hlimit
          omega
        · unfold encode
          rw [htaken, UInt32.ofNat_toNat, List.append_assoc _ (body.take _), List.take_append_drop]
  · rintro ⟨h, rfl⟩
    exact read_encode_append h rest

end Planetarium.Packet

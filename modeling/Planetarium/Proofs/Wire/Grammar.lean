import Planetarium.Proofs.Wire.Encoding

/-! # What a reader makes of bytes

    A reader takes frames off the front of a byte string until it meets what is
    no whole frame.  Whatever the bytes are, that is the case after finitely
    many frames.

    * `announced`: the length that a header says, as far as it has come.
    * `Breaks`: where no frame can be read, and why; `read_eq_error_iff`.
    * `split_eq_iff`: the frames of a byte string and what is left of it.
    * `receive`: a frame taken off step by step; `run_receive` says that this is
      the same reader.
    * `reads_exactly`: the grammar of byte strings, with the last error. -/

namespace Planetarium.Packet

/-! ## Section 1: Headers that have come in part -/

/-- What has come of the length in a header. -/
def lengthBytes (bs : List UInt8) : List UInt8 := (bs.drop 4).take 4

/-- **The length that a header announces.**  Bytes that are still to come count as
    zero, so this is the least length that the header can come to. -/
def announced (bs : List UInt8) : Nat :=
  magnitude (lengthBytes bs) * 256 ^ (4 - (lengthBytes bs).length)

theorem length_lengthBytes (bs : List UInt8) : (lengthBytes bs).length = min 4 (bs.length - 4) := by
  rw [lengthBytes, List.length_take, List.length_drop]

/-- The bytes of the length that come in behind some others. -/
def lengthBytesAfter (bs more : List UInt8) : List UInt8 :=
  (more.drop (4 - bs.length)).take (4 - (bs.length - 4))

theorem lengthBytes_append (bs more : List UInt8) :
    lengthBytes (bs ++ more) = lengthBytes bs ++ lengthBytesAfter bs more := by
  rw [lengthBytes, List.drop_append, List.take_append, List.length_drop]
  rfl

/-- **A length grows by what comes in** for the bytes that were counted as zero. -/
theorem announced_append (bs more : List UInt8) :
    announced (bs ++ more) = announced bs +
      magnitude (lengthBytesAfter bs more) * 256 ^ (4 - (lengthBytes (bs ++ more)).length) := by
  have hlength := length_lengthBytes (bs ++ more)
  have hfree : 4 - (lengthBytes bs).length =
      (lengthBytesAfter bs more).length + (4 - (lengthBytes (bs ++ more)).length) := by
    rw [lengthBytes_append, List.length_append] at hlength ⊢
    omega
  rw [announced, announced, hfree, lengthBytes_append, magnitude_append, Nat.pow_add,
    ← lengthBytes_append, Nat.add_mul, Nat.mul_assoc]

theorem announced_le_append (bs more : List UInt8) : announced bs ≤ announced (bs ++ more) := by
  rw [announced_append]
  exact Nat.le_add_right _ _

/-- The length has come in full with the header. -/
theorem announced_append_of_header {bs : List UInt8} (h : 8 ≤ bs.length) (more : List UInt8) :
    announced (bs ++ more) = announced bs := by
  have hnone : lengthBytesAfter bs more = [] := by
    rw [lengthBytesAfter, Nat.sub_eq_zero_of_le (by omega), List.take_zero]
  rw [announced_append, hnone]
  simp [magnitude]

theorem announced_append_zeros (bs : List UInt8) (n : Nat) :
    announced (bs ++ List.replicate n 0) = announced bs := by
  rw [announced_append, lengthBytesAfter, List.drop_replicate, List.take_replicate,
    magnitude_replicate_zero, Nat.zero_mul, Nat.add_zero]

theorem announced_of_header {bs : List UInt8} (h : 8 ≤ bs.length) :
    announced bs = magnitude (lengthBytes bs) := by
  have hfour : 4 - (lengthBytes bs).length = 0 := by
    rw [length_lengthBytes]
    omega
  rw [announced, hfour, Nat.pow_zero, Nat.mul_one]

/-- As long as the header has not come in full, nothing stands behind its length. -/
theorem announced_of_short {bs : List UInt8} (h : bs.length < 8) :
    announced bs = magnitude (bs.drop 4) * 256 ^ (8 - bs.length) := by
  have hall : lengthBytes bs = bs.drop 4 := by
    refine List.take_of_length_le ?_
    rw [List.length_drop]
    omega
  rw [announced, hall, List.length_drop]
  by_cases hfour : 4 ≤ bs.length
  · have hfree : 4 - (bs.length - 4) = 8 - bs.length := by omega
    rw [hfree]
  · have hnone : bs.drop 4 = [] := List.drop_of_length_le (by omega)
    simp [hnone, magnitude]

theorem announced_lt (bs : List UInt8) : announced bs < UInt32.size := by
  have hpart := magnitude_lt (lengthBytes bs)
  have hfour : (lengthBytes bs).length + (4 - (lengthBytes bs).length) = 4 := by
    rw [length_lengthBytes]
    omega
  calc announced bs
      < 256 ^ (lengthBytes bs).length * 256 ^ (4 - (lengthBytes bs).length) :=
        Nat.mul_lt_mul_of_pos_right hpart (Nat.pow_pos (by decide))
    _ = UInt32.size := by
        rw [← Nat.pow_add, hfour]

theorem announced_header (id length : UInt32) (rest : List UInt8) :
    announced (bigEndian id ++ bigEndian length ++ rest) = length.toNat := by
  rw [announced_of_header]
  · exact magnitude_bigEndian length
  · simp only [List.length_append, length_bigEndian]
    omega

theorem announced_encode {p : Packet} (h : p.fits = true) :
    announced p.encode = p.payload.length := by
  have hlength := p.fits_iff.mp h
  rw [encode, announced_header, toNat_ofNat (Nat.lt_of_le_of_lt hlength (by decide))]

/-- **Bytes that lack something can be completed** to a frame of the length that they
    announce. -/
theorem exists_completion {bs : List UInt8} (h : bs.length < 8 + announced bs) :
    ∃ p : Packet, p.payload.length = announced bs ∧ bs <+: p.encode ∧ bs ≠ p.encode := by
  -- First the header is filled up with zeros, and then the payload.
  have hheader := announced_append_zeros bs (8 - bs.length)
  have hlong : 8 ≤ (bs ++ List.replicate (8 - bs.length) 0).length := by
    rw [List.length_append, List.length_replicate]
    omega
  obtain ⟨id, length, body, hfull⟩ := exists_header hlong
  have hlength := congrArg List.length hfull
  simp only [List.length_append, List.length_replicate, length_bigEndian] at hlength
  rw [hfull, announced_header] at hheader
  let p : Packet := ⟨id, body ++ List.replicate (length.toNat - body.length) 0⟩
  have hpayload : p.payload.length = length.toNat := by
    simp only [p, List.length_append, List.length_replicate]
    omega
  have hencode : p.encode = bs ++ List.replicate (8 - bs.length) 0 ++
      List.replicate (length.toNat - body.length) 0 := by
    rw [hfull, encode, hpayload, UInt32.ofNat_toNat]
    simp [p]
  refine ⟨p, hpayload.trans hheader, ?_, ?_⟩
  · rw [hencode]
    exact (List.prefix_append _ _).trans (List.prefix_append _ _)
  · intro heq
    have hsame := congrArg List.length heq
    rw [length_encode, hpayload] at hsame
    omega

/-- **What a frame within the limit can begin with.** -/
theorem begins_fitting_iff (bs : List UInt8) :
    (∃ p : Packet, p.fits = true ∧ bs <+: p.encode ∧ bs ≠ p.encode) ↔
      announced bs ≤ maxLength ∧ bs.length < 8 + announced bs := by
  constructor
  · rintro ⟨p, hfits, ⟨more, hmore⟩, hne⟩
    have hgrows := announced_le_append bs more
    have hlimit := p.fits_iff.mp hfits
    rw [hmore, announced_encode hfits] at hgrows
    refine ⟨Nat.le_trans hgrows hlimit, ?_⟩
    by_cases hshort : bs.length < 8
    · omega
    · -- The length has come in full, so it is that of the frame.
      have hheader := announced_append_of_header (Nat.le_of_not_lt hshort) more
      have hsome : more ≠ [] := by
        rintro rfl
        exact hne (by simpa using hmore)
      have hpos := List.length_pos_iff.mpr hsome
      have hlength := congrArg List.length hmore
      rw [length_encode, List.length_append] at hlength
      rw [hmore, announced_encode hfits] at hheader
      omega
  · rintro ⟨hlimit, hshort⟩
    obtain ⟨p, hpayload, hbegins, hne⟩ := exists_completion hshort
    exact ⟨p, p.fits_iff.mpr (hpayload ▸ hlimit), hbegins, hne⟩

/-! ## Section 2: Where no frame can be read -/

/-- **Where no frame can be read, and why.** -/
inductive Breaks (bs : List UInt8) : WireError → Prop where
  /-- The header has not come in full. -/
  | header (h : bs.length < 8) : Breaks bs .endInHeader
  /-- The header says a length over the limit. -/
  | oversized (h : 8 ≤ bs.length) (hover : maxLength < announced bs) :
      Breaks bs (.oversized (announced bs))
  /-- The payload has not come in full. -/
  | payload (h : 8 ≤ bs.length) (hlimit : announced bs ≤ maxLength)
      (hshort : bs.length < 8 + announced bs) : Breaks bs .endInPayload

theorem read_eq_error_iff {bs : List UInt8} {e : WireError} : read bs = .error e ↔ Breaks bs e := by
  by_cases hshort : bs.length < 8
  · rw [read_of_short hshort]
    constructor
    · intro h
      obtain rfl := Except.error.inj h
      exact .header hshort
    · rintro (_ | h | h)
      · rfl
      · omega
      · omega
  · have hheader : 8 ≤ bs.length := by omega
    obtain ⟨id, length, body, rfl⟩ := exists_header hheader
    have hannounced := announced_header id length body
    have hbody : (bigEndian id ++ bigEndian length ++ body).length = 8 + body.length := by
      simp only [List.length_append, length_bigEndian]
    rw [read_header, ← hannounced]
    constructor
    · intro h
      split at h
      · next hover =>
        obtain rfl := Except.error.inj h
        exact .oversized hheader hover
      · next hlimit =>
        split at h
        · next hlack =>
          obtain rfl := Except.error.inj h
          exact .payload hheader (by omega) (by omega)
        · cases h
    · rintro (h | ⟨_, hover⟩ | ⟨_, hlimit, hlack⟩)
      · exact absurd h hshort
      · rw [if_pos hover]
      · rw [if_neg (by omega), if_pos (by omega)]

/-! ## Section 3: All frames of a byte string -/

theorem split_of_error {bs : List UInt8} {e : WireError} (h : read bs = .error e) :
    split bs = ([], ⟨e, bs⟩) := by
  rw [split]
  split
  · next e' h' =>
    rw [h] at h'
    rw [Except.error.inj h']
  · next h' =>
    rw [h] at h'
    cases h'

theorem split_of_ok {bs rest : List UInt8} {p : Packet} (h : read bs = .ok (p, rest)) :
    split bs = (p :: (split rest).1, (split rest).2) := by
  rw [split]
  split
  · next h' =>
    rw [h] at h'
    cases h'
  · next p' rest' h' =>
    rw [h] at h'
    obtain ⟨rfl, rfl⟩ := Prod.mk.inj (Except.ok.inj h')
    rfl

/-- Frames that have been written are read back, and reading goes on behind them. -/
theorem split_append {ps : List Packet} (h : ∀ p ∈ ps, p.fits = true) (rest : List UInt8) :
    split (ps.flatMap encode ++ rest) = (ps ++ (split rest).1, (split rest).2) := by
  induction ps with
  | nil => rfl
  | cons p ps ih =>
    have hread := read_encode_append (h p List.mem_cons_self) (ps.flatMap encode ++ rest)
    have hrest := ih fun q hq => h q (List.mem_cons_of_mem p hq)
    rw [List.flatMap_cons, List.append_assoc, split_of_ok hread, hrest]
    rfl

/-- Every byte string falls into frames and a rest that begins with none. -/
theorem split_spec (bs : List UInt8) :
    bs = (split bs).1.flatMap encode ++ (split bs).2.rest ∧
    (∀ p ∈ (split bs).1, p.fits = true) ∧ Breaks (split bs).2.rest (split bs).2.error := by
  -- Induction along the reads; each of them takes bytes away.
  induction bs using split.induct with
  | case1 bs e h =>
    rw [split_of_error h]
    exact ⟨rfl, by simp, read_eq_error_iff.mp h⟩
  | case2 bs p rest h ps ending hrest ih =>
    obtain ⟨hbytes, hfits, hbreaks⟩ := ih
    obtain ⟨hp, hbs⟩ := read_eq_ok_iff.mp h
    rw [split_of_ok h]
    refine ⟨?_, ?_, hbreaks⟩
    · rw [List.flatMap_cons, List.append_assoc, ← hbytes]
      exact hbs
    · intro q hq
      rcases List.mem_cons.mp hq with rfl | hq
      · exact hp
      · exact hfits q hq

/-- **The frames of a byte string** are the only ones that it can be made of, with a
    rest that begins with no whole frame. -/
theorem split_eq_iff {bs rest : List UInt8} {ps : List Packet} {e : WireError} :
    split bs = (ps, ⟨e, rest⟩) ↔
      bs = ps.flatMap encode ++ rest ∧ (∀ p ∈ ps, p.fits = true) ∧ Breaks rest e := by
  constructor
  · intro h
    have hspec := split_spec bs
    rw [h] at hspec
    exact hspec
  · rintro ⟨rfl, hfits, hbreaks⟩
    rw [split_append hfits, split_of_error (read_eq_error_iff.mpr hbreaks), List.append_nil]

/-! ## Section 4: Frames taken off step by step -/

/-- What takes bytes off a stream and may find that they end too early. -/
abbrev Receiving := EStateM WireError (List UInt8)

namespace Receiving

/-- Takes a number of four bytes.  Fewer bytes are lost. -/
def number : Receiving UInt32 := do
  match ← get with
  | a :: b :: c :: d :: rest =>
    set rest
    return ofBigEndian a b c d
  | _ =>
    set ([] : List UInt8)
    throw .endInHeader

/-- Takes as many bytes as a payload has.  Fewer bytes are lost. -/
def payload (length : Nat) : Receiving (List UInt8) := do
  let bs ← get
  if bs.length < length then
    set ([] : List UInt8)
    throw .endInPayload
  set (bs.drop length)
  return bs.take length

end Receiving

/-- **A frame taken off a stream,** one part after another.  A length over the limit
    is noticed before the payload is taken. -/
def receive : Receiving Packet := do
  let id ← Receiving.number
  let length ← Receiving.number
  if maxLength < length.toNat then throw (.oversized length.toNat)
  let payload ← Receiving.payload length.toNat
  return ⟨id, payload⟩

namespace Receiving

theorem run_number_of_short {bs : List UInt8} (h : bs.length < 4) :
    number.run bs = .error .endInHeader [] := by
  match bs, h with
  | [], _ => rfl
  | [_], _ => rfl
  | [_, _], _ => rfl
  | [_, _, _], _ => rfl

theorem run_number (n : UInt32) (rest : List UInt8) :
    number.run (bigEndian n ++ rest) = .ok n rest := by
  show EStateM.Result.ok (ofBigEndian _ _ _ _) rest = _
  rw [ofBigEndian_bigEndian]

theorem run_payload (length : Nat) (bs : List UInt8) :
    (payload length).run bs =
      if bs.length < length then .error .endInPayload []
      else .ok (bs.take length) (bs.drop length) := by
  unfold payload
  by_cases h : bs.length < length
  · rw [if_pos h]
    simp only [EStateM.run_bind, EStateM.run_get, h, if_true]
    rfl
  · rw [if_neg h]
    simp only [EStateM.run_bind, EStateM.run_get, h, if_false]
    rfl

end Receiving

theorem run_receive_header (id length : UInt32) (rest : List UInt8) :
    receive.run (bigEndian id ++ bigEndian length ++ rest) =
      if maxLength < length.toNat then .error (.oversized length.toNat) rest
      else if rest.length < length.toNat then .error .endInPayload []
      else .ok ⟨id, rest.take length.toNat⟩ (rest.drop length.toNat) := by
  unfold receive
  rw [List.append_assoc, EStateM.run_bind, Receiving.run_number]
  simp only
  rw [EStateM.run_bind, Receiving.run_number]
  simp only
  split
  · rfl
  · rw [EStateM.run_bind]
    simp only [EStateM.run_pure]
    rw [Receiving.run_payload]
    by_cases hlack : rest.length < length.toNat
    · rw [if_pos hlack, if_pos hlack]
    · rw [if_neg hlack, if_neg hlack]

/-- **Both readers agree.**  What comes before an error may be lost in place. -/
theorem run_receive (bs : List UInt8) :
    match read bs with
    | .ok (p, rest) => receive.run bs = .ok p rest
    | .error e => ∃ left, receive.run bs = .error e left := by
  by_cases hheader : 8 ≤ bs.length
  · obtain ⟨id, length, rest, rfl⟩ := exists_header hheader
    rw [read_header, run_receive_header]
    by_cases hover : maxLength < length.toNat
    · rw [if_pos hover, if_pos hover]
      exact ⟨rest, rfl⟩
    · rw [if_neg hover, if_neg hover]
      by_cases hlack : rest.length < length.toNat
      · rw [if_pos hlack, if_pos hlack]
        exact ⟨[], rfl⟩
      · rw [if_neg hlack, if_neg hlack]
  · rw [read_of_short (Nat.lt_of_not_le hheader)]
    refine ⟨[], ?_⟩
    unfold receive
    rw [EStateM.run_bind]
    by_cases hnumber : 4 ≤ bs.length
    · -- The id has come in full, and the length has not.
      obtain ⟨id, rest, rfl⟩ := exists_number hnumber
      rw [List.length_append, length_bigEndian] at hheader
      rw [Receiving.run_number]
      simp only
      rw [EStateM.run_bind, Receiving.run_number_of_short (by omega)]
    · rw [Receiving.run_number_of_short (Nat.lt_of_not_le hnumber)]

/-- **Frames taken off until the first error.** -/
inductive Receives : List UInt8 → List Packet → WireError → Prop where
  | fails {bs left : List UInt8} {e : WireError} (h : receive.run bs = .error e left) :
      Receives bs [] e
  | next {bs rest : List UInt8} {p : Packet} {ps : List Packet} {e : WireError}
      (h : receive.run bs = .ok p rest) (more : Receives rest ps e) : Receives bs (p :: ps) e

/-- A stream comes to one end. -/
theorem receives_iff (bs : List UInt8) (ps : List Packet) (e : WireError) :
    Receives bs ps e ↔ ps = (split bs).1 ∧ e = (split bs).2.error := by
  constructor
  · intro h
    induction h with
    | @fails bs left e h =>
      have hread := run_receive bs
      split at hread
      · rw [h] at hread
        cases hread
      · next e' he' =>
        obtain ⟨left', hfails⟩ := hread
        rw [h] at hfails
        cases hfails
        rw [split_of_error he']
        exact ⟨rfl, rfl⟩
    | @next bs rest p ps e h _ ih =>
      have hread := run_receive bs
      split at hread
      · next p' rest' hok =>
        rw [h] at hread
        cases hread
        rw [split_of_ok hok]
        exact ⟨congrArg (p :: ·) ih.1, ih.2⟩
      · obtain ⟨left, hfails⟩ := hread
        rw [h] at hfails
        cases hfails
  · rintro ⟨rfl, rfl⟩
    -- Induction along the reads.
    induction bs using split.induct with
    | case1 bs e h =>
      have hread := run_receive bs
      rw [h] at hread
      obtain ⟨left, hfails⟩ := hread
      rw [split_of_error h]
      exact .fails hfails
    | case2 bs p rest h ps ending hrest ih =>
      have hread := run_receive bs
      rw [h] at hread
      rw [split_of_ok h]
      exact .next hread ih

/-! ## Section 5: The grammar -/

end Packet

/-- The bytes have ended before a frame was whole. -/
def WireError.Ends (e : WireError) : Prop := e = .endInHeader ∨ e = .endInPayload

namespace Packet

namespace Breaks
variable {rest : List UInt8} {e : WireError}

theorem oversized_iff (h : Breaks rest e) (n : Nat) :
    e = .oversized n ↔ 8 ≤ rest.length ∧ announced rest = n ∧ maxLength < n := by
  cases h with
  | header h =>
    refine iff_of_false (fun heq => by cases heq) ?_
    omega
  | oversized h hover =>
    constructor
    · intro heq
      obtain rfl := WireError.oversized.inj heq
      exact ⟨h, rfl, hover⟩
    · rintro ⟨_, rfl, _⟩
      rfl
  | payload h hlimit hshort =>
    refine iff_of_false (fun heq => by cases heq) ?_
    omega

theorem ends_iff (h : Breaks rest e) :
    e.Ends ↔ ¬ (8 ≤ rest.length ∧ maxLength < announced rest) := by
  cases h with
  | header h =>
    refine iff_of_true (.inl rfl) ?_
    omega
  | oversized h hover =>
    refine iff_of_false ?_ (not_not_intro ⟨h, hover⟩)
    rintro (heq | heq) <;> cases heq
  | payload h hlimit hshort =>
    refine iff_of_true (.inr rfl) ?_
    omega

/-- Where bytes end too early, more of them are announced. -/
theorem length_lt (h : Breaks rest e) (hends : e.Ends) : rest.length < 8 + announced rest := by
  cases h with
  | header h => exact Nat.lt_of_lt_of_le h (Nat.le_add_right _ _)
  | oversized h hover => rcases hends with heq | heq <;> cases heq
  | payload h hlimit hshort => exact hshort

end Breaks

/-- **What comes of reading a byte string:** some frames, an error, and what is left
    when it arises. -/
structure Reads (bs : List UInt8) (ps : List Packet) (e : WireError) (rest : List UInt8) : Prop where
  /-- Frame after frame, these come first and then this error. -/
  received : ∀ ps' e', Receives bs ps' e' ↔ ps' = ps ∧ e' = e
  bytes : bs = ps.flatMap encode ++ rest
  written : ∀ p ∈ ps, p.payload.length ≤ 65536 ∧ p.IsEncoding p.encode
  /-- A length over the limit is named as soon as the header has come. -/
  oversized_iff : ∀ n, e = .oversized n ↔
    8 ≤ rest.length ∧ magnitude ((rest.drop 4).take 4) = n ∧ 65536 < n
  ends_iff : e.Ends ↔ ¬ (8 ≤ rest.length ∧ 65536 < magnitude ((rest.drop 4).take 4))
  /-- In all other cases a frame has begun, with a length that four bytes can say. -/
  begins : e.Ends → ∃ p : Packet,
    p.payload.length < UInt32.size ∧ rest <+: p.encode ∧ rest ≠ p.encode
  /-- It may be one within the limit, unless the part of the length that has come is
      over the limit already, whatever comes behind it. -/
  begins_fitting_iff : e.Ends →
    ((∃ p : Packet, p.payload.length ≤ 65536 ∧ rest <+: p.encode ∧ rest ≠ p.encode) ↔
      ¬ (rest.length < 8 ∧ 65536 < magnitude (rest.drop 4) * 256 ^ (8 - rest.length)))

/-- **A reader accepts exactly the frames that a byte string begins with.** -/
theorem reads_exactly (bs : List UInt8) :
    Reads bs (split bs).1 (split bs).2.error (split bs).2.rest := by
  obtain ⟨hbytes, hfits, hbreaks⟩ := split_spec bs
  generalize hrest : (split bs).2.rest = rest at hbytes hbreaks ⊢
  have hfull : 8 ≤ rest.length → announced rest = magnitude ((rest.drop 4).take 4) :=
    announced_of_header
  constructor
  · exact receives_iff bs
  · exact hbytes
  · intro p hp
    have hlength := p.fits_iff.mp (hfits p hp)
    exact ⟨hlength, (isEncoding_iff (Nat.lt_of_le_of_lt hlength (by decide)) _).mpr rfl⟩
  · intro n
    rw [hbreaks.oversized_iff n]
    refine and_congr_right fun h => ?_
    rw [hfull h]
    rfl
  · rw [hbreaks.ends_iff]
    refine not_congr (and_congr_right fun h => ?_)
    rw [hfull h]
    rfl
  · intro hends
    obtain ⟨p, hpayload, hbegins, hne⟩ := exists_completion (hbreaks.length_lt hends)
    exact ⟨p, hpayload ▸ announced_lt rest, hbegins, hne⟩
  · intro hends
    have hwhole := hbreaks.ends_iff.mp hends
    have hcut : rest.length < 8 ∧ 65536 < magnitude (rest.drop 4) * 256 ^ (8 - rest.length) ↔
        rest.length < 8 ∧ maxLength < announced rest := by
      refine and_congr_right fun h => ?_
      rw [announced_of_short h]
      rfl
    have hfitting := begins_fitting_iff rest
    simp only [fits_iff] at hfitting
    rw [hfitting, hcut, and_iff_left (hbreaks.length_lt hends)]
    omega

/-- **A length may be over the limit before it has come in full:** no frame within the
    limit begins this way, and yet the bytes only end too early. -/
theorem hopeless_length :
    split [0, 0, 0, 0, 255] = ([], ⟨.endInHeader, [0, 0, 0, 0, 255]⟩) ∧
    ¬ ∃ p : Packet, p.payload.length ≤ 65536 ∧ [0, 0, 0, 0, 255] <+: p.encode ∧
      [0, 0, 0, 0, 255] ≠ p.encode := by
  refine ⟨split_of_error (read_of_short (by decide)), ?_⟩
  simp only [← fits_iff]
  rw [begins_fitting_iff]
  decide

end Packet

end Planetarium

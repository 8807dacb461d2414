import Planetarium.Proofs.Wire.Grammar

/-! # Frames sent and received

    A frame is sent in parts: its id, its length, its payload.  What is sent in
    one place is received in another, frame by frame.

    * `run_send`: a frame over the limit puts nothing on the wire.
    * `transmit`: some frames on one wire, whether they are taken or refused.
    * `split_transmit`: what is received is what was taken. -/

namespace Planetarium.Packet

/-! ## Section 1: One frame -/

theorem Sending.run_length (n : Nat) (wire : List UInt8) :
    (Sending.length n).run wire =
      if n ≤ maxLength then .ok (UInt32.ofNat n) wire else .error (.oversized n) wire := by
  have hroom : n < UInt32.size ∧ (UInt32.ofNat n).toNat ≤ maxLength ↔ n ≤ maxLength := by
    have hsize : maxLength < UInt32.size := by decide
    constructor
    · intro ⟨hlt, hle⟩
      rwa [toNat_ofNat hlt] at hle
    · intro hle
      have hlt : n < UInt32.size := Nat.lt_of_le_of_lt hle hsize
      exact ⟨hlt, (toNat_ofNat hlt).symm ▸ hle⟩
  unfold Sending.length
  simp only [hroom]
  split <;> rfl

/-- **A frame that is refused puts nothing on the wire,** and any other one its
    encoding. -/
theorem run_send (p : Packet) (wire : List UInt8) :
    (send p).run wire =
      match p.write with
      | .ok bytes => .ok () (wire ++ bytes)
      | .error e => .error e wire := by
  unfold send write
  rw [EStateM.run_bind, Sending.run_length]
  by_cases h : p.payload.length ≤ maxLength
  · rw [if_pos h, if_pos (p.fits_iff.mpr h)]
    show EStateM.Result.ok () (wire ++ _ ++ _ ++ p.payload) = _
    simp only [encode, List.append_assoc]
  · rw [if_neg h, if_neg (mt p.fits_iff.mp h)]

/-! ## Section 2: Some frames -/

/-- Sends frames on one wire, one after another, and goes on behind those that are
    refused: the answers, and the wire after them. -/
def transmit : List Packet → List UInt8 → List (Except WireError Unit) × List UInt8
  | [], wire => ([], wire)
  | p :: ps, wire =>
    match (send p).run wire with
    | .ok () wire => (.ok () :: (transmit ps wire).1, (transmit ps wire).2)
    | .error e wire => (.error e :: (transmit ps wire).1, (transmit ps wire).2)

/-- The answer to a frame. -/
def answer (p : Packet) : Except WireError Unit :=
  if p.payload.length ≤ 65536 then .ok () else .error (.oversized p.payload.length)

/-- **What is on the wire** is what was there, and the encodings of the frames that
    were taken. -/
theorem transmit_eq (ps : List Packet) (wire : List UInt8) :
    transmit ps wire = (ps.map answer, wire ++ (ps.filter (·.fits)).flatMap encode) := by
  induction ps generalizing wire with
  | nil => simp [transmit]
  | cons p ps ih =>
    unfold transmit
    rw [run_send]
    by_cases hfits : p.fits = true
    · have hwrite : p.write = .ok p.encode := if_pos hfits
      have hanswer : answer p = .ok () := if_pos (p.fits_iff.mp hfits)
      simp only [hwrite, ih, List.map_cons, hanswer, List.filter_cons_of_pos hfits,
        List.flatMap_cons, List.append_assoc]
    · have hwrite : p.write = .error (.oversized p.payload.length) := if_neg hfits
      have hanswer : answer p = .error (.oversized p.payload.length) :=
        if_neg (mt p.fits_iff.mpr hfits)
      simp only [hwrite, ih, List.map_cons, hanswer, List.filter_cons_of_neg hfits]

/-- **What is received is what was taken.**  Of some frames that are sent, exactly
    those over the limit are refused; nothing of them is on the wire, and the
    others are received from it, in order and intact, before it ends. -/
theorem split_transmit (ps : List Packet) :
    (transmit ps []).1 = ps.map (fun p =>
      if p.payload.length ≤ 65536 then .ok () else .error (.oversized p.payload.length)) ∧
    (transmit ps []).2 = (ps.filter (·.payload.length ≤ 65536)).flatMap encode ∧
    (∀ p wire, 65536 < p.payload.length → (send p).run wire =
      .error (.oversized p.payload.length) wire) ∧
    split (transmit ps []).2 = (ps.filter (·.payload.length ≤ 65536), ⟨.endInHeader, []⟩) ∧
    ∀ qs e, Receives (transmit ps []).2 qs e ↔
      qs = ps.filter (·.payload.length ≤ 65536) ∧ e = .endInHeader := by
  have hsent := transmit_eq ps []
  have hsplit : split (transmit ps []).2 =
      (ps.filter (·.payload.length ≤ 65536), ⟨.endInHeader, []⟩) := by
    rw [hsent, List.nil_append, split_eq_iff]
    refine ⟨(List.append_nil _).symm, ?_, .header (by decide)⟩
    intro p hp
    exact (List.mem_filter.mp hp).2
  refine ⟨?_, ?_, ?_, hsplit, ?_⟩
  · rw [hsent]
    rfl
  · rw [hsent]
    rfl
  · intro p wire h
    rw [run_send, write, if_neg (mt p.fits_iff.mp (Nat.not_le_of_lt h))]
  · intro qs e
    rw [receives_iff, hsplit]

end Planetarium.Packet

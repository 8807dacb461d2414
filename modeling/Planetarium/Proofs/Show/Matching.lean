import Planetarium.Proofs.Show.Rigging

/-! # Matching orreries

    Two shows may have launched at different numbers of objects, so the frames
    of their transfers have different ids.  `Matches` relates the objects of
    one orrery to those of the other: a part matches itself, and each frame of
    a transfer the one of the same kind.

    * `Matches.eq_iff`: matching is one to one.
    * `Hung.mirrors`: two orreries that hang together alike, with the vehicle
      below matching frames, are mirrored in all their links. -/

namespace Planetarium

theorem ObjectId.eq_iff_index {a b : ObjectId} (h : a.scene = b.scene) :
    a = b ↔ a.index = b.index := by
  obtain ⟨scene, k⟩ := a
  obtain ⟨scene', k'⟩ := b
  simp only at h
  simp [h]

/-- **An object of one orrery matches one of another.** -/
def Matches (rig rig' : Option Nat) (a b : ObjectId) : Prop :=
  a.scene = 0 ∧ b.scene = 0 ∧
  ((a.index = b.index ∧ a.index < Solar.orrerySize) ∨
    ∃ n n' i, rig = some n ∧ rig' = some n' ∧ i < 3 ∧ a.index = n + i ∧ b.index = n' + i)

namespace Matches
variable {rig rig' : Option Nat} {a b c d : ObjectId}

theorem symm (h : Matches rig rig' a b) : Matches rig' rig b a := by
  obtain ⟨ha, hb, hpart | ⟨n, n', i, hn, hn', hi, hai, hbi⟩⟩ := h
  · exact ⟨hb, ha, .inl ⟨hpart.1.symm, hpart.1 ▸ hpart.2⟩⟩
  · exact ⟨hb, ha, .inr ⟨n', n, i, hn', hn, hi, hbi, hai⟩⟩

theorem left (h : Matches rig rig' a b) : Orrery rig a := by
  obtain ⟨ha, _, hpart | ⟨n, _, i, hn, _, hi, hai, _⟩⟩ := h
  · exact ⟨ha, .inl hpart.2⟩
  · exact ⟨ha, .inr ⟨n, hn, by omega, by omega⟩⟩

theorem right (h : Matches rig rig' a b) : Orrery rig' b := h.symm.left

/-- A part matches itself. -/
theorem part (h : Orrery none a) : Matches rig rig' a a := by
  obtain ⟨ha, hindex | ⟨n, hn, _⟩⟩ := h
  · exact ⟨ha, ha, .inl ⟨rfl, hindex⟩⟩
  · cases hn

theorem body (h : a ∈ Solar.bodies.toList) : Matches rig rig' a a := part (orrery_body h)

theorem center (n n' : Nat) :
    Matches (some n) (some n') (Rig.ofIndex n).center (Rig.ofIndex n').center :=
  ⟨rfl, rfl, .inr ⟨n, n', 0, rfl, rfl, by omega, rfl, rfl⟩⟩

theorem orbit (n n' : Nat) :
    Matches (some n) (some n') (Rig.ofIndex n).orbit (Rig.ofIndex n').orbit :=
  ⟨rfl, rfl, .inr ⟨n, n', 1, rfl, rfl, by omega, rfl, rfl⟩⟩

theorem arm (n n' : Nat) :
    Matches (some n) (some n') (Rig.ofIndex n).arm (Rig.ofIndex n').arm :=
  ⟨rfl, rfl, .inr ⟨n, n', 2, rfl, rfl, by omega, rfl, rfl⟩⟩

/-- Orreries with the same rig match object by object. -/
theorem eq (h : Matches rig rig a b) : a = b := by
  refine (ObjectId.eq_iff_index (h.1.trans h.2.1.symm)).mpr ?_
  obtain ⟨_, _, hpart | ⟨n, n', i, hn, hn', _, hai, hbi⟩⟩ := h
  · exact hpart.1
  · obtain rfl := Option.some.inj (hn.symm.trans hn')
    rw [hai, hbi]

theorem refl (h : Orrery rig a) : Matches rig rig a a := by
  obtain ⟨ha, hpart | ⟨n, hn, hle, hlt⟩⟩ := h
  · exact ⟨ha, ha, .inl ⟨rfl, hpart⟩⟩
  · exact ⟨ha, ha, .inr ⟨n, n, a.index - n, hn, hn, by omega, by omega, by omega⟩⟩

/-- After the launch, parts match themselves and frames their counterparts. -/
theorem cases_some {n n' : Nat} (h : Matches (some n) (some n') a b) :
    (a = b ∧ Orrery none a) ∨
    (a = (Rig.ofIndex n).center ∧ b = (Rig.ofIndex n').center) ∨
    (a = (Rig.ofIndex n).orbit ∧ b = (Rig.ofIndex n').orbit) ∨
    (a = (Rig.ofIndex n).arm ∧ b = (Rig.ofIndex n').arm) := by
  obtain ⟨scene, k⟩ := a
  obtain ⟨scene', k'⟩ := b
  obtain ⟨ha, hb, hpart | ⟨m, m', i, hm, hm', hi, hai, hbi⟩⟩ := h
  · simp only at ha hb hpart
    exact .inl ⟨by rw [ha, hb, hpart.1], ha, .inl hpart.2⟩
  · simp only at ha hb hai hbi
    obtain rfl := Option.some.inj hm
    obtain rfl := Option.some.inj hm'
    subst ha hb hai hbi
    have hi : i = 0 ∨ i = 1 ∨ i = 2 := by omega
    rcases hi with rfl | rfl | rfl
    · exact .inr (.inl ⟨rfl, rfl⟩)
    · exact .inr (.inr (.inl ⟨rfl, rfl⟩))
    · exact .inr (.inr (.inr ⟨rfl, rfl⟩))

/-- **Matching is one to one.** -/
theorem eq_iff (hn : ∀ {n}, rig = some n → Solar.orrerySize ≤ n)
    (hn' : ∀ {n}, rig' = some n → Solar.orrerySize ≤ n) (hab : Matches rig rig' a b)
    (hcd : Matches rig rig' c d) : a = c ↔ b = d := by
  rw [ObjectId.eq_iff_index (hab.1.trans hcd.1.symm),
    ObjectId.eq_iff_index (hab.2.1.trans hcd.2.1.symm)]
  -- A part is never a frame of a rig, since the rigs come after all parts.
  obtain ⟨_, _, hpart | ⟨n, n', i, hrig, hrig', hi, hai, hbi⟩⟩ := hab <;>
    obtain ⟨_, _, hpart' | ⟨m, m', j, hrig₂, hrig₂', hj, hcj, hdj⟩⟩ := hcd
  · omega
  · have := hn hrig₂
    have := hn' hrig₂'
    omega
  · have := hn hrig
    have := hn' hrig'
    omega
  · obtain rfl := Option.some.inj (hrig.symm.trans hrig₂)
    obtain rfl := Option.some.inj (hrig'.symm.trans hrig₂')
    omega

/-- What matches before the launch matches after it. -/
theorem of_none (h : Matches none none a b) : Matches rig rig' a b := by
  obtain rfl := h.eq
  exact part h.left

end Matches

/-- **Matching objects hang below matching objects.** -/
theorem Hung.parentOf?_matches {rig rig' : Option Nat} {attached attached' a b : ObjectId}
    {s t : Scene} (h : Hung rig attached s) (h' : Hung rig' attached' t)
    (hattached : Matches rig rig' attached attached') (hab : Matches rig rig' a b) :
    Option.Rel (Matches rig rig') (s.parentOf? a) (t.parentOf? b) := by
  obtain ⟨scene, k⟩ := a
  obtain ⟨scene', k'⟩ := b
  obtain ⟨ha, hb, ⟨hk, hlt⟩ | ⟨n, n', i, rfl, rfl, hi, hai, hbi⟩⟩ := hab
  · simp only at ha hb hk hlt
    subst ha hb hk
    -- A part hangs where it was built, unless it is the vehicle.
    by_cases hvehicle : k = Solar.vehicleIndex
    · rw [hvehicle, ← Solar.vehicle_eq, h.vehicle, h'.vehicle]
      exact .some hattached
    · rw [h.parts hlt hvehicle, h'.parts hlt hvehicle]
      cases habove : Solar.above k with
      | none => exact .none
      | some p =>
        obtain ⟨hscene, hp⟩ := Solar.above_lt (Nat.le_of_lt hlt) habove
        exact .some (.part ⟨hscene, .inl (Nat.lt_trans hp hlt)⟩)
  · simp only at ha hb hai hbi
    subst ha hb hai hbi
    have hi : i = 0 ∨ i = 1 ∨ i = 2 := by omega
    rcases hi with rfl | rfl | rfl
    · have hcenter := h.center rfl
      have hcenter' := h'.center rfl
      simp only [Rig.ofIndex] at hcenter hcenter'
      simp only [Nat.add_zero, hcenter, hcenter']
      exact .none
    · have horbit := h.orbit rfl
      have horbit' := h'.orbit rfl
      simp only [Rig.ofIndex] at horbit horbit'
      rw [horbit, horbit']
      exact .some (.center n n')
    · have harm := h.arm rfl
      have harm' := h'.arm rfl
      simp only [Rig.ofIndex] at harm harm'
      rw [harm, harm']
      exact .some (.orbit n n')

/-- What turns by the same amounts stays in the same pose. -/
theorem Scene.poseOf?_advance_eq {M : ObjectId → ObjectId → Prop}
    (one : ∀ {a b c d}, M a b → M c d → (a = c ↔ b = d)) {fs gs : Frames}
    (spins : List.Forall₂ (fun e e' => M e.1 e'.1 ∧ e.2 = e'.2) fs.spins gs.spins) {s t : Scene}
    (pose : ∀ {a b}, M a b → s.poseOf? a = t.poseOf? b) (seconds : Float32) {a b : ObjectId}
    (hab : M a b) : (fs.advance s seconds).poseOf? a = (gs.advance t seconds).poseOf? b := by
  unfold Frames.advance
  generalize fs.spins = es, gs.spins = es' at spins
  -- Both lists turn matching objects in the same order.
  induction spins generalizing s t with
  | nil => exact pose hab
  | @cons e e' es es' hfirst _ ih =>
    refine ih ?_
    intro x y hxy
    rw [poseOf?_rotate, poseOf?_rotate, pose hxy, hfirst.2]
    by_cases hx : x = e.1
    · rw [if_pos hx, if_pos ((one hxy hfirst.1).mp hx)]
    · rw [if_neg hx, if_neg fun hy => hx ((one hxy hfirst.1).mpr hy)]

end Planetarium

import Planetarium.Proofs.Scene.Marks

/-! # Clearing marks

    A read goes up to the first object that is not stale, and on the way back it
    stores a matrix with each object and clears its mark.

    * `Orderly.readsWell_worldMatrix`: whatever has been touched, a read keeps the
      scene orderly, and gives the fresh matrix of every object that is not in
      doubt.
    * `Orderly.refreshed_worldMatrixUpTo`: if nothing is left touched, a read
      clears the marks of the object and of all above it, and leaves everything
      else as it was. -/

namespace Planetarium.Scene

/-! ## Section 1: Reads of an orderly scene -/

/-- **A read of `id` that gives `r` goes well.**  The scene is as orderly as before,
    the object is clean, and the matrix is fresh unless the object is in doubt. -/
structure ReadsWell (s : Scene) (touched : List ObjectId) (id : ObjectId) (r : Mat4 × Scene) :
    Prop where
  orderly : r.2.Orderly touched
  clean : ¬ r.2.Stale id
  fresh : ¬ s.Doubtful touched id → r.1 = s.freshMatrix id

/-- Where a current transform is put, a mark is cleared at most. -/
theorem not_stale_modifyTransform {t : Scene} {id x : ObjectId} {r : Transform}
    (hmark : r.worldStale = false) (hx : x ≠ id → ¬ t.Stale x) :
    ¬ (t.modifyTransform id fun _ => r).Stale x := by
  intro ⟨u, hu, hstale⟩
  rw [transformOf?_modifyTransform] at hu
  split at hu
  · obtain ⟨_, _, heq⟩ := Option.map_eq_some_iff.mp hu
    rw [← heq, hmark] at hstale
    cases hstale
  · next hne => exact hx hne ⟨u, hu, hstale⟩

/-- What is settled stays so while marks are only cleared. -/
theorem Settled.of_alike {s t : Scene} (acyclic : s.Acyclic) (h : s.Alike t)
    (hclean : ∀ {p}, ¬ s.Stale p → ¬ t.Stale p) {x : ObjectId} {r : Transform}
    (settled : s.Settled x r) : t.Settled x r := by
  constructor
  · exact settled.localStale
  · rw [settled.worldMatrix, h.freshMatrix acyclic]
  · intro p hp
    rw [h.parentOf?] at hp
    exact hclean (settled.above p hp)

namespace Orderly
variable {s t : Scene} {touched : List ObjectId}

/-- An object stores its matrix after its parent has been read. -/
private theorem store (orderly : t.Orderly touched) (h : s.Reread t) {id : ObjectId} {o : Object}
    (ho : s.get? id = some o) (hlocal : o.transform.LocalFresh) {m : Mat4}
    (hfresh : ¬ s.Doubtful touched id → m = s.freshMatrix id)
    (habove : ∀ p, s.parentOf? id = some p → ¬ t.Stale p) :
    (t.modifyTransform id fun _ => o.transform.refreshLocal.setWorldMatrix m).Orderly touched := by
  have hacyclic : s.Acyclic := orderly.acyclic.congr fun x => (h.alike.parentOf? x).symm
  have halike := (h.store ho m).alike
  have hback := h.alike.symm.trans halike
  constructor
  · exact orderly.linked.modifyTransform id _
  · exact fun hr => localFresh_modifyTransform orderly.local_fresh
      (fun _ _ => hlocal.refreshLocal.setWorldMatrix m) hr
  · intro x r hr hclean hcertain
    rw [transformOf?_modifyTransform] at hr
    split at hr
    · next hx =>
      subst hx
      obtain ⟨_, _, heq⟩ := Option.map_eq_some_iff.mp hr
      subst heq
      constructor
      · exact o.transform.localStale_refreshLocal
      · rw [halike.freshMatrix hacyclic]
        exact hfresh fun hd => hcertain (hd.of_alike halike)
      · intro p hp
        rw [halike.parentOf?] at hp
        exact not_stale_modifyTransform rfl fun _ => habove p hp
    · have hold := orderly.settled hr hclean fun hd => hcertain (hd.of_alike hback)
      exact hold.of_alike orderly.acyclic hback fun hp =>
        not_stale_modifyTransform rfl fun _ => hp

/-- A read that may go up to the top goes well. -/
theorem readsWell_worldMatrixUpTo (orderly : s.Orderly touched) {n : Nat} {id : ObjectId}
    (hn : s.depth id ≤ n) : s.ReadsWell touched id (worldMatrixUpTo n s id) := by
  have hunknown : ∀ {n id}, ¬ s.has id = true →
      s.ReadsWell touched id (worldMatrixUpTo n s id) := by
    intro n id hid
    rw [worldMatrixUpTo_of_not_has hid]
    exact ⟨orderly, not_stale_of_not_has hid, fun _ => (freshMatrix_of_not_has hid).symm⟩
  -- The read goes up as long as it meets stale objects; the depth bounds how far.
  induction n generalizing id with
  | zero =>
    apply hunknown
    intro hid
    have := depth_pos hid
    omega
  | succ n ih =>
    by_cases hid : s.has id = true
    swap
    · exact hunknown hid
    obtain ⟨o, ho⟩ := exists_of_has hid
    have hr := transformOf?_eq ho
    by_cases hstale : o.transform.worldStale = true
    swap
    · rw [worldMatrixUpTo_of_clean ho hstale]
      constructor
      · exact orderly
      · exact fun h => hstale ((stale_iff hr).mp h)
      · intro hcertain
        exact (orderly.settled hr (by simpa using hstale) hcertain).worldMatrix
    have hlocal := orderly.local_fresh hr
    have habove : (readAbove n s o.parent).2.Orderly touched ∧
        (∀ p, o.parent = some p → ¬ (readAbove n s o.parent).2.Stale p) ∧
        (¬ s.Doubtful touched id → (readAbove n s o.parent).1 = s.freshAbove o.parent) := by
      cases hp : o.parent with
      | none => exact ⟨orderly, fun p h => absurd h (by simp), fun _ => rfl⟩
      | some p =>
        -- The parent is less deep, and in doubt only if the object is.
        have hparent : s.parentOf? id = some p := (parentOf?_eq ho).trans hp
        have hlt := depth_parent_lt orderly.acyclic hparent
        have hwell : s.ReadsWell touched p (worldMatrixUpTo n s p) := ih (by omega)
        constructor
        · exact hwell.orderly
        · exact ⟨fun q hq => Option.some.inj hq ▸ hwell.clean,
            fun hcertain => hwell.fresh fun h => hcertain (h.of_parent hparent)⟩
    obtain ⟨horderly, hclean, hvalue⟩ := habove
    rw [worldMatrixUpTo_of_stale ho hstale]
    simp only [hlocal.localMatrix_refreshLocal]
    have hfresh : ¬ s.Doubtful touched id →
        (readAbove n s o.parent).1 * o.transform.placement = s.freshMatrix id := by
      intro hcertain
      rw [hvalue hcertain, freshMatrix_of_get? orderly.acyclic ho]
    constructor
    · apply horderly.store (reread_readAbove n s o.parent) ho hlocal hfresh
      intro p hp
      exact hclean p ((parentOf?_eq ho).symm.trans hp)
    · exact not_stale_modifyTransform rfl fun hne => absurd rfl hne
    · exact hfresh

theorem readsWell_worldMatrix (orderly : s.Orderly touched) (id : ObjectId) :
    s.ReadsWell touched id (s.worldMatrix id) :=
  orderly.readsWell_worldMatrixUpTo (depth_le_size s id)

end Orderly

/-! ## Section 2: What a read changes -/

/-- **The stale objects of `K` have been read.**  Their marks are cleared and their
    matrices are fresh; all other objects are as they were. -/
structure Refreshed (K : ObjectId → Prop) (s t : Scene) : Prop where
  tag : t.tag = s.tag
  read : ∀ {x o}, s.get? x = some o → K x → o.transform.worldStale = true →
    t.get? x = some
      { o with transform := o.transform.refreshLocal.setWorldMatrix (s.freshMatrix x) }
  others : ∀ {x}, ¬ (K x ∧ s.Stale x) → t.get? x = s.get? x

namespace Refreshed
variable {K : ObjectId → Prop} {s t : Scene}

/-- If none of them is stale, there is nothing to do. -/
theorem of_clean (h : ∀ x, K x → ¬ s.Stale x) : s.Refreshed K s := by
  constructor
  · rfl
  · intro x o ho hx hmark
    exact absurd ((stale_iff_of_get? ho).mpr hmark) (h x hx)
  · exact fun _ => rfl

theorem stale_iff (h : Refreshed K s t) (x : ObjectId) : t.Stale x ↔ s.Stale x ∧ ¬ K x := by
  by_cases hx : K x ∧ s.Stale x
  · obtain ⟨hK, r, hr, hstale⟩ := hx
    obtain ⟨o, ho, heq⟩ := Option.map_eq_some_iff.mp hr
    have hstored : t.transformOf? x =
        some (o.transform.refreshLocal.setWorldMatrix (s.freshMatrix x)) := by
      rw [transformOf?, h.read ho hK (heq ▸ hstale)]
      rfl
    rw [Scene.stale_iff hstored]
    exact iff_of_false Bool.noConfusion fun hnot => hnot.2 hK
  · have hsame : t.transformOf? x = s.transformOf? x := by
      rw [transformOf?, transformOf?, h.others hx]
    rw [stale_congr hsame]
    exact ⟨fun hstale => ⟨hstale, fun hK => hx ⟨hK, hstale⟩⟩, fun hstale => hstale.1⟩

/-- After what is above it, the object itself is read. -/
theorem store (acyclic : s.Acyclic) {id : ObjectId} (h : Refreshed (s.Below id ·) s t)
    {o : Object} (ho : s.get? id = some o) (hstale : o.transform.worldStale = true) :
    Refreshed (s.Within id ·) s
      (t.modifyTransform id fun _ =>
        o.transform.refreshLocal.setWorldMatrix (s.freshMatrix id)) := by
  have hself : t.get? id = some o := (h.others fun hid => acyclic id hid.1).trans ho
  have hmark : s.Stale id := (stale_iff_of_get? ho).mpr hstale
  constructor
  · rw [tag_modifyTransform, h.tag]
  · intro x o' ho' hx hstale'
    unfold modifyTransform
    rw [get?_modify]
    rcases hx with heq | hbelow
    · subst heq
      obtain rfl : o = o' := Option.some.inj (ho.symm.trans ho')
      simp [hself]
    · have hne : id ≠ x := fun heq => acyclic id (heq ▸ hbelow)
      rw [if_neg hne]
      exact h.read ho' hbelow hstale'
  · intro x hx
    unfold modifyTransform
    have hne : id ≠ x := fun heq => hx (heq ▸ ⟨.refl s id, hmark⟩)
    rw [get?_modify, if_neg hne]
    exact h.others fun hbelow => hx ⟨.inr hbelow.1, hbelow.2⟩

end Refreshed

/-! Where a read goes from an object. -/

theorem not_below_of_top {s : Scene} {c : ObjectId} (hp : s.parentOf? c = none) (a : ObjectId) :
    ¬ s.Below c a := by
  intro h
  cases h with
  | direct hq => simp [hp] at hq
  | further hq _ => simp [hp] at hq

theorem below_iff_of_parent {s : Scene} {c p : ObjectId} (hp : s.parentOf? c = some p)
    (a : ObjectId) : s.Below c a ↔ s.Within p a := by
  constructor
  · intro h
    cases h with
    | direct hq => exact .inl (Option.some.inj (hp.symm.trans hq))
    | further hq habove => exact .inr (Option.some.inj (hp.symm.trans hq) ▸ habove)
  · intro h
    rcases h with heq | habove
    · exact .direct (heq ▸ hp)
    · exact .further hp habove

/-- **A read goes up to the first object that is not stale.**  In a scene where
    nothing is left touched, that is to say that it computes what is stale among
    the object and all above it. -/
theorem Orderly.refreshed_worldMatrixUpTo {s : Scene} (orderly : s.Orderly []) {n : Nat}
    {id : ObjectId} (hn : s.depth id ≤ n) :
    Refreshed (s.Within id ·) s (worldMatrixUpTo n s id).2 := by
  have hclean : ∀ {id}, ¬ s.Stale id → Refreshed (s.Within id ·) s s := fun h =>
    .of_clean fun x hx hstale => h (orderly.stale_of_within (not_doubtful_nil _) hx hstale)
  induction n generalizing id with
  | zero =>
    have hid : ¬ s.has id = true := by
      intro h
      have := depth_pos h
      omega
    exact hclean (not_stale_of_not_has hid)
  | succ n ih =>
    by_cases hid : s.has id = true
    swap
    · rw [worldMatrixUpTo_of_not_has hid]
      exact hclean (not_stale_of_not_has hid)
    obtain ⟨o, ho⟩ := exists_of_has hid
    by_cases hstale : o.transform.worldStale = true
    swap
    · rw [worldMatrixUpTo_of_clean ho hstale]
      exact hclean fun h => hstale ((stale_iff_of_get? ho).mp h)
    have hfresh := (orderly.readsWell_worldMatrixUpTo hn).fresh (not_doubtful_nil id)
    have habove : Refreshed (s.Below id ·) s (readAbove n s o.parent).2 := by
      cases hp : o.parent with
      | none =>
        have htop : s.parentOf? id = none := (parentOf?_eq ho).trans hp
        exact .of_clean fun x hbelow => absurd hbelow (not_below_of_top htop x)
      | some p =>
        have hparent : s.parentOf? id = some p := (parentOf?_eq ho).trans hp
        have hlt := depth_parent_lt orderly.acyclic hparent
        simp only [below_iff_of_parent hparent]
        exact ih (by omega)
    rw [worldMatrixUpTo_of_stale ho hstale] at hfresh ⊢
    simp only at hfresh ⊢
    rw [hfresh]
    exact habove.store orderly.acyclic ho hstale

end Planetarium.Scene

import Planetarium.Proofs.Scene.Links

/-! # Invalidation

    An invalidation marks the world matrices of a whole subtree as stale and
    changes nothing else: `get?_invalidate` says so for every linked scene.

    The search down the links is followed level by level (`Meets`).  Marking
    leaves all links as they are, so each branch of the search sees the scene
    that the search began in. -/

namespace Planetarium

/-! ## Section 1: Marks -/

open Classical in
/-- The object with its world matrix marked as stale if `P` holds. -/
noncomputable def Object.markedIf (P : Prop) (o : Object) : Object :=
  if P then { o with transform := o.transform.invalidateWorld } else o

namespace Object
variable (P Q : Prop) (o : Object)

theorem markedIf_of {P : Prop} (h : P) :
    o.markedIf P = { o with transform := o.transform.invalidateWorld } := if_pos h

theorem markedIf_of_not {P : Prop} (h : ¬ P) : o.markedIf P = o := if_neg h

@[simp] theorem parent_markedIf : (o.markedIf P).parent = o.parent := by
  unfold markedIf
  split <;> rfl

@[simp] theorem children_markedIf : (o.markedIf P).children = o.children := by
  unfold markedIf
  split <;> rfl

@[simp] theorem pose_markedIf : (o.markedIf P).transform.pose = o.transform.pose := by
  unfold markedIf
  split <;> rfl

/-- Marking twice is marking once. -/
theorem markedIf_markedIf : (o.markedIf P).markedIf Q = o.markedIf (P ∨ Q) := by
  by_cases hP : P <;> by_cases hQ : Q <;> simp [markedIf, hP, hQ, Transform.invalidateWorld]

end Object

namespace Scene

/-! ## Section 2: The search -/

/-- A search down from `id` through at most `depth` levels meets `x`. -/
def Meets (s : Scene) : (depth : Nat) → (id x : ObjectId) → Prop
  | 0, _, _ => False
  | depth + 1, id, x => s.has id = true ∧ (x = id ∨ ∃ c ∈ s.childrenOf id, s.Meets depth c x)

/-- Two scenes with the same objects, each with the same children. -/
structure SameRows (s t : Scene) : Prop where
  has : ∀ id, t.has id = s.has id
  childrenOf : ∀ id, t.childrenOf id = s.childrenOf id

theorem SameRows.trans {s t u : Scene} (h : s.SameRows t) (h' : t.SameRows u) : s.SameRows u :=
  ⟨fun id => (h'.has id).trans (h.has id), fun id => (h'.childrenOf id).trans (h.childrenOf id)⟩

theorem SameRows.meets_iff {s t : Scene} (h : s.SameRows t) (depth : Nat) (id x : ObjectId) :
    t.Meets depth id x ↔ s.Meets depth id x := by
  induction depth generalizing id with
  | zero => exact Iff.rfl
  | succ depth ih =>
    unfold Meets
    rw [h.has, h.childrenOf]
    simp only [ih]

/-- Marks leave the rows as they are. -/
theorem sameRows_of_marks {s t : Scene} {P : ObjectId → Prop}
    (h : ∀ x, t.get? x = (s.get? x).map (·.markedIf (P x))) : s.SameRows t := by
  constructor
  · intro id
    simp [Scene.has, h]
  · intro id
    unfold Scene.childrenOf
    rw [h]
    cases s.get? id <;> simp

/-- Marking one subtree after another marks them all. -/
theorem get?_foldl_marks {s : Scene} {step : Scene → ObjectId → Scene}
    {P : ObjectId → ObjectId → Prop}
    (hstep : ∀ t, s.SameRows t → ∀ c x, (step t c).get? x = (t.get? x).map (·.markedIf (P c x)))
    (cs : List ObjectId) (t : Scene) (rows : s.SameRows t) (x : ObjectId) :
    (cs.foldl step t).get? x = (t.get? x).map (·.markedIf (∃ c ∈ cs, P c x)) := by
  induction cs generalizing t with
  | nil =>
    cases h : t.get? x <;> simp [h, Object.markedIf_of_not]
  | cons c cs ih =>
    have hc := hstep t rows c
    -- The next step finds the rows of `s` again.
    have rows' : s.SameRows (step t c) := rows.trans (sameRows_of_marks hc)
    rw [List.foldl_cons, ih _ rows', hc x, Option.map_map]
    congr 1
    funext o
    simp [Object.markedIf_markedIf]

theorem get?_invalidateTo (depth : Nat) (s : Scene) (id x : ObjectId) :
    (invalidateTo depth s id).get? x = (s.get? x).map (·.markedIf (s.Meets depth id x)) := by
  induction depth generalizing s id x with
  | zero =>
    cases h : s.get? x <;> simp [invalidateTo, Meets, h, Object.markedIf_of_not]
  | succ depth ih =>
    unfold invalidateTo
    cases ho : s.get? id with
    | none =>
      have hid : ¬ s.has id = true := by simp [Scene.has, ho]
      cases s.get? x <;> simp [Meets, hid, Object.markedIf_of_not]
    | some o =>
      have hid : s.has id = true := has_of_get? ho
      -- First the object itself is marked, and then what each child leads to.
      have hfirst : ∀ y, (s.modifyTransform id .invalidateWorld).get? y =
          (s.get? y).map (·.markedIf (y = id)) := by
        intro y
        unfold modifyTransform
        rw [get?_modify]
        by_cases hy : id = y
        · subst hy
          simp [ho, Object.markedIf]
        · rw [if_neg hy]
          cases s.get? y <;> simp [Object.markedIf, Ne.symm hy]
      have hbranch : ∀ t, s.SameRows t → ∀ c y, (invalidateTo depth t c).get? y =
          (t.get? y).map (·.markedIf (s.Meets depth c y)) := by
        -- A branch meets what it would have met at the beginning.
        intro t rows c y
        rw [ih t c y]
        simp only [rows.meets_iff]
      show (o.children.foldl (invalidateTo depth)
        (s.modifyTransform id .invalidateWorld)).get? x = _
      rw [get?_foldl_marks hbranch _ _ (sameRows_of_marks hfirst) x, hfirst x, Option.map_map]
      congr 1
      funext p
      simp [Object.markedIf_markedIf, Meets, hid, childrenOf_eq ho]

/-! ## Section 3: What is met -/

theorem Meets.within {s : Scene} (linked : s.Linked) {depth : Nat} {id x : ObjectId}
    (h : s.Meets depth id x) : s.has id = true ∧ s.Within x id := by
  induction depth generalizing id with
  | zero => exact h.elim
  | succ depth ih =>
    obtain ⟨hid, rfl | ⟨c, hc, hx⟩⟩ := h
    · exact ⟨hid, .refl s x⟩
    · have hparent := (linked.mem_childrenOf_iff hid c).mp hc
      exact ⟨hid, (ih hx).2.trans (.inr (.direct hparent))⟩

/-- A search that may go down to the greatest depth misses nothing. -/
theorem meets_of_within {s : Scene} (linked : s.Linked) {depth : Nat} {id x : ObjectId}
    (hid : s.has id = true) (hdepth : s.size < s.depth id + depth) (hx : s.Within x id) :
    s.Meets depth id x := by
  -- Each level down, the depth grows by one and the rest of the search shrinks by one.
  induction depth generalizing id with
  | zero =>
    have := s.depth_le_size id
    omega
  | succ depth ih =>
    refine ⟨hid, ?_⟩
    rcases hx with rfl | hx
    · exact .inl rfl
    · obtain ⟨c, hc, hxc⟩ := hx.exists_child
      have hlt := depth_parent_lt linked.acyclic hc
      have hmem := (linked.mem_childrenOf_iff hid c).mpr hc
      exact .inr ⟨c, hmem, ih (has_of_parentOf? hc) (by omega) hxc⟩

theorem meets_size_iff {s : Scene} (linked : s.Linked) (id x : ObjectId) :
    s.Meets s.size id x ↔ s.has id = true ∧ s.Within x id := by
  constructor
  · exact fun h => h.within linked
  · rintro ⟨hid, hx⟩
    have := depth_pos hid
    exact meets_of_within linked hid (by omega) hx

/-- **Invalidation.** The world matrices of an object and of all that hangs
    below it are stale afterwards, and nothing else has changed. -/
theorem get?_invalidate {s : Scene} (linked : s.Linked) (id x : ObjectId) :
    (s.invalidate id).get? x =
      (s.get? x).map (·.markedIf (s.has id = true ∧ s.Within x id)) := by
  unfold invalidate
  rw [get?_invalidateTo]
  simp only [meets_size_iff linked]

theorem transformOf?_invalidate_within {s : Scene} (linked : s.Linked) {id x : ObjectId}
    (hid : s.has id = true) (hx : s.Within x id) :
    (s.invalidate id).transformOf? x = (s.transformOf? x).map .invalidateWorld := by
  unfold transformOf?
  rw [get?_invalidate linked]
  simp only [Option.map_map]
  congr 1
  funext o
  simp [Object.markedIf_of _ (And.intro hid hx)]

theorem transformOf?_invalidate_outside {s : Scene} (linked : s.Linked) {id x : ObjectId}
    (h : ¬ (s.has id = true ∧ s.Within x id)) :
    (s.invalidate id).transformOf? x = s.transformOf? x := by
  unfold transformOf?
  rw [get?_invalidate linked, Option.map_map]
  congr 1
  funext o
  simp [Object.markedIf_of_not _ h]

/-! ## Section 4: What no invalidation changes -/

theorem tag_invalidateTo (depth : Nat) (s : Scene) (id : ObjectId) :
    (invalidateTo depth s id).tag = s.tag := by
  induction depth generalizing s id with
  | zero => rfl
  | succ depth ih =>
    unfold invalidateTo
    split
    · rfl
    · rw [foldl_keeps tag ih, tag_modifyTransform]

theorem size_invalidateTo (depth : Nat) (s : Scene) (id : ObjectId) :
    (invalidateTo depth s id).size = s.size := by
  induction depth generalizing s id with
  | zero => rfl
  | succ depth ih =>
    unfold invalidateTo
    split
    · rfl
    · rw [foldl_keeps size ih, size_modifyTransform]

section views
variable (s : Scene) (id x : ObjectId)

@[simp] theorem tag_invalidate : (s.invalidate id).tag = s.tag := tag_invalidateTo _ s id

@[simp] theorem size_invalidate : (s.invalidate id).size = s.size := size_invalidateTo _ s id

@[simp] theorem has_invalidate : (s.invalidate id).has x = s.has x := by
  simp [Scene.has, invalidate, get?_invalidateTo]

@[simp] theorem parentOf?_invalidate : (s.invalidate id).parentOf? x = s.parentOf? x := by
  unfold parentOf? invalidate
  rw [get?_invalidateTo]
  cases s.get? x <;> simp

@[simp] theorem childrenOf_invalidate : (s.invalidate id).childrenOf x = s.childrenOf x :=
  (sameRows_of_marks (get?_invalidateTo s.size s id)).childrenOf x

@[simp] theorem poseOf?_invalidate : (s.invalidate id).poseOf? x = s.poseOf? x := by
  unfold poseOf? invalidate
  rw [get?_invalidateTo, Option.map_map]
  congr 1
  funext o
  simp

end views

end Scene

end Planetarium

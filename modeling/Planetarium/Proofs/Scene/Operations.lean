import Planetarium.Proofs.Scene.Invalidation

/-! # Operations on a scene

    What each operation does to the views, and that it keeps the links.

    * A move changes one pose.
    * `setParent` changes one link upward and the two lists that it leaves and
      enters.  It keeps the scene linked as long as it hangs nothing within its
      own subtree.
    * `createChild` adds one object. -/

namespace Planetarium

/-! ## Section 1: Moves -/

namespace Scene

section move
variable (s : Scene) (id x : ObjectId) (f : Transform → Transform)

@[simp] theorem tag_move : (s.move id f).tag = s.tag := by simp [move]

@[simp] theorem size_move : (s.move id f).size = s.size := by simp [move]

@[simp] theorem has_move : (s.move id f).has x = s.has x := by simp [move]

@[simp] theorem parentOf?_move : (s.move id f).parentOf? x = s.parentOf? x := by simp [move]

@[simp] theorem childrenOf_move : (s.move id f).childrenOf x = s.childrenOf x := by simp [move]

theorem poseOf?_move {g : Pose → Pose} (hf : ∀ t, (f t).pose = g t.pose) :
    (s.move id f).poseOf? x = if x = id then (s.poseOf? x).map g else s.poseOf? x := by
  unfold move
  rw [poseOf?_invalidate, poseOf?_modifyTransform s id x f hf]

end move

/-! Neither a change of transforms nor an invalidation moves a link. -/

theorem Linked.modifyTransform {s : Scene} (linked : s.Linked) (id : ObjectId)
    (f : Transform → Transform) : (s.modifyTransform id f).Linked :=
  linked.congr (tag_modifyTransform s id f) (size_modifyTransform s id f)
    (fun x => parentOf?_modifyTransform s id x f) fun x => childrenOf_modifyTransform s id x f

theorem linked_invalidate_iff (s : Scene) (id : ObjectId) :
    (s.invalidate id).Linked ↔ s.Linked := by
  have hparent := fun x => parentOf?_invalidate s id x
  have hchildren := fun x => childrenOf_invalidate s id x
  constructor
  · exact .congr (tag_invalidate s id).symm (size_invalidate s id).symm
      (fun x => (hparent x).symm) fun x => (hchildren x).symm
  · exact .congr (tag_invalidate s id) (size_invalidate s id) hparent hchildren

theorem Linked.move {s : Scene} (linked : s.Linked) (id : ObjectId) (f : Transform → Transform) :
    (s.move id f).Linked :=
  (linked_invalidate_iff _ id).mpr (linked.modifyTransform id f)

section setters
variable (s : Scene) (id x : ObjectId)

theorem poseOf?_setTranslation (v : Vec3) :
    (s.setTranslation id v).poseOf? x =
      if x = id then (s.poseOf? x).map ({ · with translation := v }) else s.poseOf? x :=
  poseOf?_move s id x _ fun _ => rfl

theorem poseOf?_setRotation (q : Quat) :
    (s.setRotation id q).poseOf? x =
      if x = id then (s.poseOf? x).map ({ · with rotation := q }) else s.poseOf? x :=
  poseOf?_move s id x _ fun _ => rfl

theorem poseOf?_setScale (v : Vec3) :
    (s.setScale id v).poseOf? x =
      if x = id then (s.poseOf? x).map ({ · with scale := v }) else s.poseOf? x :=
  poseOf?_move s id x _ fun _ => rfl

theorem poseOf?_setTransform (v : Vec3) (q : Quat) (k : Vec3) :
    (s.setTransform id v q k).poseOf? x =
      if x = id then (s.poseOf? x).map fun _ => ⟨v, q, k⟩ else s.poseOf? x :=
  poseOf?_move s id x _ fun _ => rfl

theorem poseOf?_rotate (q : Quat) :
    (s.rotate id q).poseOf? x =
      if x = id then (s.poseOf? x).map fun p => { p with rotation := (p.rotation * q).normalize }
      else s.poseOf? x :=
  poseOf?_move s id x _ fun _ => rfl

theorem poseOf?_translateLocal (d : Vec3) :
    (s.translateLocal id d).poseOf? x =
      if x = id then
        (s.poseOf? x).map fun p => { p with translation := p.translation + p.rotation.apply d }
      else s.poseOf? x :=
  poseOf?_move s id x _ fun _ => rfl

theorem parentOf?_setTranslation (v : Vec3) :
    (s.setTranslation id v).parentOf? x = s.parentOf? x :=
  parentOf?_move s id x _

theorem parentOf?_setRotation (q : Quat) : (s.setRotation id q).parentOf? x = s.parentOf? x :=
  parentOf?_move s id x _

theorem parentOf?_translateLocal (d : Vec3) :
    (s.translateLocal id d).parentOf? x = s.parentOf? x :=
  parentOf?_move s id x _

end setters

/-! ## Section 2: Hanging an object elsewhere -/

/-- The scene with the link of a child upward replaced. -/
def relink (s : Scene) (child : ObjectId) (parent : Option ObjectId) : Scene :=
  s.modify child fun o => { o with parent }

/-- The scene with a child at the end of the list of a parent. -/
def enlist (s : Scene) (child : ObjectId) : Option ObjectId → Scene
  | none => s
  | some p => s.modify p fun o => { o with children := o.children ++ [child] }

section setParent
variable (s : Scene) (child x : ObjectId) (parent : Option ObjectId)

theorem setParent_eq :
    s.setParent child parent =
      if s.has child then
        (((s.detach child).relink child parent).enlist child parent).invalidate child
      else s := by
  cases parent <;> rfl

theorem setParent_of_not_has {s : Scene} {child : ObjectId} (h : ¬ s.has child = true) :
    s.setParent child parent = s := by
  rw [setParent_eq, if_neg h]

@[simp] theorem tag_detach : (s.detach child).tag = s.tag := by
  unfold detach
  split <;> simp

@[simp] theorem size_detach : (s.detach child).size = s.size := by
  unfold detach
  split <;> simp

@[simp] theorem has_detach : (s.detach child).has x = s.has x := by
  rw [Bool.eq_iff_iff, has_iff, has_iff, tag_detach, size_detach]

@[simp] theorem parentOf?_detach : (s.detach child).parentOf? x = s.parentOf? x := by
  unfold detach
  split
  · rfl
  · exact parentOf?_modify s _ x _ fun _ => rfl

@[simp] theorem transformOf?_detach : (s.detach child).transformOf? x = s.transformOf? x := by
  unfold detach
  split
  · rfl
  · exact transformOf?_modify s _ x _ fun _ => rfl

/-- In a linked scene nothing but the old parent has to forget the child. -/
theorem childrenOf_detach {s : Scene} (linked : s.Linked) :
    (s.detach child).childrenOf x = (s.childrenOf x).filter (· ≠ child) := by
  -- A list that lacks the child is the same without it.
  have hkeep : s.parentOf? child ≠ some x →
      s.childrenOf x = (s.childrenOf x).filter (· ≠ child) := by
    intro hne
    refine (List.filter_eq_self.mpr ?_).symm
    intro c hc
    have hp := (linked.mem_childrenOf_iff (has_of_mem_childrenOf hc) c).mp hc
    have hcc : c ≠ child := by
      rintro rfl
      exact hne hp
    simpa using hcc
  unfold detach
  split
  · next h =>
    have hnone : s.parentOf? child = none := h
    exact hkeep (by rw [hnone]; simp)
  · next old h =>
    have hold : s.parentOf? child = some old := h
    by_cases hx : old = x
    · subst hx
      unfold Scene.childrenOf
      rw [get?_modify, if_pos rfl]
      cases s.get? old <;> simp
    · have hsame : (s.modify old fun o =>
          { o with children := o.children.filter (· ≠ child) }).childrenOf x = s.childrenOf x := by
        unfold Scene.childrenOf
        rw [get?_modify, if_neg hx]
      exact hsame.trans (hkeep (by rw [hold]; simpa using hx))

@[simp] theorem tag_relink : (s.relink child parent).tag = s.tag := tag_modify s child _

@[simp] theorem size_relink : (s.relink child parent).size = s.size := size_modify s child _

@[simp] theorem has_relink : (s.relink child parent).has x = s.has x := has_modify s child x _

@[simp] theorem childrenOf_relink : (s.relink child parent).childrenOf x = s.childrenOf x :=
  childrenOf_modify s child x _ fun _ => rfl

@[simp] theorem transformOf?_relink :
    (s.relink child parent).transformOf? x = s.transformOf? x :=
  transformOf?_modify s child x _ fun _ => rfl

theorem parentOf?_relink {s : Scene} {child : ObjectId} (h : s.has child = true) :
    (s.relink child parent).parentOf? x = if x = child then parent else s.parentOf? x := by
  obtain ⟨o, ho⟩ := exists_of_has h
  unfold relink Scene.parentOf?
  rw [get?_modify]
  by_cases hx : child = x
  · subst hx
    simp [ho]
  · rw [if_neg hx, if_neg (Ne.symm hx)]

@[simp] theorem tag_enlist : (s.enlist child parent).tag = s.tag := by
  cases parent with
  | none => rfl
  | some p => exact tag_modify s p _

@[simp] theorem size_enlist : (s.enlist child parent).size = s.size := by
  cases parent with
  | none => rfl
  | some p => exact size_modify s p _

@[simp] theorem parentOf?_enlist : (s.enlist child parent).parentOf? x = s.parentOf? x := by
  cases parent with
  | none => rfl
  | some p => exact parentOf?_modify s p x _ fun _ => rfl

@[simp] theorem transformOf?_enlist :
    (s.enlist child parent).transformOf? x = s.transformOf? x := by
  cases parent with
  | none => rfl
  | some p => exact transformOf?_modify s p x _ fun _ => rfl

theorem childrenOf_enlist :
    (s.enlist child parent).childrenOf x =
      s.childrenOf x ++ if parent = some x ∧ s.has x = true then [child] else [] := by
  cases parent with
  | none => simp [enlist]
  | some p =>
    unfold enlist Scene.childrenOf Scene.has
    rw [get?_modify]
    by_cases hx : p = x
    · subst hx
      cases s.get? p <;> simp
    · simp [hx]

@[simp] theorem tag_setParent : (s.setParent child parent).tag = s.tag := by
  rw [setParent_eq]
  split <;> simp

@[simp] theorem size_setParent : (s.setParent child parent).size = s.size := by
  rw [setParent_eq]
  split <;> simp

@[simp] theorem has_setParent : (s.setParent child parent).has x = s.has x := by
  rw [Bool.eq_iff_iff, has_iff, has_iff, tag_setParent, size_setParent]

@[simp] theorem poseOf?_setParent : (s.setParent child parent).poseOf? x = s.poseOf? x := by
  rw [setParent_eq]
  split
  · rw [poseOf?_invalidate, poseOf?_eq_map, transformOf?_enlist, transformOf?_relink,
      transformOf?_detach, ← poseOf?_eq_map]
  · rfl

/-- **One link upward changes.** -/
theorem parentOf?_setParent :
    (s.setParent child parent).parentOf? x =
      if s.has child = true ∧ x = child then parent else s.parentOf? x := by
  rw [setParent_eq]
  by_cases h : s.has child = true
  · have hd : (s.detach child).has child = true := by rw [has_detach, h]
    rw [if_pos h, parentOf?_invalidate, parentOf?_enlist, parentOf?_relink x parent hd,
      parentOf?_detach]
    simp [h]
  · rw [if_neg h, if_neg fun hc => h hc.1]

/-- **The child leaves every list and goes to the end of that of its new parent.** -/
theorem childrenOf_setParent {s : Scene} (linked : s.Linked) (h : s.has child = true) :
    (s.setParent child parent).childrenOf x =
      (s.childrenOf x).filter (· ≠ child) ++
        if parent = some x ∧ s.has x = true then [child] else [] := by
  rw [setParent_eq, if_pos h, childrenOf_invalidate, childrenOf_enlist, childrenOf_relink,
    childrenOf_detach child x linked, has_relink, has_detach]

end setParent

/-! ## Section 3: Subtrees after the change -/

section subtrees
variable {s : Scene} {child : ObjectId} {parent : Option ObjectId}

/-- A way up in the new scene is an old one, or it goes up to the child, over
    the new link and on from the new parent. -/
theorem Below.of_setParent (houtside : ∀ p, parent = some p → ¬ s.Within p child)
    {x a : ObjectId} (h : (s.setParent child parent).Below x a) :
    s.Below x a ∨ s.Within x child ∧ ∃ p, parent = some p ∧ s.Within p a := by
  induction h with
  | @direct x a h =>
    rw [parentOf?_setParent] at h
    split at h
    · next hx => exact .inr ⟨.inl hx.2, a, h, .refl s a⟩
    · exact .inl (.direct h)
  | @further x q a h _ ih =>
    rw [parentOf?_setParent] at h
    split at h
    · next hx =>
      -- The way goes on from the new parent, which is outside the child's subtree.
      rcases ih with ih | ⟨hq, _⟩
      · exact .inr ⟨.inl hx.2, q, h, .inr ih⟩
      · exact absurd hq (houtside q h)
    · rcases ih with ih | ⟨hq, p, hp, hpa⟩
      · exact .inl (.further h ih)
      · exact .inr ⟨.of_parent h hq, p, hp, hpa⟩

theorem Acyclic.setParent (acyclic : s.Acyclic)
    (houtside : ∀ p, parent = some p → ¬ s.Within p child) :
    (s.setParent child parent).Acyclic := by
  intro x hx
  rcases hx.of_setParent houtside with h | ⟨hxc, p, hp, hpx⟩
  · exact acyclic x h
  · exact houtside p hp (hpx.trans hxc)

theorem Below.setParent (acyclic : s.Acyclic) {x : ObjectId} (h : s.Below x child) :
    (s.setParent child parent).Below x child := by
  -- The child is no link on a way up to it.
  have hlink : ∀ {c p : ObjectId}, s.parentOf? c = some p → s.Below c child →
      (s.setParent child parent).parentOf? c = some p := by
    intro c p hc hbelow
    rw [parentOf?_setParent, if_neg]
    · exact hc
    · rintro ⟨_, rfl⟩
      exact acyclic c hbelow
  generalize hb : child = b at h
  induction h with
  | direct h =>
    subst hb
    exact .direct (hlink h (.direct h))
  | further h hab ih =>
    subst hb
    exact .further (hlink h (.further h hab)) (ih rfl)

/-- The subtree of the child is the same as before. -/
theorem within_setParent_iff (acyclic : s.Acyclic)
    (houtside : ∀ p, parent = some p → ¬ s.Within p child) (x : ObjectId) :
    (s.setParent child parent).Within x child ↔ s.Within x child := by
  constructor
  · rintro (rfl | h)
    · exact .refl s x
    · rcases h.of_setParent houtside with h | ⟨h, _⟩
      · exact .inr h
      · exact h
  · rintro (rfl | h)
    · exact .refl _ x
    · exact .inr (h.setParent acyclic)

/-- **Hanging an object outside its own subtree keeps the scene linked.** -/
theorem Linked.setParent (linked : s.Linked)
    (hsettled : ∀ p, parent = some p → s.has p = true ∨ p.scene ≠ s.tag)
    (houtside : ∀ p, parent = some p → ¬ s.Within p child) :
    (s.setParent child parent).Linked := by
  by_cases hchild : s.has child = true
  swap
  · rw [setParent_of_not_has parent hchild]
    exact linked
  constructor
  · intro c p hc
    rw [has_setParent, tag_setParent]
    rw [parentOf?_setParent] at hc
    split at hc
    · exact hsettled p hc
    · exact linked.parent_settled hc
  · intro p hp c
    rw [has_setParent] at hp
    rw [childrenOf_setParent child p parent linked hchild, parentOf?_setParent]
    have hold := linked.mem_childrenOf_iff hp c
    -- The child is listed where it hangs now; all others are listed where they were.
    by_cases hc : c = child
    · subst hc
      by_cases hparent : parent = some p <;> simp [hchild, hparent, hp]
    · by_cases hparent : parent = some p <;> simp [hc, hparent, hp, hold]
  · intro p
    rw [childrenOf_setParent child p parent linked hchild]
    refine List.nodup_append.mpr ⟨(linked.nodup_childrenOf p).filter _, ?_, ?_⟩
    · split <;> simp
    · -- The old list has lost the child, so its new entry is the only one.
      intro c hc d hd
      have hne : c ≠ child := by simpa using (List.mem_filter.mp hc).2
      split at hd
      · rw [List.mem_singleton.mp hd]
        exact hne
      · cases hd
  · exact linked.acyclic.setParent houtside

end subtrees

/-! ## Section 4: New objects -/

section createChild
variable (s : Scene) (parent : Option ObjectId) (name : String) (x : ObjectId)

/-- A new object is at the top for a moment. -/
theorem createChild_eq :
    (s.createChild parent name).2 =
      if parent = none then (s.add { name }).2
      else (s.add { name }).2.setParent (s.idAt s.size) parent := by
  cases parent <;> rfl

@[simp] theorem createChild_fst : (s.createChild parent name).1 = s.idAt s.size := by
  cases parent <;> rfl

@[simp] theorem tag_createChild : (s.createChild parent name).2.tag = s.tag := by
  rw [createChild_eq]
  split <;> simp

@[simp] theorem size_createChild : (s.createChild parent name).2.size = s.size + 1 := by
  rw [createChild_eq]
  split <;> simp

theorem has_createChild :
    (s.createChild parent name).2.has x = true ↔ s.has x = true ∨ x = s.idAt s.size := by
  rw [← has_add s { name } x, has_iff, has_iff]
  simp

theorem parentOf?_createChild :
    (s.createChild parent name).2.parentOf? x =
      if x = s.idAt s.size then parent else s.parentOf? x := by
  have hnew : (s.add { name }).2.has (s.idAt s.size) = true := (has_add s _ _).mpr (.inr rfl)
  rw [createChild_eq]
  split
  · next h => rw [parentOf?_add, h]
  · -- Only the link of the new object is set.
    rw [parentOf?_setParent, parentOf?_add]
    by_cases hx : x = s.idAt s.size
    · rw [if_pos ⟨hnew, hx⟩, if_pos hx]
    · rw [if_neg fun h => hx h.2, if_neg hx, if_neg hx]

theorem poseOf?_createChild :
    (s.createChild parent name).2.poseOf? x =
      if x = s.idAt s.size then some ⟨.zero, .identity, .one⟩ else s.poseOf? x := by
  rw [createChild_eq]
  split
  · exact poseOf?_add s { name } x
  · rw [poseOf?_setParent]
    exact poseOf?_add s { name } x

/-- Nothing has been hung below a new object yet. -/
theorem not_within_new {s : Scene} (linked : s.Linked) {p : ObjectId}
    (hsettled : s.has p = true ∨ p.scene ≠ s.tag) :
    ¬ (s.add { name }).2.Within p (s.idAt s.size) := by
  refine not_within_of_closed (U := fun y => y ≠ s.idAt s.size) ?_ ?_ (fun h => h rfl)
  · rintro c q - hq rfl
    rw [parentOf?_add] at hq
    split at hq
    · cases hq
    · exact linked.parentOf?_ne_idAt_size c hq
  · rintro rfl
    rcases hsettled with h | h
    · exact not_has_idAt_size s h
    · exact h rfl

end createChild

end Scene

end Planetarium

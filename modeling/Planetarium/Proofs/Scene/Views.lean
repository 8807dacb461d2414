import Planetarium.Scene.World
import Planetarium.Scene.Forest

/-! # Views of a scene

    What the operations of a scene do is said through views: the pose of an
    object (`poseOf?`), its parent (`parentOf?`) and the children it lists
    (`childrenOf`).  None of these sees the matrices that are kept; what is
    about them is said through the whole transform (`transformOf?`).

    Each operation has one equation for each view.  Later modules cite these
    equations and do not unfold the operations. -/

namespace Planetarium

/-! ## Section 1: Poses -/

/-- Translation, rotation and scale, without what is kept beside them. -/
structure Pose where
  translation : Vec3
  rotation : Quat
  scale : Vec3

/-- The matrix of a pose. -/
def Pose.matrix (p : Pose) : Mat4 :=
  .ofScaleRotationTranslation p.scale p.rotation p.translation

namespace Transform

/-- The pose of a transform. -/
def pose (t : Transform) : Pose := ⟨t.translation, t.rotation, t.scale⟩

theorem placement_eq_matrix (t : Transform) : t.placement = t.pose.matrix := rfl

@[simp] theorem pose_refreshLocal (t : Transform) : t.refreshLocal.pose = t.pose := by
  unfold refreshLocal
  split <;> rfl

end Transform

/-- What each step of a fold keeps, the fold keeps. -/
theorem foldl_keeps {σ α β : Type} (view : σ → β) {step : σ → α → σ}
    (h : ∀ s a, view (step s a) = view s) (as : List α) (s : σ) :
    view (as.foldl step s) = view s := by
  induction as generalizing s with
  | nil => rfl
  | cons a as ih => exact (ih (step s a)).trans (h s a)

/-- What each step of a fold relates, the fold relates. -/
theorem foldl_relates {σ α : Type} {R : σ → σ → Prop} (refl : ∀ s, R s s)
    (trans : ∀ {s t u}, R s t → R t u → R s u) {step : σ → α → σ} {as : List α}
    (h : ∀ a ∈ as, ∀ s, R s (step s a)) (s : σ) : R s (as.foldl step s) := by
  induction as generalizing s with
  | nil => exact refl s
  | cons a as ih =>
    have hfirst := h a List.mem_cons_self s
    exact trans hfirst (ih (fun a' ha' => h a' (List.mem_cons_of_mem a ha')) (step s a))

namespace Scene

/-! ## Section 2: Look-ups -/

/-- The transform of an object. -/
def transformOf? (s : Scene) (id : ObjectId) : Option Transform := (s.get? id).map (·.transform)

/-- The pose of an object. -/
def poseOf? (s : Scene) (id : ObjectId) : Option Pose := (s.get? id).map (·.transform.pose)

theorem poseOf?_eq_map (s : Scene) (id : ObjectId) :
    s.poseOf? id = (s.transformOf? id).map (·.pose) := by
  unfold poseOf? transformOf?
  rw [Option.map_map]
  rfl

theorem has_iff (s : Scene) (id : ObjectId) :
    s.has id = true ↔ id.scene = s.tag ∧ id.index < s.size := by
  unfold has get? size
  by_cases h : id.scene = s.tag <;> simp [h]

theorem get?_of_not_has {s : Scene} {id : ObjectId} (h : ¬ s.has id = true) :
    s.get? id = none := by
  simpa [has] using h

theorem exists_of_has {s : Scene} {id : ObjectId} (h : s.has id = true) :
    ∃ o, s.get? id = some o := Option.isSome_iff_exists.mp h

theorem has_of_get? {s : Scene} {id : ObjectId} {o : Object} (h : s.get? id = some o) :
    s.has id = true := by
  simp [has, h]

@[simp] theorem isSome_poseOf? (s : Scene) (id : ObjectId) :
    (s.poseOf? id).isSome = s.has id := by
  simp [poseOf?, has]

theorem has_of_parentOf? {s : Scene} {c p : ObjectId} (h : s.parentOf? c = some p) :
    s.has c = true := by
  obtain ⟨o, ho, _⟩ := Option.bind_eq_some_iff.mp h
  exact has_of_get? ho

theorem has_of_mem_childrenOf {s : Scene} {c p : ObjectId} (h : c ∈ s.childrenOf p) :
    s.has p = true := by
  unfold childrenOf at h
  split at h
  · next o ho => exact has_of_get? ho
  · cases h

theorem parentOf?_eq {s : Scene} {id : ObjectId} {o : Object} (h : s.get? id = some o) :
    s.parentOf? id = o.parent := by
  simp [parentOf?, h]

theorem childrenOf_eq {s : Scene} {id : ObjectId} {o : Object} (h : s.get? id = some o) :
    s.childrenOf id = o.children := by
  simp [childrenOf, h]

theorem poseOf?_eq {s : Scene} {id : ObjectId} {o : Object} (h : s.get? id = some o) :
    s.poseOf? id = some o.transform.pose := by
  simp [poseOf?, h]

theorem transformOf?_eq {s : Scene} {id : ObjectId} {o : Object} (h : s.get? id = some o) :
    s.transformOf? id = some o.transform := by
  simp [transformOf?, h]

theorem parentOf?_of_not_has {s : Scene} {id : ObjectId} (h : ¬ s.has id = true) :
    s.parentOf? id = none := by
  simp [parentOf?, get?_of_not_has h]

theorem childrenOf_of_not_has {s : Scene} {id : ObjectId} (h : ¬ s.has id = true) :
    s.childrenOf id = [] := by
  simp [childrenOf, get?_of_not_has h]

theorem poseOf?_of_not_has {s : Scene} {id : ObjectId} (h : ¬ s.has id = true) :
    s.poseOf? id = none := by
  simp [poseOf?, get?_of_not_has h]

/-! ## Section 3: Changes of one object -/

section modify
variable (s : Scene) (id x : ObjectId) (f : Object → Object)

@[simp] theorem tag_modify : (s.modify id f).tag = s.tag := by
  unfold modify
  split <;> rfl

@[simp] theorem has_modify : (s.modify id f).has x = s.has x := by
  rw [Bool.eq_iff_iff, has_iff, has_iff, tag_modify, size_modify]

/-- A change that keeps the link of an object upward keeps all of them. -/
theorem parentOf?_modify (hf : ∀ o, (f o).parent = o.parent) :
    (s.modify id f).parentOf? x = s.parentOf? x := by
  unfold parentOf?
  rw [get?_modify]
  split
  · next h => subst h; cases s.get? id <;> simp [hf]
  · rfl

theorem childrenOf_modify (hf : ∀ o, (f o).children = o.children) :
    (s.modify id f).childrenOf x = s.childrenOf x := by
  unfold childrenOf
  rw [get?_modify]
  by_cases h : id = x
  · subst h
    cases s.get? id <;> simp [hf]
  · rw [if_neg h]

theorem transformOf?_modify (hf : ∀ o, (f o).transform = o.transform) :
    (s.modify id f).transformOf? x = s.transformOf? x := by
  unfold transformOf?
  rw [get?_modify]
  split
  · next h => subst h; cases s.get? id <;> simp [hf]
  · rfl

theorem poseOf?_modify (hf : ∀ o, (f o).transform = o.transform) :
    (s.modify id f).poseOf? x = s.poseOf? x := by
  rw [poseOf?_eq_map, poseOf?_eq_map, transformOf?_modify s id x f hf]

end modify

section modifyTransform
variable (s : Scene) (id x : ObjectId) (f : Transform → Transform)

@[simp] theorem tag_modifyTransform : (s.modifyTransform id f).tag = s.tag := tag_modify s id _

@[simp] theorem size_modifyTransform : (s.modifyTransform id f).size = s.size :=
  size_modify s id _

@[simp] theorem has_modifyTransform : (s.modifyTransform id f).has x = s.has x :=
  has_modify s id x _

@[simp] theorem parentOf?_modifyTransform :
    (s.modifyTransform id f).parentOf? x = s.parentOf? x :=
  parentOf?_modify s id x _ fun _ => rfl

@[simp] theorem childrenOf_modifyTransform :
    (s.modifyTransform id f).childrenOf x = s.childrenOf x :=
  childrenOf_modify s id x _ fun _ => rfl

theorem transformOf?_modifyTransform :
    (s.modifyTransform id f).transformOf? x =
      if x = id then (s.transformOf? x).map f else s.transformOf? x := by
  unfold transformOf? modifyTransform
  rw [get?_modify]
  by_cases h : id = x
  · subst h
    cases s.get? id <;> simp
  · rw [if_neg h, if_neg (Ne.symm h)]

/-- The pose changes as the transform does. -/
theorem poseOf?_modifyTransform {g : Pose → Pose} (hf : ∀ t, (f t).pose = g t.pose) :
    (s.modifyTransform id f).poseOf? x =
      if x = id then (s.poseOf? x).map g else s.poseOf? x := by
  rw [poseOf?_eq_map, poseOf?_eq_map, transformOf?_modifyTransform]
  split
  · cases s.transformOf? x <;> simp [hf]
  · rfl

end modifyTransform

/-! ## Section 4: Components -/

section components
variable (s : Scene) (id x : ObjectId) (c : Component)

@[simp] theorem tag_attach : (s.attach id c).tag = s.tag := tag_modify s id _

@[simp] theorem size_attach : (s.attach id c).size = s.size := size_modify s id _

@[simp] theorem parentOf?_attach : (s.attach id c).parentOf? x = s.parentOf? x :=
  parentOf?_modify s id x _ fun _ => rfl

@[simp] theorem childrenOf_attach : (s.attach id c).childrenOf x = s.childrenOf x :=
  childrenOf_modify s id x _ fun _ => rfl

@[simp] theorem poseOf?_attach : (s.attach id c).poseOf? x = s.poseOf? x :=
  poseOf?_modify s id x _ fun _ => rfl

@[simp] theorem tag_clearComponents : (s.clearComponents id).tag = s.tag := tag_modify s id _

@[simp] theorem size_clearComponents : (s.clearComponents id).size = s.size :=
  size_modify s id _

@[simp] theorem parentOf?_clearComponents :
    (s.clearComponents id).parentOf? x = s.parentOf? x :=
  parentOf?_modify s id x _ fun _ => rfl

@[simp] theorem childrenOf_clearComponents :
    (s.clearComponents id).childrenOf x = s.childrenOf x :=
  childrenOf_modify s id x _ fun _ => rfl

@[simp] theorem poseOf?_clearComponents : (s.clearComponents id).poseOf? x = s.poseOf? x :=
  poseOf?_modify s id x _ fun _ => rfl

end components

/-! ## Section 5: New objects -/

section add
variable (s : Scene) (o : Object) (x : ObjectId)

@[simp] theorem tag_add : (s.add o).2.tag = s.tag := rfl

@[simp] theorem size_add : (s.add o).2.size = s.size + 1 := by
  simp [add, size]

theorem get?_add : (s.add o).2.get? x = if x = s.idAt s.size then some o else s.get? x := by
  obtain ⟨a, i⟩ := x
  by_cases ha : a = s.tag
  · subst ha
    simp [add, get?, idAt, size, Array.getElem?_push]
  · simp [add, get?, idAt, ha]

theorem not_has_idAt_size : ¬ s.has (s.idAt s.size) = true := by
  rw [has_iff]
  simp [idAt]

theorem has_add : (s.add o).2.has x = true ↔ s.has x = true ∨ x = s.idAt s.size := by
  unfold has
  rw [get?_add]
  split <;> simp [*]

/-- A new object hangs where the object says. -/
theorem parentOf?_add :
    (s.add o).2.parentOf? x = if x = s.idAt s.size then o.parent else s.parentOf? x := by
  unfold parentOf?
  rw [get?_add]
  split <;> rfl

theorem childrenOf_add :
    (s.add o).2.childrenOf x = if x = s.idAt s.size then o.children else s.childrenOf x := by
  unfold childrenOf
  rw [get?_add]
  by_cases h : x = s.idAt s.size
  · rw [if_pos h, if_pos h]
  · rw [if_neg h, if_neg h]

theorem transformOf?_add :
    (s.add o).2.transformOf? x =
      if x = s.idAt s.size then some o.transform else s.transformOf? x := by
  unfold transformOf?
  rw [get?_add]
  split <;> rfl

theorem poseOf?_add :
    (s.add o).2.poseOf? x = if x = s.idAt s.size then some o.transform.pose else s.poseOf? x := by
  rw [poseOf?_eq_map, poseOf?_eq_map, transformOf?_add]
  split <;> rfl

end add

end Scene

end Planetarium

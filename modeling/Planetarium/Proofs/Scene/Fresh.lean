import Planetarium.Proofs.Scene.Operations
import Planetarium.Scene.Fresh

/-! # Fresh matrices

    The fresh matrix of an object is determined by the poses and the links on
    the way up from it.

    * `freshMatrix_eq`: in a scene without cycles it is the fresh matrix of the
      parent times the matrix of the object's own pose.
    * `Mirrors.freshMatrix`: if two scenes look the same from matching objects
      upward, matching objects have the same fresh matrix.  The objects may
      have different ids, and the rest of the scenes need not agree. -/

namespace Planetarium.Scene

/-! ## Section 1: The recursion -/

theorem freshMatrixUpTo_of_not_has {s : Scene} {id : ObjectId} (h : ¬ s.has id = true) (n : Nat) :
    freshMatrixUpTo n s id = .identity := by
  cases n with
  | zero => rfl
  | succ n =>
    unfold freshMatrixUpTo
    rw [get?_of_not_has h]

/-- A height of at least the depth is as good as any other. -/
theorem freshMatrixUpTo_eq {s : Scene} (acyclic : s.Acyclic) {n m : Nat} {id : ObjectId}
    (hn : s.depth id ≤ n) (hm : s.depth id ≤ m) :
    freshMatrixUpTo n s id = freshMatrixUpTo m s id := by
  by_cases hid : s.has id = true
  swap
  · rw [freshMatrixUpTo_of_not_has hid, freshMatrixUpTo_of_not_has hid]
  have hpos := depth_pos hid
  -- With every link up, the depth goes down by one at least and both heights by one.
  induction n generalizing m id with
  | zero => omega
  | succ n ih =>
    obtain ⟨m, rfl⟩ : ∃ k, m = k + 1 := ⟨m - 1, by omega⟩
    obtain ⟨o, ho⟩ := exists_of_has hid
    unfold freshMatrixUpTo
    rw [ho]
    cases hp : o.parent with
    | none => simp only [hp]
    | some p =>
      have hlt := depth_parent_lt acyclic ((parentOf?_eq ho).trans hp)
      simp only [hp]
      congr 1
      by_cases hphas : s.has p = true
      · exact ih (by omega) (by omega) hphas (depth_pos hphas)
      · rw [freshMatrixUpTo_of_not_has hphas, freshMatrixUpTo_of_not_has hphas]

theorem freshMatrixUpTo_eq_freshMatrix {s : Scene} (acyclic : s.Acyclic) {n : Nat} {id : ObjectId}
    (h : s.depth id ≤ n) : freshMatrixUpTo n s id = s.freshMatrix id :=
  freshMatrixUpTo_eq acyclic h (depth_le_size s id)

/-- **The fresh matrix goes by the links.**  It is that of the parent times the
    placement, with the identity above the top and for an unknown id. -/
theorem freshMatrix_eq {s : Scene} (acyclic : s.Acyclic) (id : ObjectId) :
    s.freshMatrix id =
      match s.get? id with
      | none => .identity
      | some o =>
        (match o.parent with
         | none => .identity
         | some p => s.freshMatrix p) * o.transform.placement := by
  have hstep : s.freshMatrix id = freshMatrixUpTo (s.size + 1) s id :=
    freshMatrixUpTo_eq acyclic (depth_le_size s id) (by have := depth_le_size s id; omega)
  rw [hstep]
  rfl

/-- The fresh matrix of a parent, and the identity above the top. -/
def freshAbove (s : Scene) : Option ObjectId → Mat4
  | none => .identity
  | some p => s.freshMatrix p

theorem freshMatrix_of_get? {s : Scene} (acyclic : s.Acyclic) {id : ObjectId} {o : Object}
    (ho : s.get? id = some o) :
    s.freshMatrix id = s.freshAbove o.parent * o.transform.placement := by
  rw [freshMatrix_eq acyclic, ho]
  simp only
  cases o.parent <;> rfl

/-! ## Section 2: Scenes that look alike -/

/-- **Two scenes that look the same from matching objects upward.**  `T a b`
    says that `a` in the first scene matches `b` in the second one. -/
structure Mirrors (T : ObjectId → ObjectId → Prop) (s t : Scene) : Prop where
  poseOf? : ∀ {a b : ObjectId}, T a b → s.poseOf? a = t.poseOf? b
  parentOf? : ∀ {a b : ObjectId}, T a b → Option.Rel T (s.parentOf? a) (t.parentOf? b)

namespace Mirrors
variable {T : ObjectId → ObjectId → Prop} {s t : Scene}

theorem has_iff (h : Mirrors T s t) {a b : ObjectId} (hab : T a b) : s.has a = t.has b := by
  rw [← isSome_poseOf?, ← isSome_poseOf?, h.poseOf? hab]

theorem freshMatrixUpTo (h : Mirrors T s t) (n : Nat) {a b : ObjectId} (hab : T a b) :
    freshMatrixUpTo n s a = freshMatrixUpTo n t b := by
  -- The parents of matching objects match, so both computations go on alike.
  induction n generalizing a b with
  | zero => rfl
  | succ n ih =>
    by_cases ha : s.has a = true
    · have hb : t.has b = true := (h.has_iff hab) ▸ ha
      obtain ⟨o, ho⟩ := exists_of_has ha
      obtain ⟨u, hu⟩ := exists_of_has hb
      have hpose : o.transform.pose = u.transform.pose := by
        have hview := h.poseOf? hab
        rw [poseOf?_eq ho, poseOf?_eq hu] at hview
        exact Option.some.inj hview
      have hlink := h.parentOf? hab
      rw [parentOf?_eq ho, parentOf?_eq hu] at hlink
      unfold Scene.freshMatrixUpTo
      simp only [ho, hu, Transform.placement_eq_matrix, hpose]
      generalize o.parent = above, u.parent = above' at hlink
      cases hlink with
      | some hpq => simp only [ih hpq]
      | none => rfl
    · have hb : ¬ t.has b = true := (h.has_iff hab) ▸ ha
      rw [freshMatrixUpTo_of_not_has ha, freshMatrixUpTo_of_not_has hb]

/-- Matching objects have the same fresh matrix, however large the scenes are. -/
theorem freshMatrix (h : Mirrors T s t) (hs : s.Acyclic) (ht : t.Acyclic) {a b : ObjectId}
    (hab : T a b) : s.freshMatrix a = t.freshMatrix b := by
  -- The scenes may differ in size; this height is enough in both.
  have hsa : s.depth a ≤ s.size + t.size := by
    have := depth_le_size s a
    omega
  have htb : t.depth b ≤ s.size + t.size := by
    have := depth_le_size t b
    omega
  rw [← freshMatrixUpTo_eq_freshMatrix hs hsa, ← freshMatrixUpTo_eq_freshMatrix ht htb]
  exact h.freshMatrixUpTo _ hab

end Mirrors

/-- A change outside a set that holds all above its members leaves the fresh
    matrices of the members as they are. -/
theorem freshMatrix_congr {s t : Scene} (hs : s.Acyclic) (ht : t.Acyclic) {U : ObjectId → Prop}
    (closed : ∀ c p, U c → s.parentOf? c = some p → U p)
    (hparent : ∀ x, U x → t.parentOf? x = s.parentOf? x)
    (hpose : ∀ x, U x → t.poseOf? x = s.poseOf? x) {x : ObjectId} (hx : U x) :
    t.freshMatrix x = s.freshMatrix x := by
  -- Every member matches itself.
  have hmirror : Mirrors (fun a b => a = b ∧ U a) s t := by
    constructor
    · rintro a b ⟨rfl, ha⟩
      exact (hpose a ha).symm
    · rintro a b ⟨rfl, ha⟩
      rw [hparent a ha]
      cases hp : s.parentOf? a with
      | none => exact .none
      | some p => exact .some ⟨rfl, closed a p ha hp⟩
  exact (hmirror.freshMatrix hs ht ⟨rfl, hx⟩).symm

/-- Two scenes that differ in what they keep, in their lists of children, in
    names and in components at most. -/
structure Alike (s t : Scene) : Prop where
  tag : t.tag = s.tag
  size : t.size = s.size
  parentOf? : ∀ id, t.parentOf? id = s.parentOf? id
  poseOf? : ∀ id, t.poseOf? id = s.poseOf? id

namespace Alike
variable {s t u : Scene}

theorem refl (s : Scene) : s.Alike s := ⟨rfl, rfl, fun _ => rfl, fun _ => rfl⟩

theorem symm (h : s.Alike t) : t.Alike s :=
  ⟨h.tag.symm, h.size.symm, fun id => (h.parentOf? id).symm, fun id => (h.poseOf? id).symm⟩

theorem trans (h : s.Alike t) (h' : t.Alike u) : s.Alike u :=
  ⟨h'.tag.trans h.tag, h'.size.trans h.size, fun id => (h'.parentOf? id).trans (h.parentOf? id),
    fun id => (h'.poseOf? id).trans (h.poseOf? id)⟩

theorem has (h : s.Alike t) (id : ObjectId) : t.has id = s.has id := by
  rw [← isSome_poseOf?, h.poseOf?, isSome_poseOf?]

theorem idAt_size (h : s.Alike t) : t.idAt t.size = s.idAt s.size := by
  rw [idAt, idAt, h.tag, h.size]

theorem freshMatrix (h : s.Alike t) (hs : s.Acyclic) (id : ObjectId) :
    t.freshMatrix id = s.freshMatrix id :=
  freshMatrix_congr hs (hs.congr h.parentOf?) (U := fun _ => True) (fun _ _ _ _ => trivial)
    (fun x _ => h.parentOf? x) (fun x _ => h.poseOf? x) trivial

end Alike

theorem alike_attach (s : Scene) (id : ObjectId) (c : Component) : s.Alike (s.attach id c) :=
  ⟨tag_attach s id c, size_attach s id c, fun _ => parentOf?_attach s id _ c,
    fun _ => poseOf?_attach s id _ c⟩

theorem alike_clearComponents (s : Scene) (id : ObjectId) : s.Alike (s.clearComponents id) :=
  ⟨tag_clearComponents s id, size_clearComponents s id, fun _ => parentOf?_clearComponents s id _,
    fun _ => poseOf?_clearComponents s id _⟩

end Planetarium.Scene

import Planetarium.Proofs.Scene.Reads

/-! # What operations leave alone

    Most operations are about few objects.  `Spares K s t` says that the
    objects of `K` stand where they stood and hang where they hung, and that
    no object has been taken away.  What happens outside `K` is left open.
    `Extends s t` says so of all objects that are there. -/

namespace Planetarium.Scene

/-- **The objects of `K` are left alone.** -/
structure Spares (K : ObjectId → Prop) (s t : Scene) : Prop where
  tag : t.tag = s.tag
  size_le : s.size ≤ t.size
  parentOf? : ∀ {x}, K x → t.parentOf? x = s.parentOf? x
  poseOf? : ∀ {x}, K x → t.poseOf? x = s.poseOf? x

namespace Spares
variable {K L : ObjectId → Prop} {s t u : Scene}

theorem refl (K : ObjectId → Prop) (s : Scene) : s.Spares K s :=
  ⟨rfl, Nat.le_refl _, fun _ => rfl, fun _ => rfl⟩

theorem trans (h : Spares K s t) (h' : Spares K t u) : Spares K s u :=
  ⟨h'.tag.trans h.tag, Nat.le_trans h.size_le h'.size_le,
    fun hx => (h'.parentOf? hx).trans (h.parentOf? hx),
    fun hx => (h'.poseOf? hx).trans (h.poseOf? hx)⟩

theorem mono (h : Spares K s t) (hsub : ∀ x, L x → K x) : Spares L s t :=
  ⟨h.tag, h.size_le, fun hx => h.parentOf? (hsub _ hx), fun hx => h.poseOf? (hsub _ hx)⟩

theorem of_alike (h : s.Alike t) : Spares K s t :=
  ⟨h.tag, Nat.le_of_eq h.size.symm, fun _ => h.parentOf? _, fun _ => h.poseOf? _⟩

/-- Objects stay in the scene. -/
theorem has (h : Spares K s t) {x : ObjectId} (hx : s.has x = true) : t.has x = true := by
  obtain ⟨htag, hlt⟩ := (has_iff s x).mp hx
  refine (has_iff t x).mpr ⟨htag.trans h.tag.symm, ?_⟩
  have := h.size_le
  omega

end Spares

/-- **All that is there is left alone.**  New objects may have been added. -/
def Extends (s t : Scene) : Prop := s.Spares (fun x => s.has x = true) t

theorem Extends.refl (s : Scene) : s.Extends s := Spares.refl _ s

theorem Extends.trans {s t u : Scene} (h : s.Extends t) (h' : t.Extends u) : s.Extends u :=
  Spares.trans h (Spares.mono h' fun _ hx => Spares.has h hx)

section writes
variable {K : ObjectId → Prop} {s : Scene} {id : ObjectId}

/-- A set that lacks one object is spared by what is done to that object. -/
theorem ne_of_mem {x : ObjectId} (hx : K x) (hid : ¬ K id) : x ≠ id := by
  intro h
  exact hid (h ▸ hx)

theorem spares_move (hid : ¬ K id) {f : Transform → Transform} {g : Pose → Pose}
    (hf : ∀ t, (f t).pose = g t.pose) : s.Spares K (s.move id f) := by
  refine ⟨tag_move s id f, Nat.le_of_eq (size_move s id f).symm,
    fun _ => parentOf?_move s id _ f, ?_⟩
  intro x hx
  rw [poseOf?_move s id x f hf, if_neg (ne_of_mem hx hid)]

theorem spares_setTranslation (hid : ¬ K id) (v : Vec3) : s.Spares K (s.setTranslation id v) :=
  spares_move hid (g := ({ · with translation := v })) fun _ => rfl

theorem spares_setRotation (hid : ¬ K id) (q : Quat) : s.Spares K (s.setRotation id q) :=
  spares_move hid (g := ({ · with rotation := q })) fun _ => rfl

theorem spares_setTransform (hid : ¬ K id) (v : Vec3) (q : Quat) (k : Vec3) :
    s.Spares K (s.setTransform id v q k) :=
  spares_move hid (g := fun _ => ⟨v, q, k⟩) fun _ => rfl

theorem spares_rotate (hid : ¬ K id) (q : Quat) : s.Spares K (s.rotate id q) :=
  spares_move hid (g := fun p => { p with rotation := (p.rotation * q).normalize }) fun _ => rfl

theorem spares_translateLocal (hid : ¬ K id) (d : Vec3) : s.Spares K (s.translateLocal id d) :=
  spares_move hid (g := fun p => { p with translation := p.translation + p.rotation.apply d })
    fun _ => rfl

theorem spares_setParent (hid : ¬ K id) (parent : Option ObjectId) :
    s.Spares K (s.setParent id parent) := by
  refine ⟨tag_setParent s id parent, Nat.le_of_eq (size_setParent s id parent).symm, ?_,
    fun _ => poseOf?_setParent s id _ parent⟩
  intro x hx
  rw [parentOf?_setParent, if_neg]
  intro h
  exact ne_of_mem hx hid h.2

theorem spares_createChild (hnew : ¬ K (s.idAt s.size)) (parent : Option ObjectId) (name : String) :
    s.Spares K (s.createChild parent name).2 := by
  refine ⟨tag_createChild s parent name, ?_, ?_, ?_⟩
  · rw [size_createChild]
    exact Nat.le_succ _
  · intro x hx
    rw [parentOf?_createChild, if_neg (ne_of_mem hx hnew)]
  · intro x hx
    rw [poseOf?_createChild, if_neg (ne_of_mem hx hnew)]

/-- A new object is none of those that are there. -/
theorem extends_createChild (s : Scene) (parent : Option ObjectId) (name : String) :
    s.Extends (s.createChild parent name).2 :=
  spares_createChild s.not_has_idAt_size parent name

end writes

end Planetarium.Scene

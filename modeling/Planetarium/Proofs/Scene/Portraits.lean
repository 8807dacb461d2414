import Planetarium.Proofs.Motion.Spaces

/-! # Portraits

    A portrait shows all of an object but the matrices that are kept with it:
    its name, its pose, its components, and both ends of its links.

    * `portrait?_move`, `portrait?_add`, `portrait?_attach`: what operations
      make of the portraits.
    * `Scene.Leaves K s t`: the objects of `K` have the same portraits in both
      scenes.  Each operation leaves all objects alone but the few that it is
      about; one that hangs an object elsewhere is also about the parents. -/

namespace Planetarium

/-- All of an object but the matrices that are kept with it. -/
structure Portrait where
  name : String
  pose : Pose
  components : List Component
  parent : Option ObjectId
  children : List ObjectId

/-- What an object looks like. -/
def Object.portrait (o : Object) : Portrait :=
  ⟨o.name, o.transform.pose, o.components, o.parent, o.children⟩

theorem Object.portrait_markedIf (P : Prop) (o : Object) :
    (o.markedIf P).portrait = o.portrait := by
  unfold markedIf
  split <;> rfl

namespace Scene

/-- The portrait of an object of the scene. -/
def portrait? (s : Scene) (id : ObjectId) : Option Portrait := (s.get? id).map (·.portrait)

@[simp] theorem isSome_portrait? (s : Scene) (id : ObjectId) :
    (s.portrait? id).isSome = s.has id := by
  simp [portrait?, has]

theorem has_of_portrait? {s : Scene} {id : ObjectId} {p : Portrait}
    (h : s.portrait? id = some p) : s.has id = true := by
  rw [← isSome_portrait?, h]
  rfl

/-! ## Section 1: What operations make of portraits -/

section portraits
variable (s : Scene) (id x : ObjectId)

theorem portrait?_modify {f : Object → Object} {g : Portrait → Portrait}
    (hf : ∀ o, (f o).portrait = g o.portrait) :
    (s.modify id f).portrait? x =
      if x = id then (s.portrait? x).map g else s.portrait? x := by
  unfold portrait?
  rw [get?_modify]
  by_cases h : id = x
  · subst h
    cases s.get? id <;> simp [hf]
  · rw [if_neg h, if_neg (Ne.symm h)]

theorem portrait?_modify_of_ne {s : Scene} {id x : ObjectId} (h : x ≠ id)
    (f : Object → Object) : (s.modify id f).portrait? x = s.portrait? x := by
  unfold portrait?
  rw [get?_modify, if_neg h.symm]

/-- A mark is not to be seen. -/
@[simp] theorem portrait?_invalidate : (s.invalidate id).portrait? x = s.portrait? x := by
  unfold portrait? invalidate
  rw [get?_invalidateTo, Option.map_map]
  congr 1
  funext o
  exact o.portrait_markedIf _

theorem portrait?_move {f : Transform → Transform} {g : Pose → Pose}
    (hf : ∀ t, (f t).pose = g t.pose) :
    (s.move id f).portrait? x =
      if x = id then (s.portrait? x).map fun p => { p with pose := g p.pose }
      else s.portrait? x := by
  unfold move
  rw [portrait?_invalidate]
  refine portrait?_modify s id x fun o => ?_
  simp [Object.portrait, hf]

theorem portrait?_setTranslation (v : Vec3) :
    (s.setTranslation id v).portrait? x =
      if x = id then
        (s.portrait? x).map fun p => { p with pose := { p.pose with translation := v } }
      else s.portrait? x :=
  portrait?_move s id x (g := ({ · with translation := v })) fun _ => rfl

theorem portrait?_setTransform (v : Vec3) (q : Quat) (k : Vec3) :
    (s.setTransform id v q k).portrait? x =
      if x = id then (s.portrait? x).map fun p => { p with pose := ⟨v, q, k⟩ }
      else s.portrait? x :=
  portrait?_move s id x (g := fun _ => ⟨v, q, k⟩) fun _ => rfl

theorem portrait?_attach (c : Component) :
    (s.attach id c).portrait? x =
      if x = id then (s.portrait? x).map fun p => { p with components := p.components ++ [c] }
      else s.portrait? x :=
  portrait?_modify s id x fun _ => rfl

theorem portrait?_add (o : Object) :
    (s.add o).2.portrait? x = if x = s.idAt s.size then some o.portrait else s.portrait? x := by
  unfold portrait?
  rw [get?_add]
  split <;> rfl

end portraits

/-- A read computes matrices only. -/
theorem Reread.portrait? {s t : Scene} (h : s.Reread t) (x : ObjectId) :
    t.portrait? x = s.portrait? x := by
  -- The portrait of an object is that of what is left of it without its matrices.
  have hbare : ∀ r : Scene, r.portrait? x = ((r.get? x).map Scene.bare).map (·.portrait) := by
    intro r
    unfold Scene.portrait?
    cases r.get? x <;> rfl
  rw [hbare, hbare, h.bare]

/-! ## Section 2: What operations leave alone -/

/-- **The objects of `K` have the same portraits in both scenes.** -/
def Leaves (K : ObjectId → Prop) (s t : Scene) : Prop :=
  ∀ x, K x → t.portrait? x = s.portrait? x

namespace Leaves
variable {K : ObjectId → Prop} {s t u : Scene}

theorem refl (K : ObjectId → Prop) (s : Scene) : s.Leaves K s := fun _ _ => rfl

theorem trans (h : Leaves K s t) (h' : Leaves K t u) : Leaves K s u :=
  fun x hx => (h' x hx).trans (h x hx)

theorem of_reread (h : s.Reread t) : Leaves K s t := fun x _ => h.portrait? x

/-- Objects stay in the scene. -/
theorem has (h : Leaves K s t) {x : ObjectId} (hx : K x) : t.has x = s.has x := by
  rw [← isSome_portrait?, h x hx, isSome_portrait?]

end Leaves

section writes
variable {K : ObjectId → Prop} {s : Scene} {id child node frame : ObjectId}
  {parent : Option ObjectId}

theorem leaves_modify (hid : ¬ K id) (f : Object → Object) : s.Leaves K (s.modify id f) :=
  fun _ hx => portrait?_modify_of_ne (ne_of_mem hx hid) f

theorem leaves_move (hid : ¬ K id) (f : Transform → Transform) : s.Leaves K (s.move id f) := by
  intro x hx
  unfold move
  rw [portrait?_invalidate]
  exact portrait?_modify_of_ne (ne_of_mem hx hid) _

theorem leaves_add (hnew : ¬ K (s.idAt s.size)) (o : Object) : s.Leaves K (s.add o).2 := by
  intro x hx
  rw [portrait?_add, if_neg (ne_of_mem hx hnew)]

theorem leaves_detach (hold : ∀ p, s.parentOf? child = some p → ¬ K p) :
    s.Leaves K (s.detach child) := by
  unfold detach
  split
  · exact .refl K s
  · next old hparent => exact leaves_modify (hold old hparent) _

/-- The child, its old parent and its new one are changed. -/
theorem leaves_setParent (hchild : ¬ K child)
    (hold : ∀ p, s.parentOf? child = some p → ¬ K p) (hnew : ∀ p, parent = some p → ¬ K p) :
    s.Leaves K (s.setParent child parent) := by
  have hlinked : s.Leaves K ((s.detach child).relink child parent) :=
    (leaves_detach hold).trans (leaves_modify hchild _)
  have hlisted : s.Leaves K (((s.detach child).relink child parent).enlist child parent) := by
    cases parent with
    | none => exact hlinked
    | some p => exact hlinked.trans (leaves_modify (hnew p rfl) _)
  rw [setParent_eq]
  split
  · intro x hx
    rw [portrait?_invalidate]
    exact hlisted x hx
  · exact .refl K s

/-- A new object has no old parent. -/
theorem leaves_createChild (hnew : ¬ K (s.idAt s.size)) (hparent : ∀ p, parent = some p → ¬ K p)
    (name : String) : s.Leaves K (s.createChild parent name).2 := by
  have hadd : s.Leaves K (s.add { name }).2 := leaves_add hnew _
  rw [createChild_eq]
  split
  · exact hadd
  · refine hadd.trans (leaves_setParent hnew ?_ hparent)
    intro p hp
    rw [parentOf?_add, if_pos rfl] at hp
    cases hp

/-- Hanging an object at the place of a frame is about the object, the frame, and
    what the object hung below before. -/
theorem leaves_rehang (hnode : ¬ K node) (hframe : ¬ K frame)
    (hold : ∀ p, s.parentOf? node = some p → ¬ K p) : s.Leaves K (s.rehang node frame) := by
  refine (leaves_setParent hnode hold ?_).trans (leaves_move hnode _)
  intro p hp
  exact Option.some.inj hp ▸ hframe

/-- What does not spin is left alone. -/
theorem leaves_advance (fs : Frames) (h : ∀ e ∈ fs.spins, ¬ K e.1) (seconds : Float32) :
    s.Leaves K (fs.advance s seconds) :=
  foldl_relates (R := Leaves K) (.refl K) .trans (fun e he _ => leaves_move (h e he) _) s

end writes

theorem leaves_addFrame {K : ObjectId → Prop} {sp : Space} {parent : Option ObjectId}
    (hnew : ¬ K (sp.scene.idAt sp.scene.size)) (hparent : ∀ p, parent = some p → ¬ K p)
    (name : String) (offset : Vec3) (spin : Option Spin) :
    sp.scene.Leaves K (sp.addFrame name parent offset spin).2.scene := by
  rw [Space.scene_addFrame]
  exact (leaves_createChild hnew hparent name).trans (leaves_move hnew _)

end Scene

end Planetarium

import Planetarium.Proofs.Scene.Portraits
import Planetarium.Proofs.System.Built

/-! # What objects show

    What an object shows is the list of its components.  Two operations are about
    it: one attaches a component, and one takes all of them off.  Everything else
    that is done to a scene keeps the looks of what is there.

    * `looksOf?_attach`, `looksOf?_clearComponents`: the two operations.
    * `Scene.KeepsLooks s t`: every object shows in `t` what it shows in `s`.
    * `keepsLooks_setParent`, `keepsLooks_move`, `keepsLooks_createChild` and so on:
      each operation keeps the looks, whatever ids it is given.
    * `looksOf?_placeAll`: an object that is built shows the components of its part. -/

namespace Planetarium

namespace Scene

/-! ## Section 1: Looks -/

/-- What an object shows. -/
def looksOf? (s : Scene) (id : ObjectId) : Option (List Component) :=
  (s.get? id).map (·.components)

section looks
variable (s : Scene) (id x : ObjectId)

theorem looksOf?_eq_map : s.looksOf? x = (s.portrait? x).map (·.components) := by
  unfold looksOf? portrait?
  rw [Option.map_map]
  rfl

theorem looksOf?_modify {f : Object → Object} {g : List Component → List Component}
    (hf : ∀ o, (f o).components = g o.components) :
    (s.modify id f).looksOf? x = if x = id then (s.looksOf? x).map g else s.looksOf? x := by
  unfold looksOf?
  rw [get?_modify]
  by_cases h : id = x
  · subst h
    cases s.get? id <;> simp [hf]
  · rw [if_neg h, if_neg (Ne.symm h)]

theorem looksOf?_attach (c : Component) :
    (s.attach id c).looksOf? x =
      if x = id then (s.looksOf? x).map (· ++ [c]) else s.looksOf? x :=
  looksOf?_modify s id x fun _ => rfl

theorem looksOf?_clearComponents :
    (s.clearComponents id).looksOf? x =
      if x = id then (s.looksOf? x).map fun _ => [] else s.looksOf? x :=
  looksOf?_modify s id x (g := fun _ => []) fun _ => rfl

theorem looksOf?_add (o : Object) :
    (s.add o).2.looksOf? x = if x = s.idAt s.size then some o.components else s.looksOf? x := by
  unfold looksOf?
  rw [get?_add]
  split <;> rfl

theorem has_of_looksOf? {s : Scene} {x : ObjectId} {cs : List Component}
    (h : s.looksOf? x = some cs) : s.has x = true := by
  obtain ⟨o, ho, _⟩ := Option.map_eq_some_iff.mp h
  exact has_of_get? ho

end looks

/-! ## Section 2: What keeps them -/

/-- **Every object shows in `t` what it shows in `s`.**  New ones may have come. -/
def KeepsLooks (s t : Scene) : Prop := ∀ x cs, s.looksOf? x = some cs → t.looksOf? x = some cs

namespace KeepsLooks
variable {s t u : Scene}

theorem refl (s : Scene) : s.KeepsLooks s := fun _ _ h => h

theorem trans (h : s.KeepsLooks t) (h' : t.KeepsLooks u) : s.KeepsLooks u :=
  fun x cs hx => h' x cs (h x cs hx)

theorem of_portraits (h : ∀ x, t.portrait? x = s.portrait? x) : s.KeepsLooks t := by
  intro x cs hx
  rw [looksOf?_eq_map, h, ← looksOf?_eq_map]
  exact hx

/-- A read computes matrices only. -/
theorem of_reread (h : s.Reread t) : s.KeepsLooks t := of_portraits h.portrait?

end KeepsLooks

section operations
variable (s : Scene) (id x child node frame : ObjectId) (parent : Option ObjectId)

theorem keepsLooks_modify {f : Object → Object} (hf : ∀ o, (f o).components = o.components) :
    s.KeepsLooks (s.modify id f) := by
  intro x cs hx
  rw [looksOf?_modify s id x (g := fun cs => cs) hf]
  simp [hx]

theorem keepsLooks_add (o : Object) : s.KeepsLooks (s.add o).2 := by
  intro x cs hx
  have hne : x ≠ s.idAt s.size := by
    intro h
    exact s.not_has_idAt_size (h ▸ has_of_looksOf? hx)
  rw [looksOf?_add, if_neg hne]
  exact hx

theorem keepsLooks_invalidate : s.KeepsLooks (s.invalidate id) :=
  .of_portraits (portrait?_invalidate s id)

theorem keepsLooks_move (f : Transform → Transform) : s.KeepsLooks (s.move id f) := by
  have hmoved : s.KeepsLooks (s.modifyTransform id f) := keepsLooks_modify s id fun _ => rfl
  exact hmoved.trans (keepsLooks_invalidate _ id)

theorem keepsLooks_detach : s.KeepsLooks (s.detach child) := by
  unfold detach
  split
  · exact .refl s
  · exact keepsLooks_modify s _ fun _ => rfl

theorem keepsLooks_enlist : s.KeepsLooks (s.enlist child parent) := by
  cases parent with
  | none => exact .refl s
  | some p => exact keepsLooks_modify s p fun _ => rfl

theorem keepsLooks_setParent : s.KeepsLooks (s.setParent child parent) := by
  have hlinked : s.KeepsLooks ((s.detach child).relink child parent) :=
    (keepsLooks_detach s child).trans (keepsLooks_modify _ child fun _ => rfl)
  rw [setParent_eq]
  split
  · exact (hlinked.trans (keepsLooks_enlist _ child parent)).trans (keepsLooks_invalidate _ child)
  · exact .refl s

theorem keepsLooks_createChild (name : String) : s.KeepsLooks (s.createChild parent name).2 := by
  rw [createChild_eq]
  split
  · exact keepsLooks_add s _
  · exact (keepsLooks_add s _).trans (keepsLooks_setParent _ _ parent)

theorem keepsLooks_rehang : s.KeepsLooks (s.rehang node frame) :=
  (keepsLooks_setParent s node _).trans (keepsLooks_move _ node _)

theorem keepsLooks_advance (fs : Frames) (seconds : Float32) :
    s.KeepsLooks (fs.advance s seconds) :=
  foldl_relates (R := KeepsLooks) .refl .trans (fun e _ s => keepsLooks_move s e.1 _) s

end operations

end Scene

/-! ## Section 3: Frames -/

namespace Space

theorem keepsLooks_addFrame (sp : Space) (name : String) (parent : Option ObjectId)
    (offset : Vec3) (spin : Option Spin) :
    sp.scene.KeepsLooks (sp.addFrame name parent offset spin).2.scene := by
  rw [scene_addFrame]
  exact (sp.scene.keepsLooks_createChild parent name).trans (Scene.keepsLooks_move _ _ _)

end Space

/-! ## Section 4: Parts of a blueprint -/

namespace Scene

theorem looksOf?_attachAll (id : ObjectId) (cs : List Component) (s : Scene) (x : ObjectId) :
    (cs.foldl (·.attach id ·) s).looksOf? x =
      if x = id then (s.looksOf? x).map (· ++ cs) else s.looksOf? x := by
  induction cs generalizing s with
  | nil => simp
  | cons c cs ih =>
    rw [List.foldl_cons, ih, looksOf?_attach]
    by_cases h : x = id
    · simp [h, Function.comp_def]
    · simp [h]

/-- Components that are attached to a new object are none of those before. -/
theorem KeepsLooks.attachAll {s t : Scene} (h : s.KeepsLooks t) {id : ObjectId}
    (hnew : ¬ s.has id = true) (cs : List Component) :
    s.KeepsLooks (cs.foldl (·.attach id ·) t) := by
  intro x looks hx
  have hne : x ≠ id := by
    intro heq
    exact hnew (heq ▸ has_of_looksOf? hx)
  rw [looksOf?_attachAll, if_neg hne]
  exact h x looks hx

/-- A new object shows nothing. -/
theorem looksOf?_createChild (s : Scene) (parent : Option ObjectId) (name : String) :
    (s.createChild parent name).2.looksOf? (s.idAt s.size) = some [] := by
  have hadd : (s.add { name }).2.looksOf? (s.idAt s.size) = some [] := by
    rw [looksOf?_add, if_pos rfl]
  rw [createChild_eq]
  split
  · exact hadd
  · exact keepsLooks_setParent _ _ parent _ _ hadd

end Scene

namespace Space
variable (sp : Space) (part : Part) (parent : Option ObjectId)

theorem keepsLooks_standing : sp.scene.KeepsLooks (sp.standing part parent) :=
  (sp.scene.keepsLooks_createChild parent part.name).trans (Scene.keepsLooks_move _ _ _)

theorem keepsLooks_place : sp.scene.KeepsLooks (sp.place part parent).scene := by
  rw [scene_place]
  exact (sp.keepsLooks_standing part parent).attachAll sp.scene.not_has_idAt_size _

theorem looksOf?_place :
    (sp.place part parent).scene.looksOf? (sp.scene.idAt sp.scene.size) =
      some part.components := by
  have hnew : (sp.standing part parent).looksOf? (sp.scene.idAt sp.scene.size) = some [] :=
    Scene.keepsLooks_move _ _ _ _ _ (sp.scene.looksOf?_createChild parent part.name)
  rw [scene_place, Scene.looksOf?_attachAll, if_pos rfl, hnew]
  rfl

variable (above : Part → Option ObjectId)

theorem keepsLooks_placeAll (ps : List Part) :
    sp.scene.KeepsLooks (sp.placeAll above ps).scene := by
  induction ps generalizing sp with
  | nil => exact .refl sp.scene
  | cons part ps ih => exact (sp.keepsLooks_place part (above part)).trans (ih _)

/-- **An object that is built shows the components of its part.** -/
theorem looksOf?_placeAll {ps : List Part} {k : Nat} {part : Part} (h : ps[k]? = some part) :
    (sp.placeAll above ps).scene.looksOf? (sp.scene.idAt (sp.scene.size + k)) =
      some part.components := by
  induction ps generalizing sp k with
  | nil => cases h
  | cons first ps ih =>
    cases k with
    | zero =>
      obtain rfl := Option.some.inj h
      -- What comes after it in the list keeps its looks.
      exact keepsLooks_placeAll _ above ps _ _ (sp.looksOf?_place first (above first))
    | succ k =>
      have hrest := ih (sp.place first (above first)) h
      rw [idAt_place] at hrest
      exact hrest

end Space

end Planetarium

import Planetarium.Proofs.Catalog.Procedures
import Planetarium.Proofs.Scene.Portraits

/-! # Deeds

    A deed is an instruction that has been carried out, together with the object
    that it created.  Deeds are listed with the latest one first.

    What names stand for, and where the objects are, can be told from the deeds
    alone: the last deed about a name or an object counts.

    * `Deed.point?`, `Deed.node?`, `Deed.place?`: what the deeds tell.
    * `Workshop.Replays`: a workshop holds what the deeds tell, and every object
      that was created has the portrait that was asked for.
    * `Replays.apply`: carrying an instruction out adds a deed. -/

namespace Planetarium

/-- The object that an instruction asks for. -/
def Instruction.spec? : Instruction → Option ObjectSpec
  | .createObject spec _ => some spec
  | .createObjectAtPoint spec _ => some spec
  | .createPoint .. => none
  | .moveToPoint .. => none

/-- **What an object looks like that has been asked for:** it is at the top, has
    nothing below it, and shows one model. -/
def ObjectSpec.portraitAt (spec : ObjectSpec) (position : Vec3) : Portrait where
  name := spec.name
  pose := ⟨position, .ofEulerDegrees spec.rotation, spec.scale⟩
  components := [.ofModel spec.model spec.material]
  parent := none
  children := []

/-- An instruction that has been carried out. -/
structure Deed where
  instruction : Instruction
  /-- The object that it created. -/
  object : Option ObjectId

/-! ## Section 1: What deeds tell -/

namespace Deed

/-- The position that a name was last given. -/
def point? (past : List Deed) (name : String) : Option Vec3 :=
  past.findSome? fun d =>
    match d.instruction with
    | .createPoint n position => if n = name then some position else none
    | _ => none

/-- The object that was last created under a name. -/
def node? (past : List Deed) (name : String) : Option ObjectId :=
  past.findSome? fun d =>
    match d.instruction.spec? with
    | some spec => if spec.name = name then d.object else none
    | none => none

/-- The object that a deed put somewhere, and where: names stand for what they
    stood for at that moment. -/
def placing? (past : List Deed) (d : Deed) : Option (ObjectId × Vec3) :=
  match d.instruction with
  | .createObject _ position => d.object.map (·, position)
  | .createObjectAtPoint _ point => do return (← d.object, ← point? past point)
  | .createPoint .. => none
  | .moveToPoint name point => do return (← node? past name, ← point? past point)

/-- **Where an object was put last.** -/
def place? : List Deed → ObjectId → Option Vec3
  | [], _ => none
  | d :: past, x =>
    match placing? past d with
    | some (y, position) => if y = x then some position else place? past x
    | none => place? past x

variable {past : List Deed} {d : Deed}

theorem place?_cons_of_some {y : ObjectId} {position : Vec3}
    (h : placing? past d = some (y, position)) (x : ObjectId) :
    place? (d :: past) x = if y = x then some position else place? past x := by
  simp [place?, h]

/-- A deed that asks for an object gives it its name. -/
theorem node?_cons_of_spec {spec : ObjectSpec} {x : ObjectId}
    (hspec : d.instruction.spec? = some spec) (hx : d.object = some x) (name : String) :
    node? (d :: past) name = if spec.name = name then some x else node? past name := by
  unfold node?
  rw [List.findSome?_cons]
  simp only [hspec]
  split
  · next heq => split at heq <;> simp_all
  · next heq => split at heq <;> simp_all

/-- Points are named by the instructions to do so. -/
theorem point?_cons_of_spec {spec : ObjectSpec} (hspec : d.instruction.spec? = some spec)
    (name : String) : point? (d :: past) name = point? past name := by
  unfold point?
  rw [List.findSome?_cons]
  obtain ⟨instruction, object⟩ := d
  cases instruction <;> simp_all [Instruction.spec?]

theorem exists_of_node? {name : String} {x : ObjectId} (h : node? past name = some x) :
    ∃ d ∈ past, ∃ spec, d.instruction.spec? = some spec ∧ spec.name = name ∧
      d.object = some x := by
  obtain ⟨d, hd, hx⟩ := List.exists_of_findSome?_eq_some h
  split at hx
  · next spec hspec =>
    split at hx
    · next hname => exact ⟨d, hd, spec, hspec, hname, hx⟩
    · cases hx
  · cases hx

end Deed

/-! ## Section 2: What instructions do -/

namespace Workshop

/-- The object that an instruction creates when it is carried out. -/
def created? (w : Workshop) : Instruction → Option ObjectId
  | .createObject spec position => some (w.createObject spec position).1
  | .createObjectAtPoint spec point => (w.createObjectAtPoint spec point).toOption.map (·.1)
  | .createPoint .. => none
  | .moveToPoint .. => none

section createObject
variable (w : Workshop) (spec : ObjectSpec) (position : Vec3)

@[simp] theorem createObject_fst :
    (w.createObject spec position).1 = w.scene.idAt w.scene.size :=
  w.scene.createChild_fst none spec.name

theorem size_createObject :
    (w.createObject spec position).2.2.scene.size = w.scene.size + 1 := by
  show (((w.scene.createChild none spec.name).2.setTransform _ _ _ _).attach _ _).size = _
  simp [Scene.setTransform]

/-- **A new object has the portrait that was asked for,** and the others keep theirs. -/
theorem portrait?_createObject (x : ObjectId) :
    (w.createObject spec position).2.2.scene.portrait? x =
      if x = w.scene.idAt w.scene.size then some (spec.portraitAt position)
      else w.scene.portrait? x := by
  show ((((w.scene.add { name := spec.name }).2.setTransform (w.scene.idAt w.scene.size) position
    (.ofEulerDegrees spec.rotation) spec.scale)).attach (w.scene.idAt w.scene.size)
      (.ofModel spec.model spec.material)).portrait? x = _
  rw [Scene.portrait?_attach, Scene.portrait?_setTransform, Scene.portrait?_add]
  split <;> rfl

theorem nodes_createObject (name : String) :
    (w.createObject spec position).2.2.catalog.nodes.get? name =
      if spec.name = name then some (w.scene.idAt w.scene.size)
      else w.catalog.nodes.get? name := by
  rw [← createObject_fst w spec position]
  exact w.catalog.nodes.get?_insert _ _ _

theorem points_createObject :
    (w.createObject spec position).2.2.catalog.points = w.catalog.points := rfl

end createObject

theorem created?_createObjectAtPoint {w : Workshop} {point : String} {position : Vec3}
    (h : w.catalog.points.get? point = some position) (spec : ObjectSpec) :
    w.created? (.createObjectAtPoint spec point) = some (w.scene.idAt w.scene.size) := by
  show (((w.catalog.point point).map (w.createObject spec)).toOption.map (·.1)) = _
  unfold Catalog.point
  rw [h]
  exact congrArg some (w.createObject_fst spec position)

/-- What an instruction creates comes after all that is there. -/
theorem eq_of_created? {w : Workshop} {instruction : Instruction} {x : ObjectId}
    (h : w.created? instruction = some x) : x = w.scene.idAt w.scene.size := by
  cases instruction with
  | createObject spec position =>
    rw [← w.createObject_fst spec position]
    exact (Option.some.inj h).symm
  | createPoint name position => cases h
  | moveToPoint name point => cases h
  | createObjectAtPoint spec point =>
    cases hpoint : w.catalog.points.get? point with
    | some position =>
      rw [created?_createObjectAtPoint hpoint] at h
      exact (Option.some.inj h).symm
    | none =>
      simp [created?, createObjectAtPoint, Catalog.point, hpoint, Except.map,
        Except.toOption] at h

/-- **What an instruction does that is carried out,** and which names it has found. -/
inductive Carries (w : Workshop) : Instruction → Workshop → Prop where
  | createObject (spec : ObjectSpec) (position : Vec3) :
      w.Carries (.createObject spec position) (w.createObject spec position).2.2
  | createObjectAtPoint (spec : ObjectSpec) {point : String} {position : Vec3}
      (hpoint : w.catalog.points.get? point = some position) :
      w.Carries (.createObjectAtPoint spec point) (w.createObject spec position).2.2
  | createPoint (name : String) (position : Vec3) :
      w.Carries (.createPoint name position) (w.createPoint name position)
  | moveToPoint {name point : String} {id : ObjectId} {position : Vec3}
      (hnode : w.catalog.nodes.get? name = some id)
      (hpoint : w.catalog.points.get? point = some position) :
      w.Carries (.moveToPoint name point)
        { w with scene := w.scene.setTranslation id position }

theorem carries_of_apply {w w' : Workshop} {instruction : Instruction} {entries : List Entry}
    (h : w.apply instruction = .ok (entries, w')) : w.Carries instruction w' := by
  cases instruction with
  | createObject spec position =>
    obtain rfl := congrArg (·.2) (Except.ok.inj h)
    exact .createObject spec position
  | createPoint name position =>
    obtain rfl := congrArg (·.2) (Except.ok.inj h)
    exact .createPoint name position
  | createObjectAtPoint spec point =>
    rw [apply_createObjectAtPoint] at h
    split at h
    · next position hpoint =>
      obtain rfl := congrArg (·.2) (Except.ok.inj h)
      exact .createObjectAtPoint spec hpoint
    · cases h
  | moveToPoint name point =>
    rw [apply_moveToPoint] at h
    split at h
    · next id hnode =>
      split at h
      · next position hpoint =>
        obtain rfl := congrArg (·.2) (Except.ok.inj h)
        exact .moveToPoint hnode hpoint
      · cases h
    · cases h

/-- An instruction creates one object at most. -/
theorem size_apply {w w' : Workshop} {instruction : Instruction} {entries : List Entry}
    (h : w.apply instruction = .ok (entries, w')) :
    w'.scene.size = w.scene.size + if instruction.spec?.isSome then 1 else 0 := by
  cases carries_of_apply h with
  | createObject spec position => exact w.size_createObject spec position
  | createObjectAtPoint spec => exact w.size_createObject spec _
  | createPoint => rfl
  | moveToPoint => exact Scene.size_move _ _ _

/-! ## Section 3: Replays -/

/-- **A workshop holds what the deeds tell.** -/
structure Replays (past : List Deed) (w : Workshop) : Prop where
  points : ∀ name, w.catalog.points.get? name = Deed.point? past name
  nodes : ∀ name, w.catalog.nodes.get? name = Deed.node? past name
  /-- Every object that was created is there, whatever its name stands for now. -/
  built : ∀ d ∈ past, ∀ spec, d.instruction.spec? = some spec →
    ∃ x position, d.object = some x ∧ Deed.place? past x = some position ∧
      w.scene.portrait? x = some (spec.portraitAt position)
  /-- Objects were created where they were asked for. -/
  created : ∀ d ∈ past, d.object.isSome = d.instruction.spec?.isSome
  distinct : (past.filterMap (·.object)).Nodup

namespace Replays
variable {past : List Deed} {w w' : Workshop}

theorem exists_portrait (h : w.Replays past) {d : Deed} (hd : d ∈ past) {x : ObjectId}
    (hx : d.object = some x) :
    ∃ spec position, d.instruction.spec? = some spec ∧ Deed.place? past x = some position ∧
      w.scene.portrait? x = some (spec.portraitAt position) := by
  have hcreated := h.created d hd
  rw [hx] at hcreated
  obtain ⟨spec, hspec⟩ := Option.isSome_iff_exists.mp hcreated.symm
  obtain ⟨y, position, hy, hplace, hportrait⟩ := h.built d hd spec hspec
  obtain rfl := Option.some.inj (hx.symm.trans hy)
  exact ⟨spec, position, hspec, hplace, hportrait⟩

theorem known (h : w.Replays past) {d : Deed} (hd : d ∈ past) {x : ObjectId}
    (hx : d.object = some x) : w.scene.has x = true := by
  obtain ⟨_, _, _, _, hportrait⟩ := h.exists_portrait hd hx
  exact Scene.has_of_portrait? hportrait

/-- A name stands for an object that was created under it. -/
theorem named (h : w.Replays past) {name : String} {x : ObjectId}
    (hx : w.catalog.nodes.get? name = some x) :
    ∃ p, w.scene.portrait? x = some p ∧ p.name = name := by
  rw [h.nodes] at hx
  obtain ⟨d, hd, spec, hspec, hname, hobject⟩ := Deed.exists_of_node? hx
  obtain ⟨y, position, hy, _, hportrait⟩ := h.built d hd spec hspec
  obtain rfl := Option.some.inj (hobject.symm.trans hy)
  exact ⟨_, hportrait, hname⟩

/-- Changes that leave the names and all that was created alone. -/
theorem of_leaves (h : w.Replays past) (catalog : w'.catalog = w.catalog)
    (leaves : ∀ d ∈ past, ∀ x, d.object = some x → w'.scene.portrait? x = w.scene.portrait? x) :
    w'.Replays past := by
  refine ⟨?_, ?_, ?_, h.created, h.distinct⟩
  · rw [catalog]
    exact h.points
  · rw [catalog]
    exact h.nodes
  · intro d hd spec hspec
    obtain ⟨x, position, hx, hplace, hportrait⟩ := h.built d hd spec hspec
    exact ⟨x, position, hx, hplace, (leaves d hd x hx).trans hportrait⟩

/-- **A new object,** wherever the position has come from. -/
theorem create (h : w.Replays past) {d : Deed} {spec : ObjectSpec} {position : Vec3}
    (hspec : d.instruction.spec? = some spec)
    (hobject : d.object = some (w.scene.idAt w.scene.size))
    (hplacing : Deed.placing? past d = some (w.scene.idAt w.scene.size, position)) :
    (w.createObject spec position).2.2.Replays (d :: past) := by
  have hfresh : ∀ {e : Deed}, e ∈ past → ∀ {x}, e.object = some x →
      x ≠ w.scene.idAt w.scene.size := by
    intro e he x hx heq
    exact w.scene.not_has_idAt_size (heq ▸ h.known he hx)
  constructor
  · intro name
    rw [points_createObject, h.points, Deed.point?_cons_of_spec hspec]
  · intro name
    rw [nodes_createObject, h.nodes, Deed.node?_cons_of_spec hspec hobject]
  · intro e he spec' hspec'
    rcases List.mem_cons.mp he with rfl | he
    · obtain rfl := Option.some.inj (hspec.symm.trans hspec')
      refine ⟨_, position, hobject, ?_, ?_⟩
      · rw [Deed.place?_cons_of_some hplacing, if_pos rfl]
      · rw [portrait?_createObject, if_pos rfl]
    · obtain ⟨x, p, hx, hplace, hportrait⟩ := h.built e he spec' hspec'
      have hne := hfresh he hx
      refine ⟨x, p, hx, ?_, ?_⟩
      · rw [Deed.place?_cons_of_some hplacing, if_neg hne.symm, hplace]
      · rw [portrait?_createObject, if_neg hne, hportrait]
  · intro e he
    rcases List.mem_cons.mp he with rfl | he
    · rw [hobject, hspec]
      rfl
    · exact h.created e he
  · rw [List.filterMap_cons_some hobject]
    refine List.nodup_cons.mpr ⟨?_, h.distinct⟩
    intro hmem
    obtain ⟨e, he, hx⟩ := List.mem_filterMap.mp hmem
    exact hfresh he hx rfl

/-- A deed that asks for no object has created none. -/
theorem created_cons (h : w.Replays past) {d : Deed} (hspec : d.instruction.spec? = none)
    (hobject : d.object = none) :
    ∀ e ∈ d :: past, e.object.isSome = e.instruction.spec?.isSome := by
  intro e he
  rcases List.mem_cons.mp he with rfl | he
  · rw [hspec, hobject]
    rfl
  · exact h.created e he

/-- A new point.  A name that is given again moves nothing. -/
theorem createPoint (h : w.Replays past) (name : String) (position : Vec3) :
    (w.createPoint name position).Replays (⟨.createPoint name position, none⟩ :: past) := by
  refine ⟨?_, h.nodes, ?_, h.created_cons rfl rfl, h.distinct⟩
  · intro n
    show (w.catalog.points.insert name position).get? n = _
    rw [Directory.get?_insert, h.points]
    unfold Deed.point?
    rw [List.findSome?_cons]
    by_cases hname : name = n <;> simp [hname]
  · intro e he spec hspec
    rcases List.mem_cons.mp he with rfl | he
    · cases hspec
    · exact h.built e he spec hspec

/-- The object that a name stands for now is moved, and no other. -/
theorem move (h : w.Replays past) {name point : String} {id : ObjectId} {position : Vec3}
    (hnode : w.catalog.nodes.get? name = some id)
    (hpoint : w.catalog.points.get? point = some position) :
    ({ w with scene := w.scene.setTranslation id position } : Workshop).Replays
      (⟨.moveToPoint name point, none⟩ :: past) := by
  have hplacing : Deed.placing? past ⟨.moveToPoint name point, none⟩ = some (id, position) := by
    rw [h.nodes] at hnode
    rw [h.points] at hpoint
    simp [Deed.placing?, hnode, hpoint]
  refine ⟨h.points, h.nodes, ?_, h.created_cons rfl rfl, h.distinct⟩
  intro e he spec hspec
  rcases List.mem_cons.mp he with rfl | he
  · cases hspec
  obtain ⟨x, p, hx, hplace, hportrait⟩ := h.built e he spec hspec
  have hmoved := w.scene.portrait?_setTranslation id x position
  have hnow := Deed.place?_cons_of_some hplacing x
  by_cases heq : x = id
  · rw [if_pos heq, hportrait] at hmoved
    rw [if_pos heq.symm] at hnow
    exact ⟨x, position, hx, hnow, hmoved⟩
  · rw [if_neg heq, hportrait] at hmoved
    rw [if_neg (Ne.symm heq), hplace] at hnow
    exact ⟨x, p, hx, hnow, hmoved⟩

/-- **Carrying an instruction out adds a deed.** -/
theorem apply (h : w.Replays past) {instruction : Instruction} {entries : List Entry}
    (hw : w.apply instruction = .ok (entries, w')) :
    w'.Replays (⟨instruction, w.created? instruction⟩ :: past) := by
  cases carries_of_apply hw with
  | createObject spec position =>
    have hobject : w.created? (.createObject spec position) =
        some (w.scene.idAt w.scene.size) := congrArg some (w.createObject_fst spec position)
    rw [hobject]
    exact h.create rfl rfl rfl
  | createObjectAtPoint spec hpoint =>
    rw [created?_createObjectAtPoint hpoint]
    refine h.create rfl rfl ?_
    rw [h.points] at hpoint
    simp [Deed.placing?, hpoint]
  | createPoint name position => exact h.createPoint name position
  | moveToPoint hnode hpoint => exact h.move hnode hpoint

end Replays

end Workshop

end Planetarium

import Planetarium.Catalog.Workshop

/-! # Instructions in place

    `Workshop.apply` gives the workshop after an instruction, or the name that
    is missing.  What works on a workshop in place cannot do so: when a step
    fails, what the steps before it have changed stays changed.

    * `apply_eq_error_iff`: which names an instruction misses.
    * `apply_cases`: what one that misses none does.
    * `Workshop.procedure` carries an instruction out in place, step by step.
    * `run_procedure`: all names are looked for before the first change, so both
      agree, and a failure leaves the workshop as it was. -/

namespace Planetarium

/-! ## Section 1: Instructions that fail, and those that are carried out -/

/-- **The names that an instruction misses,** the object before the point. -/
inductive Catalog.Misses (c : Catalog) : Instruction → NotFound → Prop where
  | pointOfNew {spec : ObjectSpec} {point : String} (h : c.points.get? point = none) :
      c.Misses (.createObjectAtPoint spec point) (.point point)
  | node {name point : String} (h : c.nodes.get? name = none) :
      c.Misses (.moveToPoint name point) (.node name)
  | pointOfMove {name point : String} {id : ObjectId} (hnode : c.nodes.get? name = some id)
      (h : c.points.get? point = none) : c.Misses (.moveToPoint name point) (.point point)

namespace Workshop

section apply
variable (w : Workshop)

theorem apply_createObjectAtPoint (spec : ObjectSpec) (point : String) :
    w.apply (.createObjectAtPoint spec point) =
      match w.catalog.points.get? point with
      | some position => .ok (w.createObject spec position).2
      | none => .error (.point point) := by
  show ((w.catalog.point point).map (w.createObject spec)).map (·.2) = _
  unfold Catalog.point
  cases w.catalog.points.get? point <;> rfl

theorem apply_moveToPoint (name point : String) :
    w.apply (.moveToPoint name point) =
      match w.catalog.nodes.get? name with
      | some id =>
        match w.catalog.points.get? point with
        | some position => .ok ([], { w with scene := w.scene.setTranslation id position })
        | none => .error (.point point)
      | none => .error (.node name) := by
  show (w.moveToPoint name point).map ([], ·) = _
  unfold moveToPoint Catalog.node Catalog.point
  cases w.catalog.nodes.get? name with
  | none => rfl
  | some id => cases w.catalog.points.get? point <;> rfl

/-- **An instruction fails exactly if it misses a name.** -/
theorem apply_eq_error_iff {instruction : Instruction} {missing : NotFound} :
    w.apply instruction = .error missing ↔ w.catalog.Misses instruction missing := by
  cases instruction with
  | createObject spec position =>
    exact iff_of_false (fun h => by cases h) (fun h => by cases h)
  | createPoint name position =>
    exact iff_of_false (fun h => by cases h) (fun h => by cases h)
  | createObjectAtPoint spec point =>
    rw [apply_createObjectAtPoint]
    constructor
    · intro h
      split at h
      · cases h
      · next hpoint =>
        obtain rfl := Except.error.inj h
        exact .pointOfNew hpoint
    · rintro ⟨hpoint⟩
      rw [hpoint]
  | moveToPoint name point =>
    rw [apply_moveToPoint]
    constructor
    · intro h
      split at h
      · next id hnode =>
        split at h
        · cases h
        · next hpoint =>
          obtain rfl := Except.error.inj h
          exact .pointOfMove hnode hpoint
      · next hnode =>
        obtain rfl := Except.error.inj h
        exact .node hnode
    · rintro (_ | hnode | ⟨hnode, hpoint⟩)
      · rw [hnode]
      · rw [hnode, hpoint]

/-- **What an instruction that is carried out does:** it creates an object, or names
    a point, or moves an object that has a name. -/
theorem apply_cases {instruction : Instruction} {result : List Entry × Workshop}
    (h : w.apply instruction = .ok result) :
    (∃ spec position, result = (w.createObject spec position).2) ∨
    (∃ name position, result = ([], w.createPoint name position)) ∨
    ∃ name id position, w.catalog.nodes.get? name = some id ∧
      result = ([], { w with scene := w.scene.setTranslation id position }) := by
  cases instruction with
  | createObject spec position => exact .inl ⟨spec, position, (Except.ok.inj h).symm⟩
  | createPoint name position => exact .inr (.inl ⟨name, position, (Except.ok.inj h).symm⟩)
  | createObjectAtPoint spec point =>
    rw [apply_createObjectAtPoint] at h
    split at h
    · next position _ => exact .inl ⟨spec, position, (Except.ok.inj h).symm⟩
    · cases h
  | moveToPoint name point =>
    rw [apply_moveToPoint] at h
    split at h
    · next id hnode =>
      split at h
      · next position _ =>
        exact .inr (.inr ⟨name, id, position, hnode, (Except.ok.inj h).symm⟩)
      · cases h
    · cases h

end apply

/-! ## Section 2: Instructions in place -/

/-- What works on a workshop in place and may miss a name. -/
abbrev Procedure := EStateM NotFound Workshop

namespace Procedure

/-- Looks for the point of a name. -/
def point (name : String) : Procedure Vec3 := do
  match (← get).catalog.point name with
  | .ok p => return p
  | .error missing => throw missing

/-- Looks for the object of a name. -/
def node (name : String) : Procedure ObjectId := do
  match (← get).catalog.node name with
  | .ok id => return id
  | .error missing => throw missing

/-- Changes the scene. -/
def changeScene (f : Scene → Scene) : Procedure Unit :=
  modify fun w => { w with scene := f w.scene }

/-- Creates an object and gives it its name, one change after another. -/
def createObject (spec : ObjectSpec) (position : Vec3) : Procedure (List Entry) := do
  let id ← modifyGet fun w =>
    let (id, scene) := w.scene.createChild none spec.name
    (id, { w with scene })
  changeScene (·.setTransform id position (.ofEulerDegrees spec.rotation) spec.scale)
  changeScene (·.attach id (.ofModel spec.model spec.material))
  let previous ← modifyGet fun w =>
    let (previous, catalog) := w.catalog.nameNode spec.name id
    (previous, { w with catalog })
  return (previous.map (Entry.nameReused spec.name)).toList

end Procedure

/-- **An instruction as it is carried out in place,** step by step. -/
def procedure : Instruction → Procedure (List Entry)
  | .createObject spec position => Procedure.createObject spec position
  | .createObjectAtPoint spec point => do
    let position ← Procedure.point point
    Procedure.createObject spec position
  | .createPoint name position => do
    modify fun w => { w with catalog := (w.catalog.namePoint name position).2 }
    return []
  | .moveToPoint name point => do
    let id ← Procedure.node name
    let position ← Procedure.point point
    Procedure.changeScene (·.setTranslation id position)
    return []

variable (w : Workshop)

theorem Procedure.run_createObject (spec : ObjectSpec) (position : Vec3) :
    (createObject spec position).run w =
      .ok (w.createObject spec position).2.1 (w.createObject spec position).2.2 := rfl

theorem Procedure.run_point (name : String) :
    (point name).run w =
      match w.catalog.points.get? name with
      | some p => .ok p w
      | none => .error (.point name) w := by
  show ((match w.catalog.point name with
    | .ok p => pure p
    | .error missing => throw missing : Procedure Vec3)).run w = _
  unfold Catalog.point
  cases w.catalog.points.get? name <;> rfl

theorem Procedure.run_node (name : String) :
    (node name).run w =
      match w.catalog.nodes.get? name with
      | some id => .ok id w
      | none => .error (.node name) w := by
  show ((match w.catalog.node name with
    | .ok id => pure id
    | .error missing => throw missing : Procedure ObjectId)).run w = _
  unfold Catalog.node
  cases w.catalog.nodes.get? name <;> rfl

/-- **No step that fails comes after a change.**  An instruction that is carried
    out in place ends as `apply` says, and one that fails leaves the workshop as
    it was. -/
theorem run_procedure (instruction : Instruction) :
    (procedure instruction).run w =
      match w.apply instruction with
      | .ok (entries, w') => .ok entries w'
      | .error missing => .error missing w := by
  cases instruction with
  | createObject spec position => exact Procedure.run_createObject w spec position
  | createPoint name position => rfl
  | createObjectAtPoint spec point =>
    unfold procedure
    rw [apply_createObjectAtPoint, EStateM.run_bind, Procedure.run_point]
    cases w.catalog.points.get? point <;> rfl
  | moveToPoint name point =>
    unfold procedure
    rw [apply_moveToPoint, EStateM.run_bind, Procedure.run_node]
    cases w.catalog.nodes.get? name with
    | none => rfl
    | some id =>
      -- The object has been found, and the workshop is as it was.
      simp only
      rw [EStateM.run_bind, Procedure.run_point]
      cases w.catalog.points.get? point <;> rfl

end Workshop

end Planetarium

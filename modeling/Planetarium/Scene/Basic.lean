import Planetarium.Scene.Object

/-!
# Scenes

A scene is a growing collection of objects, numbered in the order of their creation and never removed. An
id of another scene finds nothing in it, and a change through an id that finds nothing changes nothing.
-/

namespace Planetarium

/-- The objects of a scene and the number that its ids carry. -/
structure Scene where
  tag : Nat := 0
  objects : Array Object := #[]

namespace Scene

/-- The number of objects. -/
def size (s : Scene) : Nat := s.objects.size

/-- The id of the object with a given number. -/
def idAt (s : Scene) (n : Nat) : ObjectId := ⟨s.tag, n⟩

/-- The object behind an id. -/
def get? (s : Scene) (id : ObjectId) : Option Object :=
  if id.scene = s.tag then s.objects[id.index]? else none

/-- An id that this scene has given out. -/
def has (s : Scene) (id : ObjectId) : Bool := (s.get? id).isSome

/-- The scene with one object changed. -/
def modify (s : Scene) (id : ObjectId) (f : Object → Object) : Scene :=
  if id.scene = s.tag then { s with objects := s.objects.modify id.index f } else s

/-- The scene with the transform of one object changed. -/
def modifyTransform (s : Scene) (id : ObjectId) (f : Transform → Transform) : Scene :=
  s.modify id fun o => { o with transform := f o.transform }

/-- Adds an object. -/
def add (s : Scene) (o : Object) : ObjectId × Scene :=
  (s.idAt s.size, { s with objects := s.objects.push o })

/-- The first object of a name. -/
def find? (s : Scene) (name : String) : Option ObjectId :=
  (s.objects.findIdx? (·.name = name)).map s.idAt

/-- The parent of an object, if it has one and the scene knows it. -/
def parent? (s : Scene) (o : Object) : Option Object := o.parent.bind s.get?

/-- Attaches a component to an object, after those that it has. -/
def attach (s : Scene) (id : ObjectId) (c : Component) : Scene :=
  s.modify id fun o => { o with components := o.components ++ [c] }

/-- Takes all components off an object. -/
def clearComponents (s : Scene) (id : ObjectId) : Scene :=
  s.modify id fun o => { o with components := [] }

/-- Gives an object another name. -/
def rename (s : Scene) (id : ObjectId) (name : String) : Scene :=
  s.modify id fun o => { o with name }

/-- **Look-up after a change.** Only the object behind the id differs, and it differs by `f`. -/
theorem get?_modify (s : Scene) (id id' : ObjectId) (f : Object → Object) :
    (s.modify id f).get? id' = if id = id' then (s.get? id').map f else s.get? id' := by
  obtain ⟨a, i⟩ := id
  obtain ⟨b, j⟩ := id'
  by_cases ha : a = s.tag <;> by_cases hb : b = s.tag <;> by_cases hi : i = j
  all_goals simp [modify, get?, ha, hb, hi, Array.getElem?_modify]

/-- A change keeps the number of objects. -/
@[simp] theorem size_modify (s : Scene) (id : ObjectId) (f : Object → Object) :
    (s.modify id f).size = s.size := by
  by_cases h : id.scene = s.tag <;> simp [modify, size, h]

end Scene

end Planetarium

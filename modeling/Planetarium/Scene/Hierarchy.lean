import Planetarium.Scene.Basic

/-!
# The hierarchy of a scene

Objects hang below one another. Whatever moves an object marks the world matrices of the object and of all
that hangs below it as stale, so a matrix that is not stale can be handed out as it is.

A search down the links takes at most as many steps as there are objects, because no object hangs below
itself.
-/

namespace Planetarium.Scene

/-- Marks the world matrices of an object and of what hangs below it as stale, down to `depth` levels. -/
def invalidateTo : Nat → Scene → ObjectId → Scene
  | 0, s, _ => s
  | depth + 1, s, id =>
    match s.get? id with
    | none => s
    | some o => o.children.foldl (invalidateTo depth) (s.modifyTransform id .invalidateWorld)

/-- Marks the world matrices of an object and of all that hangs below it as stale. -/
def invalidate (s : Scene) (id : ObjectId) : Scene := invalidateTo s.size s id

/-- Changes the transform of an object and marks what depends on it as stale. -/
def move (s : Scene) (id : ObjectId) (f : Transform → Transform) : Scene :=
  (s.modifyTransform id f).invalidate id

/-- Replaces the translation of an object. -/
def setTranslation (s : Scene) (id : ObjectId) (v : Vec3) : Scene := s.move id (·.setTranslation v)

/-- Replaces the rotation of an object. -/
def setRotation (s : Scene) (id : ObjectId) (q : Quat) : Scene := s.move id (·.setRotation q)

/-- Replaces the scale of an object. -/
def setScale (s : Scene) (id : ObjectId) (v : Vec3) : Scene := s.move id (·.setScale v)

/-- Replaces translation, rotation and scale of an object. -/
def setTransform (s : Scene) (id : ObjectId) (v : Vec3) (q : Quat) (k : Vec3) : Scene :=
  s.move id (·.setAll v q k)

/-- Turns an object by a further rotation. -/
def rotate (s : Scene) (id : ObjectId) (q : Quat) : Scene := s.move id (·.rotate q)

/-- Moves an object along its own axes. -/
def translateLocal (s : Scene) (id : ObjectId) (delta : Vec3) : Scene :=
  s.move id (·.translateLocal delta)

/-- Takes an object off the child list of its parent. -/
def detach (s : Scene) (child : ObjectId) : Scene :=
  match (s.get? child).bind (·.parent) with
  | none => s
  | some old => s.modify old fun o => { o with children := o.children.filter (· ≠ child) }

/-- Hangs an object below another one, as the last of its children, or at the top. Its transform stays, so
its place in the world jumps. A parent that the scene does not know is kept as a link all the same. -/
def setParent (s : Scene) (child : ObjectId) (parent : Option ObjectId) : Scene :=
  if s.has child then
    -- The old parent forgets the child while the link to it is still there.
    let linked := (s.detach child).modify child fun o => { o with parent }
    let listed :=
      match parent with
      | none => linked
      | some p => linked.modify p fun o => { o with children := o.children ++ [child] }
    listed.invalidate child
  else s

/-- Creates an object without components, at the top or below a parent. -/
def createChild (s : Scene) (parent : Option ObjectId) (name : String) : ObjectId × Scene :=
  let (id, s) := s.add { name }
  match parent with
  | none => (id, s)
  | some _ => (id, s.setParent id parent)

end Planetarium.Scene

import Planetarium.Scene.Forest
import Planetarium.Scene.World

/-!
# Edits

All that can be done to a scene, as data. Reads are among the edits, since a read keeps what it has
computed.

* `Edit.apply` carries an edit out, and `Scene.edited` a list of them.
* `Edit.Proper` are the edits that name only ids which the scene has given out or never will, and hang
  nothing below itself. `Scene.Grown` are the scenes that such edits make of the empty one.
-/

namespace Planetarium

/-- Something done to a scene. -/
inductive Edit where
  | createChild (parent : Option ObjectId) (name : String)
  | setParent (child : ObjectId) (parent : Option ObjectId)
  | setTranslation (id : ObjectId) (v : Vec3)
  | setRotation (id : ObjectId) (q : Quat)
  | setScale (id : ObjectId) (v : Vec3)
  | setTransform (id : ObjectId) (v : Vec3) (q : Quat) (k : Vec3)
  | rotate (id : ObjectId) (q : Quat)
  | translateLocal (id : ObjectId) (delta : Vec3)
  | attach (id : ObjectId) (c : Component)
  | clearComponents (id : ObjectId)
  | readMatrix (id : ObjectId)
  | readPosition (id : ObjectId)

namespace Edit

/-- The scene after an edit. -/
def apply (s : Scene) : Edit → Scene
  | .createChild parent name => (s.createChild parent name).2
  | .setParent child parent => s.setParent child parent
  | .setTranslation id v => s.setTranslation id v
  | .setRotation id q => s.setRotation id q
  | .setScale id v => s.setScale id v
  | .setTransform id v q k => s.setTransform id v q k
  | .rotate id q => s.rotate id q
  | .translateLocal id delta => s.translateLocal id delta
  | .attach id c => s.attach id c
  | .clearComponents id => s.clearComponents id
  | .readMatrix id => (s.worldMatrix id).2
  | .readPosition id => (s.worldPosition id).2

/-- The ids that an edit names. -/
def ids : Edit → List ObjectId
  | .createChild parent _ => parent.toList
  | .setParent child parent => child :: parent.toList
  | .setTranslation id _ => [id]
  | .setRotation id _ => [id]
  | .setScale id _ => [id]
  | .setTransform id _ _ _ => [id]
  | .rotate id _ => [id]
  | .translateLocal id _ => [id]
  | .attach id _ => [id]
  | .clearComponents id => [id]
  | .readMatrix id => [id]
  | .readPosition id => [id]

/-- The edit hangs no object of the scene below itself or below one that hangs below it. -/
def KeepsAcyclic (s : Scene) : Edit → Prop
  | .setParent child (some parent) => s.has child = true → parent ≠ child ∧ ¬ s.Below parent child
  | _ => True

/-- An edit that a scene may be given. -/
structure Proper (s : Scene) (e : Edit) : Prop where
  ids_settled : ∀ id ∈ e.ids, s.has id = true ∨ id.scene ≠ s.tag
  keepsAcyclic : e.KeepsAcyclic s

end Edit

namespace Scene

/-- The scene after some edits, one after another. -/
def edited (s : Scene) (es : List Edit) : Scene := es.foldl Edit.apply s

/-- The scenes that proper edits make of an empty one. -/
inductive Grown : Scene → Prop where
  | empty (tag : Nat) : Grown { tag }
  | edit {s : Scene} (grown : Grown s) {e : Edit} (proper : e.Proper s) : Grown (e.apply s)

end Scene

end Planetarium

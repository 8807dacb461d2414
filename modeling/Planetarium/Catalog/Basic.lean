import Planetarium.Directory
import Planetarium.Message.Rejection
import Planetarium.Scene.Object
import Planetarium.Geometry.Vec3

/-!
# The catalog

The names that authoring messages use: those of objects and those of points. A name given again stands for
the newer thing; an object whose name is taken stays in the scene.
-/

namespace Planetarium

/-- The named objects and the named points. -/
structure Catalog where
  nodes : Directory String ObjectId := {}
  points : Directory String Vec3 := {}

namespace Catalog

/-- The object of a name. -/
def node (c : Catalog) (name : String) : Except NotFound ObjectId :=
  match c.nodes.get? name with
  | some id => .ok id
  | none => .error (.node name)

/-- The point of a name. -/
def point (c : Catalog) (name : String) : Except NotFound Vec3 :=
  match c.points.get? name with
  | some p => .ok p
  | none => .error (.point name)

/-- Names an object. Beside the catalog stands the object that had the name before. -/
def nameNode (c : Catalog) (name : String) (id : ObjectId) : Option ObjectId × Catalog :=
  (c.nodes.get? name, { c with nodes := c.nodes.insert name id })

/-- Names a point. Beside the catalog stands the point that had the name before. -/
def namePoint (c : Catalog) (name : String) (p : Vec3) : Option Vec3 × Catalog :=
  (c.points.get? name, { c with points := c.points.insert name p })

end Catalog

end Planetarium

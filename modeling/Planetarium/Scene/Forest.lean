import Planetarium.Scene.Basic

/-!
# Forests

Links are kept twice: each object knows its parent, and each parent lists its children. The links of a
scene form a forest when both records agree and every way up ends at the top.

* `parentOf?` and `childrenOf` are all that the rest says about links.
* `Below` relates an object to those above it, and `climb` goes up a number of levels.
* `IsForest` is what the operations of a show keep.
-/

namespace Planetarium.Scene

/-- The parent of an object, as the object knows it. -/
def parentOf? (s : Scene) (id : ObjectId) : Option ObjectId := (s.get? id).bind (·.parent)

/-- The children that an object lists, in order. An id that finds nothing has none. -/
def childrenOf (s : Scene) (id : ObjectId) : List ObjectId :=
  match s.get? id with
  | some o => o.children
  | none => []

/-- `s.Below c a` means that `c` hangs below `a`, directly or further down. -/
inductive Below (s : Scene) : ObjectId → ObjectId → Prop where
  | direct {c p : ObjectId} (h : s.parentOf? c = some p) : Below s c p
  | further {c p a : ObjectId} (h : s.parentOf? c = some p) (above : Below s p a) : Below s c a

/-- The object that is `levels` above another one. -/
def climb (s : Scene) : (levels : Nat) → ObjectId → Option ObjectId
  | 0, id => some id
  | levels + 1, id => (s.parentOf? id).bind (s.climb levels)

/-- Nothing hangs below itself. -/
def Acyclic (s : Scene) : Prop := ∀ id, ¬ s.Below id id

/-- **The links form a forest.** -/
structure IsForest (s : Scene) : Prop where
  /-- Every parent is an object of the scene. -/
  parent_known : ∀ c p, s.parentOf? c = some p → s.has p = true
  /-- An object is listed by its parent, and by nothing else. -/
  mem_childrenOf_iff : ∀ c p, c ∈ s.childrenOf p ↔ s.parentOf? c = some p
  /-- No child is listed twice. -/
  nodup_childrenOf : ∀ p, (s.childrenOf p).Nodup
  /-- No way up is longer than the number of objects. -/
  climb_size : ∀ id, s.has id = true → s.climb s.size id = none

end Planetarium.Scene

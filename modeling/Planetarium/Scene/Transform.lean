import Planetarium.Geometry.Mat4

/-!
# Transforms

A transform places an object relative to its parent. It keeps two matrices that are computed when asked
for: the local one, made of the scale, rotation and translation, and the world one, which the scene
computes. Each has a mark that says whether it is stale.
-/

namespace Planetarium

/-- Where an object stands relative to its parent, with the matrices computed last. -/
structure Transform where
  translation : Vec3
  rotation : Quat
  scale : Vec3
  localMatrix : Mat4
  worldMatrix : Mat4
  localStale : Bool
  worldStale : Bool

namespace Transform

/-- A transform that moves by `t` only. Nothing has been computed yet. -/
def ofTranslation (t : Vec3) : Transform where
  translation := t
  rotation := .identity
  scale := .one
  localMatrix := .identity
  worldMatrix := .identity
  localStale := true
  worldStale := true

/-- The matrix of the present scale, rotation and translation. -/
def placement (t : Transform) : Mat4 :=
  .ofScaleRotationTranslation t.scale t.rotation t.translation

/-- Marks the world matrix as stale. -/
def invalidateWorld (t : Transform) : Transform := { t with worldStale := true }

/-- Marks both matrices as stale. -/
def invalidateLocal (t : Transform) : Transform := { t with localStale := true, worldStale := true }

/-- The transform after its local matrix has been asked for. A stale one is computed, and then the world
matrix, which was made from an older one, becomes stale. -/
def refreshLocal (t : Transform) : Transform :=
  if t.localStale then
    { t with localMatrix := t.placement, localStale := false, worldStale := true }
  else t

/-- The local matrix as it is handed out, which is fresh. -/
def readLocal (t : Transform) : Mat4 := t.refreshLocal.localMatrix

/-- Stores a world matrix, which is fresh from now on. -/
def setWorldMatrix (t : Transform) (m : Mat4) : Transform :=
  { t with worldMatrix := m, worldStale := false }

/-- Replaces the translation. -/
def setTranslation (t : Transform) (v : Vec3) : Transform :=
  { t with translation := v }.invalidateLocal

/-- Replaces the rotation. -/
def setRotation (t : Transform) (q : Quat) : Transform := { t with rotation := q }.invalidateLocal

/-- Replaces the scale. -/
def setScale (t : Transform) (s : Vec3) : Transform := { t with scale := s }.invalidateLocal

/-- Replaces translation, rotation and scale. -/
def setAll (t : Transform) (v : Vec3) (q : Quat) (s : Vec3) : Transform :=
  { t with translation := v, rotation := q, scale := s }.invalidateLocal

/-- Turns by a further rotation, about the transform's own axes. -/
def rotate (t : Transform) (q : Quat) : Transform :=
  { t with rotation := (t.rotation * q).normalize }.invalidateLocal

/-- Moves by `delta` along the transform's own axes. -/
def translateLocal (t : Transform) (delta : Vec3) : Transform :=
  { t with translation := t.translation + t.rotation.apply delta }.invalidateLocal

end Transform

end Planetarium

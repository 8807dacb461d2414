import Planetarium.Proofs.Motion.Spaces
import Planetarium.Proofs.Scene.Sparing
import Planetarium.System.Blueprint

/-! # What building a blueprint gives

    The objects of a blueprint get the next ids, one after another.  Each has
    the pose of its part and hangs where its part says.

    * The views of a space in which one part has been placed.
    * `Space.placeAll`: the same for a list of parts, by induction on it.
    * `Sound.placeAll`: the scene stays sound if parts hang below earlier ones. -/

namespace Planetarium

namespace Scene

theorem alike_attachAll (id : ObjectId) (cs : List Component) (s : Scene) :
    s.Alike (cs.foldl (·.attach id ·) s) := by
  induction cs generalizing s with
  | nil => exact .refl s
  | cons c cs ih => exact (alike_attach s id c).trans (ih _)

theorem Sound.attachAll {s : Scene} (sound : s.Sound) (id : ObjectId) (cs : List Component) :
    (cs.foldl (·.attach id ·) s).Sound := by
  induction cs generalizing s with
  | nil => exact sound
  | cons c cs ih => exact ih (sound.attach id c)

end Scene

/-- The pose of a part. -/
def Part.pose (part : Part) : Pose := ⟨part.translation, part.rotation, part.scale⟩

namespace Space

/-! ## Section 1: One part -/

section place
variable (sp : Space) (part : Part) (parent : Option ObjectId) (x : ObjectId)

/-- The scene of a part before its components are attached. -/
def standing : Scene :=
  (sp.scene.createChild parent part.name).2.setTransform (sp.scene.idAt sp.scene.size)
    part.translation part.rotation part.scale

theorem scene_place :
    (sp.place part parent).scene =
      part.components.foldl (·.attach (sp.scene.idAt sp.scene.size) ·)
        (sp.standing part parent) := by
  unfold place standing
  simp

theorem frames_place :
    (sp.place part parent).frames =
      if part.isFrame then
        sp.frames.register part.name (sp.scene.idAt sp.scene.size) part.spin
      else sp.frames := by
  unfold place
  simp

theorem alike_place : (sp.standing part parent).Alike (sp.place part parent).scene := by
  rw [scene_place]
  exact Scene.alike_attachAll _ _ _

@[simp] theorem tag_place : (sp.place part parent).scene.tag = sp.scene.tag := by
  rw [(sp.alike_place part parent).tag]
  simp [standing, Scene.setTransform]

@[simp] theorem size_place : (sp.place part parent).scene.size = sp.scene.size + 1 := by
  rw [(sp.alike_place part parent).size]
  simp [standing, Scene.setTransform]

theorem parentOf?_place :
    (sp.place part parent).scene.parentOf? x =
      if x = sp.scene.idAt sp.scene.size then parent else sp.scene.parentOf? x := by
  rw [(sp.alike_place part parent).parentOf?, standing, Scene.setTransform, Scene.parentOf?_move,
    Scene.parentOf?_createChild]

theorem extends_place : sp.scene.Extends (sp.place part parent).scene := by
  have hnew := sp.scene.not_has_idAt_size
  have hstanding : sp.scene.Extends (sp.standing part parent) :=
    Scene.Spares.trans (sp.scene.extends_createChild parent part.name)
      (Scene.spares_setTransform hnew _ _ _)
  exact Scene.Spares.trans hstanding (.of_alike (sp.alike_place part parent))

theorem poseOf?_place :
    (sp.place part parent).scene.poseOf? x =
      if x = sp.scene.idAt sp.scene.size then some part.pose else sp.scene.poseOf? x := by
  rw [(sp.alike_place part parent).poseOf?, standing, Scene.poseOf?_setTransform,
    Scene.poseOf?_createChild]
  split <;> rfl

end place

/-! ## Section 2: A list of parts -/

/-- Places some parts, one after another. -/
def placeAll (above : Part → Option ObjectId) (sp : Space) (ps : List Part) : Space :=
  ps.foldl (fun built part => built.place part (above part)) sp

variable {above : Part → Option ObjectId}

theorem placeAll_cons (sp : Space) (part : Part) (ps : List Part) :
    sp.placeAll above (part :: ps) = (sp.place part (above part)).placeAll above ps := rfl

/-- The ids of the rest are those after the first one. -/
theorem idAt_place (sp : Space) (part : Part) (parent : Option ObjectId) (k : Nat) :
    (sp.place part parent).scene.idAt ((sp.place part parent).scene.size + k) =
      sp.scene.idAt (sp.scene.size + (k + 1)) := by
  rw [size_place, Scene.idAt, Scene.idAt, tag_place]
  congr 1
  omega

@[simp] theorem tag_placeAll (sp : Space) (ps : List Part) :
    (sp.placeAll above ps).scene.tag = sp.scene.tag := by
  induction ps generalizing sp with
  | nil => rfl
  | cons part ps ih => rw [placeAll_cons, ih, tag_place]

@[simp] theorem size_placeAll (sp : Space) (ps : List Part) :
    (sp.placeAll above ps).scene.size = sp.scene.size + ps.length := by
  induction ps generalizing sp with
  | nil => rfl
  | cons part ps ih =>
    rw [placeAll_cons, ih, size_place, List.length_cons]
    omega

/-- What is there already stays as it is. -/
theorem extends_placeAll (above : Part → Option ObjectId) (sp : Space) (ps : List Part) :
    sp.scene.Extends (sp.placeAll above ps).scene := by
  induction ps generalizing sp with
  | nil => exact .refl sp.scene
  | cons part ps ih => exact (sp.extends_place part (above part)).trans (ih _)

/-- **The objects of the parts,** in the order of the list. -/
theorem placeAll_new (above : Part → Option ObjectId) (sp : Space) {ps : List Part} {k : Nat}
    {part : Part} (h : ps[k]? = some part) :
    (sp.placeAll above ps).scene.parentOf? (sp.scene.idAt (sp.scene.size + k)) = above part ∧
    (sp.placeAll above ps).scene.poseOf? (sp.scene.idAt (sp.scene.size + k)) =
      some part.pose := by
  induction ps generalizing sp k with
  | nil => cases h
  | cons first ps ih =>
    cases k with
    | zero =>
      obtain rfl := Option.some.inj h
      have hnew : (sp.place first (above first)).scene.has
          (sp.scene.idAt sp.scene.size) = true := by
        rw [← Scene.isSome_poseOf?, poseOf?_place, if_pos rfl]
        rfl
      -- What comes after it in the list leaves the first object alone.
      have hrest := extends_placeAll above (sp.place first (above first)) ps
      rw [placeAll_cons, Nat.add_zero, hrest.parentOf? hnew, hrest.poseOf? hnew, parentOf?_place,
        poseOf?_place, if_pos rfl, if_pos rfl]
      exact ⟨rfl, rfl⟩
    | succ k =>
      have hrest := ih (sp.place first (above first)) h
      rw [idAt_place] at hrest
      exact hrest

/-! ## Section 3: Frames and spins -/

/-- A name that no part has stands for what it stood for. -/
theorem get?_placeAll_other (sp : Space) {ps : List Part} {name : String}
    (h : name ∉ ps.map (·.name)) :
    (sp.placeAll above ps).frames.get? name = sp.frames.get? name := by
  induction ps generalizing sp with
  | nil => rfl
  | cons part ps ih =>
    rw [List.map_cons, List.mem_cons, not_or] at h
    rw [placeAll_cons, ih _ h.2, frames_place]
    split
    · rw [Frames.get?_register, if_neg (Ne.symm h.1)]
    · rfl

/-- **A frame is found by the name of its part.** -/
theorem get?_placeAll (above : Part → Option ObjectId) (sp : Space) {ps : List Part}
    (nodup : (ps.map (·.name)).Nodup) {k : Nat} {part : Part} (h : ps[k]? = some part)
    (hframe : part.isFrame = true) :
    (sp.placeAll above ps).frames.get? part.name = some (sp.scene.idAt (sp.scene.size + k)) := by
  induction ps generalizing sp k with
  | nil => cases h
  | cons first ps ih =>
    rw [List.map_cons, List.nodup_cons] at nodup
    cases k with
    | zero =>
      obtain rfl := Option.some.inj h
      -- No later part takes the name again.
      rw [placeAll_cons, get?_placeAll_other _ nodup.1, frames_place, if_pos hframe,
        Frames.get?_register, if_pos rfl]
      rfl
    | succ k =>
      have hrest := ih (sp.place first (above first)) nodup.2 h
      rw [idAt_place] at hrest
      exact hrest

/-- A name stands for what it stood for, or for the object of a part. -/
theorem get?_placeAll_cases (sp : Space) {ps : List Part} {name : String} {id : ObjectId}
    (h : (sp.placeAll above ps).frames.get? name = some id) :
    sp.frames.get? name = some id ∨
    ∃ k part, ps[k]? = some part ∧ part.isFrame = true ∧
      id = sp.scene.idAt (sp.scene.size + k) := by
  induction ps generalizing sp with
  | nil => exact .inl h
  | cons first ps ih =>
    rcases ih (sp.place first (above first)) h with hold | ⟨k, part, hpart, hframe, hid⟩
    · -- The name was there when the rest was placed, so it may be that of the first part.
      rw [frames_place] at hold
      split at hold
      · next hfirst =>
        rw [Frames.get?_register] at hold
        split at hold
        · exact .inr ⟨0, first, rfl, hfirst, (Option.some.inj hold).symm⟩
        · exact .inl hold
      · exact .inl hold
    · rw [idAt_place] at hid
      exact .inr ⟨k + 1, part, hpart, hframe, hid⟩

/-- What spins was spinning, or is the object of a part that spins. -/
theorem mem_spins_placeAll (sp : Space) {ps : List Part} {e : ObjectId × Spin}
    (h : e ∈ (sp.placeAll above ps).frames.spins) :
    e ∈ sp.frames.spins ∨
    ∃ k part, ps[k]? = some part ∧ part.spin = some e.2 ∧
      e.1 = sp.scene.idAt (sp.scene.size + k) := by
  induction ps generalizing sp with
  | nil => exact .inl h
  | cons first ps ih =>
    rcases ih (sp.place first (above first)) h with hold | ⟨k, part, hpart, hspin, hid⟩
    · rw [frames_place] at hold
      split at hold
      · rcases Frames.mem_spins_register.mp hold with hold | ⟨hspin, hid⟩
        · exact .inl hold
        · exact .inr ⟨0, first, rfl, hspin, hid⟩
      · exact .inl hold
    · rw [idAt_place] at hid
      exact .inr ⟨k + 1, part, hpart, hspin, hid⟩

end Space

/-! ## Section 4: Soundness -/

namespace Scene

theorem Sound.place {sp : Space} (sound : sp.scene.Sound) (part : Part) {parent : Option ObjectId}
    (hparent : ∀ p, parent = some p → sp.scene.has p = true) :
    (sp.place part parent).scene.Sound := by
  rw [Space.scene_place]
  refine Sound.attachAll ?_ _ _
  exact (sound.createChild part.name fun p hp => .inl (hparent p hp)).setTransform _ _ _ _

/-- **Parts may hang below what is there before them.** -/
theorem Sound.placeAll {above : Part → Option ObjectId} {sp : Space} (sound : sp.scene.Sound)
    {ps : List Part}
    (earlier : ∀ k part p, ps[k]? = some part → above part = some p →
      p.scene = sp.scene.tag ∧ p.index < sp.scene.size + k) :
    (sp.placeAll above ps).scene.Sound := by
  induction ps generalizing sp with
  | nil => exact sound
  | cons first ps ih =>
    refine ih (sound.place first ?_) ?_
    · intro p hp
      exact (has_iff _ p).mpr (earlier 0 first p rfl hp)
    · -- The rest is placed when there is one object more.
      intro k part p hpart hp
      have hlater := earlier (k + 1) part p hpart hp
      rw [Space.tag_place, Space.size_place]
      refine ⟨hlater.1, ?_⟩
      have := hlater.2
      omega

end Scene

end Planetarium

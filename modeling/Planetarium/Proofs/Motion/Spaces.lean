import Planetarium.Motion.Space
import Planetarium.Proofs.Outcomes
import Planetarium.Proofs.Scene.Sparing

/-! # Spaces

    Frames are found by their names, and an object can be hung below whatever
    a name stands for.

    * `Frames.reparent_of_get?`: a named frame never breaks the contract of
      reparenting.
    * `Space.Reread`: spaces that differ by reads.
    * The views of a space in which a frame has been created. -/

namespace Planetarium

/-! ## Section 1: Hanging an object at the place of a frame -/

namespace Scene

/-- The scene with an object hung below a frame, at the frame's own place. -/
def rehang (s : Scene) (node frame : ObjectId) : Scene :=
  (s.setParent node (some frame)).setTranslation node .zero

section rehang
variable (s : Scene) (node frame x : ObjectId)

@[simp] theorem tag_rehang : (s.rehang node frame).tag = s.tag := by
  simp [rehang, setTranslation]

@[simp] theorem size_rehang : (s.rehang node frame).size = s.size := by
  simp [rehang, setTranslation]

@[simp] theorem has_rehang : (s.rehang node frame).has x = s.has x := by
  simp [rehang, setTranslation]

theorem parentOf?_rehang {s : Scene} {node : ObjectId} (h : s.has node = true) :
    (s.rehang node frame).parentOf? x = if x = node then some frame else s.parentOf? x := by
  simp [rehang, setTranslation, parentOf?_setParent, h]

theorem poseOf?_rehang :
    (s.rehang node frame).poseOf? x =
      if x = node then (s.poseOf? x).map ({ · with translation := .zero }) else s.poseOf? x := by
  rw [rehang, poseOf?_setTranslation, poseOf?_setParent]

variable {s node frame}

theorem spares_rehang {K : ObjectId → Prop} (hnode : ¬ K node) : s.Spares K (s.rehang node frame) :=
  (spares_setParent hnode _).trans (spares_setTranslation hnode _)

/-- The frame must not hang below the object. -/
theorem Sound.rehang (sound : s.Sound) (hframe : s.has frame = true)
    (houtside : ¬ s.Within frame node) : (s.rehang node frame).Sound := by
  refine (sound.setParent ?_ ?_).setTranslation _ _
  · intro p hp
    exact .inl (Option.some.inj hp ▸ hframe)
  · intro _ p hp
    exact Option.some.inj hp ▸ houtside

end rehang

end Scene

/-! ## Section 2: Names -/

theorem Directory.mem_entries_of_get? {κ α : Type} [DecidableEq κ] {d : Directory κ α} {k : κ}
    {v : α} (h : d.get? k = some v) : (k, v) ∈ d.entries := by
  unfold Directory.get? at h
  obtain ⟨e, he, rfl⟩ := Option.map_eq_some_iff.mp h
  have hkey : e.1 = k := by simpa using List.find?_some he
  exact hkey ▸ List.mem_of_find?_eq_some he

theorem Directory.mem_values_of_get? {κ α : Type} [DecidableEq κ] {d : Directory κ α} {k : κ}
    {v : α} (h : d.get? k = some v) : v ∈ d.values :=
  List.mem_map_of_mem (Directory.mem_entries_of_get? h)

namespace Frames
variable {fs : Frames} {name : String} {id : ObjectId}

theorem contains_of_get? (h : fs.get? name = some id) : fs.contains id = true :=
  List.any_eq_true.mpr ⟨id, Directory.mem_values_of_get? h, by simp⟩

section reparent
variable (build : Build) (s : Scene) (node : ObjectId)

theorem reparent_of_contains (h : fs.contains id = true) :
    fs.reparent build s node id = .done (s.rehang node id) := by
  unfold reparent
  rw [if_pos h]
  rfl

theorem reparent_of_not_contains (h : ¬ fs.contains id = true) :
    fs.reparent build s node id = .violated build s (.notAFrame id) := by
  unfold reparent
  rw [if_neg h]

/-- **A named frame can be hung below.** -/
theorem reparent_of_get? (h : fs.get? name = some id) :
    fs.reparent build s node id = .done (s.rehang node id) :=
  reparent_of_contains build s node (contains_of_get? h)

theorem reparentNamed_of_get? (h : fs.get? name = some id) :
    fs.reparentNamed build s node name = .done (s.rehang node id) := by
  unfold reparentNamed
  rw [h]
  exact reparent_of_get? build s node h

theorem reparentNamed_of_unknown (h : fs.get? name = none) :
    fs.reparentNamed build s node name = .violated build s (.unknownFrame name) := by
  unfold reparentNamed
  rw [h]

/-- Only a frame is hung below, whatever becomes of a broken contract. -/
theorem state_reparent :
    (fs.reparent build s node id).state = if fs.contains id then s.rehang node id else s := by
  by_cases h : fs.contains id = true
  · rw [reparent_of_contains build s node h, if_pos h]
    rfl
  · rw [reparent_of_not_contains build s node h, if_neg h, Outcome.state_violated]

theorem state_reparentNamed :
    (fs.reparentNamed build s node name).state =
      match fs.get? name with
      | some id => s.rehang node id
      | none => s := by
  cases h : fs.get? name with
  | some id => rw [reparentNamed_of_get? build s node h]; rfl
  | none => rw [reparentNamed_of_unknown build s node h, Outcome.state_violated]

end reparent

theorem get?_register (fs : Frames) (name name' : String) (id : ObjectId) (spin : Option Spin) :
    (fs.register name id spin).get? name' = if name = name' then some id else fs.get? name' :=
  fs.named.get?_insert name name' id

theorem mem_spins_register {e : ObjectId × Spin} {spin : Option Spin} :
    e ∈ (fs.register name id spin).spins ↔ e ∈ fs.spins ∨ (spin = some e.2 ∧ e.1 = id) := by
  obtain ⟨x, turn⟩ := e
  cases spin with
  | none => simp [register]
  | some other => simp [register, and_comm, eq_comm]

end Frames

/-! ## Section 3: Turning -/

namespace Scene
variable (fs : Frames) (s : Scene) (seconds : Float32) (x : ObjectId)

theorem has_advance : (fs.advance s seconds).has x = s.has x :=
  foldl_keeps (·.has x) (fun _ _ => has_move _ _ _ _) fs.spins s

theorem parentOf?_advance : (fs.advance s seconds).parentOf? x = s.parentOf? x :=
  foldl_keeps (·.parentOf? x) (fun _ _ => parentOf?_move _ _ _ _) fs.spins s

variable {s}

theorem Sound.advance (sound : s.Sound) : (fs.advance s seconds).Sound := by
  unfold Frames.advance
  generalize fs.spins = spins
  induction spins generalizing s with
  | nil => exact sound
  | cons e spins ih => exact ih (sound.rotate e.1 _)

/-- What does not spin is left alone. -/
theorem spares_advance {K : ObjectId → Prop} (fs : Frames) (h : ∀ e ∈ fs.spins, ¬ K e.1)
    (seconds : Float32) : s.Spares K (fs.advance s seconds) :=
  foldl_relates (R := Spares K) (.refl K) .trans (fun e he _ => spares_rotate (h e he) _) s

end Scene

/-! ## Section 4: Reads in a space -/

namespace Space

/-- Two spaces that differ in the matrices that are kept at most. -/
structure Reread (sp sp' : Space) : Prop where
  scene : sp.scene.Reread sp'.scene
  frames : sp'.frames = sp.frames

theorem Reread.refl (sp : Space) : sp.Reread sp := ⟨.refl sp.scene, rfl⟩

theorem Reread.trans {a b c : Space} (h : a.Reread b) (h' : b.Reread c) : a.Reread c :=
  ⟨h.scene.trans h'.scene, h'.frames.trans h.frames⟩

theorem reread_worldPosition (sp : Space) (id : ObjectId) : sp.Reread (sp.worldPosition id).2 :=
  ⟨sp.scene.reread_worldPosition id, rfl⟩

/-- What a read gives in a sound scene. -/
theorem worldPosition_fst {sp : Space} (sound : sp.scene.Sound) (id : ObjectId) :
    (sp.worldPosition id).1 = sp.scene.freshPosition id := sound.worldPosition_fst id

/-- Reads do not change what later reads give. -/
theorem Reread.freshPosition {sp sp' : Space} (h : sp.Reread sp') (sound : sp.scene.Sound)
    (id : ObjectId) : sp'.scene.freshPosition id = sp.scene.freshPosition id :=
  congrArg Mat4.originImage (h.scene.alike.freshMatrix sound.acyclic id)

theorem sound_worldPosition {sp : Space} (sound : sp.scene.Sound) (id : ObjectId) :
    (sp.worldPosition id).2.scene.Sound := sound.worldPosition_snd id

/-! ## Section 5: New frames -/

section addFrame
variable (sp : Space) (name : String) (parent : Option ObjectId) (offset : Vec3)
  (spin : Option Spin) (x : ObjectId)

@[simp] theorem addFrame_fst :
    (sp.addFrame name parent offset spin).1 = sp.scene.idAt sp.scene.size :=
  sp.scene.createChild_fst parent name

theorem scene_addFrame :
    (sp.addFrame name parent offset spin).2.scene =
      (sp.scene.createChild parent name).2.setTranslation (sp.scene.idAt sp.scene.size) offset := by
  unfold addFrame
  simp

@[simp] theorem frames_addFrame :
    (sp.addFrame name parent offset spin).2.frames =
      sp.frames.register name (sp.scene.idAt sp.scene.size) spin := by
  unfold addFrame
  simp

@[simp] theorem tag_addFrame :
    (sp.addFrame name parent offset spin).2.scene.tag = sp.scene.tag := by
  rw [scene_addFrame]
  simp [Scene.setTranslation]

@[simp] theorem size_addFrame :
    (sp.addFrame name parent offset spin).2.scene.size = sp.scene.size + 1 := by
  rw [scene_addFrame]
  simp [Scene.setTranslation]

theorem has_addFrame :
    (sp.addFrame name parent offset spin).2.scene.has x = true ↔
      sp.scene.has x = true ∨ x = sp.scene.idAt sp.scene.size := by
  rw [scene_addFrame, Scene.setTranslation, Scene.has_move]
  exact sp.scene.has_createChild parent name x

theorem has_addFrame_fst :
    (sp.addFrame name parent offset spin).2.scene.has (sp.addFrame name parent offset spin).1 =
      true := by
  rw [has_addFrame, addFrame_fst]
  exact .inr rfl

theorem parentOf?_addFrame :
    (sp.addFrame name parent offset spin).2.scene.parentOf? x =
      if x = sp.scene.idAt sp.scene.size then parent else sp.scene.parentOf? x := by
  rw [scene_addFrame, Scene.setTranslation, Scene.parentOf?_move]
  exact sp.scene.parentOf?_createChild parent name x

theorem poseOf?_addFrame :
    (sp.addFrame name parent offset spin).2.scene.poseOf? x =
      if x = sp.scene.idAt sp.scene.size then some ⟨offset, .identity, .one⟩
      else sp.scene.poseOf? x := by
  rw [scene_addFrame, Scene.poseOf?_setTranslation, Scene.poseOf?_createChild]
  split <;> rfl

theorem extends_addFrame : sp.scene.Extends (sp.addFrame name parent offset spin).2.scene := by
  rw [scene_addFrame]
  exact Scene.Spares.trans (sp.scene.extends_createChild parent name)
    (Scene.spares_setTranslation sp.scene.not_has_idAt_size offset)

end addFrame

end Space

theorem Scene.Sound.addFrame {sp : Space} (sound : sp.scene.Sound) (name : String)
    {parent : Option ObjectId} (hparent : ∀ p, parent = some p → sp.scene.has p = true)
    (offset : Vec3) (spin : Option Spin) : (sp.addFrame name parent offset spin).2.scene.Sound := by
  rw [Space.scene_addFrame]
  exact (sound.createChild name fun p hp => .inl (hparent p hp)).setTranslation _ _

end Planetarium

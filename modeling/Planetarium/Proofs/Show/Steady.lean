import Planetarium.Proofs.Catalog.Procedures
import Planetarium.Proofs.Motion.Spaces
import Planetarium.Proofs.Scene.Sparing
import Planetarium.Show.Stage

/-! # What messages can reach

    Some objects of a stage make up a system that messages must not touch: all
    that the mission watches and moves is among them.  Messages move the
    camera, hang it on frames of the system, change materials, and build and
    move objects of their own.

    * `Stage.Steady A`: the system `A` is closed upward, and the camera, its
      mount and the named objects are outside of it.
    * `Stage.Spares A`: the objects of `A` are left alone, and so are the
      frames.
    * `Steady.dispatch`: every message keeps a stage steady and spares its
      system. -/

namespace Planetarium

namespace Camera

/-- The scene after the mount has been hung below a frame. -/
def placed (c : Camera) (s : Scene) (frame : ObjectId) (offset : Vec3) : Scene :=
  (s.rehang c.mount frame).setTranslation c.mount offset

/-- The scene in which the camera rides along. -/
def riding (c : Camera) (s : Scene) (frame : ObjectId) (offset : Vec3) : Scene :=
  (c.placed s frame offset).rehang c.node c.mount

/-- **What a ride-along keeps.**  The mount is hung below a frame and moved, and
    the camera is hung below the mount.  What each of these steps keeps is kept,
    wherever the ride-along is stopped, and whichever steps cannot be made. -/
theorem rideAlong_keeps (c : Camera) (build : Build) (sp : Space) (name : String) (offset : Vec3)
    {P : Scene → Prop} (start : P sp.scene)
    (hung : ∀ {frame}, sp.frames.get? name = some frame → P (sp.scene.rehang c.mount frame))
    (moved : ∀ {s}, P s → P (s.setTranslation c.mount offset))
    (below : ∀ {s}, P s → P (s.rehang c.node c.mount)) :
    P (c.rideAlong build sp name offset).state.2 := by
  unfold rideAlong
  simp only [Outcome.state_map]
  apply Outcome.keeps_andThen
  · rw [Frames.state_reparentNamed]
    cases hframe : sp.frames.get? name with
    | none => exact start
    | some frame => exact hung hframe
  · intro s hs
    rw [Frames.state_reparent]
    split
    · exact below (moved hs)
    · exact moved hs

end Camera

namespace Scene

theorem alike_dressSky (b : Backdrop) (s : Scene) : s.Alike (b.dressSky s) := by
  unfold Backdrop.dressSky
  split
  · exact (alike_clearComponents s _).trans (alike_attach _ _ _)
  · exact alike_clearComponents s _

theorem Sound.dressSky {s : Scene} (sound : s.Sound) (b : Backdrop) : (b.dressSky s).Sound := by
  unfold Backdrop.dressSky
  split
  · exact (sound.clearComponents _).attach _ _
  · exact sound.clearComponents _

end Scene

/-- No code of a table lets the camera ride along with its own mount. -/
def Controls.Grounded (controls : Controls) : Prop :=
  ∀ code name offset, controls.get? code = some (.rideAlong name offset) →
    name ≠ Camera.mountFrame

namespace Stage

/-- Tokens at fault are reported. -/
theorem author_of_parse_error (st : Stage) {verb : Verb} {tokens : List String} {fault : ParseError}
    (h : Instruction.parse verb tokens = .error fault) :
    st.author verb tokens = .error (.parse fault) := by
  unfold author
  rw [h]
  rfl

/-- What has been read is carried out. -/
theorem author_of_parse_ok (st : Stage) {verb : Verb} {tokens : List String}
    {instruction : Instruction} (h : Instruction.parse verb tokens = .ok instruction) :
    st.author verb tokens =
      match st.workshop.apply instruction with
      | .ok (entries, w) => .ok (entries, st.withWorkshop w)
      | .error missing => .error (.notFound missing) := by
  unfold author
  rw [h]
  cases hresult : st.workshop.apply instruction <;>
    simp [Except.mapError, bind, Except.bind, pure, Except.pure, hresult]

/-- What is read, and what is carried out. -/
theorem author_eq_ok {st st' : Stage} {verb : Verb} {tokens : List String} {entries : List Entry}
    (h : st.author verb tokens = .ok (entries, st')) :
    ∃ instruction w, Instruction.parse verb tokens = .ok instruction ∧
      st.workshop.apply instruction = .ok (entries, w) ∧ st' = st.withWorkshop w := by
  cases hparse : Instruction.parse verb tokens with
  | error cause =>
    rw [st.author_of_parse_error hparse] at h
    cases h
  | ok instruction =>
    rw [st.author_of_parse_ok hparse] at h
    cases happly : st.workshop.apply instruction with
    | error cause =>
      rw [happly] at h
      cases h
    | ok result =>
      rw [happly] at h
      obtain ⟨rfl, rfl⟩ := Prod.mk.inj (Except.ok.inj h)
      exact ⟨instruction, result.2, rfl, happly, rfl⟩

/-! ## Section 1: Steady stages -/

/-- **A stage with a system of its own.**  `A` are the objects of the system. -/
structure Steady (A : ObjectId → Prop) (st : Stage) : Prop where
  sound : st.space.scene.Sound
  known : ∀ {x}, A x → st.space.scene.has x = true
  closed : ∀ {c p}, A c → st.space.scene.parentOf? c = some p → A p
  /-- Every frame but the mount belongs to the system. -/
  framed : ∀ {name frame}, st.space.frames.get? name = some frame → name ≠ Camera.mountFrame →
    A frame
  mounted : st.space.frames.get? Camera.mountFrame = some st.camera.mount
  node_known : st.space.scene.has st.camera.node = true
  mount_known : st.space.scene.has st.camera.mount = true
  node_apart : ¬ A st.camera.node
  mount_apart : ¬ A st.camera.mount
  node_ne_mount : st.camera.node ≠ st.camera.mount
  node_above : ∀ {p}, st.space.scene.parentOf? st.camera.node = some p → p = st.camera.mount
  mount_above : ∀ {p}, st.space.scene.parentOf? st.camera.mount = some p → A p
  /-- Named objects are in the scene, and neither the system nor the camera. -/
  named : ∀ {name id}, st.catalog.nodes.get? name = some id →
    st.space.scene.has id = true ∧ ¬ A id ∧ id ≠ st.camera.node ∧ id ≠ st.camera.mount

/-- **What a message leaves alone:** the system, the frames, and which objects
    the camera consists of. -/
structure Spares (A : ObjectId → Prop) (st st' : Stage) : Prop where
  scene : st.space.scene.Spares A st'.space.scene
  frames : st'.space.frames = st.space.frames
  node : st'.camera.node = st.camera.node
  mount : st'.camera.mount = st.camera.mount

theorem Spares.refl (A : ObjectId → Prop) (st : Stage) : st.Spares A st :=
  ⟨.refl A st.space.scene, rfl, rfl, rfl⟩

theorem Spares.trans {A : ObjectId → Prop} {st st' st'' : Stage} (h : st.Spares A st')
    (h' : st'.Spares A st'') : st.Spares A st'' where
  scene := h.scene.trans h'.scene
  frames := h'.frames.trans h.frames
  node := h'.node.trans h.node
  mount := h'.mount.trans h.mount

namespace Steady
variable {A : ObjectId → Prop} {st st' : Stage}

/-- What has to be shown of a change that keeps the frames and the camera. -/
theorem of_closed (h : st.Steady A)
    (has : ∀ {x}, st.space.scene.has x = true → st'.space.scene.has x = true)
    (frames : st'.space.frames = st.space.frames) (node : st'.camera.node = st.camera.node)
    (mount : st'.camera.mount = st.camera.mount) (sound : st'.space.scene.Sound)
    (closed : ∀ {c p}, A c → st'.space.scene.parentOf? c = some p → A p)
    (node_above : ∀ {p}, st'.space.scene.parentOf? st.camera.node = some p → p = st.camera.mount)
    (mount_above : ∀ {p}, st'.space.scene.parentOf? st.camera.mount = some p → A p)
    (named : ∀ {name id}, st'.catalog.nodes.get? name = some id →
      st'.space.scene.has id = true ∧ ¬ A id ∧ id ≠ st.camera.node ∧ id ≠ st.camera.mount) :
    st'.Steady A := by
  constructor
  · exact sound
  · exact fun hx => has (h.known hx)
  · exact closed
  · intro name frame hframe
    rw [frames] at hframe
    exact h.framed hframe
  · rw [frames, mount]
    exact h.mounted
  · -- What is said of the camera is said of the same two objects.
    rw [node]
    exact has h.node_known
  · rw [mount]
    exact has h.mount_known
  · rw [node]
    exact h.node_apart
  · rw [mount]
    exact h.mount_apart
  · rw [node, mount]
    exact h.node_ne_mount
  · rw [node, mount]
    exact node_above
  · rw [mount]
    exact mount_above
  · rw [node, mount]
    exact named

/-- What has to be shown of a message that spares the system. -/
theorem of_spares (h : st.Steady A) (spares : st.Spares A st') (sound : st'.space.scene.Sound)
    (node_above : ∀ {p}, st'.space.scene.parentOf? st.camera.node = some p → p = st.camera.mount)
    (mount_above : ∀ {p}, st'.space.scene.parentOf? st.camera.mount = some p → A p)
    (named : ∀ {name id}, st'.catalog.nodes.get? name = some id →
      st'.space.scene.has id = true ∧ ¬ A id ∧ id ≠ st.camera.node ∧ id ≠ st.camera.mount) :
    st'.Steady A := by
  refine h.of_closed spares.scene.has spares.frames spares.node spares.mount sound ?_ node_above
    mount_above named
  intro c p hc hp
  rw [spares.scene.parentOf? hc] at hp
  exact h.closed hc hp

/-- Nothing is hung elsewhere: the space may turn, be read, or be measured. -/
theorem withSpace (h : st.Steady A) {sp : Space} (sound : sp.scene.Sound)
    (frames : sp.frames = st.space.frames)
    (has : ∀ {x}, st.space.scene.has x = true → sp.scene.has x = true)
    (links : ∀ x, sp.scene.parentOf? x = st.space.scene.parentOf? x) :
    ({ st with space := sp } : Stage).Steady A := by
  refine h.of_closed has frames rfl rfl sound ?_ ?_ ?_ ?_
  · intro c p hc hp
    rw [links] at hp
    exact h.closed hc hp
  · intro p hp
    rw [links] at hp
    exact h.node_above hp
  · intro p hp
    rw [links] at hp
    exact h.mount_above hp
  · intro name id hid
    obtain ⟨hknown, hapart⟩ := h.named hid
    exact ⟨has hknown, hapart⟩

/-- Changes that hang nothing elsewhere, create nothing and name nothing. -/
theorem of_links (h : st.Steady A) (spares : st.Spares A st') (sound : st'.space.scene.Sound)
    (links : ∀ x, st'.space.scene.parentOf? x = st.space.scene.parentOf? x)
    (nodes : st'.catalog.nodes = st.catalog.nodes) : st'.Steady A := by
  refine h.of_spares spares sound ?_ ?_ ?_
  · intro p hp
    rw [links] at hp
    exact h.node_above hp
  · intro p hp
    rw [links] at hp
    exact h.mount_above hp
  · intro name id hid
    rw [nodes] at hid
    obtain ⟨hknown, hapart⟩ := h.named hid
    exact ⟨spares.scene.has hknown, hapart⟩

/-! ## Section 2: Control codes -/

theorem step (h : st.Steady A) (heading : Heading) :
    (st.withScene (st.camera.step st.space.scene heading)).Steady A ∧
    st.Spares A (st.withScene (st.camera.step st.space.scene heading)) := by
  have hspares : st.Spares A (st.withScene (st.camera.step st.space.scene heading)) :=
    ⟨(Scene.spares_setRotation h.node_apart _).trans (Scene.spares_translateLocal h.node_apart _),
      rfl, rfl, rfl⟩
  refine ⟨h.of_links hspares ((h.sound.setRotation _ _).translateLocal _ _) ?_ rfl, hspares⟩
  intro x
  show (st.camera.step st.space.scene heading).parentOf? x = _
  simp [Camera.step, Scene.translateLocal, Scene.setRotation]

theorem settle (h : st.Steady A) :
    (st.withScene (st.camera.settle st.space.scene)).Steady A ∧
    st.Spares A (st.withScene (st.camera.settle st.space.scene)) := by
  have hspares : st.Spares A (st.withScene (st.camera.settle st.space.scene)) :=
    ⟨Scene.spares_setRotation h.node_apart _, rfl, rfl, rfl⟩
  refine ⟨h.of_links hspares (h.sound.setRotation _ _) ?_ rfl, hspares⟩
  intro x
  exact Scene.parentOf?_move _ _ _ _

theorem turn (h : st.Steady A) (degrees : Float32) :
    (st.withCamera (st.camera.turn st.space.scene degrees)).Steady A ∧
    st.Spares A (st.withCamera (st.camera.turn st.space.scene degrees)) := by
  have hspares : st.Spares A (st.withCamera (st.camera.turn st.space.scene degrees)) :=
    ⟨Scene.spares_setRotation h.node_apart _, rfl, rfl, rfl⟩
  refine ⟨h.of_links hspares (h.sound.setRotation _ _) ?_ rfl, hspares⟩
  intro x
  exact Scene.parentOf?_move _ _ _ _

/-- Materials are components. -/
theorem withBackdrop (h : st.Steady A) {b : Backdrop} {s : Scene}
    (hs : s.Sound) (halike : st.space.scene.Alike s) :
    (st.withBackdrop (b, s)).Steady A ∧ st.Spares A (st.withBackdrop (b, s)) := by
  have hspares : st.Spares A (st.withBackdrop (b, s)) := ⟨.of_alike halike, rfl, rfl, rfl⟩
  exact ⟨h.of_links hspares hs halike.parentOf? rfl, hspares⟩

/-- Riding along works for every frame that has a name. -/
theorem rideAlong_eq (h : st.Steady A) (build : Build) {name : String} {frame : ObjectId}
    (hframe : st.space.frames.get? name = some frame) (offset : Vec3) :
    st.camera.rideAlong build st.space name offset =
      .done (st.camera.level, st.camera.riding st.space.scene frame offset) := by
  unfold Camera.rideAlong
  simp only
  have hmounted : st.space.frames.get? Camera.mountFrame = some st.camera.level.mount := h.mounted
  rw [Frames.reparentNamed_of_get? build _ _ hframe, Outcome.done_andThen,
    Frames.reparent_of_get? build _ _ hmounted]
  rfl

/-- The mount may be hung below every object of the system. -/
theorem hangMount (h : st.Steady A) {frame : ObjectId} (hinside : A frame) :
    (st.withScene (st.space.scene.rehang st.camera.mount frame)).Steady A ∧
    st.Spares A (st.withScene (st.space.scene.rehang st.camera.mount frame)) := by
  -- The mount is not above any object of the system.
  have houtside : ¬ st.space.scene.Within frame st.camera.mount :=
    Scene.not_within_of_closed (fun c p hc hp => h.closed hc hp) hinside h.mount_apart
  have hspares : st.Spares A (st.withScene (st.space.scene.rehang st.camera.mount frame)) :=
    ⟨Scene.spares_rehang h.mount_apart, rfl, rfl, rfl⟩
  refine ⟨h.of_spares hspares (h.sound.rehang (h.known hinside) houtside) ?_ ?_ ?_, hspares⟩
  · intro p hp
    replace hp : (st.space.scene.rehang st.camera.mount frame).parentOf? _ = some p := hp
    rw [Scene.parentOf?_rehang _ _ h.mount_known, if_neg h.node_ne_mount] at hp
    exact h.node_above hp
  · intro p hp
    replace hp : (st.space.scene.rehang st.camera.mount frame).parentOf? _ = some p := hp
    rw [Scene.parentOf?_rehang _ _ h.mount_known, if_pos rfl] at hp
    exact Option.some.inj hp ▸ hinside
  · intro name id hid
    obtain ⟨hknown, hapart⟩ := h.named hid
    exact ⟨hspares.scene.has hknown, hapart⟩

theorem moveMount (h : st.Steady A) (offset : Vec3) :
    (st.withScene (st.space.scene.setTranslation st.camera.mount offset)).Steady A ∧
    st.Spares A (st.withScene (st.space.scene.setTranslation st.camera.mount offset)) := by
  have hspares : st.Spares A
      (st.withScene (st.space.scene.setTranslation st.camera.mount offset)) :=
    ⟨Scene.spares_setTranslation h.mount_apart offset, rfl, rfl, rfl⟩
  refine ⟨h.of_links hspares (h.sound.setTranslation _ _) ?_ rfl, hspares⟩
  intro x
  exact Scene.parentOf?_move _ _ _ _

/-- The camera may always be hung below its mount. -/
theorem hangNode (h : st.Steady A) :
    (st.withScene (st.space.scene.rehang st.camera.node st.camera.mount)).Steady A ∧
    st.Spares A (st.withScene (st.space.scene.rehang st.camera.node st.camera.mount)) := by
  -- The camera is above nothing at all, the mount included.
  have houtside : ¬ st.space.scene.Within st.camera.mount st.camera.node := by
    refine Scene.not_within_of_closed (U := fun x => A x ∨ x = st.camera.mount) ?_ (.inr rfl) ?_
    · intro c p hc hp
      obtain hc | rfl := hc
      · exact .inl (h.closed hc hp)
      · exact .inl (h.mount_above hp)
    · intro hin
      obtain hin | hin := hin
      · exact h.node_apart hin
      · exact h.node_ne_mount hin
  have hspares : st.Spares A
      (st.withScene (st.space.scene.rehang st.camera.node st.camera.mount)) :=
    ⟨Scene.spares_rehang h.node_apart, rfl, rfl, rfl⟩
  refine ⟨h.of_spares hspares (h.sound.rehang h.mount_known houtside) ?_ ?_ ?_, hspares⟩
  · intro p hp
    replace hp : (st.space.scene.rehang st.camera.node st.camera.mount).parentOf? _ = some p := hp
    rw [Scene.parentOf?_rehang _ _ h.node_known, if_pos rfl] at hp
    exact (Option.some.inj hp).symm
  · intro p hp
    replace hp : (st.space.scene.rehang st.camera.node st.camera.mount).parentOf? _ = some p := hp
    rw [Scene.parentOf?_rehang _ _ h.node_known, if_neg h.node_ne_mount.symm] at hp
    exact h.mount_above hp
  · intro name id hid
    obtain ⟨hknown, hapart⟩ := h.named hid
    exact ⟨hspares.scene.has hknown, hapart⟩

/-- A ride-along hangs the mount and the camera elsewhere, and nothing else. -/
theorem rideAlong (h : st.Steady A) {name : String} (hname : name ≠ Camera.mountFrame)
    (build : Build) (offset : Vec3) :
    (st.withCamera (st.camera.rideAlong build st.space name offset).state).Steady A ∧
    st.Spares A (st.withCamera (st.camera.rideAlong build st.space name offset).state) := by
  have hscene : (st.withScene (st.camera.rideAlong build st.space name offset).state.2).Steady A ∧
      st.Spares A
        (st.withScene (st.camera.rideAlong build st.space name offset).state.2) := by
    refine st.camera.rideAlong_keeps build st.space name offset
      (P := fun s => (st.withScene s).Steady A ∧ st.Spares A (st.withScene s)) ?_ ?_ ?_ ?_
    · exact ⟨h, .refl A st⟩
    · exact fun hframe => h.hangMount (h.framed hframe hname)
    · intro s hs
      have hmoved := hs.1.moveMount offset
      exact ⟨hmoved.1, hs.2.trans hmoved.2⟩
    · intro s hs
      have hhung := hs.1.hangNode
      exact ⟨hhung.1, hs.2.trans hhung.2⟩
  -- A leveled camera consists of the same objects.
  obtain ⟨hsteady, hspares⟩ := hscene
  exact ⟨hsteady.of_links ⟨.refl A _, rfl, rfl, rfl⟩ hsteady.sound (fun _ => rfl) rfl,
    ⟨hspares.scene, hspares.frames, rfl, rfl⟩⟩

/-- Every effect, as long as no code lets the camera ride along with its mount. -/
theorem apply (h : st.Steady A) (build : Build) {effect : Effect}
    (hride : ∀ name offset, effect = .rideAlong name offset → name ≠ Camera.mountFrame) :
    (st.apply build effect).state.Steady A ∧ st.Spares A (st.apply build effect).state := by
  cases effect with
  | move heading => exact h.step heading
  | turn degrees => exact h.turn degrees
  | rideAlong name offset => exact h.rideAlong (hride name offset rfl) build offset
  | togglePause =>
    have hspares : st.Spares A { st with paused := !st.paused } := ⟨.refl A _, rfl, rfl, rfl⟩
    exact ⟨h.of_links hspares h.sound (fun _ => rfl) rfl, hspares⟩
  | toggleSky => exact h.withBackdrop (h.sound.dressSky _) (Scene.alike_dressSky _ _)
  | toggleSunMaterial =>
    exact h.withBackdrop ((h.sound.clearComponents _).attach _ _)
      ((Scene.alike_clearComponents _ _).trans (Scene.alike_attach _ _ _))
  | toggleSkyMaterial => exact h.withBackdrop (h.sound.dressSky _) (Scene.alike_dressSky _ _)

/-! ## Section 3: Instructions -/

/-- What is in the system or makes up the camera is not new. -/
theorem ne_idAt_size (h : st.Steady A) :
    ¬ A (st.space.scene.idAt st.space.scene.size) ∧
    st.space.scene.idAt st.space.scene.size ≠ st.camera.node ∧
    st.space.scene.idAt st.space.scene.size ≠ st.camera.mount := by
  have hnew := st.space.scene.not_has_idAt_size
  refine ⟨fun hA => hnew (h.known hA), ?_, ?_⟩
  · intro heq
    exact hnew (heq ▸ h.node_known)
  · intro heq
    exact hnew (heq ▸ h.mount_known)

/-- A new object gets a name, and the camera still hangs where it hung. -/
theorem createObject (h : st.Steady A) (spec : ObjectSpec) (position : Vec3) :
    (st.withWorkshop (st.workshop.createObject spec position).2.2).Steady A ∧
    st.Spares A (st.withWorkshop (st.workshop.createObject spec position).2.2) := by
  -- The new object is at the top, and nothing hangs below it.
  let s := st.space.scene
  let id := s.idAt s.size
  let s' := (((s.createChild none spec.name).2.setTransform id position
    (.ofEulerDegrees spec.rotation) spec.scale).attach id (.ofModel spec.model spec.material))
  have hscene : (st.workshop.createObject spec position).2.2.scene = s' := rfl
  have hnodes : (st.workshop.createObject spec position).2.2.catalog.nodes =
      st.catalog.nodes.insert spec.name id := rfl
  obtain ⟨hapart, hnode, hmount⟩ := h.ne_idAt_size
  have hspares : s.Spares A s' :=
    ((Scene.spares_createChild hapart none spec.name).trans
      (Scene.spares_setTransform hapart _ _ _)).trans (.of_alike (Scene.alike_attach _ _ _))
  have hsound : s'.Sound := by
    refine ((h.sound.createChild spec.name ?_).setTransform _ _ _ _).attach _ _
    intro p hp
    cases hp
  have hlinks : ∀ x, s'.parentOf? x = if x = id then none else s.parentOf? x := by
    intro x
    simp [s', Scene.setTransform, Scene.parentOf?_createChild, id]
  have hknown : s'.has id = true := by
    have hcreated : (s.createChild none spec.name).2.has id = true :=
      (Scene.has_createChild s none spec.name id).mpr (.inr rfl)
    rw [← Scene.isSome_poseOf?]
    simp only [s', Scene.poseOf?_attach, Scene.isSome_poseOf?, Scene.setTransform, Scene.has_move]
    exact hcreated
  have hstage : st.Spares A (st.withWorkshop (st.workshop.createObject spec position).2.2) :=
    ⟨hspares, rfl, rfl, rfl⟩
  refine ⟨h.of_spares hstage hsound ?_ ?_ ?_, hstage⟩
  · intro p hp
    replace hp : s'.parentOf? st.camera.node = some p := hp
    rw [hlinks, if_neg hnode.symm] at hp
    exact h.node_above hp
  · intro p hp
    replace hp : s'.parentOf? st.camera.mount = some p := hp
    rw [hlinks, if_neg hmount.symm] at hp
    exact h.mount_above hp
  · intro name x hx
    replace hx : (st.catalog.nodes.insert spec.name id).get? name = some x := hx
    rw [Directory.get?_insert] at hx
    split at hx
    · obtain rfl := Option.some.inj hx
      exact ⟨hknown, hapart, hnode, hmount⟩
    · obtain ⟨hold, hrest⟩ := h.named hx
      exact ⟨hspares.has hold, hrest⟩

/-- Every instruction that is carried out. -/
theorem instruct (h : st.Steady A) {instruction : Instruction} {entries : List Entry}
    {w : Workshop} (hw : st.workshop.apply instruction = .ok (entries, w)) :
    (st.withWorkshop w).Steady A ∧ st.Spares A (st.withWorkshop w) := by
  rcases st.workshop.apply_cases hw with
    ⟨spec, position, hresult⟩ | ⟨name, position, hresult⟩ | ⟨_, id, position, hnode, hresult⟩
  · obtain rfl := congrArg (·.2) hresult
    exact h.createObject spec position
  · obtain rfl := congrArg (·.2) hresult
    have hspares : st.Spares A (st.withWorkshop (st.workshop.createPoint name position)) :=
      ⟨.refl A _, rfl, rfl, rfl⟩
    exact ⟨h.of_links hspares h.sound (fun _ => rfl) rfl, hspares⟩
  · obtain rfl := congrArg (·.2) hresult
    -- Only a named object can be moved, and names are outside of the system.
    obtain ⟨_, hapart, _⟩ := h.named hnode
    have hspares : st.Spares A (st.withWorkshop
        { st.workshop with scene := st.workshop.scene.setTranslation id position }) :=
      ⟨Scene.spares_setTranslation hapart position, rfl, rfl, rfl⟩
    refine ⟨h.of_links hspares (h.sound.setTranslation id position) ?_ rfl, hspares⟩
    intro x
    exact Scene.parentOf?_move _ _ _ _

/-- An instruction that is carried out changes the workshop. -/
theorem author (h : st.Steady A) {verb : Verb} {tokens : List String} {entries : List Entry}
    (hst : st.author verb tokens = .ok (entries, st')) : st'.Steady A ∧ st.Spares A st' := by
  obtain ⟨instruction, w, _, happly, rfl⟩ := author_eq_ok hst
  exact h.instruct happly

/-! ## Section 4: Messages -/

/-- **Every message keeps a stage steady and spares its system.** -/
theorem dispatch (h : st.Steady A) (build : Build) {controls : Controls}
    (grounded : controls.Grounded) (message : Message) :
    (st.dispatch build controls message).state.Steady A ∧
    st.Spares A (st.dispatch build controls message).state := by
  unfold Stage.dispatch
  cases message with
  | authoring verb tokens =>
    simp only
    split
    · next hauthor => exact h.author hauthor
    · exact ⟨h, .refl A st⟩
  | control code =>
    simp only
    split
    · next effect heffect =>
      refine h.apply build ?_
      intro name offset hride
      exact grounded code name offset (hride ▸ heffect)
    · exact ⟨h, .refl A st⟩

end Steady

end Stage

end Planetarium

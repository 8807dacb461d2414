import Planetarium.Proofs.Scene.Searches
import Planetarium.Proofs.Show.Course

/-! # The scene of a show is a forest

    A regular simulation has a linked scene, so nothing hangs below itself.
    What is left to show is that no parent is ever missing: an object is only
    hung below frames and bodies, and these are in the scene.

    * `Steady.anchored_dispatch`, `Flight.anchored_update`: messages and updates
      of the mission keep every parent in the scene.
    * `forest_after`: the scene is a forest after every history, and all
      searches in it end. -/

namespace Planetarium

/-! ## Section 1: Frames -/

namespace Scene.Anchored
variable {s : Scene}

theorem rehang (h : s.Anchored) (node : ObjectId) {frame : ObjectId}
    (hframe : s.has frame = true) : (s.rehang node frame).Anchored :=
  (h.setParent node hframe).move node _

theorem advance (h : s.Anchored) (fs : Frames) (seconds : Float32) :
    (fs.advance s seconds).Anchored :=
  h.of_links (fun {x} hx => (has_advance fs s seconds x).trans hx)
    fun x => parentOf?_advance fs s seconds x

/-- The frames of a rig hang below one another. -/
theorem withRig {sp : Space} (h : sp.scene.Anchored) (rate : Float32) (center reach : Vec3) :
    (sp.withRig rate center reach).scene.Anchored := by
  intro c p hp
  rw [Space.parentOf?_withRig] at hp
  rw [Space.has_withRig]
  split_ifs at hp
  · exact .inr (Option.some.inj hp ▸ Rig.orbit_mem _)
  · exact .inr (Option.some.inj hp ▸ Rig.center_mem _)
  · exact .inl (h c p hp)

end Scene.Anchored

/-! ## Section 2: Messages -/

namespace Stage.Steady
variable {A : ObjectId → Prop} {st : Stage}

/-- Every name of a frame stands for an object of the scene. -/
theorem frame_known (h : st.Steady A) {name : String} {frame : ObjectId}
    (hframe : st.space.frames.get? name = some frame) : st.space.scene.has frame = true := by
  by_cases hname : name = Camera.mountFrame
  · rw [hname, h.mounted] at hframe
    exact Option.some.inj hframe ▸ h.mount_known
  · exact h.known (h.framed hframe hname)

theorem anchored_rideAlong (h : st.Steady A) (anchored : st.space.scene.Anchored)
    (build : Build) (name : String) (offset : Vec3) :
    (st.camera.rideAlong build st.space name offset).state.2.Anchored := by
  -- The camera is hung below the mount, so the mount has to stay in the scene.
  have hkept := st.camera.rideAlong_keeps build st.space name offset
    (P := fun s => s.Anchored ∧ s.has st.camera.mount = true) ⟨anchored, h.mount_known⟩ ?_ ?_ ?_
  · exact hkept.1
  · intro frame hframe
    rw [Scene.has_rehang]
    exact ⟨anchored.rehang _ (h.frame_known hframe), h.mount_known⟩
  · intro s hs
    rw [Scene.setTranslation, Scene.has_move]
    exact ⟨hs.1.move _ _, hs.2⟩
  · intro s hs
    rw [Scene.has_rehang]
    exact ⟨hs.1.rehang _ hs.2, hs.2⟩

theorem anchored_apply (h : st.Steady A) (anchored : st.space.scene.Anchored) (build : Build)
    (effect : Effect) : (st.apply build effect).state.space.scene.Anchored := by
  have hdressed : ∀ b : Backdrop, (b.dressSky st.space.scene).Anchored :=
    fun b => anchored.of_alike (Scene.alike_dressSky b _)
  cases effect with
  | move heading => exact (anchored.move _ _).move _ _
  | turn degrees => exact anchored.move _ _
  | rideAlong name offset => exact h.anchored_rideAlong anchored build name offset
  | togglePause => exact anchored
  | toggleSky => exact hdressed _
  | toggleSunMaterial =>
    exact anchored.of_alike
      ((Scene.alike_clearComponents _ _).trans (Scene.alike_attach _ _ _))
  | toggleSkyMaterial => exact hdressed _

end Stage.Steady

/-- Objects are created at the top and moved where they hang. -/
theorem Workshop.anchored_apply {w w' : Workshop} (anchored : w.scene.Anchored)
    {instruction : Instruction} {entries : List Entry}
    (hw : w.apply instruction = .ok (entries, w')) : w'.scene.Anchored := by
  have hcreate : ∀ spec position, (w.createObject spec position).2.2.scene.Anchored := by
    intro spec position
    have hcreated := anchored.createChild none spec.name (by simp)
    exact (hcreated.move _ _).of_alike (Scene.alike_attach _ _ _)
  rcases w.apply_cases hw with
    ⟨spec, position, h⟩ | ⟨_, _, h⟩ | ⟨_, id, position, _, h⟩
  · obtain rfl := congrArg (·.2) h
    exact hcreate spec position
  · obtain rfl := congrArg (·.2) h
    exact anchored
  · obtain rfl := congrArg (·.2) h
    exact anchored.move id _

/-- **A message leaves every parent in the scene.** -/
theorem Stage.Steady.anchored_dispatch {A : ObjectId → Prop} {st : Stage} (h : st.Steady A)
    (anchored : st.space.scene.Anchored) (build : Build) (controls : Controls)
    (message : Message) : (st.dispatch build controls message).state.space.scene.Anchored := by
  unfold Stage.dispatch
  cases message with
  | authoring verb tokens =>
    simp only
    split
    · next hauthor =>
      obtain ⟨instruction, w, _, happly, rfl⟩ := author_eq_ok hauthor
      exact Workshop.anchored_apply (w := st.workshop) anchored happly
    · exact anchored
  | control code =>
    simp only
    split
    · next effect _ => exact h.anchored_apply anchored build effect
    · exact anchored

/-! ## Section 3: Updates of the mission -/

namespace Flight
variable {f : Flight}

/-- A launch hangs the vehicle below the arm that it has created. -/
theorem anchored_takenOff (anchored : f.space.scene.Anchored) :
    f.takenOff.space.scene.Anchored := by
  have hsurveyed : f.surveyed.scene.Anchored := anchored.of_alike f.reread_surveyed.scene.alike
  refine (hsurveyed.withRig _ _ _).rehang _ ?_
  exact (Space.has_withRig ..).mpr (.inr (Rig.arm_mem _))

/-- Nothing is taken away before the arrival is checked. -/
theorem sampled_keeps (f : Flight) :
    f.sampled.mission.bodies = f.mission.bodies ∧
    ∀ {x}, f.space.scene.has x = true → f.sampled.space.scene.has x = true := by
  have hobserved := f.reread_observed.scene.alike
  unfold sampled
  dsimp only
  split
  · refine ⟨rfl, fun {x} hx => ?_⟩
    have hsurveyed := (reread_surveyed
      (({ f with space := f.observed } : Flight).watching f.sample.2)).scene.alike
    refine (Scene.has_rehang _ _ _ x).trans ((Space.has_withRig ..).mpr (.inl ?_))
    exact (hsurveyed.has x).trans ((hobserved.has x).trans hx)
  · exact ⟨rfl, fun {x} hx => (hobserved.has x).trans hx⟩

theorem anchored_sampled (anchored : f.space.scene.Anchored) :
    f.sampled.space.scene.Anchored := by
  have hobserved : f.observed.scene.Anchored := anchored.of_alike f.reread_observed.scene.alike
  unfold sampled
  dsimp only
  split
  · apply anchored_takenOff
    exact hobserved
  · exact hobserved

/-- An arrival hangs the vehicle below the destination. -/
theorem anchored_checkArrival (anchored : f.space.scene.Anchored)
    (hdestination : f.space.scene.has f.mission.bodies.destination = true) (build : Build) :
    (f.checkArrival build).state.space.scene.Anchored := by
  obtain ⟨sp, hread, hspace | hspace⟩ := f.space_checkArrival build
  · rw [hspace]
    exact anchored.of_alike hread.scene.alike
  · rw [hspace]
    refine (anchored.of_alike hread.scene.alike).rehang _ ?_
    exact (hread.scene.alike.has _).trans hdestination

/-- **An update leaves every parent in the scene.**  The bodies are looked for
    before anything is hung below one of them. -/
theorem anchored_update (anchored : f.space.scene.Anchored) (build : Build)
    (inStep : f.mission.InStep) : (f.update build).state.space.scene.Anchored := by
  by_cases hcomplete : f.Complete
  · rw [state_update build inStep hcomplete]
    obtain ⟨hbodies, hkeeps⟩ := f.sampled_keeps
    refine anchored_checkArrival (anchored_sampled anchored) ?_ build
    rw [hbodies]
    exact hkeeps (List.all_eq_true.mp hcomplete _ (by simp [Bodies.toList]))
  · rw [update_eq, if_neg hcomplete, Outcome.state_violated]
    exact anchored

end Flight

/-! ## Section 4: Histories -/

namespace Simulation

theorem anchored_settle {sim : Simulation} (anchored : sim.scene.Anchored) :
    sim.settle.scene.Anchored := anchored.move _ _

theorem anchored_start (setup : Setup) : (start setup).scene.Anchored := by
  have hopening : openingSpace.scene.Anchored := by
    intro c p hp
    obtain ⟨scene, k⟩ := c
    rw [parentOf?_openingSpace] at hp
    split at hp
    · cases hp
    · -- A part hangs below an earlier one.
      obtain ⟨hscene, hk⟩ := (Scene.has_iff _ _).mp (Scene.has_of_parentOf? hp)
      rw [Solar.tag_built] at hscene
      rw [Solar.size_built] at hk
      simp only at hscene hk
      subst hscene
      rw [Solar.parentOf?_built (Nat.le_of_lt_succ hk)] at hp
      obtain ⟨hzero, hlt⟩ := Solar.above_lt (Nat.le_of_lt_succ hk) hp
      obtain ⟨scene, n⟩ := p
      obtain rfl : scene = 0 := hzero
      exact has_openingSpace (by simp only at hlt; omega)
  rw [start_eq]
  exact anchored_settle hopening

/-- **Every input leaves every parent in the scene.** -/
theorem Regular.anchored_feed {rig : Option Nat} {sim : Simulation} (h : sim.Regular rig)
    (inStep : sim.mission.InStep) (anchored : sim.scene.Anchored) (input : Input) :
    (sim.feed input).state.scene.Anchored := by
  cases input with
  | message payload =>
    rw [feed_message]
    split
    · exact anchored
    · exact h.steady.anchored_dispatch anchored _ _ _
  | tick seconds =>
    have hadvanced : (sim.advance seconds).scene.Anchored := by
      unfold Simulation.advance
      split
      · exact anchored
      · exact Scene.Anchored.advance anchored _ _
    exact Flight.anchored_update (anchored_settle hadvanced) _
      (inStep_settle_advance inStep seconds)

/-- **The scene of a show is a forest.**  Whatever messages and ticks a show has
    taken, each object is listed by its parent once and by nothing else, and
    parents and children are all there.  Every way up comes to the top in fewer
    steps than there are objects, so reads and invalidations end, and the
    bounds of their searches are never felt. -/
theorem forest_after (setup : Setup) (h : History) :
    ((start setup).after h).scene.IsForest ∧ ((start setup).after h).scene.Bounded ∧
    ∀ c p, (((start setup).after h).scene.childrenOf p).count c =
        (if ((start setup).after h).scene.parentOf? c = some p then 1 else 0) ∧
      (c ∈ ((start setup).after h).scene.childrenOf p →
        ((start setup).after h).scene.has c = true ∧
        ((start setup).after h).scene.has p = true) := by
  obtain ⟨rig, hregular, _⟩ := regular_after setup h
  have hanchored : ((start setup).after h).scene.Anchored :=
    invariant_after setup (P := fun sim => sim.scene.Anchored) (anchored_start setup)
      (fun hregular inStep hanchored input => hregular.anchored_feed inStep hanchored input) h
  have hlinked := hregular.steady.sound.linked
  have hforest := hlinked.isForest hanchored
  refine ⟨hforest, hlinked.bounded hanchored, ?_⟩
  intro c p
  refine ⟨hforest.count_childrenOf c p, fun hc => ?_⟩
  exact ⟨Scene.has_of_parentOf? ((hforest.mem_childrenOf_iff c p).mp hc),
    Scene.has_of_mem_childrenOf hc⟩

end Simulation

end Planetarium

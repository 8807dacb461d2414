import Mathlib.Algebra.Group.Nat.Even
import Mathlib.Data.List.DropRight
import Planetarium.Proofs.Scene.Looks
import Planetarium.Proofs.Show.Vantage

/-! # Toggles

    Four control codes are toggles: one stops the orbits, and three change what
    the sky and the sun show.  The sky and the sun are shown by components that
    are taken off and attached again, so they have to follow the toggles.

    * `Backdrop.take`: what an effect makes of a backdrop.
    * `Stage.Shown`: the sky and the sun show what the backdrop says.
    * `shown_feed`, `backdrop_feed`: an input takes its effect, and the looks go
      with it.
    * `toggles_follow_after`: what a history makes of the four toggles, counted
      from its control codes. -/

namespace Planetarium

/-! ## Section 1: Cameras and flights keep the looks -/

namespace Camera
variable (c : Camera) (s : Scene)

theorem keepsLooks_step (heading : Heading) : s.KeepsLooks (c.step s heading) :=
  (s.keepsLooks_move c.node _).trans (Scene.keepsLooks_move _ c.node _)

theorem keepsLooks_settle : s.KeepsLooks (c.settle s) := s.keepsLooks_move c.node _

/-- A ride-along moves the camera and its mount, however far it gets. -/
theorem keepsLooks_rideAlong (build : Build) (sp : Space) (name : String) (offset : Vec3) :
    sp.scene.KeepsLooks (c.rideAlong build sp name offset).state.2 := by
  refine c.rideAlong_keeps build sp name offset (P := sp.scene.KeepsLooks) (.refl sp.scene) ?_ ?_ ?_
  · intro frame _
    exact Scene.keepsLooks_rehang _ _ _
  · intro s hs
    exact hs.trans (Scene.keepsLooks_move _ _ _)
  · intro s hs
    exact hs.trans (Scene.keepsLooks_rehang _ _ _)

end Camera

theorem Space.keepsLooks_withRig (sp : Space) (rate : Float32) (center reach : Vec3) :
    sp.scene.KeepsLooks (sp.withRig rate center reach).scene := by
  have hcenter := sp.keepsLooks_addFrame transferCenter none center none
  unfold withRig
  generalize sp.addFrame transferCenter none center none = first at hcenter ⊢
  have horbit := first.2.keepsLooks_addFrame transferOrbit (some first.1) .zero
    (some (.aboutY rate))
  simp only
  generalize first.2.addFrame transferOrbit (some first.1) .zero (some (.aboutY rate)) = second
    at horbit ⊢
  have harm := second.2.keepsLooks_addFrame transferArm (some second.1) reach none
  exact hcenter.trans (horbit.trans harm)

namespace Flight
variable (f : Flight)

theorem keepsLooks_takenOff : f.space.scene.KeepsLooks f.takenOff.space.scene := by
  have hread : f.space.scene.KeepsLooks f.surveyed.scene := .of_reread f.reread_surveyed.scene
  exact (hread.trans (f.surveyed.keepsLooks_withRig _ _ _)).trans (Scene.keepsLooks_rehang _ _ _)

theorem keepsLooks_afterSample (build : Build) (sample : Option Ticket × Watch) :
    f.space.scene.KeepsLooks (f.afterSample build sample).state.space.scene := by
  unfold afterSample
  dsimp only
  split
  · unfold atWindow
    split
    · exact .refl _
    · split
      · exact .refl _
      · rw [launch_eq]
        exact (f.watching sample.2).keepsLooks_takenOff
  · exact .refl _

theorem keepsLooks_checkArrival (build : Build) :
    f.space.scene.KeepsLooks (f.checkArrival build).state.space.scene := by
  obtain ⟨sp, hread, hspace | hspace⟩ := f.space_checkArrival build
  · rw [hspace]
    exact .of_reread hread.scene
  · rw [hspace]
    exact (Scene.KeepsLooks.of_reread hread.scene).trans (Scene.keepsLooks_rehang _ _ _)

theorem keepsLooks_update (build : Build) :
    f.space.scene.KeepsLooks (f.update build).state.space.scene := by
  rw [update_eq]
  split
  · have hread : f.space.scene.KeepsLooks f.observed.scene := .of_reread f.reread_observed.scene
    have hsampled := hread.trans
      (keepsLooks_afterSample { f with space := f.observed } build f.sample)
    -- The arrival is checked unless the sample has stopped the update.
    refine Outcome.keeps_andThen
      (P := fun g : Flight => f.space.scene.KeepsLooks g.space.scene) hsampled ?_
    intro g hg
    exact hg.trans (g.keepsLooks_checkArrival build)
  · rw [Outcome.state_violated]
    exact .refl _

end Flight

/-! ## Section 2: Backdrops -/

namespace Backdrop

/-- What the sky shows. -/
def skyLooks (b : Backdrop) : List Component := if b.skyShown then [b.sky] else []

/-- **What an effect makes of a backdrop.** -/
def take (b : Backdrop) : Effect → Backdrop
  | .toggleSky => { b with skyShown := !b.skyShown }
  | .toggleSkyMaterial => { b with skyAlternate := !b.skyAlternate, skyShown := true }
  | .toggleSunMaterial => { b with sunAlternate := !b.sunAlternate }
  | .move _ | .turn _ | .rideAlong _ _ | .togglePause => b

theorem sunGraphic_eq (b : Backdrop) :
    b.sunGraphic = .staticModel "Models/Sphere.mdl"
      (if b.sunAlternate then "Materials/pecheux.xml" else "Materials/sun.xml") := by
  unfold sunGraphic
  cases b.sunAlternate <;> rfl

theorem skyLooks_eq (b : Backdrop) :
    b.skyLooks =
      if b.skyShown then
        [.skybox "Models/Box.mdl"
          (if b.skyAlternate then "Materials/pecheux_sky.xml" else "Materials/skybox_stars.xml")]
      else [] := by
  unfold skyLooks sky
  cases b.skyAlternate <;> rfl

theorem looksOf?_dressSky (b : Backdrop) (s : Scene) (x : ObjectId) :
    (b.dressSky s).looksOf? x =
      if x = b.skybox then (s.looksOf? x).map fun _ => b.skyLooks else s.looksOf? x := by
  unfold dressSky skyLooks
  split
  · rw [Scene.looksOf?_attach, Scene.looksOf?_clearComponents]
    split
    · simp [Function.comp_def]
    · rfl
  · rw [Scene.looksOf?_clearComponents]

end Backdrop

namespace Stage

theorem backdrop_apply (st : Stage) (build : Build) (effect : Effect) :
    (st.apply build effect).state.backdrop = st.backdrop.take effect := by
  cases effect <;> rfl

/-- **The sky and the sun show what the backdrop says.** -/
structure Shown (st : Stage) : Prop where
  sky : st.space.scene.looksOf? st.backdrop.skybox = some st.backdrop.skyLooks
  sun : st.space.scene.looksOf? st.backdrop.sun = some [st.backdrop.sunGraphic]
  apart : st.backdrop.skybox ≠ st.backdrop.sun

namespace Shown
variable {st st' : Stage} (h : st.Shown)
include h

theorem of_keepsLooks (backdrop : st'.backdrop = st.backdrop)
    (keeps : st.space.scene.KeepsLooks st'.space.scene) : st'.Shown := by
  constructor
  · rw [backdrop]
    exact keeps _ _ h.sky
  · rw [backdrop]
    exact keeps _ _ h.sun
  · rw [backdrop]
    exact h.apart

/-- Whatever is to be seen of the sky from now on, it is the only thing to be seen there. -/
theorem dressSky {b : Backdrop} (skybox : b.skybox = st.backdrop.skybox)
    (sun : b.sun = st.backdrop.sun) (alternate : b.sunAlternate = st.backdrop.sunAlternate) :
    (st.withBackdrop (b, b.dressSky st.space.scene)).Shown := by
  have hgraphic : b.sunGraphic = st.backdrop.sunGraphic := by
    unfold Backdrop.sunGraphic
    rw [alternate]
  constructor
  · show (b.dressSky st.space.scene).looksOf? b.skybox = some b.skyLooks
    rw [Backdrop.looksOf?_dressSky, if_pos rfl, skybox, h.sky]
    rfl
  · show (b.dressSky st.space.scene).looksOf? b.sun = some [b.sunGraphic]
    rw [Backdrop.looksOf?_dressSky, skybox, sun, if_neg h.apart.symm, h.sun, hgraphic]
  · show b.skybox ≠ b.sun
    rw [skybox, sun]
    exact h.apart

/-- The old component is taken off the sun before the new one is attached. -/
theorem dressSun :
    (st.withBackdrop (st.backdrop.toggleSunMaterial st.space.scene)).Shown := by
  constructor
  · show ((st.space.scene.clearComponents st.backdrop.sun).attach st.backdrop.sun _).looksOf?
      st.backdrop.skybox = some st.backdrop.skyLooks
    rw [Scene.looksOf?_attach, Scene.looksOf?_clearComponents, if_neg h.apart, if_neg h.apart,
      h.sky]
  · show ((st.space.scene.clearComponents st.backdrop.sun).attach st.backdrop.sun _).looksOf?
      st.backdrop.sun = some [_]
    rw [Scene.looksOf?_attach, Scene.looksOf?_clearComponents, if_pos rfl, if_pos rfl, h.sun]
    rfl
  · exact h.apart

/-- **The looks go with the effects.** -/
theorem apply (build : Build) (effect : Effect) : (st.apply build effect).state.Shown := by
  cases effect with
  | move heading => exact h.of_keepsLooks rfl (st.camera.keepsLooks_step _ heading)
  | turn degrees => exact h.of_keepsLooks rfl (Camera.keepsLooks_settle _ _)
  | rideAlong name offset =>
    exact h.of_keepsLooks rfl (st.camera.keepsLooks_rideAlong build st.space name offset)
  | togglePause => exact h.of_keepsLooks rfl (.refl _)
  | toggleSky => exact h.dressSky rfl rfl rfl
  | toggleSunMaterial => exact h.dressSun
  | toggleSkyMaterial => exact h.dressSky rfl rfl rfl

end Shown

/-- Only the object that is created gets a component. -/
theorem keepsLooks_author {st st' : Stage} {verb : Verb} {tokens : List String}
    {entries : List Entry} (h : st.author verb tokens = .ok (entries, st')) :
    st'.backdrop = st.backdrop ∧ st.space.scene.KeepsLooks st'.space.scene := by
  obtain ⟨instruction, w, _, happly, rfl⟩ := author_eq_ok h
  refine ⟨rfl, ?_⟩
  rcases st.workshop.apply_cases happly with
    ⟨spec, position, hresult⟩ | ⟨name, position, hresult⟩ | ⟨name, id, position, _, hresult⟩
  · obtain rfl := congrArg (·.2) hresult
    have hcreated : st.space.scene.KeepsLooks
        ((st.space.scene.createChild none spec.name).2.setTransform
          (st.space.scene.idAt st.space.scene.size) position (.ofEulerDegrees spec.rotation)
          spec.scale) :=
      (st.space.scene.keepsLooks_createChild none spec.name).trans (Scene.keepsLooks_move _ _ _)
    exact hcreated.attachAll st.space.scene.not_has_idAt_size [.ofModel spec.model spec.material]
  · obtain rfl := congrArg (·.2) hresult
    exact .refl _
  · obtain rfl := congrArg (·.2) hresult
    exact Scene.keepsLooks_move _ _ _

end Stage

/-! ## Section 3: Control codes -/

namespace History

/-- The control codes after the last change of the material of the sky. -/
def sinceSky (codes : List Char) : List Char := codes.rtakeWhile (· ≠ '*')

theorem sinceSky_concat (codes : List Char) (code : Char) :
    sinceSky (codes ++ [code]) = if code = '*' then [] else sinceSky codes ++ [code] := by
  unfold sinceSky
  split
  · next h => exact List.rtakeWhile_concat_neg _ _ _ (by simp [h])
  · next h => exact List.rtakeWhile_concat_pos _ _ _ (by simp [h])

/-- A code toggles its own parity. -/
theorem odd_count_concat (codes : List Char) (code c : Char) :
    decide (Odd ((codes ++ [code]).count c)) =
      if code = c then !decide (Odd (codes.count c)) else decide (Odd (codes.count c)) := by
  rw [List.count_append, List.count_singleton]
  by_cases h : code = c
  · simp only [h, beq_self_eq_true, if_true, Nat.odd_add_one, decide_not]
  · simp [h]

/-- Codes that come later count for themselves alone. -/
theorem count_concat_of_ne {later : Option Char} {c : Char} (h : later ≠ some c)
    (codes : List Char) : (codes ++ later.toList).count c = codes.count c := by
  cases later with
  | none => simp
  | some code =>
    have hne : code ≠ c := fun heq => h (congrArg some heq)
    simp [hne]

theorem sinceSky_concat_of_ne {later : Option Char} (h : later ≠ some '*') (codes : List Char) :
    sinceSky (codes ++ later.toList) = sinceSky codes ++ later.toList := by
  cases later with
  | none => simp
  | some code =>
    have hne : code ≠ '*' := fun heq => h (congrArg some heq)
    rw [Option.toList_some, sinceSky_concat, if_neg hne]

theorem codes_concat (h : History) (input : Input) :
    codes (h ++ [input]) = codes h ++ input.code?.toList := by
  unfold codes
  rw [List.filterMap_append]
  cases hcode : input.code? <;> simp [hcode]

end History

namespace Backdrop

/-- What a control code makes of a backdrop. -/
def takeCode (b : Backdrop) (code : Char) : Backdrop :=
  (Controls.standard.get? code).toList.foldl take b

/-- **Three codes are about the backdrop,** each in its own way. -/
theorem takeCode_eq (b : Backdrop) (code : Char) :
    b.takeCode code =
      { b with
        skyShown := if code = '*' then true else if code = 'b' then !b.skyShown else b.skyShown
        skyAlternate := if code = '*' then !b.skyAlternate else b.skyAlternate
        sunAlternate := if code = 'y' then !b.sunAlternate else b.sunAlternate } := by
  by_cases hsky : code = 'b'
  · subst hsky
    rfl
  by_cases hmaterial : code = '*'
  · subst hmaterial
    rfl
  by_cases hsun : code = 'y'
  · subst hsun
    rfl
  simp only [if_neg hsky, if_neg hmaterial, if_neg hsun]
  unfold takeCode
  cases heffect : Controls.standard.get? code with
  | none => rfl
  | some effect =>
    -- No other code of the table has one of these effects.
    have hall : ∀ e ∈ Controls.standard.entries, e.1 ≠ 'b' → e.1 ≠ '*' → e.1 ≠ 'y' →
        e.2 ≠ .toggleSky ∧ e.2 ≠ .toggleSkyMaterial ∧ e.2 ≠ .toggleSunMaterial := by decide
    obtain ⟨hne, hne', hne''⟩ :=
      hall _ (Directory.mem_entries_of_get? heffect) hsky hmaterial hsun
    cases effect with
    | toggleSky => exact absurd rfl hne
    | toggleSkyMaterial => exact absurd rfl hne'
    | toggleSunMaterial => exact absurd rfl hne''
    | _ => rfl

section codes
variable (b : Backdrop) (codes : List Char)

theorem skybox_foldl : (codes.foldl takeCode b).skybox = b.skybox :=
  foldl_keeps (·.skybox) (fun b code => by rw [takeCode_eq]) codes b

theorem sun_foldl : (codes.foldl takeCode b).sun = b.sun :=
  foldl_keeps (·.sun) (fun b code => by rw [takeCode_eq]) codes b

/-- **The flags of a backdrop** after some control codes. -/
theorem flags_foldl (hshown : b.skyShown = true) :
    (codes.foldl takeCode b).sunAlternate = (b.sunAlternate ^^ decide (Odd (codes.count 'y'))) ∧
    (codes.foldl takeCode b).skyAlternate = (b.skyAlternate ^^ decide (Odd (codes.count '*'))) ∧
    (codes.foldl takeCode b).skyShown = !decide (Odd ((History.sinceSky codes).count 'b')) := by
  -- Induction on the codes from their end: the last one finds the flags of those before.
  induction codes using List.reverseRecOn with
  | nil => simp [History.sinceSky, hshown]
  | append_singleton codes code ih =>
    obtain ⟨hsun, hsky, hon⟩ := ih
    rw [List.foldl_concat, takeCode_eq, History.odd_count_concat, History.odd_count_concat,
      History.sinceSky_concat]
    refine ⟨?_, ?_, ?_⟩
    · dsimp only
      rw [hsun]
      split <;> simp
    · dsimp only
      rw [hsky]
      split <;> simp
    · dsimp only
      rw [hon]
      split
      · simp
      · rw [History.odd_count_concat]
        split <;> simp

end codes

end Backdrop

/-! ## Section 4: Inputs -/

/-- **An input takes its effect, and the looks go with it.** -/
theorem Stage.Shown.dispatch {st : Stage} (h : st.Shown) (build : Build) (message : Message) :
    (st.dispatch build Controls.standard message).state.Shown ∧
    (st.dispatch build Controls.standard message).state.backdrop =
      match message with
      | .control code => st.backdrop.takeCode code
      | .authoring _ _ => st.backdrop := by
  unfold Stage.dispatch
  cases message with
  | authoring verb tokens =>
    dsimp only
    split
    · next hauthor =>
      obtain ⟨hbackdrop, hkeeps⟩ := keepsLooks_author hauthor
      exact ⟨h.of_keepsLooks hbackdrop hkeeps, hbackdrop⟩
    · exact ⟨h, rfl⟩
  | control code =>
    dsimp only
    unfold Backdrop.takeCode
    cases Controls.standard.get? code with
    | some effect => exact ⟨h.apply build effect, st.backdrop_apply build effect⟩
    | none => exact ⟨h, rfl⟩

namespace Simulation
variable {sim : Simulation}

theorem keepsLooks_settle (sim : Simulation) : sim.scene.KeepsLooks sim.settle.scene :=
  sim.stage.camera.keepsLooks_settle sim.scene

theorem shown_settle (h : sim.stage.Shown) : sim.settle.stage.Shown :=
  h.of_keepsLooks rfl sim.keepsLooks_settle

/-- A tick keeps the backdrop and all looks, whatever state it meets. -/
theorem keepsLooks_tick (sim : Simulation) (seconds : Float32) :
    (sim.tick seconds).state.stage.backdrop = sim.stage.backdrop ∧
    sim.scene.KeepsLooks (sim.tick seconds).state.scene := by
  have hadvance : (sim.advance seconds).stage.backdrop = sim.stage.backdrop ∧
      sim.scene.KeepsLooks (sim.advance seconds).scene := by
    unfold Simulation.advance
    split
    · exact ⟨rfl, .refl _⟩
    · exact ⟨rfl, Scene.keepsLooks_advance _ _ _⟩
  have hsettle := (sim.advance seconds).keepsLooks_settle
  refine ⟨hadvance.1, (hadvance.2.trans hsettle).trans ?_⟩
  exact (sim.advance seconds).settle.flight.keepsLooks_update _

theorem shown_feed (hcontrols : sim.controls = Controls.standard) (h : sim.stage.Shown)
    (input : Input) :
    (sim.feed input).state.stage.Shown ∧
    (sim.feed input).state.stage.backdrop =
      input.code?.toList.foldl Backdrop.takeCode sim.stage.backdrop := by
  cases input with
  | tick seconds =>
    obtain ⟨hbackdrop, hkeeps⟩ := sim.keepsLooks_tick seconds
    exact ⟨h.of_keepsLooks hbackdrop hkeeps, hbackdrop⟩
  | message payload =>
    rw [feed_message, hcontrols, Input.code?_message]
    cases Message.ofPayload? payload with
    | none => exact ⟨h, rfl⟩
    | some message =>
      obtain ⟨hshown, hbackdrop⟩ := h.dispatch sim.build message
      refine ⟨hshown, ?_⟩
      show (sim.stage.dispatch sim.build Controls.standard message).state.backdrop = _
      rw [hbackdrop]
      cases message <;> rfl

theorem paused_feed (hcontrols : sim.controls = Controls.standard) (input : Input) :
    (sim.feed input).state.stage.paused =
      if input.code? = some 'p' then !sim.stage.paused else sim.stage.paused := by
  cases input with
  | tick seconds => exact paused_tick sim seconds
  | message payload => exact paused_message hcontrols payload

/-! ## Section 5: Histories -/

/-- The backdrop at the start. -/
def openingBackdrop : Backdrop where
  skybox := (Solar.build {}).1.skybox
  sun := (Solar.build {}).1.sunGraphic

end Simulation

theorem Solar.looksOf?_built {k : Nat} {looks : List Component}
    (h : blueprint.parts[k]?.map (·.components) = some looks) :
    built.scene.looksOf? ⟨0, k⟩ = some looks := by
  obtain ⟨part, hpart, rfl⟩ := Option.map_eq_some_iff.mp h
  have hnew := Space.looksOf?_placeAll {} (fun part => part.below.map object) hpart
  rw [idAt_empty, ← built_eq] at hnew
  exact hnew

namespace Simulation

/-- The sky and the sun show what they are built with. -/
theorem shown_start (setup : Setup) :
    (start setup).stage.Shown ∧ (start setup).stage.backdrop = openingBackdrop := by
  have hsky : openingBackdrop.skybox = ⟨0, 0⟩ := by decide
  have hsun : openingBackdrop.sun = ⟨0, 3⟩ := by decide
  have hmount : Solar.built.scene.KeepsLooks openingSpace.scene :=
    Solar.built.keepsLooks_addFrame _ _ _ _
  have hopening : (opening setup).stage.Shown := by
    constructor
    · show openingSpace.scene.looksOf? openingBackdrop.skybox = some openingBackdrop.skyLooks
      rw [hsky]
      exact hmount _ _ (Solar.looksOf?_built (by rfl))
    · show openingSpace.scene.looksOf? openingBackdrop.sun = some [openingBackdrop.sunGraphic]
      rw [hsun]
      exact hmount _ _ (Solar.looksOf?_built (by rfl))
    · show openingBackdrop.skybox ≠ openingBackdrop.sun
      rw [hsky, hsun]
      decide
  have hbackdrop : (opening setup).stage.backdrop = openingBackdrop := rfl
  rw [start_eq]
  exact ⟨shown_settle hopening, hbackdrop⟩

/-- **The control codes of a history** are all that counts for the backdrop and the pause. -/
theorem shown_after (setup : Setup) (h : History) :
    ((start setup).after h).stage.Shown ∧
    ((start setup).after h).stage.backdrop = h.codes.foldl Backdrop.takeCode openingBackdrop ∧
    ((start setup).after h).stage.paused =
      (setup.startPaused ^^ decide (Odd (h.codes.count 'p'))) := by
  induction h using List.reverseRecOn with
  | nil =>
    obtain ⟨hshown, hbackdrop⟩ := shown_start setup
    exact ⟨hshown, hbackdrop, by simp [History.codes, after, start, new]⟩
  | append_singleton h input ih =>
    obtain ⟨hshown, hbackdrop, hpaused⟩ := ih
    obtain ⟨rig, hregular, _⟩ := regular_after setup h
    have hlast : (start setup).after (h ++ [input]) =
        (((start setup).after h).feed input).state := List.foldl_append
    obtain ⟨hshown', hbackdrop'⟩ := shown_feed hregular.controls hshown input
    rw [hlast, History.codes_concat, List.foldl_append, ← hbackdrop]
    refine ⟨hshown', hbackdrop', ?_⟩
    rw [paused_feed hregular.controls, hpaused]
    cases input.code? with
    | none => simp
    | some code =>
      rw [Option.toList_some, History.odd_count_concat]
      by_cases hcode : code = 'p'
      · simp [hcode]
      · simp [hcode]

/-- **The toggles of a show,** told from its control codes. -/
structure Toggled (setup : Setup) (codes : List Char) (sim : Simulation) : Prop where
  paused : sim.stage.paused = (setup.startPaused ^^ decide (Odd (codes.count 'p')))
  /-- The sun shows one model, in one of two materials. -/
  sun : sim.scene.looksOf? (Solar.build {}).1.sunGraphic =
    some [.staticModel "Models/Sphere.mdl"
      (if Odd (codes.count 'y') then "Materials/pecheux.xml" else "Materials/sun.xml")]
  shown : sim.stage.backdrop.skyShown = true ↔ Even ((History.sinceSky codes).count 'b')
  /-- The sky shows nothing, or one box in one of two materials. -/
  sky : sim.scene.looksOf? (Solar.build {}).1.skybox =
    some (if sim.stage.backdrop.skyShown then
      [.skybox "Models/Box.mdl"
        (if Odd (codes.count '*') then "Materials/pecheux_sky.xml"
         else "Materials/skybox_stars.xml")]
    else [])

theorem toggled_after (setup : Setup) (h : History) :
    ((start setup).after h).Toggled setup h.codes := by
  obtain ⟨hshown, hbackdrop, hpaused⟩ := shown_after setup h
  obtain ⟨hsun, hsky, hon⟩ := openingBackdrop.flags_foldl h.codes rfl
  rw [← hbackdrop] at hsun hsky hon
  have hskybox : ((start setup).after h).stage.backdrop.skybox = (Solar.build {}).1.skybox := by
    rw [hbackdrop, Backdrop.skybox_foldl]
    rfl
  have hsunId : ((start setup).after h).stage.backdrop.sun = (Solar.build {}).1.sunGraphic := by
    rw [hbackdrop, Backdrop.sun_foldl]
    rfl
  constructor
  · exact hpaused
  · rw [← hsunId, hshown.sun, Backdrop.sunGraphic_eq, hsun]
    simp [openingBackdrop]
  · rw [hon]
    simp
  · rw [← hskybox, hshown.sky, Backdrop.skyLooks_eq, hsky]
    simp [openingBackdrop]

/-- **Toggles follow the history,** whatever else there is in it.  An input that is
    none of the three codes changes neither list of components. -/
theorem toggles_follow_after (setup : Setup) (h : History) :
    ((start setup).after h).Toggled setup h.codes ∧
    ∀ input,
      (input.code? ≠ some 'y' →
        ((start setup).after (h ++ [input])).scene.looksOf? (Solar.build {}).1.sunGraphic =
          ((start setup).after h).scene.looksOf? (Solar.build {}).1.sunGraphic) ∧
      (input.code? ≠ some 'b' → input.code? ≠ some '*' →
        ((start setup).after (h ++ [input])).scene.looksOf? (Solar.build {}).1.skybox =
          ((start setup).after h).scene.looksOf? (Solar.build {}).1.skybox) := by
  refine ⟨toggled_after setup h, ?_⟩
  intro input
  have hbefore := toggled_after setup h
  have hafter := toggled_after setup (h ++ [input])
  rw [History.codes_concat] at hafter
  constructor
  · intro hsun
    rw [hafter.sun, hbefore.sun, History.count_concat_of_ne hsun]
  · intro hsky hmaterial
    have hshown : ((start setup).after (h ++ [input])).stage.backdrop.skyShown =
        ((start setup).after h).stage.backdrop.skyShown := by
      rw [Bool.eq_iff_iff, hafter.shown, hbefore.shown, History.sinceSky_concat_of_ne hmaterial,
        History.count_concat_of_ne hsky]
    rw [hafter.sky, hbefore.sky, hshown, History.count_concat_of_ne hmaterial]

end Simulation

end Planetarium

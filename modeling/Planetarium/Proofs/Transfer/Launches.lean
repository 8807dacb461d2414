import Planetarium.Proofs.Scene.Rehanging
import Planetarium.Proofs.Transfer.Steps

/-! # Launches

    A launch measures two places, creates three frames and hangs the vehicle
    below the last one.  All else stays as it is.

    * `portrait?_setParent`, `portrait?_rehang`, `portrait?_createChild`: what
      becomes of every object when one of them is hung elsewhere or created.
    * `portrait?_withRig`: the same for the frames of a transfer.
    * `Space.Grown`: the spaces that operations lead to.
    * `Departure`: all that a launch does, as far as it can be seen.
    * `observeAngle_departs`: this is what becomes of a flight in a grown space
      when a sample fires an even ticket at the origin. -/

namespace Planetarium

/-! ## Section 1: Links in portraits -/

/-- The portrait of `x` after `child` has been hung below `parent`. -/
def Portrait.relisted (child : ObjectId) (parent : Option ObjectId) (x : ObjectId)
    (p : Portrait) : Portrait :=
  { p with
    parent := if x = child then parent else p.parent
    children := p.children.filter (· ≠ child) ++ if parent = some x then [child] else [] }

namespace Scene

theorem parentOf?_eq_bind (s : Scene) (x : ObjectId) :
    s.parentOf? x = (s.portrait? x).bind (·.parent) := by
  unfold parentOf? portrait?
  cases s.get? x <;> rfl

theorem poseOf?_eq_map_portrait? (s : Scene) (x : ObjectId) :
    s.poseOf? x = (s.portrait? x).map (·.pose) := by
  unfold poseOf? portrait?
  cases s.get? x <;> rfl

/-- A list of children is of no account for the place in the world. -/
theorem worldMatrix_of_portraits {s t : Scene} (sound : s.Sound) (hsound : t.Sound)
    {U : ObjectId → Prop} (closed : ∀ c p, U c → s.parentOf? c = some p → U p)
    {list : Portrait → List ObjectId}
    (hsame : ∀ y, U y →
      t.portrait? y = (s.portrait? y).map fun p => { p with children := list p })
    {x : ObjectId} (hx : U x) : (t.worldMatrix x).1 = (s.worldMatrix x).1 := by
  rw [hsound.worldMatrix_fst, sound.worldMatrix_fst]
  refine freshMatrix_congr sound.acyclic hsound.acyclic closed ?_ ?_ hx
  · intro y hy
    rw [parentOf?_eq_bind, parentOf?_eq_bind, hsame y hy]
    cases s.portrait? y <;> rfl
  · intro y hy
    rw [poseOf?_eq_map_portrait?, poseOf?_eq_map_portrait?, hsame y hy]
    cases s.portrait? y <;> rfl

/-- When an object leaves the lists that it stands in, all that is not below it
    stays where it is. -/
theorem worldMatrix_of_unlisted {s t : Scene} (sound : s.Sound) (hsound : t.Sound)
    {leaver : ObjectId}
    (hleft : ∀ y, s.has y = true ∨ y.scene ≠ s.tag → y ≠ leaver →
      t.portrait? y = (s.portrait? y).map fun p =>
        { p with children := p.children.filter (· ≠ leaver) })
    {x : ObjectId} (hx : s.has x = true) (houtside : ¬ s.Within x leaver) :
    (t.worldMatrix x).1 = (s.worldMatrix x).1 := by
  -- Whom a link leads to is settled, and is outside the subtree as well.
  have hclosed : ∀ c p, (s.has c = true ∨ c.scene ≠ s.tag) ∧ ¬ s.Within c leaver →
      s.parentOf? c = some p → (s.has p = true ∨ p.scene ≠ s.tag) ∧ ¬ s.Within p leaver := by
    intro c p hc hp
    constructor
    · exact sound.linked.parent_settled hp
    · intro hwithin
      exact hc.2 (.of_parent hp hwithin)
  apply worldMatrix_of_portraits sound hsound hclosed
  · intro y hy
    apply hleft y hy.1
    intro hself
    exact hy.2 (.inl hself)
  · exact ⟨.inl hx, houtside⟩

section links
variable {s : Scene} (linked : s.Linked)
include linked

theorem portrait?_setParent {child : ObjectId} (known : s.has child = true)
    {parent : Option ObjectId}
    (hsettled : ∀ p, parent = some p → s.has p = true ∨ p.scene ≠ s.tag)
    (houtside : ∀ p, parent = some p → ¬ s.Within p child) (x : ObjectId) :
    (s.setParent child parent).portrait? x = (s.portrait? x).map (·.relisted child parent x) := by
  unfold portrait?
  rw [get?_setParent linked known hsettled houtside, Option.map_map, Option.map_map]
  congr 1
  funext o
  exact Object.portrait_markedIf _ _

/-- Only the object itself gets another pose. -/
theorem portrait?_rehang {node frame : ObjectId} (known : s.has node = true)
    (hsettled : s.has frame = true ∨ frame.scene ≠ s.tag) (houtside : ¬ s.Within frame node)
    (x : ObjectId) :
    (s.rehang node frame).portrait? x =
      if x = node then
        (s.portrait? x).map fun p =>
          { p.relisted node (some frame) x with pose := { p.pose with translation := .zero } }
      else (s.portrait? x).map (·.relisted node (some frame) x) := by
  have hlinks : (s.setParent node (some frame)).portrait? x =
      (s.portrait? x).map (·.relisted node (some frame) x) :=
    portrait?_setParent linked known (fun p hp => Option.some.inj hp ▸ hsettled)
      (fun p hp => Option.some.inj hp ▸ houtside) x
  unfold rehang
  rw [portrait?_setTranslation, hlinks]
  split
  · rw [Option.map_map]
    rfl
  · rfl

/-- What hangs elsewhere is not in the list. -/
theorem Linked.filter_children {x child : ObjectId} {p : Portrait} (hp : s.portrait? x = some p)
    (helsewhere : s.parentOf? child ≠ some x) : p.children.filter (· ≠ child) = p.children := by
  obtain ⟨o, ho, rfl⟩ := Option.map_eq_some_iff.mp hp
  rw [List.filter_eq_self]
  intro c hc
  have hlisted : c ∈ s.childrenOf x := by
    rw [childrenOf_eq ho]
    exact hc
  have hlink := (linked.mem_childrenOf_iff (has_of_get? ho) c).mp hlisted
  have hne : c ≠ child := by
    intro h
    exact helsewhere (h ▸ hlink)
  simpa using hne

/-- **A new object** is bare, and its parent lists it last. -/
theorem portrait?_createChild {parent : Option ObjectId}
    (hsettled : ∀ p, parent = some p → s.has p = true ∨ p.scene ≠ s.tag) (name : String)
    (x : ObjectId) :
    (s.createChild parent name).2.portrait? x =
      if x = s.idAt s.size then some ⟨name, ⟨.zero, .identity, .one⟩, [], parent, []⟩
      else (s.portrait? x).map fun p =>
        { p with
          children := p.children ++ if parent = some x then [s.idAt s.size] else [] } := by
  have hadd : (s.add { name }).2.portrait? x =
      if x = s.idAt s.size then some ⟨name, ⟨.zero, .identity, .one⟩, [], none, []⟩
      else s.portrait? x := portrait?_add s x { name }
  cases parent with
  | none =>
    rw [createChild_eq, if_pos rfl, hadd]
    split
    · rfl
    · simp
  | some parent =>
    have hbelow : ∀ p, some parent = some p → ¬ (s.add { name }).2.Within p (s.idAt s.size) :=
      fun p hp => not_within_new name linked (hsettled p hp)
    have hknown : (s.add { name }).2.has (s.idAt s.size) = true := (has_add s _ _).mpr (.inr rfl)
    have hsettled' : ∀ p, some parent = some p →
        (s.add { name }).2.has p = true ∨ p.scene ≠ (s.add { name }).2.tag := by
      intro p hp
      rw [has_add, tag_add]
      exact (hsettled p hp).imp_left .inl
    rw [createChild_eq, if_neg (by simp),
      portrait?_setParent (linked.add rfl rfl) hknown hsettled' hbelow, hadd]
    split
    · next hx =>
      -- The new object cannot be its own parent.
      have hne : parent ≠ x := by
        intro h
        exact hbelow parent rfl (.inl (h.trans hx))
      simp [Portrait.relisted, hx ▸ hne, hx]
    · next hx =>
      cases hp : s.portrait? x with
      | none => rfl
      | some p =>
        have hlist : p.children.filter (· ≠ s.idAt s.size) = p.children := by
          apply linked.filter_children hp
          rw [parentOf?_of_not_has s.not_has_idAt_size]
          simp
        simp only [Option.map_some, Portrait.relisted, if_neg hx, hlist]

end links

end Scene

namespace Space

theorem portrait?_addFrame {sp : Space} (linked : sp.scene.Linked) {parent : Option ObjectId}
    (hsettled : ∀ p, parent = some p → sp.scene.has p = true ∨ p.scene ≠ sp.scene.tag)
    (name : String) (offset : Vec3) (spin : Option Spin) (x : ObjectId) :
    (sp.addFrame name parent offset spin).2.scene.portrait? x =
      if x = sp.scene.idAt sp.scene.size then
        some ⟨name, ⟨offset, .identity, .one⟩, [], parent, []⟩
      else (sp.scene.portrait? x).map fun p =>
        { p with
          children := p.children ++
            if parent = some x then [sp.scene.idAt sp.scene.size] else [] } := by
  rw [scene_addFrame, Scene.portrait?_setTranslation, Scene.portrait?_createChild linked hsettled]
  split <;> rfl

/-- **The frames of a transfer** list one another and nothing else, and no other
    object is changed. -/
theorem portrait?_withRig {sp : Space} (sound : sp.scene.Sound) (rate : Float32)
    (center reach : Vec3) (x : ObjectId) :
    (sp.withRig rate center reach).scene.portrait? x =
      if x = (Rig.next sp.scene).arm then
        some ⟨transferArm, ⟨reach, .identity, .one⟩, [], some (Rig.next sp.scene).orbit, []⟩
      else if x = (Rig.next sp.scene).orbit then
        some ⟨transferOrbit, ⟨.zero, .identity, .one⟩, [], some (Rig.next sp.scene).center,
          [(Rig.next sp.scene).arm]⟩
      else if x = (Rig.next sp.scene).center then
        some ⟨transferCenter, ⟨center, .identity, .one⟩, [], none, [(Rig.next sp.scene).orbit]⟩
      else sp.scene.portrait? x := by
  generalize hcenter : (Rig.next sp.scene).center = centerFrame
  generalize horbit : (Rig.next sp.scene).orbit = orbit
  generalize harm : (Rig.next sp.scene).arm = arm
  -- The space after each of the three steps, with the next id in it.
  let first := (sp.addFrame transferCenter none center none).2
  let second := (first.addFrame transferOrbit (some centerFrame) .zero (some (.aboutY rate))).2
  have hthird : sp.withRig rate center reach =
      (second.addFrame transferArm (some orbit) reach none).2 := by
    simp [withRig, second, first, ← hcenter, ← horbit, Rig.next, Scene.idAt]
  have hcenter : sp.scene.idAt sp.scene.size = centerFrame := hcenter
  have horbit : first.scene.idAt first.scene.size = orbit := by
    rw [← horbit]
    simp [first, Rig.next, Scene.idAt]
  have harm : second.scene.idAt second.scene.size = arm := by
    rw [← harm]
    simp [second, first, Rig.next, Scene.idAt]
  have hcenterKnown : first.scene.has centerFrame = true := by
    rw [has_addFrame]
    exact .inr hcenter.symm
  have horbitKnown : second.scene.has orbit = true := by
    rw [has_addFrame]
    exact .inr horbit.symm
  have hfirst : first.scene.Sound := by
    apply sound.addFrame
    intro p hp
    cases hp
  have hsecond : second.scene.Sound := by
    apply hfirst.addFrame
    intro p hp
    exact Option.some.inj hp ▸ hcenterKnown
  rw [hthird, portrait?_addFrame hsecond.linked fun p hp => .inl (Option.some.inj hp ▸ horbitKnown),
    portrait?_addFrame hfirst.linked fun p hp => .inl (Option.some.inj hp ▸ hcenterKnown),
    portrait?_addFrame sound.linked fun p hp => by cases hp]
  simp only [hcenter, horbit, harm]
  -- Each frame is listed by the one that is created before it.
  have hne : orbit ≠ centerFrame := by
    intro h
    exact first.scene.not_has_idAt_size (horbit ▸ h ▸ hcenterKnown)
  have hne' : arm ≠ orbit := by
    intro h
    exact second.scene.not_has_idAt_size (harm ▸ h ▸ horbitKnown)
  by_cases harmed : x = arm
  · simp [harmed]
  by_cases horbiting : x = orbit
  · simp [horbiting, hne'.symm]
  by_cases hcentered : x = centerFrame
  · subst hcentered
    simp [harmed, horbiting, hne]
  · simp only [if_neg harmed, if_neg horbiting, if_neg hcentered, Option.some.injEq,
      if_neg (Ne.symm horbiting), if_neg (Ne.symm hcentered)]
    simp

end Space

/-! ## Section 2: Grown spaces -/

/-- The spaces that operations make of an empty one: edits of the scene that are
    proper, and all that frames do. -/
inductive Space.Grown : Space → Prop where
  | empty (tag : Nat) : Grown { scene := { tag } }
  | edit {sp : Space} (grown : Grown sp) {e : Edit} (proper : e.Proper sp.scene) :
    Grown { sp with scene := e.apply sp.scene }
  | addFrame {sp : Space} (grown : Grown sp) {parent : Option ObjectId}
    (hsettled : ∀ p, parent = some p → sp.scene.has p = true ∨ p.scene ≠ sp.scene.tag)
    (name : String) (offset : Vec3) (spin : Option Spin) :
    Grown (sp.addFrame name parent offset spin).2
  | register {sp : Space} (grown : Grown sp) (name : String) (id : ObjectId)
    (spin : Option Spin) : Grown { sp with frames := sp.frames.register name id spin }
  | advance {sp : Space} (grown : Grown sp) (seconds : Float32) : Grown (sp.advance seconds)
  | reparent {sp : Space} (grown : Grown sp) {node frame : ObjectId}
    (proper : (Edit.setParent node (some frame)).Proper sp.scene) (build : Build) :
    Grown { sp with scene := (sp.frames.reparent build sp.scene node frame).state }

/-- Grown spaces are sound. -/
theorem Space.Grown.sound {sp : Space} (grown : sp.Grown) : sp.scene.Sound := by
  induction grown with
  | empty tag => exact Scene.sound_empty tag
  | edit _ proper ih => exact ih.apply proper
  | addFrame _ hsettled name offset spin ih =>
    rw [scene_addFrame]
    exact (ih.createChild name hsettled).setTranslation _ _
  | register _ _ _ _ ih => exact ih
  | advance _ seconds ih => exact ih.advance _ seconds
  | @reparent sp _ node frame proper build ih =>
    show (sp.frames.reparent build sp.scene node frame).state.Sound
    rw [Frames.state_reparent]
    split
    · exact (ih.apply proper).setTranslation node .zero
    · exact ih

/-- A run of proper edits keeps a space grown. -/
theorem Space.Grown.edited {sp : Space} (grown : sp.Grown) {es : List Edit}
    (proper : sp.scene.ProperFrom es) : Grown { sp with scene := sp.scene.edited es } := by
  induction es generalizing sp with
  | nil => exact grown
  | cons e es ih =>
    obtain ⟨hfirst, hrest⟩ := proper
    exact ih (grown.edit hfirst) hrest

/-! ## Section 3: The effect of a launch -/

/-- The ids of the rig are new. -/
theorem Rig.not_mem_next {s : Scene} {x : ObjectId} (hx : s.has x = true ∨ x.scene ≠ s.tag) :
    x ∉ (next s).toList := by
  intro hmem
  have hrange : x.scene = s.tag ∧ s.size ≤ x.index := by
    simp only [toList, next, Scene.idAt, List.mem_cons, List.not_mem_nil, or_false] at hmem
    rcases hmem with rfl | rfl | rfl <;> simp
  rcases hx with hknown | hforeign
  · have := ((Scene.has_iff s x).mp hknown).2
    omega
  · exact hforeign hrange.1

theorem Rig.ne_next {s : Scene} {x : ObjectId} (hx : s.has x = true ∨ x.scene ≠ s.tag) :
    x ≠ (next s).arm ∧ x ≠ (next s).orbit ∧ x ≠ (next s).center := by
  have hnew := not_mem_next hx
  simp only [toList, List.mem_cons, List.not_mem_nil, or_false, not_or] at hnew
  obtain ⟨hcenter, horbit, harm⟩ := hnew
  exact ⟨harm, horbit, hcenter⟩

/-- All that is above the arm is new. -/
theorem Space.not_within_withRig {sp : Space} {x : ObjectId} (hx : sp.scene.has x = true)
    (rate : Float32) (center reach : Vec3) :
    ¬ (sp.withRig rate center reach).scene.Within (Rig.next sp.scene).arm x := by
  refine Scene.not_within_of_closed (U := (· ∈ (Rig.next sp.scene).toList)) ?_ (Rig.arm_mem _)
    (Rig.not_mem_next (.inl hx))
  intro c p hc hp
  rw [parentOf?_withRig] at hp
  split_ifs at hp with harm horbit hcenter
  · exact Option.some.inj hp ▸ Rig.orbit_mem _
  · exact Option.some.inj hp ▸ Rig.center_mem _
  · simp [Rig.toList, harm, horbit, hcenter] at hc

/-- **Every object** after the rig has been created and the vehicle has been hung
    below its arm. -/
theorem Space.portrait?_rehang_withRig {sp : Space} (sound : sp.scene.Sound) {vehicle : ObjectId}
    (known : sp.scene.has vehicle = true) (rate : Float32) (center reach : Vec3) (x : ObjectId) :
    ((sp.withRig rate center reach).scene.rehang vehicle (Rig.next sp.scene).arm).portrait? x =
      if x = (Rig.next sp.scene).arm then
        some ⟨transferArm, ⟨reach, .identity, .one⟩, [], some (Rig.next sp.scene).orbit, [vehicle]⟩
      else if x = (Rig.next sp.scene).orbit then
        some ⟨transferOrbit, ⟨.zero, .identity, .one⟩, [], some (Rig.next sp.scene).center,
          [(Rig.next sp.scene).arm]⟩
      else if x = (Rig.next sp.scene).center then
        some ⟨transferCenter, ⟨center, .identity, .one⟩, [], none, [(Rig.next sp.scene).orbit]⟩
      else if x = vehicle then
        (sp.scene.portrait? x).map fun p =>
          { p with
            pose := { p.pose with translation := .zero }, parent := some (Rig.next sp.scene).arm }
      else (sp.scene.portrait? x).map fun p =>
        { p with children := p.children.filter (· ≠ vehicle) } := by
  obtain ⟨harm, horbit, hcenter⟩ := Rig.ne_next (.inl known)
  have hknown : (sp.withRig rate center reach).scene.has vehicle = true :=
    (has_withRig ..).mpr (.inl known)
  have harmKnown : (sp.withRig rate center reach).scene.has (Rig.next sp.scene).arm = true :=
    (has_withRig ..).mpr (.inr (Rig.arm_mem _))
  rw [Scene.portrait?_rehang (sound_withRig sound rate center reach).linked hknown
    (.inl harmKnown) (not_within_withRig known rate center reach), portrait?_withRig sound]
  generalize Rig.next sp.scene = rig at *
  by_cases hvehicle : x = vehicle
  · subst hvehicle
    have hself : sp.scene.parentOf? x ≠ some x := fun h => sound.acyclic x (.direct h)
    simp only [if_neg hcenter, if_neg horbit, if_neg harm, if_true]
    cases hp : sp.scene.portrait? x with
    | none => rfl
    | some p =>
      have hlist := sound.linked.filter_children hp hself
      simp only [Option.map_some, Portrait.relisted, hlist, if_true, Option.some.injEq,
        if_neg (Ne.symm harm), List.append_nil]
  · have hlisted : ∀ p : Portrait, p.relisted vehicle (some rig.arm) x = { p with
        children := p.children.filter (· ≠ vehicle) ++ if rig.arm = x then [vehicle] else [] } := by
      intro p
      simp [Portrait.relisted, hvehicle]
    simp only [if_neg hvehicle, hlisted]
    by_cases harmed : x = rig.arm
    · simp [harmed]
    -- The lists of the other frames do not name the vehicle.
    simp only [if_neg harmed, if_neg (Ne.symm harmed), List.append_nil]
    by_cases horbiting : x = rig.orbit
    · simp [horbiting, Ne.symm harm]
    by_cases hcentered : x = rig.center
    · simp [hcentered, Ne.symm horbit, hcentered ▸ horbiting]
    · simp only [if_neg horbiting, if_neg hcentered]

namespace Flight

/-- **A departure.**  In `g` the vehicle of `f` has left for the arm of a new rig,
    and nothing else has become of the space. -/
structure Departure (f g : Flight) : Prop where
  tag : g.space.scene.tag = f.space.scene.tag
  /-- Three objects are new. -/
  size : g.space.scene.size = f.space.scene.size + 3
  /-- The center is where the anchor was, -/
  center : g.space.scene.portrait? (Rig.next f.space.scene).center =
    some ⟨transferCenter,
      ⟨(f.space.worldPosition f.mission.bodies.anchor).1, .identity, .one⟩, [],
      none, [(Rig.next f.space.scene).orbit]⟩
  /-- the orbit is at the same place, -/
  orbit : g.space.scene.portrait? (Rig.next f.space.scene).orbit =
    some ⟨transferOrbit, ⟨.zero, .identity, .one⟩, [],
      some (Rig.next f.space.scene).center, [(Rig.next f.space.scene).arm]⟩
  /-- and the arm reaches from there to where the origin was. -/
  arm : g.space.scene.portrait? (Rig.next f.space.scene).arm =
    some ⟨transferArm,
      ⟨(f.space.worldPosition f.mission.bodies.origin).1 -
        (f.space.worldPosition f.mission.bodies.anchor).1, .identity, .one⟩, [],
      some (Rig.next f.space.scene).orbit, [f.mission.bodies.vehicle]⟩
  /-- The vehicle sits at the end of the arm, turned and scaled as before. -/
  vehicle : ∃ p, f.space.scene.portrait? f.mission.bodies.vehicle = some p ∧
    g.space.scene.portrait? f.mission.bodies.vehicle =
      some { p with
        pose := { p.pose with translation := .zero }, parent := some (Rig.next f.space.scene).arm }
  /-- What it hung below has lost it from the list. -/
  left : ∀ old, f.space.scene.parentOf? f.mission.bodies.vehicle = some old →
    g.space.scene.portrait? old = (f.space.scene.portrait? old).map fun p =>
      { p with children := p.children.filter (· ≠ f.mission.bodies.vehicle) }
  others : ∀ x, f.space.scene.has x = true → x ≠ f.mission.bodies.vehicle →
    f.space.scene.parentOf? f.mission.bodies.vehicle ≠ some x →
    g.space.scene.portrait? x = f.space.scene.portrait? x
  named : ∀ name, g.space.frames.get? name =
    if transferArm = name then some (Rig.next f.space.scene).arm
    else if transferOrbit = name then some (Rig.next f.space.scene).orbit
    else if transferCenter = name then some (Rig.next f.space.scene).center
    else f.space.frames.get? name
  spins : g.space.frames.spins =
    f.space.frames.spins ++ [((Rig.next f.space.scene).orbit, .aboutY f.mission.plan.orbitRate)]
  /-- What is not below the vehicle keeps its place in the world, as it is read. -/
  worldMatrix : ∀ x, f.space.scene.has x = true →
    ¬ f.space.scene.Within x f.mission.bodies.vehicle →
    (g.space.scene.worldMatrix x).1 = (f.space.scene.worldMatrix x).1
  mission : g.mission =
    { f.mission with attached := (Rig.next f.space.scene).arm, phase := .inTransit }

section departure
variable {f : Flight} (sound : f.space.scene.Sound)
  (known : f.space.scene.has f.mission.bodies.vehicle = true)
include sound known

/-- **A launch is a departure.** -/
theorem departure_launch (build : Build) (ticket : Nat) :
    ∃ g, f.launch build ticket = .report g (.launched ticket) ∧ f.Departure g := by
  let g : Flight := ({ f with space := f.surveyed } : Flight).departed f.mission.plan.orbitRate
    f.centerPlace (f.startPlace - f.centerPlace)
  refine ⟨g, f.launch_eq build ticket, ?_⟩
  -- Before anything is created, the space has only been read.
  have hread : f.space.scene.Reread f.surveyed.scene := f.reread_surveyed.scene
  have hframes : f.surveyed.frames = f.space.frames := f.reread_surveyed.frames
  have hrig : Rig.next f.surveyed.scene = Rig.next f.space.scene := Rig.next_of_reread hread
  have hsurveyed : f.surveyed.scene.Sound := sound_surveyed sound
  have hvehicle : f.surveyed.scene.has f.mission.bodies.vehicle = true := by
    rw [hread.alike.has, known]
  have hview : ∀ x, g.space.scene.portrait? x = _ :=
    Space.portrait?_rehang_withRig hsurveyed hvehicle _ _ _
  simp only [hrig, hread.portrait?] at hview
  -- Whoever is neither new nor the vehicle may have lost the vehicle from the list.
  have hothers : ∀ x, f.space.scene.has x = true ∨ x.scene ≠ f.space.scene.tag →
      x ≠ f.mission.bodies.vehicle →
      g.space.scene.portrait? x = (f.space.scene.portrait? x).map fun p =>
        { p with children := p.children.filter (· ≠ f.mission.bodies.vehicle) } := by
    intro x hx hne
    obtain ⟨harm, horbit, hcenter⟩ := Rig.ne_next hx
    rw [hview, if_neg harm, if_neg horbit, if_neg hcenter, if_neg hne]
  have hstart : f.startPlace = (f.space.worldPosition f.mission.bodies.origin).1 := by
    rw [startPlace_eq sound, Space.worldPosition_fst sound]
  constructor
  · rw [← hread.tag]
    simp [g, departed, attachedTo]
  · rw [← hread.size]
    exact size_departed _ _ _ _
  · rw [hview, if_neg (by simp [Rig.next, Scene.idAt]), if_neg (by simp [Rig.next, Scene.idAt]),
      if_pos rfl]
    rfl
  · rw [hview, if_neg (by simp [Rig.next, Scene.idAt]), if_pos rfl]
  · rw [hview, if_pos rfl, ← hstart]
    rfl
  · obtain ⟨harm, horbit, hcenter⟩ := Rig.ne_next (.inl known)
    have hsome : (f.space.scene.portrait? f.mission.bodies.vehicle).isSome = true := by
      rw [Scene.isSome_portrait?, known]
    obtain ⟨p, hp⟩ := Option.isSome_iff_exists.mp hsome
    refine ⟨p, hp, ?_⟩
    rw [hview, if_neg harm, if_neg horbit, if_neg hcenter, if_pos rfl, hp]
    rfl
  · intro old hold
    apply hothers old (sound.linked.parent_settled hold)
    intro hself
    exact sound.acyclic _ (.direct (hself ▸ hold))
  · intro x hx hne hnot
    rw [hothers x (.inl hx) hne]
    cases hp : f.space.scene.portrait? x with
    | none => rfl
    | some p => rw [Option.map_some, sound.linked.filter_children hp hnot]
  · intro name
    have hget := f.surveyed.get?_withRig f.mission.plan.orbitRate f.centerPlace
      (f.startPlace - f.centerPlace) name
    rw [hrig, hframes] at hget
    exact hget
  · have hspins := f.surveyed.spins_withRig f.mission.plan.orbitRate f.centerPlace
      (f.startPlace - f.centerPlace)
    rw [hrig, hframes] at hspins
    exact hspins
  · intro x hx houtside
    have hafter : g.space.scene.Sound :=
      (Space.sound_withRig hsurveyed _ _ _).rehang
        ((Space.has_withRig ..).mpr (.inr (Rig.arm_mem _)))
        (Space.not_within_withRig hvehicle _ _ _)
    exact Scene.worldMatrix_of_unlisted sound hafter hothers hx houtside
  · rw [← hrig]
    rfl

end departure

/-! ## Section 4: Samples that fire -/

/-- **What becomes of a flight that fires at the origin.**  In every grown space that
    holds the five bodies, a sample that fires an even ticket is answered by a
    launch, and the launch is a departure.  The bodies may hang below one another,
    and the names of the rig may be taken. -/
theorem observeAngle_departs {f : Flight} (grown : f.space.Grown) (complete : f.Complete)
    (horigin : f.mission.phase = .attachedOrigin) {angle : Int} {ticket : Ticket}
    (hfires : (f.mission.watch.observe angle).1 = some ticket)
    (heven : ticket.launches = true) (build : Build) :
    ∃ g, f.observeAngle build angle = .report g (.launched ticket.number) ∧
      (f.watching (f.mission.watch.observe angle).2).Departure g := by
  have known : f.space.scene.has f.mission.bodies.vehicle = true := by
    apply List.all_eq_true.mp complete
    simp [Bodies.toList]
  let g : Flight := f.watching (f.mission.watch.observe angle).2
  have hwindow : f.observeAngle build angle = g.atWindow build ticket := by
    unfold observeAngle afterSample
    rw [hfires]
    rfl
  have hlaunch : g.atWindow build ticket = g.launch build ticket.number := by
    have hattached : g.mission.phase = .attachedOrigin := horigin
    unfold atWindow
    rw [if_neg (by simp [heven]), if_neg (by simp [hattached])]
  rw [hwindow, hlaunch]
  exact departure_launch (f := g) grown.sound known build ticket.number

/-- A flight whose vehicle carries an object, where the name of the arm is taken. -/
def loaded : Flight where
  mission :=
    { bodies := ⟨⟨0, 1⟩, ⟨0, 0⟩, ⟨0, 3⟩, ⟨0, 4⟩, ⟨0, 4⟩⟩
      plan := {}
      watch := { target := 44, tickets := 1 }
      phase := .attachedOrigin
      attached := ⟨0, 0⟩ }
  space :=
    { scene :=
        Scene.edited { tag := 0 }
          [ .createChild none "origin", .createChild (some ⟨0, 0⟩) "vehicle",
            .createChild (some ⟨0, 1⟩) "load", .createChild none "destination",
            .createChild none "sun", .setTranslation ⟨0, 0⟩ .unitX ]
      frames := ({} : Frames).register transferArm ⟨0, 3⟩ none }

theorem loaded_departs :
    ∃ g, loaded.observeAngle .debug 44 = .report g (.launched 2) ∧
      (loaded.watching (loaded.mission.watch.observe 44).2).Departure g := by
  have grown : loaded.space.Grown := by
    have hscene : Space.Grown { scene := loaded.space.scene } := by
      apply (Space.Grown.empty 0).edited
      refine ⟨⟨by decide, trivial⟩, ⟨by decide, trivial⟩, ⟨by decide, trivial⟩,
        ⟨by decide, trivial⟩, ⟨by decide, trivial⟩, ⟨by decide, trivial⟩, trivial⟩
    exact hscene.register transferArm ⟨0, 3⟩ none
  have hfires : (loaded.mission.watch.observe 44).1 = some ⟨2⟩ := by decide
  exact observeAngle_departs grown (by decide) rfl hfires (by decide) .debug

end Flight

end Planetarium

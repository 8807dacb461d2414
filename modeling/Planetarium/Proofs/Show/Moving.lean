import Planetarium.Proofs.Geometry.Placement
import Planetarium.Proofs.Scene.Rehanging
import Planetarium.Proofs.Show.Authored

/-! # Moving to a point

    A message can move an object to a named point.  What is stored as the translation
    is the point itself, and the place in the world is computed from it.

    The two agree as long as the rotation, the scale and the point give a matrix of
    finite numbers.  Other numbers are accepted as well, and then they need not.

    * `Scene.freshPosition_of_top`: where an object at the top is.
    * `Scene.Linked.setTranslation_setTranslation`, `Scene.reread_setTranslation`: a
      translation that is set again.
    * `Simulation.moved_to_point`: all that a move leaves behind, and that sending it
      again changes nothing.
    * `Simulation.stretched_box`: an object of infinite width, which is nowhere. -/

namespace Planetarium

/-! ## Section 1: Objects at the top -/

namespace Scene

/-- An object at the top is placed by its own matrix. -/
theorem freshPosition_of_top {s : Scene} (acyclic : s.Acyclic) {id : ObjectId} {p : Portrait}
    (h : s.portrait? id = some p) (htop : p.parent = none) :
    s.freshPosition id = (Mat4.identity * p.pose.matrix).originImage := by
  obtain ⟨o, ho, rfl⟩ := Option.map_eq_some_iff.mp h
  have hparent : o.parent = none := htop
  unfold freshPosition
  rw [freshMatrix_eq acyclic, ho]
  simp only [hparent]
  rfl

/-- A point and the matrix that is made of it agree in what they say of the place. -/
theorem freshPosition_agrees_iff {s : Scene} (acyclic : s.Acyclic) {id : ObjectId} {p : Portrait}
    (h : s.portrait? id = some p) (htop : p.parent = none) :
    (s.freshPosition id).Agrees p.pose.translation ↔
      p.pose.matrix.Finite ∨ p.pose.translation.Undefined := by
  rw [freshPosition_of_top acyclic h htop]
  have hw : Numeral.Single.isFinite p.pose.matrix.c3.w = true := by
    show Numeral.Single.isFinite 1 = true
    decide +kernel
  exact Mat4.originImage_agrees_iff hw

/-! ## Section 2: The same translation again -/

theorem bare_markedIf (P : Prop) (o : Object) : bare (o.markedIf P) = bare o := by
  unfold Object.markedIf
  split <;> rfl

/-- The last one wins. -/
theorem Linked.setTranslation_setTranslation {s : Scene} (linked : s.Linked) {id : ObjectId}
    (known : s.has id = true) (v w : Vec3) :
    (s.setTranslation id v).setTranslation id w = s.setTranslation id w := by
  have hknown : (s.setTranslation id v).has id = true := (has_move s id id _).trans known
  refine eq_of_get? ?_ fun x => ?_
  · simp [setTranslation]
  · have hwithin : (s.setTranslation id v).Within x id ↔ s.Within x id :=
      within_congr (fun y => parentOf?_setTranslation s id y v) x id
    have hlinked : (s.setTranslation id v).Linked := linked.move id _
    have hlast : ∀ o : Object, (o.movedAt id (·.setTranslation v) x).movedAt id
        (·.setTranslation w) x = o.movedAt id (·.setTranslation w) x := by
      intro o
      unfold Object.movedAt
      split <;> rfl
    unfold setTranslation at hwithin hlinked hknown ⊢
    rw [get?_move hlinked hknown, get?_move linked known, get?_move linked known, Option.map_map]
    congr 1
    funext o
    rw [Function.comp_apply, Object.movedAt_markedIf, Object.markedIf_markedIf, hlast]
    simp only [hwithin, or_self]

/-- Setting the translation that an object has changes marks at most. -/
theorem reread_setTranslation {s : Scene} (linked : s.Linked) {id : ObjectId} {pose : Pose}
    (h : s.poseOf? id = some pose) : s.Reread (s.setTranslation id pose.translation) := by
  obtain ⟨o, ho, rfl⟩ := Option.map_eq_some_iff.mp h
  refine ⟨tag_move s id _, size_move s id _, fun x => ?_⟩
  unfold setTranslation
  rw [get?_move linked (has_of_get? ho), Option.map_map]
  by_cases hx : x = id
  · subst hx
    rw [ho]
    simp only [Option.map_some, Function.comp_apply, bare_markedIf, Object.movedAt, if_true]
    rfl
  · congr 1
    funext u
    rw [Function.comp_apply, bare_markedIf, Object.movedAt, if_neg hx]

end Scene

/-! ## Section 3: Moves -/

theorem Catalog.node_eq_ok_iff (c : Catalog) (name : String) (id : ObjectId) :
    c.node name = .ok id ↔ c.nodes.get? name = some id := by
  unfold node
  cases c.nodes.get? name <;> simp

theorem Catalog.point_eq_ok_iff (c : Catalog) (name : String) (position : Vec3) :
    c.point name = .ok position ↔ c.points.get? name = some position := by
  unfold point
  cases c.points.get? name <;> simp

namespace Simulation

/-- The simulation with an object at another place. -/
def moved (sim : Simulation) (id : ObjectId) (position : Vec3) : Simulation :=
  sim.withStage (sim.stage.withScene (sim.scene.setTranslation id position))

/-- The simulation after the places of some objects have been read. -/
def seen (sim : Simulation) (ids : List ObjectId) : Simulation :=
  ids.foldl (fun sim id => (sim.worldPosition id).2) sim

/-- A message moves a known object to a known point. -/
structure Moves (sim : Simulation) (payload name point : String) (id : ObjectId)
    (position : Vec3) : Prop where
  message : Message.ofPayload? payload = some (.authoring .moveToPoint [name, point])
  node : sim.stage.catalog.node name = .ok id
  point : sim.stage.catalog.point point = .ok position

/-- What a simulation knows beside the objects. -/
structure SameBeside (sim sim' : Simulation) : Prop where
  frames : sim'.frames = sim.frames
  catalog : sim'.stage.catalog = sim.stage.catalog
  camera : sim'.stage.camera = sim.stage.camera
  backdrop : sim'.stage.backdrop = sim.stage.backdrop
  paused : sim'.stage.paused = sim.stage.paused
  mission : sim'.mission = sim.mission
  controls : sim'.controls = sim.controls

section moves
variable {sim : Simulation} {payload name point : String} {id : ObjectId} {position : Vec3}

/-- Only such a message is answered so. -/
theorem exists_moves (h : (sim.handle payload).answer = .authored .moveToPoint) :
    ∃ name point id position, sim.Moves payload name point id position := by
  have hhandled := sim.handled payload
  generalize sim.handle payload = reply at hhandled h
  cases hhandled with
  | empty | unknown | rejected => cases h
  | controlled _ _ hanswer =>
    rw [hanswer] at h
    cases h
  | authored hmessage hauthor hanswer =>
    obtain rfl : _ = Verb.moveToPoint := Answer.authored.inj (hanswer.symm.trans h)
    obtain ⟨instruction, w, hparse, happly, -⟩ := Stage.author_eq_ok hauthor
    unfold Instruction.parse at hparse
    dsimp only at hparse
    split at hparse
    · next name point =>
      obtain rfl := Except.ok.inj hparse
      have hcarries := Workshop.carries_of_apply happly
      generalize hinstruction : Instruction.moveToPoint name point = instruction at hcarries
      cases hcarries with
      | createObject | createObjectAtPoint | createPoint => cases hinstruction
      | @moveToPoint _ _ id position hnode hpoint =>
        obtain ⟨rfl, rfl⟩ := Instruction.moveToPoint.inj hinstruction
        refine ⟨name, point, id, position, hmessage, ?_, ?_⟩
        · exact (Catalog.node_eq_ok_iff _ name id).mpr hnode
        · exact (Catalog.point_eq_ok_iff _ point position).mpr hpoint
    · cases hparse

theorem Moves.handle_eq (h : sim.Moves payload name point id position) :
    sim.handle payload =
      { state := sim.moved id position, answer := .authored .moveToPoint } := by
  have hauthor : sim.stage.author .moveToPoint [name, point] =
      .ok ([], sim.stage.withScene (sim.scene.setTranslation id position)) := by
    have hparse : Instruction.parse .moveToPoint [name, point] = .ok (.moveToPoint name point) := rfl
    have hnode := (Catalog.node_eq_ok_iff _ name id).mp h.node
    have hpoint := (Catalog.point_eq_ok_iff _ point position).mp h.point
    rw [sim.stage.author_of_parse_ok hparse, Workshop.apply_moveToPoint]
    simp only [Stage.workshop, hnode, hpoint]
    rfl
  unfold handle
  simp only [h.message, Stage.dispatch, hauthor]
  rfl

/-- The names stand for the same afterwards. -/
theorem Moves.again (h : sim.Moves payload name point id position) :
    (sim.moved id position).Moves payload name point id position :=
  ⟨h.message, h.node, h.point⟩

end moves

/-! ## Section 4: Reads in between -/

namespace SameBeside
variable {a b c : Simulation}

theorem refl (a : Simulation) : a.SameBeside a := ⟨rfl, rfl, rfl, rfl, rfl, rfl, rfl⟩

theorem trans (h : a.SameBeside b) (h' : b.SameBeside c) : a.SameBeside c :=
  ⟨h'.frames.trans h.frames, h'.catalog.trans h.catalog, h'.camera.trans h.camera,
    h'.backdrop.trans h.backdrop, h'.paused.trans h.paused, h'.mission.trans h.mission,
    h'.controls.trans h.controls⟩

theorem moves (h : a.SameBeside b) {payload name point : String} {id : ObjectId} {position : Vec3}
    (hmoves : a.Moves payload name point id position) :
    b.Moves payload name point id position := by
  refine ⟨hmoves.message, ?_, ?_⟩
  · rw [h.catalog]
    exact hmoves.node
  · rw [h.catalog]
    exact hmoves.point

end SameBeside

theorem sameBeside_moved (sim : Simulation) (id : ObjectId) (position : Vec3) :
    sim.SameBeside (sim.moved id position) := ⟨rfl, rfl, rfl, rfl, rfl, rfl, rfl⟩

/-- Reads compute matrices and nothing else. -/
theorem seen_reread {sim : Simulation} (sound : sim.scene.Sound) (ids : List ObjectId) :
    (sim.seen ids).scene.Sound ∧ sim.scene.Reread (sim.seen ids).scene ∧
    sim.SameBeside (sim.seen ids) := by
  induction ids generalizing sim with
  | nil => exact ⟨sound, .refl _, .refl _⟩
  | cons id ids ih =>
    have hsound : (sim.worldPosition id).2.scene.Sound := sound.worldPosition_snd id
    have hread : sim.scene.Reread (sim.worldPosition id).2.scene := sim.scene.reread_worldPosition id
    have hsame : sim.SameBeside (sim.worldPosition id).2 := ⟨rfl, rfl, rfl, rfl, rfl, rfl, rfl⟩
    obtain ⟨hsound', hread', hsame'⟩ := ih hsound
    exact ⟨hsound', hread.trans hread', hsame.trans hsame'⟩

/-- A move to where the object is shows nothing, whatever has been read before. -/
theorem moved_seen {sim : Simulation} (sound : sim.scene.Sound) {id : ObjectId} {pose : Pose}
    (hpose : sim.scene.poseOf? id = some pose) (ids : List ObjectId) (x : ObjectId) :
    ((sim.seen ids).moved id pose.translation).scene.portrait? x =
      (sim.seen ids).scene.portrait? x ∧
    (((sim.seen ids).moved id pose.translation).scene.worldMatrix x).1 =
      ((sim.seen ids).scene.worldMatrix x).1 := by
  obtain ⟨hsound, hread, -⟩ := seen_reread sound ids
  have hseen : (sim.seen ids).scene.poseOf? id = some pose := (hread.alike.poseOf? id).trans hpose
  have hset := Scene.reread_setTranslation hsound.linked hseen
  have hsound' : ((sim.seen ids).moved id pose.translation).scene.Sound :=
    hsound.setTranslation id pose.translation
  refine ⟨hset.portrait? x, ?_⟩
  rw [hsound'.worldMatrix_fst, hsound.worldMatrix_fst]
  exact hset.alike.freshMatrix hsound.acyclic x

/-! ## Section 5: What a move leaves behind -/

/-- **What a move to a point leaves behind.** -/
structure MovedToPoint (past : List Deed) (sim : Simulation) (payload name point : String)
    (id : ObjectId) (position : Vec3) (spec : ObjectSpec) : Prop where
  moves : sim.Moves payload name point id position
  /-- Nothing is reported, and nothing stops the move. -/
  handled : sim.handle payload =
    { state := sim.moved id position, answer := .authored .moveToPoint }
  /-- The names stand for the same afterwards. -/
  node : (sim.moved id position).stage.catalog.node name = .ok id
  point : (sim.moved id position).stage.catalog.point point = .ok position
  /-- The object is as it was asked for, but at the point. -/
  asked : ∃ d ∈ past, d.instruction.spec? = some spec ∧ d.object = some id ∧ spec.name = name
  portrait : (sim.moved id position).scene.portrait? id = some (spec.portraitAt position)
  /-- Its place in the world is the point if the matrix that is made of scale, rotation and
      point is finite, or if the point is undefined anyway. -/
  agrees_iff : ((sim.moved id position).worldPosition id).1.Agrees position ↔
    (spec.portraitAt position).pose.matrix.Finite ∨ position.Undefined
  /-- The same message again leaves the very same state. -/
  again : (sim.moved id position).handle payload =
    { state := sim.moved id position, answer := .authored .moveToPoint }
  /-- If places have been read in between, it leaves all that is to be seen. -/
  again_seen : ∀ ids, ∃ sim',
    ((sim.moved id position).seen ids).handle payload =
      { state := sim', answer := .authored .moveToPoint } ∧
    ((sim.moved id position).seen ids).SameBeside sim' ∧
    ∀ x, sim'.scene.portrait? x = ((sim.moved id position).seen ids).scene.portrait? x ∧
      (sim'.scene.worldMatrix x).1 = (((sim.moved id position).seen ids).scene.worldMatrix x).1

/-- **Moving to a point,** in whatever state a show is. -/
theorem moved_to_point (setup : Setup) (h : History) {payload : String}
    (hanswer : (((start setup).after h).handle payload).answer = .authored .moveToPoint) :
    ∃ name point id position spec,
      MovedToPoint ((start setup).deeds h) ((start setup).after h) payload name point id position
        spec := by
  obtain ⟨rig, hfollows⟩ := follows_after setup h
  generalize (start setup).after h = sim at hanswer hfollows ⊢
  obtain ⟨name, point, id, position, hmoves⟩ := exists_moves hanswer
  -- The name stands for an object that was asked for.
  have hnode := (Catalog.node_eq_ok_iff _ name id).mp hmoves.node
  rw [show sim.stage.catalog = sim.stage.workshop.catalog from rfl, hfollows.replays.nodes] at hnode
  obtain ⟨d, hd, spec, hspec, hname, hobject⟩ := Deed.exists_of_node? hnode
  obtain ⟨x, before, hx, -, hportrait⟩ := hfollows.replays.built d hd spec hspec
  obtain rfl := Option.some.inj (hobject.symm.trans hx)
  have hknown : sim.scene.has id = true := Scene.has_of_portrait? hportrait
  have sound : sim.scene.Sound := hfollows.regular.steady.sound
  have hsound : (sim.moved id position).scene.Sound := sound.setTranslation id position
  have hmoved : (sim.moved id position).scene.portrait? id = some (spec.portraitAt position) := by
    have hlook : sim.scene.portrait? id = some (spec.portraitAt before) := hportrait
    refine (sim.scene.portrait?_setTranslation id id position).trans ?_
    rw [if_pos rfl, hlook]
    rfl
  have hagain : (sim.moved id position).moved id position = sim.moved id position :=
    congrArg (fun scene => sim.withStage (sim.stage.withScene scene))
      (sound.linked.setTranslation_setTranslation hknown position position)
  refine ⟨name, point, id, position, spec, hmoves, hmoves.handle_eq, hmoves.node, hmoves.point,
    ⟨d, List.mem_reverse.mp hd, hspec, hobject, hname⟩, hmoved, ?_, ?_, ?_⟩
  · have hplace : ((sim.moved id position).worldPosition id).1 =
        (sim.moved id position).scene.freshPosition id := hsound.worldPosition_fst id
    rw [hplace]
    exact Scene.freshPosition_agrees_iff hsound.acyclic hmoved rfl
  · rw [hmoves.again.handle_eq, hagain]
  · intro ids
    obtain ⟨-, -, hsame⟩ := seen_reread hsound ids
    have hpose : (sim.moved id position).scene.poseOf? id =
        some (spec.portraitAt position).pose := by
      obtain ⟨o, ho, hlook⟩ := Option.map_eq_some_iff.mp hmoved
      rw [Scene.poseOf?_eq ho, ← hlook]
      rfl
    exact ⟨_, (hsame.moves hmoves.again).handle_eq, sameBeside_moved _ id position,
      moved_seen hsound hpose ids⟩

/-- A point, and a box of ordinary width beside it. -/
def boxed : History :=
  [.message "PNT A 1 2 3", .message "OBJ box 0 0 0 2 1 1 0 0 0 m a b 1"]

theorem moved_to_point_of_box :
    (((start {}).after boxed).handle "MOV box A").answer = .authored .moveToPoint ∧
    ∃ name point id position spec,
      MovedToPoint ((start {}).deeds boxed) ((start {}).after boxed) "MOV box A" name point id
        position spec := by
  have hanswer : (((start {}).after boxed).handle "MOV box A").answer = .authored .moveToPoint := by
    decide +kernel
  exact ⟨hanswer, moved_to_point {} boxed hanswer⟩

/-- The same with a box of infinite width. -/
def stretched : History :=
  [.message "PNT A 1 2 3", .message "OBJ box 0 0 0 inf 1 1 0 0 0 m a b 1"]

/-- The move is carried out, but the box is nowhere. -/
theorem stretched_box :
    let reply := ((start {}).after stretched).handle "MOV box A"
    reply.answer = .authored .moveToPoint ∧
    reply.state.stage.catalog.node "box" = .ok ⟨0, 56⟩ ∧
    reply.state.stage.catalog.point "A" = .ok ⟨1, 2, 3⟩ ∧
    ¬ (reply.state.worldPosition ⟨0, 56⟩).1.Agrees ⟨1, 2, 3⟩ := by
  refine ⟨by decide +kernel, ?_, ?_, fun h => ?_⟩
  · rw [Catalog.node_eq_ok_iff]
    decide +kernel
  · rw [Catalog.point_eq_ok_iff]
    decide +kernel
  · have hnan : ((((start {}).after stretched).handle "MOV box A").state.worldPosition
        ⟨0, 56⟩).1.x.isNaN = true := by
      decide +kernel
    have hone : (1 : Float32).isNaN = false := by decide +kernel
    have hsame : (1 : Float32).isNaN = true := h.x.isNaN_iff.mp hnan
    rw [hone] at hsame
    cases hsame

end Simulation

end Planetarium

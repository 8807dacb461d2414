import Planetarium.Proofs.Catalog.Boards
import Planetarium.Proofs.Show.Authored

/-! # Clients

    Messages of several clients arrive in some order that no client controls,
    except that each one's own messages stay in order.  Clients that use
    different names do not notice one another.

    * `ofClient`: what belongs to one client.  Two orders in which all clients
      have the same messages are interleavings of the same sequences.
    * `Board.run`: answers, and what names stand for in the end, without ids.
    * `Board.run_mine`: a run beside the run of some of its messages.
    * `interleavings_agree_after`: every client gets the same answers, and the
      names stand for the same, whatever the order. -/

namespace Planetarium

/-! ## Section 1: Authoring messages -/

namespace Message

/-- The authoring message in a payload, with its tokens read. -/
def reading? (payload : String) : Option (Verb × Except ParseError Instruction) :=
  match ofPayload? payload with
  | some (.authoring verb tokens) => some (verb, Instruction.parse verb tokens)
  | _ => none

/-- The instruction in a payload that is well formed. -/
def instruction? (payload : String) : Option Instruction :=
  (reading? payload).bind (·.2.toOption)

/-- The name of an object that a well-formed message uses. -/
def nodeName? (payload : String) : Option String := (instruction? payload).bind (·.nodeName?)

/-- The name of a point that a well-formed message uses. -/
def pointName? (payload : String) : Option String := (instruction? payload).bind (·.pointName?)

/-- All names that a message uses are among `N` and `P`. -/
def About (N P : String → Prop) (payload : String) : Prop :=
  (∀ name ∈ nodeName? payload, N name) ∧ ∀ name ∈ pointName? payload, P name

/-- No name that a message uses is among `N` or `P`. -/
def Avoids (N P : String → Prop) (payload : String) : Prop :=
  About (fun name => ¬ N name) (fun name => ¬ P name) payload

theorem About.of_instruction {N P : String → Prop} {payload : String} {instruction : Instruction}
    (h : About N P payload) (hinstruction : instruction? payload = some instruction) :
    (∀ name ∈ instruction.nodeName?, N name) ∧ ∀ name ∈ instruction.pointName?, P name := by
  unfold About nodeName? pointName? at h
  rw [hinstruction] at h
  exact h

theorem instruction?_eq {payload : String} {verb : Verb} {instruction : Instruction}
    (h : reading? payload = some (verb, .ok instruction)) :
    instruction? payload = some instruction := by
  unfold instruction?
  rw [h]
  rfl

theorem exists_of_reading? {payload : String} (h : (reading? payload).isSome = true) :
    ∃ verb tokens, ofPayload? payload = some (.authoring verb tokens) ∧
      reading? payload = some (verb, Instruction.parse verb tokens) := by
  unfold reading? at h ⊢
  split at h
  · next verb tokens hmessage => exact ⟨verb, tokens, hmessage, rfl⟩
  · cases h

end Message

namespace Board

/-- What a message is answered, and what the board shows then. -/
def take (b : Board) (payload : String) : Answer × Board :=
  match Message.reading? payload with
  | some (verb, .ok instruction) =>
    match b.instruct instruction with
    | .ok b' => (.authored verb, b')
    | .error missing => (.rejected (.notFound missing), b)
  | some (_, .error fault) => (.rejected (.parse fault), b)
  | none => (.ignored, b)

variable {N P : String → Prop} {b b' : Board} {payload : String}

/-- A message about the shared names does the same on both boards. -/
theorem Agree.take (h : Agree N P b b') (about : Message.About N P payload) :
    (b'.take payload).1 = (b.take payload).1 ∧
      Agree N P (b.take payload).2 (b'.take payload).2 := by
  unfold Board.take
  cases hreading : Message.reading? payload with
  | none => exact ⟨rfl, h⟩
  | some reading =>
    obtain ⟨verb, fault | instruction⟩ := reading
    · exact ⟨rfl, h⟩
    · obtain ⟨hnode, hpoint⟩ := about.of_instruction (Message.instruction?_eq hreading)
      rcases h.instruct hnode hpoint with ⟨c, c', hc, hc', hagree⟩ | ⟨missing, hm, hm'⟩
      · simp only [hc, hc']
        exact ⟨trivial, hagree⟩
      · simp only [hm, hm']
        exact ⟨trivial, h⟩

/-- A message about other names changes nothing under these. -/
theorem agree_take (b : Board) (avoids : Message.Avoids N P payload) :
    Agree N P b (b.take payload).2 := by
  unfold Board.take
  cases hreading : Message.reading? payload with
  | none => exact .refl N P b
  | some reading =>
    obtain ⟨verb, fault | instruction⟩ := reading
    · exact .refl N P b
    · obtain ⟨hnode, hpoint⟩ := avoids.of_instruction (Message.instruction?_eq hreading)
      cases hc : b.instruct instruction with
      | ok c =>
        simp only [hc]
        exact agree_of_aside hnode hpoint hc
      | error missing =>
        simp only [hc]
        exact .refl N P b

end Board

/-! ## Section 2: Runs -/

namespace Board

variable {ι : Type}

/-- **A run on a board:** the answers to the clients, and what is shown in the end. -/
def run (b : Board) : List (ι × String) → List (ι × Answer) × Board
  | [] => ([], b)
  | (c, payload) :: m =>
    let rest := (b.take payload).2.run m
    ((c, (b.take payload).1) :: rest.1, rest.2)

/-- **A run beside the run of some of its messages.**  If those are about the
    names `N` and `P` and the others are not, the answers to them are the same,
    and so is what is shown under these names. -/
theorem Agree.run_mine {N P : String → Prop} {b b' : Board} (h : Agree N P b b') (mine : ι → Bool)
    {m : List (ι × String)}
    (hmine : ∀ e ∈ m, mine e.1 = true → Message.About N P e.2)
    (hother : ∀ e ∈ m, mine e.1 = false → Message.Avoids N P e.2) :
    (b.run m).1.filter (mine ·.1) = (b'.run (m.filter (mine ·.1))).1 ∧
    Agree N P (b.run m).2 (b'.run (m.filter (mine ·.1))).2 := by
  -- The first message is taken by both runs, or by the first one alone.
  induction m generalizing b b' with
  | nil => exact ⟨rfl, h⟩
  | cons e m ih =>
    obtain ⟨c, payload⟩ := e
    have hmine' := fun e he => hmine e (List.mem_cons_of_mem _ he)
    have hother' := fun e he => hother e (List.mem_cons_of_mem _ he)
    cases hc : mine c with
    | true =>
      obtain ⟨hanswer, hnext⟩ := h.take (hmine _ List.mem_cons_self hc)
      obtain ⟨hanswers, hend⟩ := ih hnext hmine' hother'
      have hkeep : ((c, payload) :: m).filter (mine ·.1) = (c, payload) :: m.filter (mine ·.1) :=
        List.filter_cons_of_pos hc
      have hfirst : (b.run ((c, payload) :: m)).1.filter (mine ·.1) =
          (c, (b.take payload).1) :: ((b.take payload).2.run m).1.filter (mine ·.1) :=
        List.filter_cons_of_pos hc
      rw [hkeep, hfirst, hanswers, ← hanswer]
      exact ⟨rfl, hend⟩
    | false =>
      have haside := b.agree_take (hother _ List.mem_cons_self hc)
      obtain ⟨hanswers, hend⟩ := ih (haside.symm.trans h) hmine' hother'
      have hskip : ((c, payload) :: m).filter (mine ·.1) = m.filter (mine ·.1) :=
        List.filter_cons_of_neg (by simp [hc])
      have hfirst : (b.run ((c, payload) :: m)).1.filter (mine ·.1) =
          ((b.take payload).2.run m).1.filter (mine ·.1) :=
        List.filter_cons_of_neg (by simp [hc])
      rw [hskip, hfirst]
      exact ⟨hanswers, hend⟩

end Board

/-! ## Section 3: Messages of several clients -/

section clients
variable {ι α : Type} [DecidableEq ι]

/-- What belongs to one client, in order. -/
def ofClient (c : ι) (m : List (ι × α)) : List α := (m.filter (·.1 = c)).map (·.2)

theorem mem_ofClient {c : ι} {m : List (ι × α)} {a : α} : a ∈ ofClient c m ↔ (c, a) ∈ m := by
  simp [ofClient]

/-- What is left of a list of messages is that of one client. -/
theorem filter_client (c : ι) (m : List (ι × α)) :
    m.filter (·.1 = c) = (ofClient c m).map (c, ·) := by
  unfold ofClient
  rw [List.map_map]
  refine (List.map_id _).symm.trans (List.map_congr_left ?_)
  intro e he
  have htag : e.1 = c := by simpa using (List.mem_filter.mp he).2
  exact Prod.ext htag rfl

/-- The messages of some clients use no name of an object and no name of a point
    that those of others use. -/
def Apart (A B : List String) : Prop :=
  (∀ name ∈ A.filterMap Message.nodeName?, name ∉ B.filterMap Message.nodeName?) ∧
  ∀ name ∈ A.filterMap Message.pointName?, name ∉ B.filterMap Message.pointName?

instance (A B : List String) : Decidable (Apart A B) :=
  inferInstanceAs (Decidable (_ ∧ _))

namespace Board

/-- The names of objects that a client uses. -/
def nodesOf (m : List (ι × String)) (c : ι) (name : String) : Prop :=
  name ∈ (ofClient c m).filterMap Message.nodeName?

/-- The names of points that a client uses. -/
def pointsOf (m : List (ι × String)) (c : ι) (name : String) : Prop :=
  name ∈ (ofClient c m).filterMap Message.pointName?

variable {m m' : List (ι × String)}

/-- The names that a message uses are names of its client. -/
theorem about_client (same : ∀ c, ofClient c m' = ofClient c m) {e : ι × String} (he : e ∈ m') :
    Message.About (nodesOf m e.1) (pointsOf m e.1) e.2 := by
  have hsent : e.2 ∈ ofClient e.1 m := by
    rw [← same]
    exact mem_ofClient.mpr he
  exact ⟨fun name hname => List.mem_filterMap.mpr ⟨e.2, hsent, hname⟩,
    fun name hname => List.mem_filterMap.mpr ⟨e.2, hsent, hname⟩⟩

/-- **What a client notices is its own run,** in every order. -/
theorem run_client (apart : ∀ c d, c ≠ d → Apart (ofClient c m) (ofClient d m))
    (same : ∀ c, ofClient c m' = ofClient c m) (b : Board) (c : ι) :
    ofClient c (b.run m').1 = (b.run ((ofClient c m).map (c, ·))).1.map (·.2) ∧
    Agree (nodesOf m c) (pointsOf m c) (b.run m').2 (b.run ((ofClient c m).map (c, ·))).2 := by
  have hmine : ∀ e ∈ m', decide (e.1 = c) = true →
      Message.About (nodesOf m c) (pointsOf m c) e.2 := by
    intro e he hc
    obtain rfl : e.1 = c := by simpa using hc
    exact about_client same he
  have hother : ∀ e ∈ m', decide (e.1 = c) = false →
      Message.Avoids (nodesOf m c) (pointsOf m c) e.2 := by
    intro e he hc
    have hne : e.1 ≠ c := by simpa using hc
    obtain ⟨hnode, hpoint⟩ := apart _ _ hne
    obtain ⟨husesNode, husesPoint⟩ := about_client same he
    exact ⟨fun name hname => hnode name (husesNode name hname),
      fun name hname => hpoint name (husesPoint name hname)⟩
  have hrun := (Agree.refl (nodesOf m c) (pointsOf m c) b).run_mine (fun d => decide (d = c))
    hmine hother
  rw [filter_client c m', same] at hrun
  refine ⟨?_, hrun.2⟩
  rw [← hrun.1]
  rfl

/-- A name that no client uses shows what it showed before. -/
theorem run_unused (same : ∀ c, ofClient c m' = ofClient c m) (b : Board) :
    Agree (fun name => ∀ c, ¬ nodesOf m c name) (fun name => ∀ c, ¬ pointsOf m c name)
      b (b.run m').2 := by
  have hother : ∀ e ∈ m', false = false → Message.Avoids (fun name => ∀ c, ¬ nodesOf m c name)
      (fun name => ∀ c, ¬ pointsOf m c name) e.2 := by
    intro e he _
    obtain ⟨hnode, hpoint⟩ := about_client same he
    exact ⟨fun name hname hunused => hunused e.1 (hnode name hname),
      fun name hname hunused => hunused e.1 (hpoint name hname)⟩
  have hrun := (Agree.refl _ _ b).run_mine (fun _ => false) (by simp) hother
  have hnil : m'.filter (fun _ => false) = [] := List.filter_false m'
  rw [hnil] at hrun
  exact hrun.2.symm

/-- **In every order the clients get the same answers, and the board is the same
    in the end.** -/
theorem run_interleaved (apart : ∀ c d, c ≠ d → Apart (ofClient c m) (ofClient d m))
    (same : ∀ c, ofClient c m' = ofClient c m) (b : Board) :
    (∀ c, ofClient c (b.run m').1 = ofClient c (b.run m).1) ∧ (b.run m').2 = (b.run m).2 := by
  have hclient := run_client apart same b
  have hclient' := run_client apart (fun _ => rfl) b
  have hunused := run_unused same b
  have hunused' := run_unused (m := m) (fun _ => rfl) b
  refine ⟨fun c => (hclient c).1.trans (hclient' c).1.symm, Board.ext ?_ ?_⟩
  · -- A name is one of some client, or of none.
    funext name
    by_cases hused : ∃ c, nodesOf m c name
    · obtain ⟨c, hc⟩ := hused
      exact ((hclient c).2.node name hc).symm.trans ((hclient' c).2.node name hc)
    · have hnone := fun c hc => hused ⟨c, hc⟩
      exact (hunused.node name hnone).trans (hunused'.node name hnone).symm
  · funext name
    by_cases hused : ∃ c, pointsOf m c name
    · obtain ⟨c, hc⟩ := hused
      exact ((hclient c).2.point name hc).symm.trans ((hclient' c).2.point name hc)
    · have hnone := fun c hc => hused ⟨c, hc⟩
      exact (hunused.point name hnone).trans (hunused'.point name hnone).symm

end Board

end clients

/-! ## Section 4: Shows -/

namespace Simulation
variable {ι : Type}

/-- **What the clients are answered,** one message after another. -/
def answered (sim : Simulation) : List (ι × String) → List (ι × Answer)
  | [] => []
  | (c, payload) :: m =>
    (c, (sim.handle payload).answer) :: (sim.handle payload).state.answered m

/-- The simulation after the messages of the clients. -/
def afterMessages (sim : Simulation) (m : List (ι × String)) : Simulation :=
  sim.after (m.map fun e => .message e.2)

/-- **A name shows the same in two simulations:** nothing in both, or objects that
    look the same, whatever their ids are. -/
inductive SameNode (sim sim' : Simulation) (name : String) : Prop where
  | missing (h : sim.stage.catalog.node name = .error (.node name))
      (h' : sim'.stage.catalog.node name = .error (.node name))
  | there {x x' : ObjectId} {p : Portrait} (h : sim.stage.catalog.node name = .ok x)
      (h' : sim'.stage.catalog.node name = .ok x') (hp : sim.scene.portrait? x = some p)
      (hp' : sim'.scene.portrait? x' = some p)

/-- **The names stand for the same in two simulations.** -/
structure SameNames (sim sim' : Simulation) : Prop where
  point : ∀ name, sim'.stage.catalog.point name = sim.stage.catalog.point name
  node : ∀ name, sim.SameNode sim' name

/-- The board of a simulation. -/
abbrev board (sim : Simulation) : Board := sim.stage.workshop.board

/-- A board tells all about names. -/
theorem sameNames_of_board {sim sim' : Simulation} {past past' : List Deed}
    (h : sim.stage.workshop.Replays past) (h' : sim'.stage.workshop.Replays past')
    (hboard : sim'.board = sim.board) : SameNames sim sim' := by
  refine ⟨?_, ?_⟩
  · intro name
    have hpoint : sim'.stage.catalog.points.get? name = sim.stage.catalog.points.get? name :=
      congrFun (congrArg Board.point hboard) name
    unfold Catalog.point
    rw [hpoint]
  · intro name
    have hnode : sim'.board.node name = sim.board.node name :=
      congrFun (congrArg Board.node hboard) name
    rcases h.node_cases name with ⟨hx, hshown⟩ | ⟨x, p, hx, hp, hshown⟩
    · rcases h'.node_cases name with ⟨hx', _⟩ | ⟨x', p', _, _, hshown'⟩
      · exact .missing hx hx'
      · rw [hnode, hshown] at hshown'
        cases hshown'
    · rcases h'.node_cases name with ⟨_, hshown'⟩ | ⟨x', p', hx', hp', hshown'⟩
      · rw [hnode, hshown] at hshown'
        cases hshown'
      · rw [hnode, hshown] at hshown'
        obtain rfl := Option.some.inj hshown'
        exact .there hx hx' hp hp'

/-- **A board tells what an authoring message does.** -/
theorem take_board {sim : Simulation} {past : List Deed} (h : sim.stage.workshop.Replays past)
    {payload : String} (authoring : (Message.reading? payload).isSome = true) :
    sim.board.take payload = ((sim.handle payload).answer, (sim.handle payload).state.board) ∧
    ∃ past', (sim.handle payload).state.stage.workshop.Replays past' := by
  obtain ⟨verb, tokens, hmessage, hreading⟩ := Message.exists_of_reading? authoring
  have hhandled := sim.handle_authoring hmessage
  unfold Board.take
  rw [hreading]
  cases hparse : Instruction.parse verb tokens with
  | error fault =>
    rw [sim.stage.author_of_parse_error hparse] at hhandled
    obtain ⟨hanswer, hstate⟩ := Prod.mk.inj hhandled
    rw [hanswer, hstate]
    exact ⟨rfl, past, h⟩
  | ok instruction =>
    rw [sim.stage.author_of_parse_ok hparse] at hhandled
    simp only
    rw [h.instruct_board]
    cases happly : sim.stage.workshop.apply instruction with
    | error missing =>
      rw [happly] at hhandled
      obtain ⟨hanswer, hstate⟩ := Prod.mk.inj hhandled
      rw [hanswer, hstate]
      exact ⟨rfl, past, h⟩
    | ok result =>
      rw [happly] at hhandled
      obtain ⟨hanswer, hstate⟩ := Prod.mk.inj hhandled
      rw [hanswer, hstate]
      exact ⟨rfl, _, h.apply happly⟩

/-- A run on the board is the run of the simulation. -/
theorem run_board {sim : Simulation} {past : List Deed} (h : sim.stage.workshop.Replays past)
    {m : List (ι × String)} (authoring : ∀ e ∈ m, (Message.reading? e.2).isSome = true) :
    sim.board.run m = (sim.answered m, (sim.afterMessages m).board) ∧
    ∃ past', (sim.afterMessages m).stage.workshop.Replays past' := by
  induction m generalizing sim past with
  | nil => exact ⟨rfl, past, h⟩
  | cons e m ih =>
    obtain ⟨c, payload⟩ := e
    obtain ⟨htake, past', hnext⟩ := take_board h (authoring _ List.mem_cons_self)
    obtain ⟨hrun, hend⟩ := ih hnext fun e he => authoring e (List.mem_cons_of_mem _ he)
    refine ⟨?_, hend⟩
    unfold Board.run
    simp only [htake, hrun]
    rfl

variable [DecidableEq ι]

/-- **Clients that use different names do not notice one another.**  Whatever a
    show has taken before, and in whatever order their authoring messages arrive,
    each of them gets the same answers, and all names stand for the same in the
    end.  `m` and `m'` are two orders of the messages. -/
theorem interleavings_agree_after (setup : Setup) (h : History) {m m' : List (ι × String)}
    (authoring : ∀ e ∈ m, (Message.reading? e.2).isSome = true)
    (apart : ∀ c d, c ≠ d → Apart (ofClient c m) (ofClient d m))
    (same : ∀ c, ofClient c m' = ofClient c m) :
    (∀ c, ofClient c (((start setup).after h).answered m') =
      ofClient c (((start setup).after h).answered m)) ∧
    SameNames (((start setup).after h).afterMessages m)
      (((start setup).after h).afterMessages m') := by
  obtain ⟨rig, hfollows⟩ := follows_after setup h
  have authoring' : ∀ e ∈ m', (Message.reading? e.2).isSome = true := by
    intro e he
    have hsent : e.2 ∈ ofClient e.1 m := by
      rw [← same]
      exact mem_ofClient.mpr he
    exact authoring _ (mem_ofClient.mp hsent)
  obtain ⟨hrun, past, hreplays⟩ := run_board hfollows.replays authoring
  obtain ⟨hrun', past', hreplays'⟩ := run_board hfollows.replays authoring'
  obtain ⟨hanswers, hboard⟩ :=
    Board.run_interleaved apart same ((start setup).after h).board
  rw [hrun, hrun'] at hanswers hboard
  exact ⟨hanswers, sameNames_of_board hreplays hreplays' hboard⟩

/-- One client brings a ship to its dock while another one looks for a tower that
    is not there. -/
def shipFirst : List (Bool × String) :=
  [(true, "PNT dock 1 2 3"), (true, "OBJ ship 0 0 0 1 1 1 0 0 0 ship.mdl red.xml blue.xml 1"),
    (true, "MOV ship dock"), (false, "PNT dome 4 5 6"), (false, "MOV tower dome")]

/-- The same messages, with those of the other client in between. -/
def domeBetween : List (Bool × String) :=
  [(false, "PNT dome 4 5 6"), (true, "PNT dock 1 2 3"), (false, "MOV tower dome"),
    (true, "OBJ ship 0 0 0 1 1 1 0 0 0 ship.mdl red.xml blue.xml 1"), (true, "MOV ship dock")]

/-- Neither client can tell the two orders from one another. -/
theorem interleavings_agree_shipFirst :
    (∀ e ∈ shipFirst, (Message.reading? e.2).isSome = true) ∧
    (∀ c d, c ≠ d → Apart (ofClient c shipFirst) (ofClient d shipFirst)) ∧
    (∀ c, ofClient c domeBetween = ofClient c shipFirst) ∧
    (∀ c, ofClient c (((start {}).after [.tick 1]).answered domeBetween) =
      ofClient c (((start {}).after [.tick 1]).answered shipFirst)) ∧
    SameNames (((start {}).after [.tick 1]).afterMessages shipFirst)
      (((start {}).after [.tick 1]).afterMessages domeBetween) :=
  ⟨by decide, by decide, by decide,
    interleavings_agree_after {} [.tick 1] (by decide) (by decide) (by decide)⟩

end Simulation

end Planetarium

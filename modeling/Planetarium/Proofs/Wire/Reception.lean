import Mathlib.Data.List.Nodup
import Planetarium.Proofs.Wire.Grammar
import Planetarium.Wire.Reception

/-! # What tasks send in any order

    The tasks of all controllers send into one queue, and nothing says which of
    them goes on next.  What is sent about one controller depends on its stream
    alone, whatever the others do in between.

    * `split_append_rest`, `split_of_oversized`: frames of a stream that comes in
      pieces.
    * `Service.told`: what a task has sent so far; `Service.Sound.step` says what
      one step adds to it.
    * `Service.story`: what it is to send; `told_begins`, `told_finished`.
    * `Sound`: what all tasks together have sent; every move keeps it. -/

namespace Planetarium

/-! ## Section 1: Streams that come in pieces -/

namespace Packet

/-- Where a frame is incomplete or over the limit, nothing is read. -/
theorem Breaks.split_eq {rest : List UInt8} {e : WireError} (h : Breaks rest e) :
    split rest = ([], ⟨e, rest⟩) :=
  split_of_error (read_eq_error_iff.mpr h)

/-- **Frames that have come are not read again:** what comes next follows what was
    left of the bytes before. -/
theorem split_append_rest (bs more : List UInt8) :
    split (bs ++ more) =
      ((split bs).1 ++ (split ((split bs).2.rest ++ more)).1,
        (split ((split bs).2.rest ++ more)).2) := by
  obtain ⟨hbytes, hfits, _⟩ := split_spec bs
  rw [← split_append hfits, ← List.append_assoc, ← hbytes]

/-- **Nothing is read behind a frame over the limit,** whatever comes next. -/
theorem split_of_oversized {bs : List UInt8} {n : Nat} (h : (split bs).2.error = .oversized n)
    (more : List UInt8) :
    split (bs ++ more) = ((split bs).1, ⟨.oversized n, (split bs).2.rest ++ more⟩) := by
  obtain ⟨_, _, hbreaks⟩ := split_spec bs
  have hover : Breaks ((split bs).2.rest ++ more) (.oversized n) := by
    obtain ⟨hlength, hannounced, hlimit⟩ := (hbreaks.oversized_iff n).mp h
    have hsame := (announced_append_of_header hlength more).trans hannounced
    have hlong : 8 ≤ ((split bs).2.rest ++ more).length := by
      rw [List.length_append]
      omega
    have := Breaks.oversized hlong (hsame ▸ hlimit)
    rwa [hsame] at this
  rw [split_append_rest, hover.split_eq, List.append_nil]

theorem split_nil : split [] = ([], ⟨.endInHeader, []⟩) := (Breaks.header (by decide)).split_eq

end Packet

theorem WireError.oversized_or_ends (e : WireError) : (∃ n, e = .oversized n) ∨ e.Ends := by
  cases e with
  | oversized n => exact .inl ⟨n, rfl⟩
  | endInHeader => exact .inr (.inl rfl)
  | endInPayload => exact .inr (.inr rfl)

namespace Connection

theorem messages_append (id : Nat) (ps qs : List Packet) :
    messages id (ps ++ qs) = messages id ps ++ messages id qs := by
  simp [messages]

/-- Taking bytes in, when a frame over the limit is among them. -/
theorem receive_of_oversized {c : Connection} (live : c.live = true) {bytes : List UInt8} {n : Nat}
    (h : (Packet.split (c.pending ++ bytes)).2.error = .oversized n) :
    c.receive bytes =
      (messages c.id (Packet.split (c.pending ++ bytes)).1 ++ [.disconnected c.id],
        { c with pending := (Packet.split (c.pending ++ bytes)).2.rest, live := false }) := by
  unfold receive close
  simp [live, h]

/-- Taking bytes in, when the last frame among them is just incomplete. -/
theorem receive_of_ends {c : Connection} (live : c.live = true) {bytes : List UInt8}
    (h : (Packet.split (c.pending ++ bytes)).2.error.Ends) :
    c.receive bytes =
      (messages c.id (Packet.split (c.pending ++ bytes)).1,
        { c with pending := (Packet.split (c.pending ++ bytes)).2.rest }) := by
  unfold receive
  rcases h with h | h <;> simp [live, h]

end Connection

/-! ## Section 2: One task -/

namespace Service

/-- **What a task has sent so far:** that the controller is there, the messages in the
    frames that have been taken, and that the controller has gone. -/
def told (s : Service) : List Event :=
  if s.announced then
    .connected s.id :: Connection.messages s.id (Packet.split s.taken).1 ++
      if s.connection.live then [] else [.disconnected s.id]
  else []

/-- **What a task is to send** about a stream. -/
def story (s : Service) : List Event :=
  .connected s.id ::
    (((Packet.split s.stream).1.filter (·.id = 32)).map fun p => .message s.id p.text) ++
    [.disconnected s.id]

theorem story_eq (s : Service) :
    s.story = .connected s.id :: Connection.messages s.id (Packet.split s.stream).1 ++
      [.disconnected s.id] := rfl

/-- **A task keeps what it has to know.** -/
structure Sound (s : Service) : Prop where
  /-- Before its report a task has taken nothing. -/
  silent : s.announced = false → s.taken = [] ∧ s.connection.live = true
  /-- What has come of the next frame is kept. -/
  pending : s.connection.live = true →
    s.connection.pending = (Packet.split s.taken).2.rest ∧ (Packet.split s.taken).2.error.Ends
  /-- There are two ways for a task to end. -/
  ended : s.connection.live = false →
    s.unread = [] ∨ ∃ n, (Packet.split s.taken).2.error = .oversized n

/-- How much is left to do. -/
def work (s : Service) : Nat :=
  (if s.announced then 0 else 1) + s.unread.length + if s.connection.live then 1 else 0

/-- **What one step does to a task.** -/
structure Advances (s : Service) (events : List Event) (s' : Service) : Prop where
  sound : s'.Sound
  id : s'.id = s.id
  stream : s'.stream = s.stream
  told : s'.told = s.told ++ events
  /-- A step that does something leaves less to do. -/
  work : s' = s ∨ s'.work < s.work

theorem Advances.refl {s : Service} (h : s.Sound) : s.Advances [] s :=
  ⟨h, rfl, rfl, (List.append_nil _).symm, .inl rfl⟩

theorem sound_new (id : Nat) (stream : List UInt8) :
    Sound { connection := { id }, unread := stream } := by
  refine ⟨fun _ => ⟨rfl, rfl⟩, fun _ => ?_, fun h => by cases h⟩
  rw [Packet.split_nil]
  exact ⟨rfl, .inl rfl⟩

/-- **What a task does in one step:** nothing, or one of three things. -/
theorem step_cases (s : Service) (move : Move) :
    s.step move = ([], s) ∨
    (s.announced = false ∧
      s.step move = ([.connected s.id], { s with announced := true })) ∨
    (∃ bytes rest, s.serving = true ∧ s.unread = bytes ++ rest ∧ bytes ≠ [] ∧
      s.step move = ((s.connection.receive bytes).1,
        { s with
          connection := (s.connection.receive bytes).2
          taken := s.taken ++ bytes
          unread := rest })) ∨
    (s.serving = true ∧ s.unread = [] ∧
      s.step move =
        ([.disconnected s.id], { s with connection := { s.connection with live := false } })) := by
  cases move with
  | announce =>
    cases hsilent : s.announced with
    | true => exact .inl (if_pos hsilent)
    | false => exact .inr (.inl ⟨rfl, if_neg (by simp [hsilent])⟩)
  | read count =>
    by_cases hread : s.serving = true ∧ s.unread.take count ≠ []
    · refine .inr (.inr (.inl ⟨s.unread.take count, s.unread.drop count, hread.1,
        (List.take_append_drop count s.unread).symm, hread.2, ?_⟩))
      exact if_pos (by simpa using hread)
    · exact .inl (if_neg (by simpa using hread))
  | finish =>
    by_cases hfinish : s.serving = true ∧ s.unread = []
    · refine .inr (.inr (.inr ⟨hfinish.1, hfinish.2, ?_⟩))
      have hclose : s.connection.close =
          ([.disconnected s.id], { s.connection with live := false }) :=
        if_pos (Bool.and_eq_true_iff.mp hfinish.1).2
      unfold Service.step
      rw [hclose]
      exact if_pos (by simpa using hfinish)
    · exact .inl (if_neg (by simpa using hfinish))

theorem advances_finish {s : Service} (hserving : s.serving = true) (hunread : s.unread = []) :
    s.Advances [.disconnected s.id]
      { s with connection := { s.connection with live := false } } := by
  obtain ⟨hannounced, hlive⟩ := Bool.and_eq_true_iff.mp hserving
  have hspoken : s.announced ≠ false := by simp [hannounced]
  refine ⟨⟨fun h => absurd h hspoken, nofun, fun _ => .inl hunread⟩, rfl, rfl, ?_, .inr ?_⟩
  · simp [told, hannounced, hlive, Service.id]
  · simp [work, hlive]

namespace Sound
variable {s : Service}

theorem announce (h : s.Sound) (hsilent : s.announced = false) :
    s.Advances [.connected s.id] { s with announced := true } := by
  obtain ⟨htaken, hlive⟩ := h.silent hsilent
  refine ⟨⟨nofun, h.pending, h.ended⟩, rfl, rfl, ?_, .inr ?_⟩
  · simp [told, hsilent, htaken, hlive, Packet.split_nil, Connection.messages, Service.id]
  · simp [work, hsilent]

/-- A task that takes bytes sends the messages in the frames that they complete. -/
theorem read (h : s.Sound) (hserving : s.serving = true) {bytes rest : List UInt8}
    (hunread : s.unread = bytes ++ rest) (hbytes : bytes ≠ []) :
    s.Advances (s.connection.receive bytes).1
      { s with
        connection := (s.connection.receive bytes).2
        taken := s.taken ++ bytes
        unread := rest } := by
  obtain ⟨hannounced, hlive⟩ := Bool.and_eq_true_iff.mp hserving
  have hspoken : s.announced ≠ false := by simp [hannounced]
  obtain ⟨hpending, _⟩ := h.pending hlive
  have hsplit := Packet.split_append_rest s.taken bytes
  rw [← hpending] at hsplit
  have hstream : s.taken ++ bytes ++ rest = s.taken ++ s.unread := by
    rw [hunread, List.append_assoc]
  have hlength : rest.length < s.unread.length := by
    have hpos := List.length_pos_iff.mpr hbytes
    rw [hunread, List.length_append]
    omega
  rcases (Packet.split (s.connection.pending ++ bytes)).2.error.oversized_or_ends with
    ⟨n, hover⟩ | hends
  · -- The connection is given up behind the messages that came before.
    rw [Connection.receive_of_oversized hlive hover]
    refine ⟨⟨fun h => absurd h hspoken, nofun, fun _ => .inr ⟨n, ?_⟩⟩, rfl, hstream, ?_, .inr ?_⟩
    · rw [hsplit]
      exact hover
    · simp [told, hannounced, hlive, hsplit, Connection.messages_append, Service.id]
    · simp only [work, hlive, if_true, Bool.false_eq_true, if_false]
      omega
  · rw [Connection.receive_of_ends hlive hends]
    have hlive' : s.connection.live ≠ false := by simp [hlive]
    refine ⟨⟨fun h => absurd h hspoken, fun _ => ?_, fun h => absurd h hlive'⟩, rfl, hstream, ?_,
      .inr ?_⟩
    · rw [hsplit]
      exact ⟨rfl, hends⟩
    · simp [told, hannounced, hlive, hsplit, Connection.messages_append, Service.id]
    · simp only [work, hlive]
      omega

/-- **A step of a task** adds to what it has told what it sends. -/
theorem step (h : s.Sound) (move : Move) :
    s.Advances (s.step move).1 (s.step move).2 := by
  rcases s.step_cases move with hidle | ⟨hsilent, hstep⟩ |
    ⟨bytes, rest, hserving, hunread, hbytes, hstep⟩ | ⟨hserving, hunread, hstep⟩
  · rw [hidle]
    exact .refl h
  · rw [hstep]
    exact h.announce hsilent
  · rw [hstep]
    exact h.read hserving hunread hbytes
  · rw [hstep]
    exact advances_finish hserving hunread

/-- Where a task has ended, there is no further frame in its stream. -/
theorem split_stream (h : s.Sound) (hended : s.connection.live = false) :
    (Packet.split s.stream).1 = (Packet.split s.taken).1 := by
  unfold stream
  rcases h.ended hended with hunread | ⟨n, hover⟩
  · rw [hunread, List.append_nil]
  · rw [Packet.split_of_oversized hover]

/-- **A task that has come to its end has told all of its story.** -/
theorem told_finished (h : s.Sound) (hfinished : s.finished = true) : s.told = s.story := by
  obtain ⟨hannounced, hended⟩ := Bool.and_eq_true_iff.mp hfinished
  have hended : s.connection.live = false := by simpa using hended
  rw [story_eq, h.split_stream hended]
  simp [told, hannounced, hended]

/-- **What a task has told is how its story begins.**  The rest of it is in the frames
    that are still to come. -/
theorem told_begins (h : s.Sound) : s.told <+: s.story := by
  by_cases hfinished : s.finished = true
  · exact h.told_finished hfinished ▸ List.prefix_rfl
  · by_cases hannounced : s.announced = true
    · have hlive : s.connection.live = true := by simpa [finished, hannounced] using hfinished
      have hmore : (Packet.split s.stream).1 = _ :=
        congrArg Prod.fst (Packet.split_append_rest s.taken s.unread)
      rw [story_eq, hmore, Connection.messages_append]
      simp [told, hannounced, hlive]
    · simp [told, hannounced]

end Sound

/-- **No task is ever stuck.**  As long as it has not come to its end, there is
    something that it can do. -/
theorem exists_step {s : Service} (hunfinished : s.finished = false) :
    ∃ move, (s.step move).2 ≠ s := by
  cases hannounced : s.announced with
  | false =>
    refine ⟨.announce, fun heq => ?_⟩
    have hspoken := congrArg announced heq
    simp [Service.step, hannounced] at hspoken
  | true =>
    have hlive : s.connection.live = true := by simpa [finished, hannounced] using hunfinished
    have hserving : s.serving = true := by simp [serving, hannounced, hlive]
    cases hunread : s.unread with
    | nil =>
      refine ⟨.finish, fun heq => ?_⟩
      have hclosed := congrArg (·.connection.live) heq
      simp [Service.step, hserving, hunread, Connection.close, hlive] at hclosed
    | cons b rest =>
      refine ⟨.read 1, fun heq => ?_⟩
      have hshorter := congrArg (·.unread.length) heq
      simp [Service.step, hserving, hunread] at hshorter

theorem step_of_finished {s : Service} (h : s.finished = true) (move : Move) :
    s.step move = ([], s) := by
  obtain ⟨hannounced, hended⟩ := Bool.and_eq_true_iff.mp h
  have hended : s.connection.live = false := by simpa using hended
  have hserving : s.serving = false := by simp [serving, hended]
  rcases s.step_cases move with hidle | ⟨hsilent, _⟩ | ⟨_, _, hagain, _⟩ | ⟨hagain, _⟩
  · exact hidle
  · rw [hannounced] at hsilent
    cases hsilent
  · rw [hserving] at hagain
    cases hagain
  · rw [hserving] at hagain
    cases hagain

/-- What is told is about the controller of the task. -/
theorem connection_of_mem_told {s : Service} {e : Event} (h : e ∈ s.told) :
    e.connection = s.id := by
  unfold told Connection.messages at h
  split at h
  · simp only [List.cons_append, List.mem_cons, List.mem_append, List.mem_map] at h
    rcases h with rfl | ⟨_, _, rfl⟩ | h
    · rfl
    · rfl
    · split at h
      · cases h
      · rw [List.mem_singleton.mp h]
        rfl
  · cases h

/-- So is what is sent in a step. -/
theorem Advances.connection {s s' : Service} {events : List Event} (h : s.Advances events s')
    {e : Event} (he : e ∈ events) : e.connection = s.id := by
  rw [← h.id]
  refine connection_of_mem_told ?_
  rw [h.told]
  exact List.mem_append_right _ he

end Service

/-! ## Section 3: All tasks -/

namespace Reception

/-- **What all tasks together have sent.** -/
structure Sound (r : Reception) : Prop where
  next : r.next = r.services.length + 1
  /-- The numbers go up from one, in the order in which the controllers were accepted. -/
  ids : r.services.map Service.id = List.range' 1 r.services.length
  services : ∀ s ∈ r.services, s.Sound
  /-- Among all that was sent, each task finds what it has sent itself, in order. -/
  told : ∀ s ∈ r.services, r.eventsOf s.id = s.told
  owned : ∀ e ∈ r.sent, ∃ s ∈ r.services, s.id = e.connection

theorem eventsOf_append (r : Reception) (services : List Service) (events : List Event) (id : Nat) :
    ({ r with services, sent := r.sent ++ events } : Reception).eventsOf id =
      r.eventsOf id ++ events.filter (·.connection = id) :=
  List.filter_append r.sent events

/-- **Every move** is that a controller is accepted, that a task goes on, or that nothing
    happens. -/
theorem step_cases (r : Reception) (m : Move) :
    (∃ stream, m = .accept stream) ∨
    (∃ s ∈ r.services, ∃ move, m = .run s.id move) ∨
    r.step m = r := by
  cases m with
  | accept stream => exact .inl ⟨stream, rfl⟩
  | acceptFails => exact .inr (.inr rfl)
  | run id move =>
    by_cases hid : ∃ s ∈ r.services, s.id = id
    · obtain ⟨s, hs, rfl⟩ := hid
      exact .inr (.inl ⟨s, hs, move, rfl⟩)
    · have hnone : r.services.find? (·.id = id) = none := by
        refine List.find?_eq_none.mpr fun s hs => ?_
        simpa using fun heq => hid ⟨s, hs, heq⟩
      right
      right
      unfold step
      simp only [hnone]

namespace Sound
variable {r : Reception} {s : Service}

/-- There is one task for each number. -/
theorem unique (h : r.Sound) {s s' : Service} (hs : s ∈ r.services) (hs' : s' ∈ r.services)
    (hid : s.id = s'.id) : s = s' := by
  have hnodup : (r.services.map Service.id).Nodup := by
    rw [h.ids]
    exact List.nodup_range'
  exact List.inj_on_of_nodup_map hnodup hs hs' hid

theorem find?_eq (h : r.Sound) (hs : s ∈ r.services) :
    r.services.find? (·.id = s.id) = some s := by
  cases hfind : r.services.find? (·.id = s.id) with
  | none => simpa using List.find?_eq_none.mp hfind s hs
  | some s' =>
    have hid : s'.id = s.id := by simpa using List.find?_some hfind
    rw [h.unique (List.mem_of_find?_eq_some hfind) hs hid]

/-- The numbers that have been given are below the next one. -/
theorem id_lt_next (h : r.Sound) (hs : s ∈ r.services) : s.id < r.next := by
  have hid : s.id ∈ r.services.map Service.id := List.mem_map_of_mem hs
  rw [h.ids, List.mem_range'_1] at hid
  rw [h.next]
  omega

theorem step_run (h : r.Sound) (hs : s ∈ r.services) (move : Service.Move) :
    r.step (.run s.id move) =
      { r with
        services := r.services.map fun u => if u.id = s.id then (s.step move).2 else u
        sent := r.sent ++ (s.step move).1 } := by
  unfold step
  simp only [h.find?_eq hs]

/-- The others are not touched. -/
theorem mem_run (h : r.Sound) (hs : s ∈ r.services) (move : Service.Move) {u : Service} :
    u ∈ (r.step (.run s.id move)).services ↔
      u = (s.step move).2 ∨ u ∈ r.services ∧ u.id ≠ s.id := by
  rw [h.step_run hs]
  simp only [List.mem_map]
  constructor
  · rintro ⟨v, hv, rfl⟩
    split
    · exact .inl rfl
    · next hne => exact .inr ⟨hv, hne⟩
  · rintro (rfl | ⟨hu, hne⟩)
    · exact ⟨s, hs, if_pos rfl⟩
    · exact ⟨u, hu, if_neg hne⟩

/-- **A task that goes on** adds to what has been sent about its own controller, and to
    nothing else. -/
theorem run (h : r.Sound) (hs : s ∈ r.services) (move : Service.Move) :
    (r.step (.run s.id move)).Sound := by
  have hstep := (h.services s hs).step move
  have hmem := fun {u} => h.mem_run hs move (u := u)
  have hsent : ∀ id, (r.step (.run s.id move)).eventsOf id =
      r.eventsOf id ++ (s.step move).1.filter (·.connection = id) := by
    intro id
    rw [h.step_run hs]
    exact eventsOf_append r _ _ id
  constructor
  · rw [h.step_run hs]
    exact h.next.trans (by simp)
  · rw [h.step_run hs, List.length_map, List.map_map, ← h.ids]
    refine List.map_congr_left fun u hu => ?_
    show (if u.id = s.id then (s.step move).2 else u).id = u.id
    split
    · next hid => rw [hstep.id, hid]
    · rfl
  · intro u hu
    rcases hmem.mp hu with rfl | ⟨hu, _⟩
    · exact hstep.sound
    · exact h.services u hu
  · intro u hu
    rw [hsent]
    rcases hmem.mp hu with rfl | ⟨hu, hne⟩
    · -- All that the step sends is about this controller.
      have hall : (s.step move).1.filter (·.connection = s.id) = (s.step move).1 :=
        List.filter_eq_self.mpr fun e he => by simpa using hstep.connection he
      rw [hstep.id, hall, h.told s hs, hstep.told]
    · have hnone : (s.step move).1.filter (·.connection = u.id) = [] := by
        refine List.filter_eq_nil_iff.mpr fun e he => ?_
        simpa [hstep.connection he] using hne.symm
      rw [hnone, List.append_nil, h.told u hu]
  · intro e he
    rw [h.step_run hs, List.mem_append] at he
    have hown : ∃ u ∈ (r.step (.run s.id move)).services, u.id = s.id :=
      ⟨_, hmem.mpr (.inl rfl), hstep.id⟩
    rcases he with he | he
    · obtain ⟨u, hu, hid⟩ := h.owned e he
      by_cases heq : u.id = s.id
      · rw [← hid, heq]
        exact hown
      · exact ⟨u, hmem.mpr (.inr ⟨hu, heq⟩), hid⟩
    · rw [hstep.connection he]
      exact hown

/-- **A controller that is accepted gets the next number,** about which nothing has been
    sent yet. -/
theorem accept (h : r.Sound) (stream : List UInt8) : (r.step (.accept stream)).Sound := by
  have hmem : ∀ s, s ∈ (r.step (.accept stream)).services ↔
      s ∈ r.services ∨ s = { connection := { id := r.next }, unread := stream } := by
    intro s
    simp [step]
  constructor
  · show r.next + 1 = _
    rw [h.next]
    simp [step]
  · have hnext : r.next = 1 + 1 * r.services.length := by
      rw [h.next]
      omega
    show List.map _ (r.services ++ _) = List.range' 1 (r.services ++ _).length
    rw [List.map_append, h.ids, List.length_append, List.length_singleton, List.range'_concat, hnext]
    rfl
  · intro s hs
    rcases (hmem s).mp hs with hs | rfl
    · exact h.services s hs
    · exact Service.sound_new r.next stream
  · intro s hs
    rcases (hmem s).mp hs with hs | rfl
    · exact h.told s hs
    · refine List.filter_eq_nil_iff.mpr fun e he => ?_
      obtain ⟨s, hs, hid⟩ := h.owned e he
      have hlt := h.id_lt_next hs
      rw [hid] at hlt
      exact mt of_decide_eq_true (Nat.ne_of_lt hlt)
  · intro e he
    obtain ⟨s, hs, hid⟩ := h.owned e he
    exact ⟨s, (hmem s).mpr (.inl hs), hid⟩

theorem step (h : r.Sound) (m : Move) : (r.step m).Sound := by
  rcases r.step_cases m with ⟨stream, rfl⟩ | ⟨s, hs, move, rfl⟩ | hidle
  · exact h.accept stream
  · exact h.run hs move
  · rw [hidle]
    exact h

end Sound

/-- The stream of a controller that is accepted. -/
def Move.stream? : Move → Option (List UInt8)
  | .accept stream => some stream
  | .acceptFails => none
  | .run _ _ => none

/-- No task gets another stream. -/
theorem Sound.streams_step {r : Reception} (h : r.Sound) (m : Move) :
    (r.step m).services.map Service.stream =
      r.services.map Service.stream ++ m.stream?.toList := by
  cases m with
  | accept stream => simp [Reception.step, Move.stream?, Service.stream]
  | acceptFails => simp [Reception.step, Move.stream?]
  | run id move =>
    rw [Move.stream?, Option.toList_none, List.append_nil]
    rcases r.step_cases (.run id move) with ⟨_, hm⟩ | ⟨s, hs, _, hm⟩ | hidle
    · cases hm
    · obtain ⟨rfl, rfl⟩ := Move.run.inj hm
      rw [h.step_run hs, List.map_map]
      refine List.map_congr_left fun u hu => ?_
      show (if u.id = s.id then (s.step move).2 else u).stream = u.stream
      split
      · next hid => rw [((h.services s hs).step move).stream, h.unique hu hs hid]
      · rfl
    · rw [hidle]

/-- A task is left as it is, or it goes on by one step. -/
theorem Sound.service_step {r : Reception} (h : r.Sound) {s : Service} (hs : s ∈ r.services)
    (m : Move) :
    s ∈ (r.step m).services ∨ ∃ move, (s.step move).2 ∈ (r.step m).services := by
  rcases r.step_cases m with ⟨stream, rfl⟩ | ⟨u, hu, move, rfl⟩ | hidle
  · exact .inl (List.mem_append_left _ hs)
  · by_cases hid : s.id = u.id
    · obtain rfl := h.unique hs hu hid
      exact .inr ⟨move, (h.mem_run hs move).mpr (.inl rfl)⟩
    · exact .inl ((h.mem_run hu move).mpr (.inr ⟨hs, hid⟩))
  · rw [hidle]
    exact .inl hs

end Reception

end Planetarium

import Planetarium.Proofs.Wire.Schedules

/-! # Deliveries as receptions

    A delivery takes one step after another, and reports a controller in the step
    that accepts it.  That is one of the orders in which tasks can go on, so what
    holds of every order holds of every delivery.

    * `toCome`, `moves`: the streams that the steps of a delivery amount to, and
      the moves that stand for the steps.
    * `Follows`: a reception that has come as far as a delivery; every step of the
      delivery keeps it.
    * `reception_delivers`: receptions in any order, and deliveries among them. -/

namespace Planetarium

namespace Delivery

/-! ## Section 1: The moves that stand for steps -/

/-- What is still to come of the stream of a controller. -/
def toCome (id : Nat) : List Step → List UInt8
  | [] => []
  | .receive connection bytes :: steps =>
    if connection = id then bytes ++ toCome id steps else toCome id steps
  | .finish connection :: steps => if connection = id then [] else toCome id steps
  | .accept :: steps => toCome id steps
  | .shutdown :: steps => toCome id steps

/-- **The moves that stand for steps.**  `next` is the number of the next controller. -/
def moves (next : Nat) : List Step → List Reception.Move
  | [] => []
  | .accept :: steps =>
    .accept (toCome next steps) :: .run next .announce :: moves (next + 1) steps
  | .receive connection bytes :: steps =>
    .run connection (.read bytes.length) :: moves next steps
  | .finish connection :: steps => .run connection .finish :: moves next steps
  | .shutdown :: steps => moves next steps

/-- **A reception that has come as far as a delivery,** with some steps to come. -/
structure Follows (d : Delivery) (r : Reception) (steps : List Step) : Prop where
  sound : r.Sound
  connections : r.services.map (·.connection) = d.connections
  announced : ∀ s ∈ r.services, s.announced = true
  unread : ∀ s ∈ r.services, s.connection.live = true → s.unread = toCome s.id steps

/-! ## Section 2: Changes of one connection -/

/-- Only the task of a number has a say in what is put together for that number. -/
theorem flatMap_service {services : List Service} (nodup : (services.map Service.id).Nodup)
    {s : Service} (hs : s ∈ services) (g : Service → List Event) :
    (services.flatMap fun u => if u.id = s.id then g u else []) = g s := by
  induction services with
  | nil => cases hs
  | cons u services ih =>
    obtain ⟨hu, hrest⟩ := List.nodup_cons.mp nodup
    rw [List.flatMap_cons]
    rcases List.mem_cons.mp hs with rfl | hs
    · have hnone : (services.flatMap fun u => if u.id = s.id then g u else []) = [] := by
        refine List.flatMap_eq_nil_iff.mpr fun v hv => if_neg fun hid => hu ?_
        exact hid ▸ List.mem_map_of_mem hv
      rw [if_pos rfl, hnone, List.append_nil]
    · have hne : u.id ≠ s.id := fun hid => hu (hid ▸ List.mem_map_of_mem hs)
      rw [if_neg hne, List.nil_append, ih hrest hs]

namespace Follows
variable {d : Delivery} {r : Reception} {steps : List Step} {id : Nat} {bytes : List UInt8}

theorem update_snd (hconnections : r.services.map (·.connection) = d.connections) (id : Nat)
    (f : Connection → List Event × Connection) :
    (d.update id f).2.connections =
      r.services.map fun u => if u.id = id then (f u.connection).2 else u.connection := by
  unfold update
  simp only [← hconnections, List.map_map]
  refine List.map_congr_left fun u _ => ?_
  show (if u.id = id then f u.connection else ([], u.connection)).2 = _
  split <;> rfl

theorem update_fst (hconnections : r.services.map (·.connection) = d.connections) (id : Nat)
    (f : Connection → List Event × Connection) :
    (d.update id f).1 =
      r.services.flatMap fun u => if u.id = id then (f u.connection).1 else [] := by
  unfold update
  simp only [← hconnections, List.map_map, List.flatMap_map]
  congr 1
  funext u
  show (if u.id = id then f u.connection else ([], u.connection)).1 = _
  split <;> rfl

/-- **One task goes on as its connection does.** -/
theorem update (sound : r.Sound)
    (connections : r.services.map (·.connection) = d.connections)
    (announced : ∀ s ∈ r.services, s.announced = true) {id : Nat} {move : Service.Move}
    {f : Connection → List Event × Connection}
    (hthis : ∀ s ∈ r.services, s.id = id →
      (s.step move).1 = (f s.connection).1 ∧ (s.step move).2.connection = (f s.connection).2 ∧
      (s.step move).2.announced = true ∧
      ((s.step move).2.connection.live = true → (s.step move).2.unread = toCome id steps))
    (hothers : ∀ s ∈ r.services, s.id ≠ id → s.connection.live = true →
      s.unread = toCome s.id steps) :
    Follows (d.update id f).2 (r.step (.run id move)) steps ∧
      (r.step (.run id move)).sent = r.sent ++ (d.update id f).1 := by
  have hsound := sound.step (.run id move)
  by_cases hid : ∃ s ∈ r.services, s.id = id
  · obtain ⟨s, hs, rfl⟩ := hid
    obtain ⟨hevents, hconnection, hannounced, hunread⟩ := hthis s hs rfl
    have hmem := fun {u} => sound.mem_run hs move (u := u)
    refine ⟨⟨hsound, ?_, ?_, ?_⟩, ?_⟩
    · rw [update_snd connections, sound.step_run hs, List.map_map]
      refine List.map_congr_left fun u hu => ?_
      show (if u.id = s.id then (s.step move).2 else u).connection = _
      split
      · next hsame => rw [hconnection, sound.unique hu hs hsame]
      · rfl
    · intro u hu
      rcases hmem.mp hu with rfl | ⟨hu, _⟩
      · exact hannounced
      · exact announced u hu
    · intro u hu hlive
      rcases hmem.mp hu with rfl | ⟨hu, hne⟩
      · rw [((sound.services s hs).step move).id]
        exact hunread hlive
      · exact hothers u hu hne hlive
    · have hnodup : (r.services.map Service.id).Nodup := by
        rw [sound.ids]
        exact List.nodup_range'
      rw [update_fst connections, flatMap_service hnodup hs fun u => (f u.connection).1, ← hevents,
        sound.step_run hs]
  · -- There is no such connection, and nothing happens.
    have hne : ∀ u ∈ r.services, u.id ≠ id := fun u hu heq => hid ⟨u, hu, heq⟩
    have hidle : r.step (.run id move) = r := by
      rcases r.step_cases (.run id move) with ⟨_, hm⟩ | ⟨s, hs, _, hm⟩ | hidle
      · cases hm
      · exact absurd (Reception.Move.run.inj hm).1.symm (hne s hs)
      · exact hidle
    have hnone : (d.update id f).1 = [] := by
      rw [update_fst connections]
      exact List.flatMap_eq_nil_iff.mpr fun u hu => if_neg (hne u hu)
    rw [hidle, hnone, List.append_nil]
    refine ⟨⟨sound, ?_, announced, fun u hu => hothers u hu (hne u hu)⟩, rfl⟩
    rw [update_snd connections]
    exact List.map_congr_left fun u hu => (if_neg (hne u hu)).symm

/-! ## Section 3: Steps -/

/-- No connection is affected by bytes that are none. -/
theorem receive_nil {s : Service} (h : s.Sound) (live : s.connection.live = true) :
    s.connection.receive [] = ([], s.connection) := by
  obtain ⟨hpending, hends⟩ := h.pending live
  obtain ⟨_, _, hbreaks⟩ := Packet.split_spec s.taken
  rw [← hpending] at hbreaks
  have hsplit := hbreaks.split_eq
  have hsame : s.connection.pending ++ [] = s.connection.pending := List.append_nil _
  rw [Connection.receive_of_ends live (by rw [hsame, hsplit]; exact hends), hsame, hsplit]
  rfl

theorem receive (h : Follows d r (.receive id bytes :: steps)) :
    Follows (d.update id (·.receive bytes)).2 (r.step (.run id (.read bytes.length))) steps ∧
      (r.step (.run id (.read bytes.length))).sent =
        r.sent ++ (d.update id (·.receive bytes)).1 := by
  refine update h.sound h.connections h.announced ?_ ?_
  · rintro s hs rfl
    have hannounced := h.announced s hs
    cases hlive : s.connection.live with
    | false =>
      -- Nothing is read after the end, and nothing is received.
      have hidle : s.step (.read bytes.length) = ([], s) :=
        if_neg (by simp [Service.serving, hlive])
      have hclosed : s.connection.receive bytes = ([], s.connection) :=
        if_neg (by simp [hlive])
      rw [hidle, hclosed]
      exact ⟨rfl, rfl, hannounced, fun h => absurd h (by simp [hlive])⟩
    | true =>
      have hunread : s.unread = bytes ++ toCome s.id steps :=
        (h.unread s hs hlive).trans (if_pos rfl)
      by_cases hbytes : bytes = []
      · subst hbytes
        have hidle : s.step (.read 0) = ([], s) := if_neg (by simp)
        rw [List.length_nil, hidle, receive_nil (h.sound.services s hs) hlive]
        exact ⟨rfl, rfl, hannounced, fun _ => hunread⟩
      · have hread : (s.serving && s.unread.take bytes.length ≠ []) = true := by
          simp [Service.serving, hannounced, hlive, hunread, hbytes]
        have hstep : s.step (.read bytes.length) = ((s.connection.receive bytes).1,
            { s with
              connection := (s.connection.receive bytes).2
              taken := s.taken ++ bytes
              unread := toCome s.id steps }) := by
          unfold Service.step
          dsimp only
          rw [if_pos hread, hunread, List.take_left, List.drop_left]
        rw [hstep]
        exact ⟨rfl, rfl, hannounced, fun _ => rfl⟩
  · intro s hs hne hlive
    rw [h.unread s hs hlive]
    exact if_neg hne.symm

theorem finish (h : Follows d r (.finish id :: steps)) :
    Follows (d.update id (·.close)).2 (r.step (.run id .finish)) steps ∧
      (r.step (.run id .finish)).sent = r.sent ++ (d.update id (·.close)).1 := by
  refine update h.sound h.connections h.announced ?_ ?_
  · rintro s hs rfl
    have hannounced := h.announced s hs
    cases hlive : s.connection.live with
    | false =>
      have hidle : s.step .finish = ([], s) := if_neg (by simp [Service.serving, hlive])
      have hclosed : s.connection.close = ([], s.connection) := if_neg (by simp [hlive])
      rw [hidle, hclosed]
      exact ⟨rfl, rfl, hannounced, fun h => absurd h (by simp [hlive])⟩
    | true =>
      have hunread : s.unread = [] := (h.unread s hs hlive).trans (if_pos rfl)
      have hfinish : (s.serving && s.unread = []) = true := by
        simp [Service.serving, hannounced, hlive, hunread]
      have hstep : s.step .finish =
          (s.connection.close.1, { s with connection := s.connection.close.2 }) := if_pos hfinish
      have hclosed : s.connection.close.2.live ≠ true := by simp [Connection.close, hlive]
      rw [hstep]
      exact ⟨rfl, rfl, hannounced, fun h => absurd h hclosed⟩
  · intro s hs hne hlive
    rw [h.unread s hs hlive]
    exact if_neg hne.symm

/-- A controller that is accepted is reported at once. -/
theorem accept (h : Follows d r (.accept :: steps)) :
    Follows (d.step .accept).2
        ((r.step (.accept (toCome r.next steps))).step (.run r.next .announce)) steps ∧
      ((r.step (.accept (toCome r.next steps))).step (.run r.next .announce)).sent =
        r.sent ++ (d.step .accept).1 := by
  let s : Service := { connection := { id := r.next }, unread := toCome r.next steps }
  have hsound := h.sound.accept (toCome r.next steps)
  have hs : s ∈ (r.step (.accept (toCome r.next steps))).services :=
    List.mem_append_right _ List.mem_cons_self
  have hnumber : d.connections.length + 1 = r.next := by
    rw [h.sound.next, ← h.connections, List.length_map]
  have hmem := fun {u} => hsound.mem_run hs .announce (u := u)
  have hold : ∀ u ∈ (r.step (.accept (toCome r.next steps))).services, u.id ≠ s.id →
      u ∈ r.services := by
    intro u hu hne
    rcases List.mem_append.mp hu with hu | hu
    · exact hu
    · exact absurd (congrArg Service.id (List.mem_singleton.mp hu)) hne
  refine ⟨⟨hsound.step (.run s.id .announce), ?_, ?_, ?_⟩, ?_⟩
  · have hsame : ∀ u ∈ (r.step (.accept (toCome r.next steps))).services,
        (if u.id = s.id then (s.step .announce).2 else u).connection = u.connection := by
      intro u hu
      split
      · next hid => rw [hsound.unique hu hs hid]; rfl
      · rfl
    show List.map _ ((r.step (.accept (toCome r.next steps))).step (.run s.id .announce)).services = _
    rw [hsound.step_run hs, List.map_map]
    refine (List.map_congr_left hsame).trans ?_
    show List.map _ (r.services ++ [s]) = d.connections ++ [{ id := d.connections.length + 1 }]
    rw [List.map_append, h.connections, hnumber]
    rfl
  · intro u hu
    rcases hmem.mp hu with rfl | ⟨hu, hne⟩
    · rfl
    · exact h.announced u (hold u hu hne)
  · intro u hu hlive
    rcases hmem.mp hu with rfl | ⟨hu, hne⟩
    · rfl
    · exact h.unread u (hold u hu hne) hlive
  · have hsent := congrArg Reception.sent (hsound.step_run hs .announce)
    show _ = r.sent ++ [Event.connected (d.connections.length + 1)]
    rw [hnumber]
    exact hsent

end Follows

/-- Numbers are given to controllers that are accepted, and to no others. -/
theorem next_run (r : Reception) (id : Nat) (move : Service.Move) :
    (r.step (.run id move)).next = r.next := by
  simp only [Reception.step]
  split <;> rfl

/-- **The moves of a delivery** lead where it leads. -/
theorem follows_run {steps : List Step} (hlasting : .shutdown ∉ steps) {d : Delivery}
    {r : Reception} (h : Follows d r steps) :
    Follows (d.run steps).2 ((moves r.next steps).foldl Reception.step r) [] ∧
      ((moves r.next steps).foldl Reception.step r).sent = r.sent ++ (d.run steps).1 := by
  induction steps generalizing d r with
  | nil => exact ⟨h, (List.append_nil _).symm⟩
  | cons step steps ih =>
    have hmore : .shutdown ∉ steps := fun hmem => hlasting (List.mem_cons_of_mem _ hmem)
    have hstep : ∃ r', Follows (d.step step).2 r' steps ∧ r'.sent = r.sent ++ (d.step step).1 ∧
        (moves r.next (step :: steps)).foldl Reception.step r =
          (moves r'.next steps).foldl Reception.step r' := by
      cases step with
      | accept =>
        obtain ⟨hnext, hsent⟩ := h.accept
        refine ⟨_, hnext, hsent, ?_⟩
        rw [next_run]
        rfl
      | receive id bytes =>
        obtain ⟨hnext, hsent⟩ := h.receive
        refine ⟨_, hnext, hsent, ?_⟩
        rw [next_run]
        rfl
      | finish id =>
        obtain ⟨hnext, hsent⟩ := h.finish
        refine ⟨_, hnext, hsent, ?_⟩
        rw [next_run]
        rfl
      | shutdown => exact absurd List.mem_cons_self hlasting
    obtain ⟨r', hnext, hsent, hmoves⟩ := hstep
    obtain ⟨hrun, hall⟩ := ih hmore hnext
    rw [hmoves]
    refine ⟨hrun, hall.trans ?_⟩
    rw [hsent, List.append_assoc]
    rfl

end Delivery

/-! ## Section 4: All orders -/

/-- **Whatever the order in which the tasks go on,** each controller is told of by its
    own stream alone.  A delivery that is not given up does as the tasks do in one of
    the orders. -/
theorem reception_delivers :
    (∀ schedule, Reception.Delivers schedule) ∧
    ∀ steps, Delivery.Step.shutdown ∉ steps → ∃ schedule n,
      (Reception.after schedule n).sent = (Delivery.run {} steps).1 ∧
      (Reception.after schedule n).services.map (·.connection) =
        (Delivery.run {} steps).2.connections := by
  refine ⟨Reception.delivers, fun steps hlasting => ?_⟩
  have hstart : Delivery.Follows {} {} steps :=
    ⟨Reception.sound_after (fun _ => .acceptFails) 0, rfl, nofun, nofun⟩
  obtain ⟨hfollows, hsent⟩ := Delivery.follows_run hlasting hstart
  refine ⟨Reception.scheduleOf (Delivery.moves 1 steps), (Delivery.moves 1 steps).length, ?_⟩
  rw [Reception.after_scheduleOf, List.take_length]
  exact ⟨hsent, hfollows.connections⟩

/-- Two controllers, of which the first one announces a payload over the limit. -/
def twoStreams : List (List UInt8) := [[0, 0, 0, 32, 0, 1, 0, 1, 122], (Packet.game "z").encode]

/-- The first one is given up, and the second one is heard nevertheless. -/
theorem reception_delivers_twoStreams :
    ∃ schedule, Reception.Fair schedule ∧ ∃ m, ∀ m', m ≤ m' →
      (Reception.after schedule m').eventsOf 1 = [.connected 1, .disconnected 1] ∧
      (Reception.after schedule m').eventsOf 2 =
        [.connected 2, .message 2 "z", .disconnected 2] := by
  obtain ⟨schedule, hfair, n, hstreams⟩ := Reception.exists_fair twoStreams
  have hdelivers := reception_delivers.1 schedule
  -- The two tasks, with their numbers and their streams.
  obtain ⟨first, rest, hservices, hfirst, hrest⟩ := List.map_eq_cons_iff.mp hstreams
  obtain ⟨second, _, rfl, hsecond, hnone⟩ := List.map_eq_cons_iff.mp hrest
  obtain rfl := List.map_eq_nil_iff.mp hnone
  have hids := hdelivers.ids n
  rw [hservices] at hids
  obtain ⟨hone, htwo⟩ : first.id = 1 ∧ second.id = 2 := by
    simpa [List.range'] using hids
  obtain ⟨m₁, _, htold₁⟩ := hdelivers.eventually hfair n first (by simp [hservices])
  obtain ⟨m₂, _, htold₂⟩ := hdelivers.eventually hfair n second (by simp [hservices])
  have hover : Packet.split [0, 0, 0, 32, 0, 1, 0, 1, 122] =
      ([], ⟨.oversized 65537, [0, 0, 0, 32, 0, 1, 0, 1, 122]⟩) := Packet.split_of_error rfl
  have hframe : Packet.split (Packet.game "z").encode = ([Packet.game "z"], ⟨.endInHeader, []⟩) :=
    Packet.split_eq_iff.mpr ⟨by simp, by decide, .header (by decide)⟩
  have hstory₁ : first.story = [.connected 1, .disconnected 1] := by
    unfold Service.story
    rw [hfirst, hone, hover]
    rfl
  have hstory₂ : second.story = [.connected 2, .message 2 "z", .disconnected 2] := by
    unfold Service.story
    rw [hsecond, htwo, hframe]
    decide
  rw [hone, hstory₁] at htold₁
  rw [htwo, hstory₂] at htold₂
  exact ⟨schedule, hfair, max m₁ m₂, fun m' hm' =>
    ⟨htold₁ m' (Nat.le_trans (Nat.le_max_left _ _) hm'),
      htold₂ m' (Nat.le_trans (Nat.le_max_right _ _) hm')⟩⟩

end Planetarium

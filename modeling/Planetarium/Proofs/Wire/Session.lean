import Mathlib.Data.List.DropRight
import Planetarium.Message.Basic
import Planetarium.Proofs.Text.Utf8
import Planetarium.Proofs.Wire.Schedules
import Planetarium.Proofs.Wire.Transmission
import Planetarium.Wire.Sender

/-! # Lines that are sent and heard

    A controller reads a text line by line, and whoever serves it takes messages
    in.  Between the two there are only bytes: the lines are found in the bytes
    of the text, each of them is put into a frame, the frames are cut out of the
    stream again, and their payloads are read as texts.

    * `Delivery.run_pieces`: a stream that comes in pieces of any size.
    * `IsLines`: the lines of a text, seen as characters; `IsLines.lines_eq`.
    * `spoken`: the lines that are sent; `converse_cons` and `converse_encode` say
      what one line and what all of them put on the wires.
    * `Hears`: what is made of the bytes that come from a controller.
    * `session_hears`: every server hears the lines that are sent. -/

namespace Planetarium

/-! ## Section 1: A stream in pieces -/

namespace Delivery
variable {c : Connection}

/-- A step at the only connection there is. -/
theorem update_singleton (c : Connection) (f : Connection → List Event × Connection) :
    update ⟨[c]⟩ c.id f = ((f c).1, ⟨[(f c).2]⟩) := by
  simp [update]

/-- Nothing comes from a connection that has ended. -/
theorem run_of_ended (ended : c.live = false) (pieces : List (List UInt8)) :
    (run ⟨[c]⟩ (pieces.map (.receive c.id) ++ [.finish c.id])).1 = [] := by
  induction pieces with
  | nil =>
    have hclose : c.close = ([], c) := if_neg (by simp [ended])
    simp [run, step, update_singleton, hclose]
  | cons piece pieces ih =>
    have hreceive : c.receive piece = ([], c) := if_neg (by simp [ended])
    simp only [List.map_cons, List.cons_append, run, step, update_singleton, hreceive, ih]
    rfl

/-- **However a stream falls into pieces,** the messages are those in its frames.  What
    has come of the next frame is kept. -/
theorem run_pieces {e : WireError} (live : c.live = true) (kept : Packet.Breaks c.pending e)
    (pieces : List (List UInt8)) :
    (run ⟨[c]⟩ (pieces.map (.receive c.id) ++ [.finish c.id])).1 =
      Connection.messages c.id (Packet.split (c.pending ++ pieces.flatten)).1 ++
        [.disconnected c.id] := by
  induction pieces generalizing c e with
  | nil =>
    have hclose : c.close = ([.disconnected c.id], { c with live := false }) := if_pos live
    rw [List.flatten_nil, List.append_nil, kept.split_eq]
    simp [run, step, update_singleton, hclose, Connection.messages]
  | cons piece pieces ih =>
    obtain ⟨_, _, hrest⟩ := Packet.split_spec (c.pending ++ piece)
    have hrun : (run ⟨[c]⟩ ((piece :: pieces).map (.receive c.id) ++ [.finish c.id])).1 =
        (c.receive piece).1 ++
          (run ⟨[(c.receive piece).2]⟩ (pieces.map (.receive c.id) ++ [.finish c.id])).1 := by
      simp only [List.map_cons, List.cons_append, run, step, update_singleton]
    rw [hrun, List.flatten_cons, ← List.append_assoc]
    rcases (Packet.split (c.pending ++ piece)).2.error.oversized_or_ends with ⟨n, hover⟩ | hends
    · -- The connection ends with this piece, and the frames do.
      rw [Connection.receive_of_oversized live hover, Packet.split_of_oversized hover,
        run_of_ended rfl, List.append_nil]
    · rw [Connection.receive_of_ends live hends, Packet.split_append_rest (c.pending ++ piece),
        Connection.messages_append, List.append_assoc]
      have hmore := ih (c := { c with pending := (Packet.split (c.pending ++ piece)).2.rest })
        live hrest
      exact congrArg (Connection.messages c.id (Packet.split (c.pending ++ piece)).1 ++ ·) hmore

/-- **The only controller** is reported, with the messages in the frames of its stream. -/
theorem run_only (pieces : List (List UInt8)) :
    (run {} (.accept :: (pieces.map (.receive 1) ++ [.finish 1]))).1 =
      .connected 1 :: Connection.messages 1 (Packet.split pieces.flatten).1 ++
        [.disconnected 1] :=
  congrArg (Event.connected 1 :: ·) (run_pieces (c := { id := 1 }) rfl (.header (by decide)) pieces)

end Delivery

namespace Sender

open Text.Utf8 (encode)

/-! ## Section 2: Lines -/

/-- A line without the carriage return at its end. -/
def withoutReturn (line : List Char) : List Char :=
  if line.getLast? = some '\r' then line.dropLast else line

/-- **The lines of a text,** taken off one after another.  They end at a line feed, and
    one carriage return before it belongs to the end.  What follows the last line feed
    is a line if it is not empty. -/
inductive IsLines : List Char → List (List Char) → Prop where
  | none : IsLines [] []
  | last {line : List Char} (nonempty : line ≠ []) (whole : '\n' ∉ line) : IsLines line [line]
  | ended {line rest : List Char} {lines : List (List Char)} (whole : '\n' ∉ line)
      (more : IsLines rest lines) : IsLines (line ++ '\n' :: rest) (withoutReturn line :: lines)

theorem dropReturn_encode (line : List Char) :
    dropReturn (encode line) = encode (withoutReturn line) := by
  rcases List.eq_nil_or_concat line with rfl | ⟨front, c, rfl⟩
  · rfl
  · have hencode : encode (front ++ [c]) = encode front ++ String.utf8EncodeChar c := by
      rw [Text.Utf8.encode_append]
      exact congrArg (encode front ++ ·) (List.append_nil _)
    have hbytes : String.utf8EncodeChar c ≠ [] := String.utf8EncodeChar_ne_nil
    unfold dropReturn withoutReturn
    rw [List.concat_eq_append, hencode, List.getLast?_append_of_ne_nil _ hbytes, List.getLast?_concat]
    by_cases hc : c = '\r'
    · subst hc
      have hreturn : String.utf8EncodeChar '\r' = [13] := Text.Utf8.utf8EncodeChar_ascii (by decide)
      rw [hreturn]
      simp
    · have hlast : (String.utf8EncodeChar c).getLast? ≠ some 13 := fun h =>
        hc ((Text.Utf8.mem_utf8EncodeChar_iff (c := '\r') (by decide)).mp (List.mem_of_getLast? h))
      rw [if_neg hlast, if_neg (by simpa using hc), hencode]

theorem lines_of_not_mem {input : List UInt8} (h : 10 ∉ input) :
    lines input = [input].filter (· ≠ []) := by
  unfold lines
  rw [List.splitOn_eq_singleton h]
  rfl

theorem lines_append {line : List UInt8} (h : 10 ∉ line) (rest : List UInt8) :
    lines (line ++ 10 :: rest) = dropReturn line :: lines rest := by
  have hrest : rest.splitOn 10 ≠ [] := List.splitOn_ne_nil 10 rest
  unfold lines
  rw [List.splitOn_append_cons_self_of_not_mem h]
  dsimp only
  rw [List.dropLast_cons_of_ne_nil hrest, List.getLast?_cons_of_ne_nil hrest]
  rfl

/-- **The lines of a text are found in its bytes.** -/
theorem IsLines.lines_eq {text : List Char} {ls : List (List Char)} (h : IsLines text ls) :
    lines (encode text) = ls.map encode := by
  have hwhole : ∀ {line : List Char}, '\n' ∉ line → 10 ∉ encode line :=
    fun h => mt (Text.Utf8.mem_encode_iff (c := '\n') (by decide)).mp h
  induction h with
  | none => rfl
  | @last line nonempty whole =>
    have hbytes : encode line ≠ [] := mt Text.Utf8.encode_eq_nil_iff.mp nonempty
    rw [lines_of_not_mem (hwhole whole)]
    simp [hbytes]
  | @ended line rest ls whole _ ih =>
    have hencode : encode (line ++ '\n' :: rest) = encode line ++ 10 :: encode rest :=
      Text.Utf8.encode_append line ('\n' :: rest)
    rw [hencode, lines_append (hwhole whole), dropReturn_encode, ih]
    rfl

/-- Every text has lines. -/
theorem exists_isLines (text : List Char) : ∃ ls, IsLines text ls := by
  -- Induction on the length: a line that ends takes its line feed away.
  induction hlength : text.length using Nat.strongRecOn generalizing text with
  | ind n ih =>
    by_cases hend : '\n' ∈ text
    · obtain ⟨line, rest, rfl, hwhole⟩ := List.eq_append_cons_of_mem hend
      have hshorter : rest.length < n := by
        rw [← hlength, List.length_append, List.length_cons]
        omega
      obtain ⟨ls, hmore⟩ := ih _ hshorter rest rfl
      exact ⟨_, .ended hwhole hmore⟩
    · by_cases hempty : text = []
      · subst hempty
        exact ⟨[], .none⟩
      · exact ⟨[text], .last hempty hend⟩

theorem encode_lines_injective : Function.Injective (List.map encode) :=
  List.map_injective_iff.mpr fun _ _ => Text.Utf8.encode_injective

theorem IsLines.unique {text : List Char} {ls ls' : List (List Char)} (h : IsLines text ls)
    (h' : IsLines text ls') : ls = ls' :=
  encode_lines_injective (h.lines_eq.symm.trans h'.lines_eq)

/-- **A text has one list of lines,** and they are computed from its bytes. -/
theorem isLines_iff {text : List Char} {ls : List (List Char)} :
    IsLines text ls ↔ lines (encode text) = ls.map encode := by
  constructor
  · exact IsLines.lines_eq
  · intro h
    obtain ⟨ls', hlines⟩ := exists_isLines text
    rwa [← encode_lines_injective (hlines.lines_eq.symm.trans h)]

/-- One carriage return belongs to the end of a line, if a line feed follows. -/
example : IsLines "a\r\r\n\nb\r".toList ["a\r".toList, [], "b\r".toList] :=
  isLines_iff.mpr (by decide)

/-! ## Section 3: What is sent -/

/-- The frame for a line. -/
def frame (line : List Char) : Packet := Packet.game (String.ofList line)

/-- **The lines that are sent:** those before the first one that starts with `X`, without
    those that are too long for a frame. -/
def spoken (lines : List (List Char)) : List (List Char) :=
  (lines.takeWhile (·.head? ≠ some 'X')).filter fun line => (encode line).length ≤ 65536

theorem payload_frame (line : List Char) : (frame line).payload = encode line :=
  congrArg encode String.toList_ofList

/-- A connection over which some more bytes have been sent. -/
def Link.after (link : Link) (bytes : List UInt8) : Link := { link with sent := link.sent ++ bytes }

theorem frameFor?_eq (line : List Char) :
    frameFor? line = if (encode line).length ≤ 65536 then some (frame line) else none := by
  have hfits := (frame line).fits_iff
  rw [payload_frame] at hfits
  unfold frameFor?
  simp only [← hfits]
  rfl

/-- **A frame within the limit goes over every connection.** -/
theorem broadcast_of_fits {p : Packet} (h : p.fits = true) (links : List Link) :
    broadcast p links = (links.map (·.after p.encode), none) := by
  induction links with
  | nil => rfl
  | cons link links ih =>
    have hsend : (Packet.send p).run link.sent = .ok () (link.sent ++ p.encode) := by
      rw [Packet.run_send, Packet.write, if_pos h]
    unfold broadcast
    rw [hsend]
    simp only [ih]
    rfl

/-- **One line.**  It ends the session, it is skipped, or it goes over every connection
    before the next one is taken. -/
theorem converse_cons (links : List Link) (line : List Char) (lines : List (List UInt8)) :
    converse links (encode line :: lines) =
      if line.head? = some 'X' then (links, none)
      else if (encode line).length ≤ 65536 then
        converse (links.map (·.after (frame line).encode)) lines
      else converse links lines := by
  rw [converse, Text.Utf8.strict?_encode]
  simp only [frameFor?_eq]
  split
  · rfl
  · by_cases h : (encode line).length ≤ 65536
    · have hfits : (frame line).fits = true := by
        rw [Packet.fits_iff, payload_frame]
        exact h
      rw [if_pos h, if_pos h]
      simp only [broadcast_of_fits hfits]
    · rw [if_neg h, if_neg h]

theorem spoken_cons (line : List Char) (lines : List (List Char)) :
    spoken (line :: lines) =
      if line.head? = some 'X' then []
      else if (encode line).length ≤ 65536 then line :: spoken lines
      else spoken lines := by
  unfold spoken
  by_cases hlast : line.head? = some 'X'
  · simp [hlast]
  · by_cases h : (encode line).length ≤ 65536
    · simp [hlast, h]
    · simp [hlast, h]

/-- **All lines.**  The same bytes go over every connection: the frames of the lines that
    are sent, behind whatever has been sent before.  Nothing makes the session fail. -/
theorem converse_encode (links : List Link) (lines : List (List Char)) :
    converse links (lines.map encode) =
      (links.map (·.after (((spoken lines).map frame).flatMap Packet.encode)), none) := by
  induction lines generalizing links with
  | nil =>
    have hnone : ∀ link : Link, link.after [] = link := by
      intro link
      simp [Link.after]
    simp [converse, spoken, hnone]
  | cons line lines ih =>
    have htwice : ∀ (link : Link) (bytes more : List UInt8),
        (link.after bytes).after more = link.after (bytes ++ more) := by
      intro link bytes more
      simp [Link.after]
    rw [List.map_cons, converse_cons, spoken_cons]
    split
    · simp [Link.after]
    · split
      · rw [ih, List.map_map, List.map_cons, List.flatMap_cons]
        simp only [Function.comp_def, htwice]
      · exact ih links

/-! ## Section 4: What is heard -/

/-- **What a line is heard as:** the line without the terminators at its end. -/
def heard (line : List Char) : String := String.ofList (Text.trimTerminators line)

theorem text_frame (line : List Char) : (frame line).text = heard line := by
  unfold Packet.text
  rw [payload_frame, Text.Utf8.lossy_encode]
  rfl

theorem messages_frames (id : Nat) (lines : List (List Char)) :
    Connection.messages id (lines.map frame) = lines.map fun line => .message id (heard line) := by
  have hgame : (lines.map frame).filter (·.id = Packet.gameId) = lines.map frame := by
    refine List.filter_eq_self.mpr fun p hp => ?_
    obtain ⟨line, _, rfl⟩ := List.mem_map.mp hp
    rfl
  unfold Connection.messages
  rw [hgame, List.map_map]
  exact List.map_congr_left fun line _ => congrArg (Event.message id) (text_frame line)

/-- Without its terminators a line says what it says with them. -/
theorem ofPayload?_heard (line : List Char) :
    Message.ofPayload? (heard line) = Message.ofPayload? (String.ofList line) := by
  have htrim : Text.trimTerminators (heard line).toList =
      Text.trimTerminators (String.ofList line).toList := by
    unfold heard Text.trimTerminators Text.trimEnd
    rw [String.toList_ofList, String.toList_ofList, List.reverse_reverse, List.dropWhile_idempotent]
  unfold Message.ofPayload?
  rw [htrim]

/-- **What is made of the bytes that come from a controller** that sends some lines. -/
structure Hears (bytes : List UInt8) (lines : List (List Char)) : Prop where
  /-- Frame after frame, there is one for each line.  No frame is refused, and the bytes
      end behind the last one. -/
  received : ∀ ps e, Packet.Receives bytes ps e ↔ ps = lines.map frame ∧ e = .endInHeader
  /-- Each server that takes the bytes in, in pieces of any size, reports one message for
      each line. -/
  delivered : ∀ pieces : List (List UInt8), pieces.flatten = bytes →
    (Delivery.run {} (.accept :: (pieces.map (.receive 1) ++ [.finish 1]))).1 =
      .connected 1 :: (lines.map fun line => .message 1 (heard line)) ++ [.disconnected 1]
  /-- So is a task to do that serves the controller beside others. -/
  story : ∀ s : Service, s.stream = bytes →
    s.story = .connected s.id :: (lines.map fun line => .message s.id (heard line)) ++
      [.disconnected s.id]
  /-- At any time it has sent the first of these events, whatever the others do. -/
  begins : ∀ schedule n, ∀ s ∈ (Reception.after schedule n).services, s.stream = bytes →
    (Reception.after schedule n).eventsOf s.id <+: s.story
  /-- In a fair schedule it has sent all of them some time. -/
  eventually : ∀ schedule, Reception.Fair schedule →
    ∀ n, ∀ s ∈ (Reception.after schedule n).services, s.stream = bytes →
      ∃ m, n ≤ m ∧ ∀ m', m ≤ m' → (Reception.after schedule m').eventsOf s.id = s.story
  /-- What is heard of a line is the message in the line. -/
  meaning : ∀ line ∈ lines,
    Message.ofPayload? (heard line) = Message.ofPayload? (String.ofList line)

/-- **The frames of lines that fit** are heard as these lines. -/
theorem hears_frames {lines : List (List Char)}
    (fits : ∀ line ∈ lines, (encode line).length ≤ 65536) :
    Hears ((lines.map frame).flatMap Packet.encode) lines := by
  have hsplit : Packet.split ((lines.map frame).flatMap Packet.encode) =
      (lines.map frame, ⟨.endInHeader, []⟩) := by
    refine Packet.split_eq_iff.mpr ⟨(List.append_nil _).symm, ?_, .header (by decide)⟩
    intro p hp
    obtain ⟨line, hline, rfl⟩ := List.mem_map.mp hp
    rw [Packet.fits_iff, payload_frame]
    exact fits line hline
  constructor
  · intro ps e
    rw [Packet.receives_iff, hsplit]
  · intro pieces hpieces
    rw [Delivery.run_only, hpieces, hsplit, messages_frames]
  · intro s hstream
    rw [s.story_eq, hstream, hsplit, messages_frames]
  · exact fun schedule n s hs _ => (Reception.delivers schedule).begins n s hs
  · exact fun schedule fair n s hs _ => (Reception.delivers schedule).eventually fair n s hs
  · exact fun line _ => ofPayload?_heard line

/-! ## Section 5: Sessions -/

/-- Servers that can all be reached are connected to. -/
theorem connectAll_of_reachable {servers : List Server}
    (reachable : ∀ server ∈ servers, server.reachable = true) :
    connectAll servers = (servers.map fun server => { address := server.address }, none) := by
  induction servers with
  | nil => rfl
  | cons server servers ih =>
    obtain ⟨hfirst, hrest⟩ := List.forall_mem_cons.mp reachable
    unfold connectAll
    rw [if_pos hfirst, ih hrest]
    rfl

/-- **Every server hears the lines that are sent.**  Whatever the text is, a session with
    servers that can be reached succeeds, and they all receive the same bytes. -/
theorem session_hears {servers : List Server} (nonempty : servers ≠ [])
    (reachable : ∀ server ∈ servers, server.reachable = true) (text : List Char) :
    ∃ lines bytes, (∀ ls, IsLines text ls ↔ ls = lines) ∧
      session servers (encode text) =
        ⟨.success, servers.map fun server => ⟨server.address, bytes⟩⟩ ∧
      Hears bytes (spoken lines) := by
  obtain ⟨lines, hlines⟩ := exists_isLines text
  refine ⟨lines, ((spoken lines).map frame).flatMap Packet.encode, ?_, ?_, hears_frames ?_⟩
  · intro ls
    constructor
    · exact fun h => h.unique hlines
    · exact fun h => h ▸ hlines
  · unfold session
    rw [if_neg nonempty, connectAll_of_reachable reachable]
    simp only [hlines.lines_eq, converse_encode, List.map_map]
    rfl
  · intro line hline
    simpa using (List.mem_filter.mp hline).2

/-- Two servers hear lines that are empty but for their ends, and nothing behind the line
    that ends the session. -/
theorem session_hears_terminators :
    ∃ bytes, session [⟨"left:1", true⟩, ⟨"right:2", true⟩]
          (encode "z\r\n\n\x00\r\nPNT A 1 2 3\nXz\nz".toList) =
        ⟨.success, [⟨"left:1", bytes⟩, ⟨"right:2", bytes⟩]⟩ ∧
      ∀ s : Service, s.stream = bytes →
        s.story = [.connected s.id, .message s.id "z", .message s.id "", .message s.id "",
          .message s.id "PNT A 1 2 3", .disconnected s.id] := by
  obtain ⟨_, bytes, hlines, hsession, hhears⟩ :=
    @session_hears [⟨"left:1", true⟩, ⟨"right:2", true⟩] (by decide) (by decide)
      "z\r\n\n\x00\r\nPNT A 1 2 3\nXz\nz".toList
  obtain rfl := (hlines ["z".toList, [], ['\x00'], "PNT A 1 2 3".toList, "Xz".toList, "z".toList]).mp
    (isLines_iff.mpr (by decide))
  refine ⟨bytes, hsession, ?_⟩
  intro s hstream
  rw [hhears.story s hstream]
  rfl

end Sender

end Planetarium

import Planetarium.Proofs.Message.Kinds
import Planetarium.Proofs.Text.Layouts
import Planetarium.Proofs.Text.Utf8

/-! # Payloads

    What is in a payload can be told from its characters, and from its bytes as
    well.  Whatever blanks and terminators a controller writes between and behind
    the words of a message, the same message is read.

    * `eq_letters_append_iff_bytes`: the letters of a verb are three bytes.
    * `Writing`: the ways to write an authoring message.
    * `ofPayload?_payload`: each of them is read as that message.
    * `Classified`: what each payload is.
    * `payloads_classified`: that is so for all payloads and all writings. -/

namespace Planetarium.Message

open Text

/-! ## Section 1: Bytes -/

theorem length_encode_letters (verb : Verb) : (Utf8.encode verb.letters.toList).length = 3 := by
  cases verb <;> decide

/-- **The letters of a verb are three bytes.**  So a text starts with them exactly if its
    first three bytes are theirs, and then a character ends there. -/
theorem eq_letters_append_iff_bytes {cs rest : List Char} {verb : Verb} :
    cs = verb.letters.toList ++ rest ↔
      (Utf8.encode cs).take 3 = Utf8.encode verb.letters.toList ∧
      (Utf8.encode cs).drop 3 = Utf8.encode rest := by
  have hlength := length_encode_letters verb
  constructor
  · rintro rfl
    rw [Utf8.encode_append]
    exact ⟨List.take_left' hlength, List.drop_left' hlength⟩
  · rintro ⟨htake, hdrop⟩
    apply Utf8.encode_injective
    rw [Utf8.encode_append, ← htake, ← hdrop, List.take_append_drop]

/-! ## Section 2: Writings -/

/-- **A way to write an authoring message:** the letters, the words with blanks around them,
    and some terminators. -/
structure Writing where
  verb : Verb
  layout : Layout
  /-- What is written behind the message. -/
  ending : List Char
  ending_terminators : ∀ c ∈ ending, isTerminator c = true
  /-- The last word does not end in a NUL, which would be taken for a terminator. -/
  last_ne_nul : ∀ word, layout.words.getLast? = some word → word.getLast? ≠ some '\x00'

namespace Writing

/-- What is written. -/
def payload (m : Writing) : String :=
  String.ofList (m.verb.letters.toList ++ m.layout.text ++ m.ending)

/-- The words, as a message has them. -/
def tokens (m : Writing) : List String := m.layout.words.map String.ofList

end Writing

/-- A terminator is a blank, apart from NUL. -/
theorem isTerminator_eq_false {c : Char} (hblank : isBlank c = false) (hnul : c ≠ '\x00') :
    isTerminator c = false := by
  have hreturn : c ≠ '\r' := by
    rintro rfl
    exact absurd hblank (by decide)
  have hfeed : c ≠ '\n' := by
    rintro rfl
    exact absurd hblank (by decide)
  simp [isTerminator, hnul, hreturn, hfeed]

theorem getLast?_letters {verb : Verb} {c : Char} (h : verb.letters.toList.getLast? = some c) :
    isTerminator c = false := by
  cases verb <;> obtain rfl := Option.some.inj h <;> decide

/-- What is laid out ends in blanks.  A terminator stands among these only. -/
theorem Writing.exists_body (m : Writing) :
    ∃ body gap, m.layout.text = body ++ gap ∧ IsGap gap ∧
      ∀ c, body.getLast? = some c → isTerminator c = false := by
  obtain ⟨verb, ⟨lead, entries, hlead, hword, hgap, happart⟩, ending, hending, hlast⟩ := m
  -- Without a word, all of it is blank; otherwise it is so behind the last word.
  rcases List.eq_nil_or_concat entries with rfl | ⟨before, e, rfl⟩
  · exact ⟨[], lead, by simp [Layout.text], hlead, by simp⟩
  · obtain ⟨hne, hnonblank⟩ := hword e (by simp)
    refine ⟨lead ++ (before.flatMap fun e => e.1 ++ e.2) ++ e.1, e.2, by simp [Layout.text],
      hgap e (by simp), ?_⟩
    intro c hc
    have hend : e.1.getLast? = some c := by
      rw [List.getLast?_append_of_ne_nil _ hne] at hc
      exact hc
    have hnul : c ≠ '\x00' := by
      rintro rfl
      exact hlast e.1 (by simp [Layout.words]) hend
    exact isTerminator_eq_false (hnonblank c (List.mem_of_getLast? hend)) hnul

/-- **A message is read as it was written.** -/
theorem ofPayload?_payload (m : Writing) :
    ofPayload? m.payload = some (.authoring m.verb m.tokens) := by
  obtain ⟨body, gap, hlayout, hgap, hbody⟩ := m.exists_body
  -- Terminators are taken off as far as the last word, or as the letters if there is none.
  have htext : text m.payload =
      m.verb.letters.toList ++ (body ++ trimTerminators gap) := by
    unfold text Writing.payload trimTerminators
    rw [String.toList_ofList, trimEnd_append_of_forall m.ending_terminators,
      trimEnd_append fun _ => getLast?_letters, hlayout, trimEnd_append hbody]
  have hwords : words (body ++ trimTerminators gap) = m.layout.words := by
    have htrimmed : IsGap (trimTerminators gap) := hgap.trimEnd isTerminator
    rw [← words_text, hlayout, words_append_gap hgap, words_append_gap htrimmed]
  refine ofPayload?_eq_authoring_iff.mpr ⟨_, htext, ?_⟩
  rw [hwords, Writing.tokens]

/-- A box is moved to the point A.  The first NUL belongs to the name of the box, and the
    last one is a terminator. -/
def Writing.moving : Writing where
  verb := .moveToPoint
  layout :=
    { lead := [' ']
      entries := [("\x00box".toList, [' ', '\t']), (['A'], ['\r'])]
      lead_gap := by decide
      word := by decide
      gap := by decide
      apart := by decide }
  ending := ['\n', '\x00']
  ending_terminators := by simp [isTerminator]
  last_ne_nul := by
    intro word hlast
    obtain rfl : ['A'] = word := Option.some.inj hlast
    decide

example : Writing.moving.payload = "MOV \x00box \tA\r\n\x00" ∧
    Writing.moving.tokens = ["\x00box", "A"] := by
  decide

/-! ## Section 3: Kinds -/

/-- **What a payload is,** told by what is left of it without its terminators. -/
structure Classified (payload : String) : Prop where
  /-- As many terminators are taken off at the end as there are. -/
  trimmed : (∃ run, payload.toList = text payload ++ run ∧ ∀ c ∈ run, isTerminator c = true) ∧
    ∀ c, (text payload).getLast? = some c → isTerminator c = false
  /-- It is no message if nothing is left. -/
  nothing : ofPayload? payload = none ↔ text payload = []
  /-- It is an authoring message if the letters of a verb come first. -/
  verb : ∀ verb, (∃ tokens, ofPayload? payload = some (.authoring verb tokens)) ↔
    verb.letters.toList <+: text payload
  /-- Its tokens are the words of what comes behind the letters. -/
  tokens : ∀ verb tokens, ofPayload? payload = some (.authoring verb tokens) ↔
    ∃ l : Layout, text payload = verb.letters.toList ++ l.text ∧
      tokens = l.words.map String.ofList
  /-- Otherwise it is a control code. -/
  control : ∀ code, ofPayload? payload = some (.control code) ↔
    (∀ verb : Verb, ¬ verb.letters.toList <+: text payload) ∧ (text payload).head? = some code
  /-- The letters are cut off where a character ends. -/
  bytes : ∀ (verb : Verb) rest, text payload = verb.letters.toList ++ rest ↔
    (Utf8.encode (text payload)).take 3 = Utf8.encode verb.letters.toList ∧
    (Utf8.encode (text payload)).drop 3 = Utf8.encode rest

/-- **Every payload is what its text says,** and what is written as an authoring message is
    read as that message. -/
theorem payloads_classified :
    (∀ payload, Classified payload) ∧
    ∀ m : Writing, ofPayload? m.payload = some (.authoring m.verb m.tokens) := by
  refine ⟨fun payload => ?_, ofPayload?_payload⟩
  constructor
  · exact trimEnd_eq_iff.mp rfl
  · exact ofPayload?_eq_none_iff
  · intro verb
    constructor
    · rintro ⟨tokens, htokens⟩
      obtain ⟨rest, htext, _⟩ := ofPayload?_eq_authoring_iff.mp htokens
      exact ⟨rest, htext.symm⟩
    · rintro ⟨rest, htext⟩
      exact ⟨_, ofPayload?_eq_authoring_iff.mpr ⟨rest, htext.symm, rfl⟩⟩
  · intro verb tokens
    rw [ofPayload?_eq_authoring_iff]
    constructor
    · rintro ⟨rest, htext, rfl⟩
      obtain ⟨l, rfl, hwords⟩ := words_eq_iff.mp (rfl : words rest = words rest)
      exact ⟨l, htext, by rw [hwords]⟩
    · rintro ⟨l, htext, rfl⟩
      exact ⟨l.text, htext, by rw [words_text]⟩
  · intro code
    rw [ofPayload?_eq_control_iff, StartsWithVerb, not_exists]
  · intro verb rest
    exact eq_letters_append_iff_bytes

/-- A NUL is taken off at the end only, and a character of two bytes is not cut. -/
example : ofPayload? "MOV\x00box  A \x00\r\n" = some (.authoring .moveToPoint ["\x00box", "A"]) ∧
    ofPayload? "OB\u00e9" = some (.control 'O') := by
  decide

end Planetarium.Message

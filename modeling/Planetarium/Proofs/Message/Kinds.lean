import Planetarium.Message.Basic

/-! # Kinds of messages

    A payload is an authoring message, a control code, or no message at all.
    Which of them it is can be seen from the text that is left when its
    terminators are taken off.

    * `splitVerb_eq_some_iff`: the letters of a verb are split off wherever a
      text starts with them.
    * `ofPayload?_eq_authoring_iff`, `ofPayload?_eq_control_iff`,
      `ofPayload?_eq_none_iff`: one condition for each kind. -/

namespace Planetarium

namespace Verb

theorem ofLetters?_letters (verb : Verb) : ofLetters? verb.letters = some verb := by
  cases verb <;> rfl

theorem letters_of_ofLetters? {letters : String} {verb : Verb}
    (h : ofLetters? letters = some verb) : verb.letters = letters := by
  simpa using List.find?_some h

/-- The letters of a verb are three. -/
theorem exists_letters (verb : Verb) : ∃ a b c, verb.letters = String.ofList [a, b, c] := by
  cases verb <;> exact ⟨_, _, _, rfl⟩

end Verb

namespace Message

/-- The text of a payload: all but the terminators at its end. -/
def text (payload : String) : List Char := Text.trimTerminators payload.toList

/-- **The letters of a verb are split off wherever a text starts with them.** -/
theorem splitVerb_eq_some_iff {cs rest : List Char} {verb : Verb} :
    splitVerb cs = some (verb, rest) ↔ cs = verb.letters.toList ++ rest := by
  constructor
  · intro h
    unfold splitVerb at h
    split at h
    · next a b c cs' =>
      obtain ⟨verb', hletters, hpair⟩ := Option.map_eq_some_iff.mp h
      obtain ⟨rfl, rfl⟩ := Prod.mk.inj hpair
      rw [Verb.letters_of_ofLetters? hletters]
      simp
    · cases h
  · rintro rfl
    obtain ⟨a, b, c, hletters⟩ := verb.exists_letters
    have hverb := verb.ofLetters?_letters
    rw [hletters] at hverb ⊢
    rw [String.toList_ofList]
    show (Verb.ofLetters? (String.ofList [a, b, c])).map (·, rest) = some (verb, rest)
    rw [hverb]
    rfl

/-- A text starts with the letters of a verb. -/
def StartsWithVerb (cs : List Char) : Prop := ∃ verb : Verb, verb.letters.toList <+: cs

theorem splitVerb_eq_none_iff {cs : List Char} : splitVerb cs = none ↔ ¬ StartsWithVerb cs := by
  constructor
  · rintro h ⟨verb, rest, hcs⟩
    rw [splitVerb_eq_some_iff.mpr hcs.symm] at h
    cases h
  · intro h
    refine Option.eq_none_iff_forall_ne_some.mpr ?_
    rintro ⟨verb, rest⟩ hsome
    exact h ⟨verb, rest, (splitVerb_eq_some_iff.mp hsome).symm⟩

theorem ofPayload?_eq (payload : String) :
    ofPayload? payload =
      match splitVerb (text payload) with
      | some (verb, rest) => some (.authoring verb ((Text.words rest).map String.ofList))
      | none => (text payload).head?.map .control := rfl

theorem ofPayload?_eq_authoring_iff {payload : String} {verb : Verb} {tokens : List String} :
    ofPayload? payload = some (.authoring verb tokens) ↔
      ∃ rest, text payload = verb.letters.toList ++ rest ∧
        tokens = (Text.words rest).map String.ofList := by
  rw [ofPayload?_eq]
  simp only [← splitVerb_eq_some_iff]
  cases hsplit : splitVerb (text payload) with
  | none => simp
  | some found =>
    obtain ⟨verb', rest⟩ := found
    simp only [Option.some.injEq, authoring.injEq, Prod.mk.injEq]
    constructor
    · rintro ⟨rfl, rfl⟩
      exact ⟨rest, ⟨rfl, rfl⟩, rfl⟩
    · rintro ⟨_, ⟨rfl, rfl⟩, rfl⟩
      exact ⟨rfl, rfl⟩

/-- A control code is the first character of a text that starts with no verb. -/
theorem ofPayload?_eq_control_iff {payload : String} {code : Char} :
    ofPayload? payload = some (.control code) ↔
      ¬ StartsWithVerb (text payload) ∧ (text payload).head? = some code := by
  rw [ofPayload?_eq]
  rw [← splitVerb_eq_none_iff]
  cases splitVerb (text payload) <;> simp

/-- Only a payload without a text is no message. -/
theorem ofPayload?_eq_none_iff {payload : String} :
    ofPayload? payload = none ↔ text payload = [] := by
  rw [ofPayload?_eq]
  cases hsplit : splitVerb (text payload) with
  | none => simp
  | some found =>
    have htext := splitVerb_eq_some_iff.mp hsplit
    obtain ⟨a, b, c, hletters⟩ := found.1.exists_letters
    rw [htext, hletters]
    simp

end Message

end Planetarium

import Mathlib.Data.List.Chain
import Mathlib.Data.List.DropRight
import Planetarium.Text.Blank

/-! # Layouts

    A text is words with blanks around them.  The blanks can be anything, but the
    words are always the same: they are as long as can be.

    * `trimEnd_eq_iff`: what is taken off at the end of a text is as much as can be.
    * `Layout`: words that are set apart by blanks.
    * `words_eq_iff`: the words of a text are those of its layouts. -/

namespace Planetarium.Text

/-! ## Section 1: The end of a text -/

section trimEnd
variable {p : Char → Bool} {cs ds q run : List Char}

theorem trimEnd_eq_rdropWhile (p : Char → Bool) (cs : List Char) :
    trimEnd p cs = cs.rdropWhile p := rfl

theorem trimEnd_append_of_forall (h : ∀ c ∈ run, p c = true) (cs : List Char) :
    trimEnd p (cs ++ run) = trimEnd p cs := by
  unfold trimEnd
  have hrun : run.reverse.dropWhile p = [] := by
    simpa [List.dropWhile_eq_nil_iff] using h
  rw [List.reverse_append, List.dropWhile_append, hrun]
  rfl

/-- A text is left as it is if it does not end in what is taken off. -/
theorem trimEnd_eq_self (h : ∀ c, q.getLast? = some c → p c = false) : trimEnd p q = q := by
  rw [trimEnd_eq_rdropWhile, List.rdropWhile_eq_self_iff]
  intro hne
  simp [h _ (List.getLast?_eq_some_getLast hne)]

theorem exists_append_trimEnd (p : Char → Bool) (cs : List Char) :
    ∃ run, cs = trimEnd p cs ++ run ∧ ∀ c ∈ run, p c = true :=
  ⟨cs.rtakeWhile p, List.rdropWhile_append_rtakeWhile.symm, fun _ => List.mem_rtakeWhile_imp⟩

theorem getLast?_trimEnd {c : Char} (h : (trimEnd p cs).getLast? = some c) : p c = false := by
  have hne : cs.rdropWhile p ≠ [] := by
    intro hnil
    simp [trimEnd_eq_rdropWhile, hnil] at h
  rw [trimEnd_eq_rdropWhile, List.getLast?_eq_some_getLast hne] at h
  rw [← Option.some.inj h]
  simpa using List.rdropWhile_last_not p cs hne

/-- **What is left of a text** does not end in what is taken off. -/
theorem trimEnd_eq_iff :
    trimEnd p cs = q ↔
      (∃ run, cs = q ++ run ∧ ∀ c ∈ run, p c = true) ∧
      ∀ c, q.getLast? = some c → p c = false := by
  constructor
  · rintro rfl
    exact ⟨exists_append_trimEnd p cs, fun _ => getLast?_trimEnd⟩
  · rintro ⟨⟨run, rfl, hrun⟩, hlast⟩
    rw [trimEnd_append_of_forall hrun, trimEnd_eq_self hlast]

/-- Nothing is taken off behind a character that stays. -/
theorem trimEnd_append (h : ∀ c, cs.getLast? = some c → p c = false) (ds : List Char) :
    trimEnd p (cs ++ ds) = cs ++ trimEnd p ds := by
  obtain ⟨run, hds, hrun⟩ := exists_append_trimEnd p ds
  refine trimEnd_eq_iff.mpr ⟨⟨run, by rw [List.append_assoc, ← hds], hrun⟩, ?_⟩
  intro c hc
  rw [List.getLast?_append] at hc
  cases hlast : (trimEnd p ds).getLast? with
  | some d =>
    rw [hlast] at hc
    exact Option.some.inj hc ▸ getLast?_trimEnd hlast
  | none =>
    rw [hlast] at hc
    exact h c hc

end trimEnd

/-! ## Section 2: Words -/

/-- Some blanks, or none. -/
def IsGap (cs : List Char) : Prop := ∀ c ∈ cs, isBlank c = true

-- The characters of the text are gone through, not all characters there are.
instance (cs : List Char) : Decidable (IsGap cs) := List.decidableBAll _ cs

/-- Some characters without a blank. -/
def IsWord (cs : List Char) : Prop := cs ≠ [] ∧ ∀ c ∈ cs, isBlank c = false

instance (cs : List Char) : Decidable (IsWord cs) := @instDecidableAnd _ _ _ (List.decidableBAll _ cs)

section words
variable {b : Char} {word gap rest : List Char}

theorem isGap_nil : IsGap [] := by simp [IsGap]

theorem isGap_cons_iff : IsGap (b :: gap) ↔ isBlank b = true ∧ IsGap gap := by simp [IsGap]

theorem IsGap.trimEnd (h : IsGap gap) (p : Char → Bool) : IsGap (trimEnd p gap) := by
  intro c hc
  obtain ⟨run, hgap, _⟩ := exists_append_trimEnd p gap
  apply h
  rw [hgap]
  exact List.mem_append_left run hc

theorem isWord_cons {c : Char} {cs : List Char} (hc : isBlank c = false)
    (hcs : ∀ d ∈ cs, isBlank d = false) : IsWord (c :: cs) := by
  simpa [IsWord, hc] using hcs

theorem words_append_cons (hb : isBlank b = true) (cs ds : List Char) :
    words (cs ++ b :: ds) = words cs ++ words ds := by
  unfold words
  rw [List.splitOnP_append_cons _ _ hb, List.filter_append]

theorem words_gap_append (h : IsGap gap) (cs : List Char) : words (gap ++ cs) = words cs := by
  induction gap with
  | nil => rfl
  | cons b gap ih =>
    obtain ⟨hb, hgap⟩ := isGap_cons_iff.mp h
    calc words ([] ++ b :: (gap ++ cs))
        = words [] ++ words (gap ++ cs) := words_append_cons hb [] _
      _ = words (gap ++ cs) := rfl
      _ = words cs := ih hgap

theorem words_append_gap (h : IsGap gap) (cs : List Char) : words (cs ++ gap) = words cs := by
  cases gap with
  | nil => rw [List.append_nil]
  | cons b gap =>
    obtain ⟨hb, hgap⟩ := isGap_cons_iff.mp h
    have hnone : words gap = [] := by
      rw [← List.append_nil gap, words_gap_append hgap]
      rfl
    rw [words_append_cons hb, hnone, List.append_nil]

theorem words_word (h : IsWord word) : words word = [word] := by
  unfold words
  rw [List.splitOnP_eq_singleton h.2]
  simp [h.1]

/-- A word ends at a blank or at the end of the text. -/
theorem words_word_append (hword : IsWord word) (hgap : IsGap gap) (hend : gap = [] → rest = []) :
    words (word ++ gap ++ rest) = word :: words rest := by
  cases gap with
  | nil =>
    rw [hend rfl, List.append_nil, List.append_nil, words_word hword]
    rfl
  | cons b gap =>
    obtain ⟨hb, hgap⟩ := isGap_cons_iff.mp hgap
    rw [List.append_assoc, List.cons_append, words_append_cons hb, words_word hword,
      words_gap_append hgap]
    rfl

end words

/-! ## Section 3: Layouts -/

/-- **Words that are set apart by blanks.** -/
structure Layout where
  /-- The blanks in front of all words. -/
  lead : List Char
  /-- Each word with the blanks behind it. -/
  entries : List (List Char × List Char)
  lead_gap : IsGap lead
  word : ∀ e ∈ entries, IsWord e.1
  gap : ∀ e ∈ entries, IsGap e.2
  /-- There is a blank between a word and the next one. -/
  apart : entries.IsChain fun e _ => e.2 ≠ []

namespace Layout

/-- The text that is laid out. -/
def text (l : Layout) : List Char := l.lead ++ l.entries.flatMap fun e => e.1 ++ e.2

/-- The words, in order. -/
def words (l : Layout) : List (List Char) := l.entries.map (·.1)

end Layout

/-- **The words of a text that is laid out.** -/
theorem words_text (l : Layout) : words l.text = l.words := by
  obtain ⟨lead, entries, hlead, hword, hgap, hapart⟩ := l
  unfold Layout.text Layout.words
  rw [words_gap_append hlead]
  dsimp only
  -- Induction on the entries: behind the last word there may be nothing at all.
  induction entries with
  | nil => rfl
  | cons e es ih =>
    obtain ⟨hnext, hes⟩ := List.isChain_cons.mp hapart
    have hrest := ih (fun e he => hword e (by simp [he])) (fun e he => hgap e (by simp [he])) hes
    have hend : e.2 = [] → (es.flatMap fun e => e.1 ++ e.2) = [] := by
      intro hnil
      cases es with
      | nil => rfl
      | cons next es => exact absurd hnil (hnext next (by simp))
    rw [List.flatMap_cons, List.map_cons, ← hrest]
    exact words_word_append (hword e (by simp)) (hgap e (by simp)) hend

/-- Every text can be laid out. -/
theorem exists_layout (cs : List Char) : ∃ l : Layout, l.text = cs := by
  -- Induction on the text: what comes before a layout belongs to its lead or to a word.
  induction cs with
  | nil => exact ⟨⟨[], [], isGap_nil, by simp, by simp, by simp⟩, rfl⟩
  | cons c cs ih =>
    obtain ⟨⟨lead, entries, hlead, hword, hgap, hapart⟩, rfl⟩ := ih
    by_cases hblank : isBlank c = true
    · exact ⟨⟨c :: lead, entries, isGap_cons_iff.mpr ⟨hblank, hlead⟩, hword, hgap, hapart⟩, rfl⟩
    have hc : isBlank c = false := by simpa using hblank
    cases lead with
    | cons b lead =>
      -- The blanks in front now stand behind a word of one character.
      refine ⟨⟨[], ([c], b :: lead) :: entries, isGap_nil, ?_, ?_, ?_⟩, by simp [Layout.text]⟩
      · exact List.forall_mem_cons.mpr ⟨isWord_cons hc (by simp), hword⟩
      · exact List.forall_mem_cons.mpr ⟨hlead, hgap⟩
      · exact List.isChain_cons.mpr ⟨by simp, hapart⟩
    | nil =>
      cases entries with
      | nil =>
        refine ⟨⟨[], [([c], [])], isGap_nil, ?_, ?_, by simp⟩, rfl⟩
        · simpa using isWord_cons hc (by simp)
        · simpa using isGap_nil
      | cons e es =>
        -- The first word begins one character before.
        obtain ⟨⟨_, hfirst⟩, hrest⟩ := List.forall_mem_cons.mp hword
        refine ⟨⟨[], (c :: e.1, e.2) :: es, isGap_nil, ?_, ?_, ?_⟩, by simp [Layout.text]⟩
        · exact List.forall_mem_cons.mpr ⟨isWord_cons hc hfirst, hrest⟩
        · exact List.forall_mem_cons.mpr (List.forall_mem_cons.mp hgap)
        · exact List.isChain_cons.mpr (List.isChain_cons.mp hapart)

/-- **The words of a text are those of its layouts.** -/
theorem words_eq_iff {cs : List Char} {ws : List (List Char)} :
    words cs = ws ↔ ∃ l : Layout, l.text = cs ∧ l.words = ws := by
  constructor
  · rintro rfl
    obtain ⟨l, rfl⟩ := exists_layout cs
    exact ⟨l, rfl, (words_text l).symm⟩
  · rintro ⟨l, rfl, rfl⟩
    exact words_text l

end Planetarium.Text

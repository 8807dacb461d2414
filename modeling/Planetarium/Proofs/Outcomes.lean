import Planetarium.Outcome

/-! # Operations one after another

    What comes after an operation is left out if a broken contract has stopped
    it, and that takes a debug build.

    * `Outcome.andThen_of_none`: an operation that has not been stopped is
      followed by the next one.
    * `Outcome.andThen_assoc`: it does not matter which two are taken together
      first.
    * `Outcome.Kept`: no contract has been broken, so that every build comes to
      the same.
    * `Outcome.keeps_andThen`: what every operation keeps is kept by all of them,
      wherever they have been stopped. -/

namespace Planetarium.Outcome

variable {σ τ : Type}

@[simp] theorem state_violated (build : Build) (s : σ) (v : Violation) :
    (violated build s v).state = s := by
  cases build <;> rfl

/-- A violation is reported in a release build. -/
@[simp] theorem mem_entries_violated {build : Build} {s : σ} {v : Violation} {e : Entry} :
    e ∈ (violated build s v).entries ↔ build = .release ∧ e = .violated v := by
  cases build <;> simp [violated, stopped, report]

@[simp] theorem state_map (f : σ → τ) (o : Outcome σ) : (o.map f).state = f o.state := rfl

/-- What comes after an operation that has not been stopped. -/
theorem andThen_of_none {o : Outcome σ} (f : σ → Outcome σ) (h : o.violation = none) :
    (o.andThen f).state = (f o.state).state ∧
    (o.andThen f).entries = o.entries ++ (f o.state).entries := by
  unfold andThen
  rw [h]
  exact ⟨rfl, rfl⟩

theorem violation_andThen {o : Outcome σ} (f : σ → Outcome σ) (h : o.violation = none) :
    (o.andThen f).violation = (f o.state).violation := by
  unfold andThen
  rw [h]

theorem done_andThen (s : σ) (f : σ → Outcome σ) : (done s).andThen f = f s := by
  simp [andThen, done]

theorem andThen_done (o : Outcome σ) : o.andThen done = o := by
  unfold andThen
  split
  · rfl
  · next hnone => simp [done, ← hnone]

/-- A release build goes on after a violation. -/
theorem violated_release_andThen (s : σ) (v : Violation) (f : σ → Outcome σ) :
    (violated .release s v).andThen f =
      { f s with entries := .violated v :: (f s).entries } := rfl

theorem andThen_assoc (o : Outcome σ) (f g : σ → Outcome σ) :
    (o.andThen f).andThen g = o.andThen fun s => (f s).andThen g := by
  unfold andThen
  cases ho : o.violation with
  | some v => simp [ho]
  | none =>
    cases hf : (f o.state).violation with
    | some v => simp [hf]
    | none => simp [hf]

/-- **What every operation keeps is kept,** also if one of them is stopped. -/
theorem keeps_andThen {P : σ → Prop} {o : Outcome σ} {f : σ → Outcome σ} (h : P o.state)
    (hf : ∀ s, P s → P (f s).state) : P (o.andThen f).state := by
  unfold andThen
  split
  · exact h
  · exact hf o.state h

/-- **No contract has been broken:** nothing has stopped the operation, and no
    violation is reported. -/
structure Kept (o : Outcome σ) : Prop where
  violation : o.violation = none
  entries : ∀ v, Entry.violated v ∉ o.entries

theorem kept_done (s : σ) : (done s).Kept := by
  constructor
  · rfl
  · simp [done]

theorem kept_report (s : σ) {e : Entry} (h : ∀ v, Entry.violated v ≠ e) : (report s e).Kept := by
  constructor
  · rfl
  · intro v hv
    exact h v (List.mem_singleton.mp hv)

theorem Kept.map {o : Outcome σ} (h : o.Kept) (f : σ → τ) : (o.map f).Kept :=
  ⟨h.violation, h.entries⟩

theorem Kept.andThen {o : Outcome σ} {f : σ → Outcome σ} (h : o.Kept) (hf : (f o.state).Kept) :
    (o.andThen f).Kept := by
  constructor
  · rw [violation_andThen f h.violation]
    exact hf.violation
  · rw [(andThen_of_none f h.violation).2]
    intro v hv
    obtain hfirst | hnext := List.mem_append.mp hv
    · exact h.entries v hfirst
    · exact hf.entries v hnext

end Planetarium.Outcome

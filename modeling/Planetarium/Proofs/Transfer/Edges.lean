import Planetarium.Proofs.Transfer.Steps
import Planetarium.Transfer.Sample

/-! # Edges

    A watch keeps a mark and a number.  What it does with a history of samples is
    a matter of the angles alone: it fires where an angle comes onto the target.

    * `Watch.Follows`: what the mark says about the angle before.
    * `Follows.observe_eq`: one sample, as the edges say.
    * `Follows.kept_takeAll`: a whole history, as the edges say.
    * `Watch.fires_on_edges`: all that becomes of the samples of a new watch. -/

namespace Planetarium

namespace Watch

/-- The angles of some samples.  Those without an angle are left out. -/
def angles (samples : List Sample) : List Int := samples.filterMap Sample.angle?

/-- The angles of some samples, each with what its sample has fired. -/
def kept (samples : List Sample) (fired : List (Option Ticket)) : List (Int × Option Ticket) :=
  (samples.zip fired).filterMap fun e => e.1.angle?.map (·, e.2)

/-- The tickets among what has been fired, in order. -/
def ticketsOf (fired : List (Option Ticket)) : List Ticket := fired.filterMap id

/-! ## Section 1: One sample -/

theorem take_of_angle {s : Sample} {a : Int} (h : s.angle? = some a) (w : Watch) :
    w.take s = w.observe a := by
  cases s with
  | angle degrees =>
    obtain rfl := Option.some.inj h
    rfl
  | places origin destination reference =>
    unfold take observePlaces
    simp only [show Window.angle? origin destination reference = some a from h]

/-- **A sample without an angle** does not fire, and the watch stays as it is. -/
theorem take_of_none {s : Sample} (h : s.angle? = none) (w : Watch) : w.take s = (none, w) := by
  cases s with
  | angle degrees => cases h
  | places origin destination reference =>
    unfold take observePlaces
    simp only [show Window.angle? origin destination reference = none from h]

/-- **What the mark of a watch says:** it may fire unless the angle before, if there was
    one, has been the target. -/
def Follows (w : Watch) (previous : Option Int) : Prop :=
  w.armed = decide (previous ≠ some w.target)

theorem follows_new (target : Int) : Follows { target } none := by
  simp [Follows]

namespace Follows
variable {w : Watch} {previous : Option Int}

/-- **A watch fires where the angle comes onto the target.** -/
theorem observe_eq (h : w.Follows previous) (a : Int) :
    w.observe a =
      if comesOnto w.target previous a then
        (some ⟨w.tickets + 1⟩, { w with armed := false, tickets := w.tickets + 1 })
      else (none, { w with armed := decide (a ≠ w.target) }) := by
  unfold observe comesOnto
  by_cases honto : a = w.target
  · subst honto
    by_cases hleft : previous = some w.target
    · -- The watch has been on the target before, so it keeps its mark.
      have harmed : w.armed = false := by simpa [Follows, hleft] using h
      obtain ⟨target, armed, tickets⟩ := w
      simp_all
    · have harmed : w.armed = true := by simpa [Follows, hleft] using h
      simp [hleft, harmed]
  · simp [honto]

theorem observe (h : w.Follows previous) (a : Int) : (w.observe a).2.Follows (some a) := by
  rw [h.observe_eq]
  split
  · next honto =>
    have hon : a = w.target := by
      simp only [comesOnto, Bool.and_eq_true, decide_eq_true_eq] at honto
      exact honto.1
    simp [Follows, hon]
  · simp [Follows]

end Follows

theorem target_take (w : Watch) (s : Sample) : (w.take s).2.target = w.target := by
  cases hangle : s.angle? with
  | none => rw [take_of_none hangle]
  | some a =>
    rw [take_of_angle hangle]
    unfold observe
    split
    · rfl
    · split <;> rfl

/-- A sample of either kind fires the next ticket, or none. -/
theorem sampled_take (w : Watch) (s : Sample) : w.Sampled (w.take s) := by
  cases s with
  | angle degrees => exact w.sampled_observe degrees
  | places origin destination reference =>
    exact w.sampled_observePlaces origin destination reference

/-! ## Section 2: Histories of samples -/

section takeAll
variable (w : Watch) (s : Sample) (ss : List Sample)

theorem takeAll_cons :
    w.takeAll (s :: ss) =
      ((w.take s).1 :: ((w.take s).2.takeAll ss).1, ((w.take s).2.takeAll ss).2) := rfl

theorem length_takeAll : (w.takeAll ss).1.length = ss.length := by
  induction ss generalizing w with
  | nil => rfl
  | cons s ss ih => simp [takeAll_cons, ih]

theorem target_takeAll : (w.takeAll ss).2.target = w.target := by
  induction ss generalizing w with
  | nil => rfl
  | cons s ss ih => rw [takeAll_cons, ih, target_take]

end takeAll

/-- Each sample is taken by the watch that those before it have left. -/
theorem getElem?_takeAll {w : Watch} {ss : List Sample} {i : Nat} {s : Sample}
    (h : ss[i]? = some s) :
    (w.takeAll ss).1[i]? = some ((w.takeAll (ss.take i)).2.take s).1 ∧
    (w.takeAll (ss.take (i + 1))).2 = ((w.takeAll (ss.take i)).2.take s).2 := by
  induction ss generalizing w i with
  | nil => cases h
  | cons first ss ih =>
    cases i with
    | zero =>
      obtain rfl := Option.some.inj h
      exact ⟨rfl, rfl⟩
    | succ i => exact ih (w := (w.take first).2) h

theorem kept_cons_of_some {s : Sample} {a : Int} (h : s.angle? = some a) (ss : List Sample)
    (t : Option Ticket) (ts : List (Option Ticket)) :
    kept (s :: ss) (t :: ts) = (a, t) :: kept ss ts := by
  simp [kept, h]

theorem kept_cons_of_none {s : Sample} (h : s.angle? = none) (ss : List Sample)
    (t : Option Ticket) (ts : List (Option Ticket)) :
    kept (s :: ss) (t :: ts) = kept ss ts := by
  simp [kept, h]

theorem Follows.takeAll {w : Watch} {previous : Option Int} (h : w.Follows previous)
    (ss : List Sample) :
    (w.takeAll ss).2.Follows ((angles ss).getLast?.or previous) ∧
    (kept ss (w.takeAll ss).1).map (fun e => (e.1, e.2.isSome)) =
      (angles ss).zip (edges w.target previous (angles ss)) := by
  -- Induction on the samples: the angle before the next sample is that of the last one
  -- that had an angle.
  induction ss generalizing w previous with
  | nil => exact ⟨h, rfl⟩
  | cons s ss ih =>
    rw [takeAll_cons]
    cases hangle : s.angle? with
    | none =>
      have hangles : angles (s :: ss) = angles ss := List.filterMap_cons_none hangle
      rw [take_of_none hangle, kept_cons_of_none hangle, hangles]
      exact ih h
    | some a =>
      have hangles : angles (s :: ss) = a :: angles ss := List.filterMap_cons_some hangle
      have htarget : (w.observe a).2.target = w.target := by
        rw [← take_of_angle hangle, target_take]
      have hfired : (w.observe a).1.isSome = comesOnto w.target previous a := by
        rw [h.observe_eq]
        cases comesOnto w.target previous a <;> rfl
      obtain ⟨hlast, hedges⟩ := ih (h.observe a)
      rw [take_of_angle hangle, kept_cons_of_some hangle, hangles]
      constructor
      · rw [List.getLast?_cons]
        cases hrest : (angles ss).getLast? <;> simpa [hrest] using hlast
      · rw [List.map_cons, hedges, htarget, hfired]
        rfl

/-- Only samples with an angle fire. -/
theorem ticketsOf_kept (w : Watch) (ss : List Sample) :
    (kept ss (w.takeAll ss).1).filterMap (·.2) = ticketsOf (w.takeAll ss).1 := by
  induction ss generalizing w with
  | nil => rfl
  | cons s ss ih =>
    rw [takeAll_cons]
    cases hangle : s.angle? with
    | none =>
      rw [take_of_none hangle, kept_cons_of_none hangle, ih]
      rfl
    | some a =>
      rw [kept_cons_of_some hangle]
      cases (w.take s).1 <;> simp [ticketsOf, ih]

/-- **Tickets are counted on** from those that a watch has seen before. -/
theorem tickets_takeAll (w : Watch) (ss : List Sample) :
    (ticketsOf (w.takeAll ss).1).map (·.number) =
      List.range' (w.tickets + 1) (ticketsOf (w.takeAll ss).1).length ∧
    (w.takeAll ss).2.tickets = w.tickets + (ticketsOf (w.takeAll ss).1).length := by
  induction ss generalizing w with
  | nil => exact ⟨rfl, rfl⟩
  | cons s ss ih =>
    obtain ⟨hnumbers, hcount⟩ := ih (w.take s).2
    have hsampled := w.sampled_take s
    rw [takeAll_cons]
    generalize w.take s = sample at hnumbers hcount hsampled
    cases hsampled with
    | @silent w' hsame =>
      rw [hsame] at hnumbers hcount
      exact ⟨hnumbers, hcount⟩
    | @fired w' hnext =>
      rw [hnext] at hnumbers hcount
      constructor
      · show (w.tickets + 1) :: (ticketsOf (w'.takeAll ss).1).map (·.number) = _
        rw [hnumbers]
        rfl
      · have hlength : (ticketsOf (some ⟨w.tickets + 1⟩ :: (w'.takeAll ss).1)).length =
            (ticketsOf (w'.takeAll ss).1).length + 1 := rfl
        dsimp only at hcount ⊢
        omega

/-! ## Section 3: Edges -/

section edges
variable (target : Int) (previous : Option Int) (as : List Int)

@[simp] theorem length_edges : (edges target previous as).length = as.length := by
  induction as generalizing previous with
  | nil => rfl
  | cons a as ih => simp [edges, ih]

theorem comesOnto_iff (a : Int) :
    comesOnto target previous a = true ↔ a = target ∧ previous ≠ some target := by
  simp [comesOnto]

theorem getElem?_edges_succ (i : Nat) :
    (edges target previous as)[i + 1]? = as[i + 1]?.map (comesOnto target as[i]?) := by
  induction as generalizing previous i with
  | nil => rfl
  | cons a as ih =>
    cases i with
    | zero => cases as <;> rfl
    | succ i => exact ih (some a) i

end edges

/-- **An edge** is an angle on the target that is the first one or comes behind one that is
    not. -/
theorem edge_iff {target a : Int} {as : List Int} {i : Nat} {edge : Bool} (ha : as[i]? = some a)
    (hedge : (edges target none as)[i]? = some edge) :
    edge = true ↔ a = target ∧ ∀ j, j + 1 = i → as[j]? ≠ some target := by
  cases i with
  | zero =>
    cases as with
    | nil => cases ha
    | cons first as =>
      obtain rfl := Option.some.inj ha
      obtain rfl := Option.some.inj hedge
      rw [comesOnto_iff]
      simp
  | succ i =>
    rw [getElem?_edges_succ, ha] at hedge
    obtain rfl := Option.some.inj hedge
    rw [comesOnto_iff]
    simp

/-- **Angles that only rise or only fall** come onto the target once, if they do not start
    behind it. -/
theorem count_edges_of_pairwise {R : Int → Int → Prop} (antisymm : ∀ a b, R a b → R b a → a = b)
    {target : Int} {previous : Option Int} {as : List Int}
    (ordered : (previous.toList ++ as).Pairwise R) :
    (edges target previous as).count true =
      if target ∈ as ∧ previous ≠ some target then 1 else 0 := by
  induction as generalizing previous with
  | nil => simp [edges]
  | cons a as ih =>
    have hrest : (a :: as).Pairwise R := (List.pairwise_append.mp ordered).2.1
    have hcount : (edges target (some a) as).count true =
        if target ∈ as ∧ some a ≠ some target then 1 else 0 := ih hrest
    rw [edges, List.count_cons, hcount]
    by_cases honto : a = target
    · subst honto
      by_cases hleft : previous = some a <;> simp [comesOnto, hleft]
    · -- Between two times on the target there is nothing but the target.
      have hleft : target ∈ as → previous ≠ some target := by
        rintro hmem rfl
        have hbefore : R target a := (List.pairwise_append.mp ordered).2.2 _ (by simp) _ (by simp)
        have hafter : R a target := List.rel_of_pairwise_cons hrest hmem
        exact honto (antisymm _ _ hafter hbefore)
      have hnot : comesOnto target previous a = false := by simp [comesOnto, honto]
      by_cases hin : target ∈ as
      · simp [hnot, hin, honto, hleft hin]
      · simp [hnot, hin, Ne.symm honto]

/-! ## Section 4: New watches -/

/-- What each of some samples fires from a new watch, and the watch after them. -/
def watched (target : Int) (samples : List Sample) : List (Option Ticket) × Watch :=
  takeAll { target } samples

theorem kept_watched (target : Int) (samples : List Sample) :
    (kept samples (watched target samples).1).map (fun e => (e.1, e.2.isSome)) =
      (angles samples).zip (edges target none (angles samples)) :=
  ((follows_new target).takeAll samples).2

/-- A new watch fires once for each edge. -/
theorem length_ticketsOf_watched (target : Int) (samples : List Sample) :
    (ticketsOf (watched target samples).1).length =
      (edges target none (angles samples)).count true := by
  have hlength : (edges target none (angles samples)).length ≤ (angles samples).length :=
    Nat.le_of_eq (length_edges _ _ _)
  calc (ticketsOf (watched target samples).1).length
      = ((kept samples (watched target samples).1).filterMap (·.2)).length := by
        rw [watched, ticketsOf_kept]
    _ = ((kept samples (watched target samples).1).map fun e => (e.1, e.2.isSome)).countP (·.2) := by
        rw [List.length_filterMap_eq_countP, List.countP_map]
        rfl
    _ = (((angles samples).zip (edges target none (angles samples))).map (·.2)).countP id := by
        rw [kept_watched, List.countP_map]
        rfl
    _ = (edges target none (angles samples)).count true := by
        rw [List.map_snd_zip hlength]
        exact List.countP_congr (by simp)

/-- **What becomes of the samples of a new watch.** -/
structure FiresOnEdges (target : Int) (samples : List Sample) : Prop where
  /-- Every sample is answered. -/
  answered : (watched target samples).1.length = samples.length
  /-- A sample without an angle does not fire, and the watch stays as it is. -/
  dropped : ∀ i s, samples[i]? = some s → s.angle? = none →
    (watched target samples).1[i]? = some none ∧
    (watched target (samples.take (i + 1))).2 = (watched target (samples.take i)).2
  /-- The samples that remain, with what they fire. -/
  remaining : (kept samples (watched target samples).1).map (·.1) = angles samples
  /-- One of them fires exactly if it is on the target and the one before it, if there is
      one, is not. -/
  fires : ∀ i a t, (kept samples (watched target samples).1)[i]? = some (a, t) →
    (t.isSome = true ↔ a = target ∧ ∀ j, j + 1 = i → (angles samples)[j]? ≠ some target)
  /-- The tickets are numbered from one, and the watch has counted them. -/
  tickets : (ticketsOf (watched target samples).1).map (·.number) =
    List.range' 1 (watched target samples).2.tickets
  /-- Every second one is for a launch. -/
  launches : ∀ i t, (ticketsOf (watched target samples).1)[i]? = some t →
    (t.launches = true ↔ i % 2 = 1)
  /-- The watch may fire at the end unless the last angle is on the target. -/
  armed : (watched target samples).2.armed = true ↔
    ∀ a, (angles samples).getLast? = some a → a ≠ target
  /-- Angles that only rise, or only fall, fire once if they meet the target and never
      otherwise. -/
  monotone : (angles samples).Pairwise (· ≤ ·) ∨ (angles samples).Pairwise (· ≥ ·) →
    (ticketsOf (watched target samples).1).length = if target ∈ angles samples then 1 else 0

/-- **A watch fires on edges,** whatever samples of either kind it is shown. -/
theorem fires_on_edges (target : Int) (samples : List Sample) : FiresOnEdges target samples := by
  obtain ⟨hnumbers, hcount⟩ := tickets_takeAll { target } samples
  replace hnumbers : (ticketsOf (watched target samples).1).map (·.number) =
      List.range' 1 (ticketsOf (watched target samples).1).length := hnumbers
  replace hcount : (watched target samples).2.tickets =
      (ticketsOf (watched target samples).1).length := hcount.trans (Nat.zero_add _)
  have hkept := kept_watched target samples
  constructor
  · exact length_takeAll { target } samples
  · intro i s hs hangle
    obtain ⟨hfired, hafter⟩ := getElem?_takeAll (w := { target }) hs
    rw [take_of_none hangle] at hfired hafter
    exact ⟨hfired, hafter⟩
  · have hfirst := congrArg (List.map Prod.fst) hkept
    rw [List.map_map, List.map_fst_zip (Nat.le_of_eq (length_edges _ _ _).symm)] at hfirst
    exact hfirst
  · intro i a t ht
    have hpair : ((angles samples).zip (edges target none (angles samples)))[i]? =
        some (a, t.isSome) := by
      rw [← hkept, List.getElem?_map, ht]
      rfl
    obtain ⟨hangle, hedge⟩ := List.getElem?_zip_eq_some.mp hpair
    exact edge_iff hangle hedge
  · rw [hcount]
    exact hnumbers
  · intro i t ht
    have hnumber : t.number = 1 + i := by
      have hi := congrArg (·[i]?) hnumbers
      simp only [List.getElem?_map, ht, Option.map_some] at hi
      obtain ⟨_, heq⟩ := List.getElem?_eq_some_iff.mp hi.symm
      rw [← heq, List.getElem_range', Nat.one_mul]
    simp only [Ticket.launches, decide_eq_true_eq, hnumber]
    omega
  · have hmark := ((follows_new target).takeAll samples).1
    have htarget : (watched target samples).2.target = target := target_takeAll { target } samples
    unfold Follows at hmark
    rw [← watched, htarget, Option.or_none] at hmark
    rw [hmark, decide_eq_true_eq]
    constructor
    · rintro hlast a ha rfl
      exact hlast ha
    · exact fun hlast hon => hlast target hon rfl
  · intro hordered
    rw [length_ticketsOf_watched]
    have hcount : (edges target none (angles samples)).count true =
        if target ∈ angles samples ∧ (none : Option Int) ≠ some target then 1 else 0 := by
      rcases hordered with hrising | hfalling
      · exact count_edges_of_pairwise (fun _ _ => Int.le_antisymm) hrising
      · exact count_edges_of_pairwise (fun _ _ h h' => Int.le_antisymm h' h) hfalling
    simpa using hcount

/-- Two samples on the target in a row fire once, and a sample without an angle between them
    changes nothing. -/
example : (watched 44 [.angle 44, .angle 44, .angle 45, .angle 44, .places .zero .unitX .zero,
    .angle 44]).1.map (·.map Ticket.number) = [some 1, none, none, some 2, none, none] := by
  decide +kernel

end Watch

end Planetarium

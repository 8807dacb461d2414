import Planetarium.Proofs.Numeral.Reciprocal
import Planetarium.Settings.Arguments

/-! # Rates

    The settings accept every rate that fits in 32 bits, except zero.  A play needs a
    period, which is the reciprocal of the rate in whole nanoseconds.  The two agree
    up to two thousand million ticks per second.

    * `Settings.accepts_iff`: the rates that can be set.
    * `Settings.rate_runs_iff`: those of them that make a play.
    * `Settings.greatest_rate_stalls`: one that can be set and makes none. -/

namespace Planetarium

namespace Settings

/-! ## Section 1: Rates that can be set -/

/-- Some arguments, in some environment, set the rate. -/
def Accepts (rate : Nat) : Prop :=
  ∃ arguments environment settings,
    read arguments environment = .ok settings ∧ settings.tickRate = rate

/-- A rate that fits in 32 bits and is not zero. -/
def InRange (s : Settings) : Prop := 1 ≤ s.tickRate ∧ s.tickRate ≤ 0xffffffff

theorem InRange.set? {s s' : Settings} (h : s.InRange) {k : Key} {value : String}
    (hset : s.set? k value = some s') : s'.InRange := by
  unfold Settings.set? at hset
  cases k with
  | tickRate =>
    obtain ⟨n, hn, rfl⟩ := Option.map_eq_some_iff.mp hset
    unfold Numeral.wholeIn? at hn
    rw [Option.filter_eq_some_iff] at hn
    obtain ⟨-, hbounds⟩ := hn
    simp only [Bool.and_eq_true, decide_eq_true_eq] at hbounds
    unfold InRange
    dsimp only
    omega
  | bind =>
    obtain rfl := Option.some.inj hset
    exact h
  | port | viewAngle | targetAngle =>
    obtain ⟨n, -, rfl⟩ := Option.map_eq_some_iff.mp hset
    exact h

/-- Whatever is read up to here, the rate is in range. -/
def Reading.Sane (result : Except Fault Reading) : Prop :=
  ∀ r, result = .ok r → r.settings.InRange

namespace Reading
variable {r : Reading}

theorem Sane.ok (h : r.settings.InRange) : Sane (.ok r) := by
  intro r' hr
  obtain rfl := Except.ok.inj hr
  exact h

theorem Sane.error (fault : Fault) : Sane (.error fault) := fun _ hr => by cases hr

theorem Sane.bind {result : Except Fault Reading} {next : Reading → Except Fault Reading}
    (h : Sane result) (hnext : ∀ r, r.settings.InRange → Sane (next r)) : Sane (result >>= next) := by
  cases result with
  | error fault => exact .error fault
  | ok r => exact hnext r (h r rfl)

theorem sane_give (h : r.settings.InRange) (k : Key) (value : String) : Sane (r.give k value) := by
  unfold give
  split
  · exact .error _
  · split
    · next settings hset => exact .ok (h.set? hset)
    · exact .error _

theorem sane_commit (h : r.settings.InRange) : Sane r.commit := by
  unfold commit
  split
  · exact .ok h
  · exact .error _
  · exact @sane_give { r with pending := .none } h _ _

theorem sane_pause (h : r.settings.InRange) : Sane r.pause := by
  unfold pause
  split
  · exact .error _
  · exact .ok h

theorem sane_long (h : r.settings.InRange) (option : List Char) : Sane (r.long option) := by
  unfold long
  dsimp only
  split
  · exact (sane_commit h).bind fun _ h => sane_give h _ _
  · exact (sane_commit h).bind fun _ h => .ok h
  · split
    · split
      · exact .error _
      · exact (sane_commit h).bind fun _ h => sane_pause h
    · split
      · split
        · exact .error _
        · exact (sane_commit h).bind fun _ _ => .error _
      · exact .error _

theorem sane_short (h : r.settings.InRange) (option : List Char) : Sane (r.short option) := by
  unfold short
  split
  · exact (sane_commit h).bind fun _ _ => .error _
  · exact .error _

theorem sane_all (h : r.settings.InRange) (arguments : List String) : Sane (r.all arguments) := by
  induction arguments generalizing r with
  | nil => exact sane_commit h
  | cons argument rest ih =>
    unfold all
    split
    · exact ih h
    · split
      · split
        · exact sane_commit h
        · exact .error _
      · exact (sane_long h _).bind fun _ h => ih h
      · exact (sane_short h _).bind fun _ h => ih h
      · exact .error _

theorem sane_lookUp (h : r.settings.InRange) (environment : String → Option String) (k : Key) :
    Sane (lookUp environment r k) := by
  unfold lookUp
  split
  · exact .ok h
  · split
    · exact sane_give h _ _
    · exact .ok h

theorem sane_foldlM (h : r.settings.InRange) (environment : String → Option String)
    (keys : List Key) : Sane (keys.foldlM (lookUp environment) r) := by
  induction keys generalizing r with
  | nil => exact .ok h
  | cons k keys ih =>
    rw [List.foldlM_cons]
    exact (sane_lookUp h environment k).bind fun _ h => ih h

end Reading

theorem inRange_of_read {arguments : List String} {environment : String → Option String}
    {settings : Settings} (h : read arguments environment = .ok settings) : settings.InRange := by
  have hsane : Reading.Sane (({} : Reading).all arguments >>= fun r =>
      Key.all.foldlM (Reading.lookUp environment) r) :=
    (Reading.sane_all ⟨by decide, by decide⟩ arguments).bind fun _ h =>
      Reading.sane_foldlM h environment Key.all
  have hread : (({} : Reading).all arguments >>= fun r =>
      Key.all.foldlM (Reading.lookUp environment) r) >>= (fun r => pure r.settings) =
      .ok settings := by
    rw [bind_assoc]
    exact h
  generalize (({} : Reading).all arguments >>= fun r =>
    Key.all.foldlM (Reading.lookUp environment) r) = result at hsane hread
  cases result with
  | error fault => cases hread
  | ok r =>
    obtain rfl := Except.ok.inj hread
    exact hsane r rfl

/-! The other way round, a rate is set by writing its digits out. -/

/-- An option that sets the rate, without its two hyphens. -/
def rateOption (rate : Nat) : List Char :=
  ['t', 'i', 'c', 'k', '-', 'r', 'a', 't', 'e', '='] ++ Nat.toDigits 10 rate

/-- The same as an argument. -/
def rateArgument (rate : Nat) : String := String.ofList ('-' :: '-' :: rateOption rate)

/-- The digits of a number are read as that number. -/
theorem whole?_toDigits (n : Nat) : Numeral.whole? (Nat.toDigits 10 n) = some (n : Int) := by
  have hdigits : ∀ c ∈ Nat.toDigits 10 n, c.isDigit = true :=
    fun c hc => Nat.isDigit_of_mem_toDigits (by decide) (by decide) hc
  have hvalue : Numeral.ofDigits (Nat.toDigits 10 n) = n := Nat.ofDigitChars_ten_toDigits
  have hsign : Numeral.splitSign (Nat.toDigits 10 n) = (false, Nat.toDigits 10 n) := by
    -- Neither sign is a digit.
    unfold Numeral.splitSign
    split
    · next heq => exact absurd (hdigits '+' (heq ▸ List.mem_cons_self)) (by decide)
    · next heq => exact absurd (hdigits '-' (heq ▸ List.mem_cons_self)) (by decide)
    · rfl
  unfold Numeral.whole?
  rw [hsign]
  dsimp only
  rw [if_pos (by simpa using hdigits), hvalue]
  rfl

theorem give_rate {rate : Nat} (hlow : 1 ≤ rate) (hhigh : rate ≤ 0xffffffff) :
    ({} : Reading).give .tickRate (String.ofList (Nat.toDigits 10 rate)) =
      .ok { settings := { tickRate := rate }, given := [.tickRate] } := by
  have hvalue : Numeral.wholeIn? 1 0xffffffff (Nat.toDigits 10 rate) = some (rate : Int) := by
    unfold Numeral.wholeIn?
    rw [whole?_toDigits, Option.filter_some, if_pos]
    simp only [Bool.and_eq_true, decide_eq_true_eq]
    omega
  unfold Reading.give Settings.set?
  dsimp only
  rw [String.toList_ofList, hvalue]
  rfl

theorem long_rateOption (rate : Nat) :
    ({} : Reading).long (rateOption rate) =
      ({} : Reading).give .tickRate (String.ofList (Nat.toDigits 10 rate)) := by
  have hname : (rateOption rate).takeWhile (· ≠ '=') =
      ['t', 'i', 'c', 'k', '-', 'r', 'a', 't', 'e'] := rfl
  have hrest : (rateOption rate).dropWhile (· ≠ '=') = '=' :: Nat.toDigits 10 rate := rfl
  have hkey : Key.ofName? (String.ofList ['t', 'i', 'c', 'k', '-', 'r', 'a', 't', 'e']) =
      some .tickRate := by decide
  unfold Reading.long
  rw [hname, hrest]
  dsimp only
  rw [hkey]
  rfl

theorem read_rateArgument {rate : Nat} (hlow : 1 ≤ rate) (hhigh : rate ≤ 0xffffffff) :
    read [rateArgument rate] (fun _ => none) = .ok { tickRate := rate } := by
  have hall : ({} : Reading).all [rateArgument rate] =
      .ok { settings := { tickRate := rate }, given := [.tickRate] } := by
    have htext : (rateArgument rate).toList = '-' :: '-' :: rateOption rate := String.toList_ofList
    unfold Reading.all
    rw [htext]
    show (do (← ({} : Reading).long (rateOption rate)).all []) = _
    rw [long_rateOption, give_rate hlow hhigh]
    rfl
  unfold read
  rw [hall]
  rfl

/-- **The rates that can be set.** -/
theorem accepts_iff (rate : Nat) : Accepts rate ↔ 1 ≤ rate ∧ rate ≤ 0xffffffff := by
  constructor
  · rintro ⟨arguments, environment, settings, hread, rfl⟩
    exact inRange_of_read hread
  · rintro ⟨hlow, hhigh⟩
    exact ⟨_, _, _, read_rateArgument hlow hhigh, rfl⟩

end Settings

/-! ## Section 2: Rates that make a play -/

/-- Without a period there is no play. -/
theorem Simulation.isSome_perform_iff (sim : Simulation) (rate : Nat)
    (script : List (Nat × Event)) (closing : Nat) :
    (sim.perform rate script closing).isSome = true ↔ Clock.period rate ≠ 0 := by
  unfold perform
  by_cases hperiod : Clock.period rate = 0 <;> simp [hperiod]

namespace Settings

/-- **A rate that can be set makes a play up to two thousand million ticks per second.**
    Above that its period is rounded to zero. -/
theorem rate_runs_iff {rate : Nat} (h : Accepts rate) :
    (1 ≤ rate ∧ rate ≤ 0xffffffff) ∧
    (Clock.period rate = 0 ↔ 2000000000 < rate) ∧
    ∀ (sim : Simulation) (script : List (Nat × Event)) (closing : Nat),
      (sim.perform rate script closing).isSome = true ↔ rate ≤ 2000000000 := by
  obtain ⟨hlow, hhigh⟩ := (accepts_iff rate).mp h
  have hperiod : Clock.period rate = 0 ↔ 2000000000 < rate :=
    Clock.period_eq_zero_iff hlow (by omega)
  refine ⟨⟨hlow, hhigh⟩, hperiod, fun sim script closing => ?_⟩
  rw [sim.isSome_perform_iff, ne_eq, hperiod]
  omega

/-- The last rate that makes a play. -/
theorem fastest_rate_runs :
    Accepts 2000000000 ∧ Clock.period 2000000000 ≠ 0 ∧
    ∀ (sim : Simulation) (script : List (Nat × Event)) (closing : Nat),
      (sim.perform 2000000000 script closing).isSome = true := by
  have haccepts : Accepts 2000000000 := (accepts_iff _).mpr (by omega)
  obtain ⟨-, hperiod, hruns⟩ := rate_runs_iff haccepts
  exact ⟨haccepts, fun h => by have := hperiod.mp h; omega,
    fun sim script closing => (hruns sim script closing).mpr (Nat.le_refl _)⟩

/-- The greatest rate that can be set makes none. -/
theorem greatest_rate_stalls :
    Accepts 0xffffffff ∧ Clock.period 0xffffffff = 0 ∧
    ∀ (sim : Simulation) (script : List (Nat × Event)) (closing : Nat),
      sim.perform 0xffffffff script closing = none := by
  have hperiod : Clock.period 0xffffffff = 0 := by decide +kernel
  refine ⟨(accepts_iff _).mpr (by omega), hperiod, fun sim script closing => ?_⟩
  unfold Simulation.perform
  rw [hperiod]
  rfl

end Settings

end Planetarium

import Planetarium.Proofs.Motion.Spaces

/-! # Registrations

    A table of frames keeps two records: the objects by name, where the last
    registration of a name wins, and the spins, where every registration stays.

    So an object that spins is a frame only as long as one of its names is its own.

    * `Frames.Call`: the calls that make an object a frame.
    * `Frames.lastUnder`: what some calls have put under a name last.
    * `Frames.records_made`: all that a table knows after any calls, and when
      every object that spins is among its frames.
    * `Frames.ring_lost`: a frame that goes on to spin after its name is gone. -/

namespace Planetarium

/-! ## Section 1: Keys -/

namespace Directory
variable {κ α : Type} [DecidableEq κ]

/-- No key stands for two values. -/
def Distinct (d : Directory κ α) : Prop := (d.entries.map (·.1)).Nodup

/-- A key that is there already keeps its place. -/
theorem map_fst_put (k : κ) (v : α) (es : List (κ × α)) :
    (put k v es).map (·.1) =
      if k ∈ es.map (·.1) then es.map (·.1) else es.map (·.1) ++ [k] := by
  induction es with
  | nil => simp [put]
  | cons e es ih =>
    unfold put
    by_cases he : e.1 = k
    · simp [he]
    · rw [if_neg he, List.map_cons, ih]
      by_cases hk : k ∈ es.map (·.1)
      · simp [hk]
      · simp [hk, Ne.symm he]

theorem Distinct.insert {d : Directory κ α} (distinct : d.Distinct) (k : κ) (v : α) :
    (d.insert k v).Distinct := by
  show ((put k v d.entries).map (·.1)).Nodup
  rw [map_fst_put]
  split
  · exact distinct
  · next hk => exact List.concat_eq_append ▸ distinct.concat hk

/-- In a directory without doubles every value is found under its key. -/
theorem Distinct.mem_values_iff {d : Directory κ α} (distinct : d.Distinct) (v : α) :
    v ∈ d.values ↔ ∃ k, d.get? k = some v := by
  constructor
  · intro hv
    obtain ⟨e, he, rfl⟩ := List.mem_map.mp hv
    refine ⟨e.1, ?_⟩
    cases hfound : d.entries.find? (·.1 = e.1) with
    | none =>
      have hnone := List.find?_eq_none.mp hfound e he
      simp at hnone
    | some e' =>
      have hkey : e'.1 = e.1 := by simpa using List.find?_some hfound
      have hsame := List.inj_on_of_nodup_map distinct (List.mem_of_find?_eq_some hfound) he hkey
      simp [get?, hfound, hsame]
  · rintro ⟨k, hk⟩
    exact mem_values_of_get? hk

end Directory

namespace Frames

/-! ## Section 2: Calls -/

/-- A call that makes an object a frame. -/
inductive Call where
  /-- Creates the object, in whatever scene the call finds. -/
  | addFrame (scene : Scene) (name : String) (parent : Option ObjectId) (offset : Vec3)
    (spin : Option Spin)
  /-- Adopts an object. -/
  | register (name : String) (id : ObjectId) (spin : Option Spin)

namespace Call

/-- The table after a call. -/
def apply (fs : Frames) : Call → Frames
  | .addFrame scene name parent offset spin =>
    (Space.addFrame { scene, frames := fs } name parent offset spin).2.frames
  | .register name id spin => fs.register name id spin

def name : Call → String
  | .addFrame _ name _ _ _ => name
  | .register name _ _ => name

/-- The object that becomes a frame. -/
def id : Call → ObjectId
  | .addFrame scene _ _ _ _ => scene.idAt scene.size
  | .register _ id _ => id

def spin : Call → Option Spin
  | .addFrame _ _ _ _ spin => spin
  | .register _ _ spin => spin

theorem apply_eq (c : Call) (fs : Frames) : c.apply fs = fs.register c.name c.id c.spin := by
  cases c with
  | addFrame scene name parent offset spin => exact Space.frames_addFrame _ name parent offset spin
  | register name id spin => rfl

end Call

/-- The table that some calls make of an empty one. -/
def made (calls : List Call) : Frames := calls.foldl (fun fs c => c.apply fs) {}

/-- The object that some calls have put under a name last. -/
def lastUnder (calls : List Call) (name : String) : Option ObjectId :=
  (calls.reverse.find? (·.name = name)).map (·.id)

section calls
variable (calls : List Call) (c : Call)

theorem made_concat : made (calls ++ [c]) = (made calls).register c.name c.id c.spin := by
  unfold made
  rw [List.foldl_append]
  exact c.apply_eq _

theorem lastUnder_concat (name : String) :
    lastUnder (calls ++ [c]) name = if c.name = name then some c.id else lastUnder calls name := by
  unfold lastUnder
  rw [List.reverse_concat, List.find?_cons]
  by_cases hname : c.name = name <;> simp [hname]

theorem get?_made (name : String) : (made calls).get? name = lastUnder calls name := by
  induction calls using List.reverseRecOn with
  | nil => rfl
  | append_singleton calls c ih => rw [made_concat, get?_register, lastUnder_concat, ih]

theorem spins_made : (made calls).spins = calls.filterMap fun c => c.spin.map (c.id, ·) := by
  induction calls using List.reverseRecOn with
  | nil => rfl
  | append_singleton calls c ih =>
    rw [made_concat, List.filterMap_append, ← ih]
    cases hspin : c.spin <;> simp [register, hspin]

theorem distinct_made : (made calls).named.Distinct := by
  induction calls using List.reverseRecOn with
  | nil => exact List.nodup_nil
  | append_singleton calls c ih =>
    rw [made_concat]
    exact ih.insert c.name c.id

theorem contains_made_iff (x : ObjectId) :
    (made calls).contains x = true ↔ ∃ name, lastUnder calls name = some x := by
  have hmem : (made calls).contains x = true ↔ x ∈ (made calls).named.values := by
    simp [contains]
  rw [hmem, (distinct_made calls).mem_values_iff]
  refine exists_congr fun name => ?_
  rw [← get?_made]
  rfl

theorem mem_spins_made_iff (e : ObjectId × Spin) :
    e ∈ (made calls).spins ↔ ∃ c ∈ calls, c.id = e.1 ∧ c.spin = some e.2 := by
  rw [spins_made, List.mem_filterMap]
  refine exists_congr fun c => and_congr_right fun _ => ?_
  rw [Option.map_eq_some_iff]
  constructor
  · rintro ⟨spin, hspin, rfl⟩
    exact ⟨rfl, hspin⟩
  · rintro ⟨hid, hspin⟩
    exact ⟨e.2, hspin, by rw [hid]⟩

/-- The last call under a name is one of the calls. -/
theorem exists_of_lastUnder {calls : List Call} {name : String} {x : ObjectId}
    (h : lastUnder calls name = some x) : ∃ c ∈ calls, c.name = name ∧ c.id = x := by
  obtain ⟨c, hc, rfl⟩ := Option.map_eq_some_iff.mp h
  have hname : c.name = name := by simpa using List.find?_some hc
  exact ⟨c, List.mem_reverse.mp (List.mem_of_find?_eq_some hc), hname, rfl⟩

/-- A name that has been given out stands for something. -/
theorem exists_lastUnder {calls : List Call} {c : Call} (hc : c ∈ calls) :
    ∃ x, lastUnder calls c.name = some x := by
  refine Option.isSome_iff_exists.mp ?_
  unfold lastUnder
  rw [Option.isSome_map, List.find?_isSome]
  exact ⟨c, List.mem_reverse.mpr hc, by simp⟩

end calls

/-! ## Section 3: Tables -/

/-- **What a table knows after some calls.** -/
structure Records (calls : List Call) (fs : Frames) : Prop where
  /-- A name stands for what was put under it last. -/
  get? : ∀ name, fs.get? name = lastUnder calls name
  /-- Every spin stays, in the order of the calls. -/
  spins : fs.spins = calls.filterMap fun c => c.spin.map (c.id, ·)
  /-- An object is a frame as long as some name stands for it. -/
  contains_iff : ∀ x, fs.contains x = true ↔ ∃ name, lastUnder calls name = some x
  /-- Frames can be hung below, and nothing else can. -/
  accepted : ∀ x, (∃ name, lastUnder calls name = some x) →
    ∀ build s node, fs.reparent build s node x = .done (s.rehang node x)
  refused : ∀ x, (¬ ∃ name, lastUnder calls name = some x) →
    ∀ build s node, fs.reparent build s node x = .violated build s (.notAFrame x)
  /-- Every object that spins is a frame if and only if none of those that were given a
      spin has lost all its names. -/
  spinning_iff : (∀ e ∈ fs.spins, fs.contains e.1 = true) ↔
    ∀ c ∈ calls, c.spin ≠ none → ∃ name, lastUnder calls name = some c.id
  /-- So it is if no name has been given to two objects. -/
  unshared : (∀ c ∈ calls, ∀ d ∈ calls, c.name = d.name → c.id = d.id) →
    ∀ e ∈ fs.spins, fs.contains e.1 = true

/-- **Spinning objects are frames while they have a name of their own.** -/
theorem records_made (calls : List Call) : Records calls (made calls) where
  get? := get?_made calls
  spins := spins_made calls
  contains_iff := contains_made_iff calls
  accepted x hx build s node :=
    reparent_of_contains build s node ((contains_made_iff calls x).mpr hx)
  refused x hx build s node :=
    reparent_of_not_contains build s node (mt (contains_made_iff calls x).mp hx)
  spinning_iff := by
    constructor
    · intro h c hc hspin
      obtain ⟨spin, hspin⟩ := Option.ne_none_iff_exists'.mp hspin
      have hmem := (mem_spins_made_iff calls (c.id, spin)).mpr ⟨c, hc, rfl, hspin⟩
      exact (contains_made_iff calls c.id).mp (h _ hmem)
    · intro h e he
      obtain ⟨c, hc, hid, hspin⟩ := (mem_spins_made_iff calls e).mp he
      have hname := h c hc (by simp [hspin])
      exact (contains_made_iff calls e.1).mpr (hid ▸ hname)
  unshared h e he := by
    obtain ⟨c, hc, hid, -⟩ := (mem_spins_made_iff calls e).mp he
    obtain ⟨x, hx⟩ := exists_lastUnder hc
    obtain ⟨d, hd, hname, rfl⟩ := exists_of_lastUnder hx
    refine (contains_made_iff calls e.1).mpr ⟨c.name, ?_⟩
    rw [hx, ← hid, h c hc d hd hname.symm]

/-- Two frames of one name. The first of them spins. -/
def twoRings : List Call :=
  [ .addFrame {} "ring" none .zero (some (.aboutY 10)),
    .addFrame ({ : Space}.addFrame "ring" none .zero none).2.scene "ring" none .zero none ]

/-- The first ring goes on to spin, but nothing can be hung below it any more. -/
theorem ring_lost :
    (⟨0, 0⟩, .aboutY 10) ∈ (made twoRings).spins ∧
    (made twoRings).contains ⟨0, 0⟩ = false ∧
    ¬ ∀ calls : List Call, ∀ e ∈ (made calls).spins, (made calls).contains e.1 = true := by
  have hspins : (⟨0, 0⟩, .aboutY 10) ∈ (made twoRings).spins := by
    rw [mem_spins_made_iff]
    exact ⟨_, List.mem_cons_self, rfl, rfl⟩
  have hlost : (made twoRings).contains ⟨0, 0⟩ = false := by decide
  refine ⟨hspins, hlost, fun h => ?_⟩
  have hframe := h twoRings _ hspins
  rw [hlost] at hframe
  cases hframe

end Frames

end Planetarium

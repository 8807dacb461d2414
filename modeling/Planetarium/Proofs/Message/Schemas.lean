import Planetarium.Message.Schema
import Planetarium.Proofs.Catalog.Deeds
import Planetarium.Proofs.Message.Cursors

/-! # Schemas

    An instruction is read by the schema of its verb: each token is read as its
    field says, and the first token that does not suit its field is reported.

    * `Verb.read`: reads tokens by any fields at all.
    * `Instruction.map_values_parse`: `parse` is that reading, by the schema.
    * `Verb.firstFault?_eq_some_iff`: where the first fault is.
    * `Instruction.parse_follows_schema`: all that `parse` does, by the numbers of
      the tokens. -/

namespace Planetarium

/-- What a token says. -/
inductive Value where
  | word (text : String)
  | number (x : Float32)
  | flag (set : Bool)

/-! ## Section 1: Reading by fields -/

namespace Field
variable {f : Field} {verb : Verb} {index : Nat} {token : String} {v : Value} {e : ParseError}

/-- What a token says in a field that it suits. -/
def value? (f : Field) (token : String) : Option Value :=
  match f with
  | .word => some (.word token)
  | .number => (Numeral.real? token.toList).map .number
  | .flag => (Numeral.int32? token.toList).map fun n => .flag (n ≠ 0)

/-- Reads a token as a field says. -/
def read (f : Field) (verb : Verb) (index : Nat) (token : String) : Except ParseError Value :=
  match f with
  | .word => .ok (.word token)
  | .number => .number <$> Instruction.number verb index token
  | .flag => .flag <$> Instruction.flag verb index token

/-- Tokens that suit a field are those that say something in it. -/
theorem isSome_value? (f : Field) (token : String) : (f.value? token).isSome = f.accepts token := by
  cases f <;> simp [value?, accepts]

theorem read_eq_ok_iff : f.read verb index token = .ok v ↔ f.value? token = some v := by
  cases f with
  | word => simp [read, value?]
  | number =>
    unfold read value? Instruction.number
    cases Numeral.real? token.toList <;> simp
  | flag =>
    unfold read value? Instruction.flag
    cases Numeral.int32? token.toList <;> simp

theorem read_eq_error_iff :
    f.read verb index token = .error e ↔
      f.accepts token = false ∧ f.fault? verb index token = some e := by
  cases f with
  | word => simp [read, accepts]
  | number =>
    unfold read accepts fault? Instruction.number
    cases Numeral.real? token.toList <;> simp
  | flag =>
    unfold read accepts fault? Instruction.flag
    cases Numeral.int32? token.toList <;> simp

end Field

namespace Verb
variable {verb : Verb} {index : Nat} {fs : List Field} {ts : List String}

/-- **Reads tokens by some fields,** from the left.  The first token has the number `index`. -/
def read (verb : Verb) : Nat → List Field → List String → Except ParseError (List Value)
  | index, f :: fs, t :: ts => do
    let v ← f.read verb index t
    let vs ← verb.read (index + 1) fs ts
    return v :: vs
  | _, _, _ => .ok []

section cons
variable {f : Field} {t : String}

theorem read_cons_of_ok {v : Value} (h : f.read verb index t = .ok v) :
    verb.read index (f :: fs) (t :: ts) = (v :: ·) <$> verb.read (index + 1) fs ts := by
  rw [read, h]
  rfl

theorem read_cons_of_error {e : ParseError} (h : f.read verb index t = .error e) :
    verb.read index (f :: fs) (t :: ts) = .error e := by
  rw [read, h]
  rfl

end cons

/-- Reading reports the first fault. -/
theorem read_eq_error_iff {e : ParseError} :
    verb.read index fs ts = .error e ↔ verb.firstFault? index fs ts = some e := by
  induction fs generalizing index ts with
  | nil => simp [read, firstFault?]
  | cons f fs ih =>
    cases ts with
    | nil => simp [read, firstFault?]
    | cons t ts =>
      unfold firstFault?
      cases hread : f.read verb index t with
      | error fault =>
        obtain ⟨hunfit, hfault⟩ := Field.read_eq_error_iff.mp hread
        simp [read_cons_of_error hread, hunfit, hfault]
      | ok v =>
        have hfit : f.accepts t = true := by
          rw [← Field.isSome_value?, Field.read_eq_ok_iff.mp hread]
          simp
        rw [read_cons_of_ok hread, if_pos hfit, ← ih]
        cases verb.read (index + 1) fs ts <;> simp

/-- Each value is what its token says in its field. -/
theorem getElem?_of_read {vs : List Value} (h : verb.read index fs ts = .ok vs)
    (hlength : fs.length = ts.length) :
    vs.length = ts.length ∧
    ∀ (i : Nat) (f : Field) (t : String),
      fs[i]? = some f → ts[i]? = some t → vs[i]? = f.value? t := by
  -- Induction on the fields: the place of a value is that of its field.
  induction fs generalizing index ts vs with
  | nil =>
    obtain rfl := List.length_eq_zero_iff.mp hlength.symm
    obtain rfl := Except.ok.inj h
    simp
  | cons f fs ih =>
    cases ts with
    | nil => simp at hlength
    | cons t ts =>
      cases hread : f.read verb index t with
      | error fault => simp [read_cons_of_error hread] at h
      | ok v =>
        rw [read_cons_of_ok hread] at h
        cases hrest : verb.read (index + 1) fs ts with
        | error fault => simp [hrest] at h
        | ok vs' =>
          obtain ⟨hcount, hvalues⟩ := ih hrest (by simpa using hlength)
          rw [hrest] at h
          obtain rfl := Except.ok.inj h
          constructor
          · simp [hcount]
          · intro i f' t' hf ht
            cases i with
            | zero =>
              simp only [List.getElem?_cons_zero, Option.some.injEq] at hf ht ⊢
              rw [← hf, ← ht, Field.read_eq_ok_iff.mp hread]
            | succ i => exact hvalues i f' t' hf ht

/-- There is no fault if every token suits its field. -/
theorem firstFault?_eq_none_iff :
    verb.firstFault? index fs ts = none ↔
      ∀ (i : Nat) (f : Field) (t : String),
        fs[i]? = some f → ts[i]? = some t → f.accepts t = true := by
  induction fs generalizing index ts with
  | nil => simp [firstFault?]
  | cons f fs ih =>
    cases ts with
    | nil => simp [firstFault?]
    | cons t ts =>
      unfold firstFault?
      constructor
      · intro h i g u hg hu
        by_cases hfit : f.accepts t = true
        · rw [if_pos hfit] at h
          cases i with
          | zero => simp_all
          | succ i => exact ih.mp h i g u hg hu
        · -- Every word suits, so an unfit token is one of a field with a fault.
          cases f <;> simp_all [Field.fault?, Field.accepts]
      · intro h
        rw [if_pos (h 0 f t (by simp) (by simp)), ih]
        intro i
        exact h (i + 1)

/-- **Where the first fault is:** all tokens before it suit their fields. -/
theorem firstFault?_eq_some_iff {e : ParseError} :
    verb.firstFault? index fs ts = some e ↔
      ∃ (i : Nat) (f : Field) (t : String),
        fs[i]? = some f ∧ ts[i]? = some t ∧ f.accepts t = false ∧
        f.fault? verb (index + i) t = some e ∧
        ∀ j < i, ∀ (g : Field) (u : String),
          fs[j]? = some g → ts[j]? = some u → g.accepts u = true := by
  -- Induction on the fields: a fault in the rest has its place there plus one.
  induction fs generalizing index ts with
  | nil => simp [firstFault?]
  | cons f fs ih =>
    cases ts with
    | nil => simp [firstFault?]
    | cons t ts =>
      unfold firstFault?
      have hshift : ∀ i, index + 1 + i = index + (i + 1) := by omega
      by_cases hfit : f.accepts t = true
      · rw [if_pos hfit, ih]
        constructor
        · rintro ⟨i, g, u, hg, hu, hunfit, hfault, hbefore⟩
          rw [hshift] at hfault
          refine ⟨i + 1, g, u, hg, hu, hunfit, hfault, ?_⟩
          intro j hj
          cases j with
          | zero => simp [hfit]
          | succ j => exact hbefore j (by omega)
        · rintro ⟨i, g, u, hg, hu, hunfit, hfault, hbefore⟩
          cases i with
          | zero => simp_all
          | succ i =>
            rw [← hshift] at hfault
            exact ⟨i, g, u, hg, hu, hunfit, hfault, fun j hj => hbefore (j + 1) (by omega)⟩
      · rw [if_neg hfit]
        constructor
        · intro hfault
          exact ⟨0, f, t, by simp, by simp, by simpa using hfit, hfault, by simp⟩
        · rintro ⟨i, g, u, hg, hu, hunfit, hfault, hbefore⟩
          cases i with
          | zero => simp_all
          | succ i => exact absurd (hbefore 0 (by omega) f t (by simp) (by simp)) hfit

end Verb

/-! ## Section 2: Reading by the schema -/

/-- The values in a vector. -/
def Vec3.values (v : Vec3) : List Value := [.number v.x, .number v.y, .number v.z]

/-- The values in what is said about an object, without its name. -/
def ObjectSpec.values (s : ObjectSpec) : List Value :=
  s.scale.values ++ s.rotation.values ++
    [.word s.model, .word s.material1, .word s.material2, .flag s.visible]

namespace Instruction

/-- **The values in an instruction,** in the order of the schema of its verb. -/
def values : Instruction → List Value
  | .createObject spec position => .word spec.name :: position.values ++ spec.values
  | .createObjectAtPoint spec point => .word spec.name :: .word point :: spec.values
  | .createPoint name position => .word name :: position.values
  | .moveToPoint name point => [.word name, .word point]

/-- **Tokens are read by the schema of their verb,** if there are as many as it asks for. -/
theorem map_values_parse {verb : Verb} {tokens : List String} (h : tokens.length = verb.arity) :
    (fun c => (c.verb, c.values)) <$> parse verb tokens =
      (verb, ·) <$> verb.read 0 verb.schema tokens := by
  have hpure : ∀ {α : Type} (a : α), (Except.ok a : Except ParseError α) = pure a :=
    fun _ => rfl
  -- With the tokens at hand, both sides read them one by one.
  refine match verb, tokens, h with
    | .createObject, [_, _, _, _, _, _, _, _, _, _, _, _, _, _], _ => ?_
    | .createObjectAtPoint, [_, _, _, _, _, _, _, _, _, _, _, _], _ => ?_
    | .createPoint, [_, _, _, _], _ => ?_
    | .moveToPoint, [_, _], _ => ?_
  all_goals
    simp only [parse, vector, Verb.schema, List.replicate, List.cons_append, List.nil_append,
      Verb.read, Field.read, Instruction.verb, values, ObjectSpec.values, Vec3.values,
      map_eq_pure_bind, hpure, bind_assoc, pure_bind, Nat.reduceAdd]

end Instruction

/-! ## Section 3: Reading by the numbers of the tokens -/

namespace Verb

/-- The numbers of the tokens that are read as numbers. -/
def numbers : Verb → List Nat
  | .createObject => List.range' 1 9
  | .createObjectAtPoint => List.range' 2 6
  | .createPoint => List.range' 1 3
  | .moveToPoint => []

/-- The number of the token that is read as a flag. -/
def flagPlace? : Verb → Option Nat
  | .createObject => some 13
  | .createObjectAtPoint => some 11
  | .createPoint => none
  | .moveToPoint => none

/-- What the token with a number is read as. -/
def field (verb : Verb) (i : Nat) : Field :=
  if i ∈ verb.numbers then .number
  else if verb.flagPlace? = some i then .flag
  else .word

theorem schema_eq (verb : Verb) : verb.schema = (List.range verb.arity).map verb.field := by
  cases verb <;> decide

theorem getElem?_schema {verb : Verb} {i : Nat} (h : i < verb.arity) :
    verb.schema[i]? = some (verb.field i) := by
  simp [schema_eq, h]

theorem field_of_flagPlace? {verb : Verb} {i : Nat} (h : verb.flagPlace? = some i) :
    verb.field i = .flag := by
  cases verb <;> simp only [flagPlace?, Option.some.injEq, reduceCtorEq] at h <;> subst h <;> decide

end Verb

namespace Instruction
variable {verb : Verb} {tokens : List String}

/-- An object is as visible as its flag says. -/
theorem exists_flagPlace {c : Instruction} {spec : ObjectSpec} (h : c.spec? = some spec) :
    ∃ i, c.verb.flagPlace? = some i ∧ c.values[i]? = some (.flag spec.visible) := by
  cases c with
  | createObject spec' position =>
    obtain rfl := Option.some.inj h
    exact ⟨13, rfl, rfl⟩
  | createObjectAtPoint spec' point =>
    obtain rfl := Option.some.inj h
    exact ⟨11, rfl, rfl⟩
  | createPoint name position => simp [spec?] at h
  | moveToPoint name point => simp [spec?] at h

theorem parse_eq_error_iff {e : ParseError} (h : tokens.length = verb.arity) :
    parse verb tokens = .error e ↔ verb.firstFault? 0 verb.schema tokens = some e := by
  have hread := map_values_parse h
  rw [← Verb.read_eq_error_iff]
  -- Both sides of `map_values_parse` succeed, or both stop at the same fault.
  cases hparse : parse verb tokens <;> cases hvalues : verb.read 0 verb.schema tokens <;>
    simp_all

theorem read_of_parse {c : Instruction} (h : tokens.length = verb.arity)
    (hc : parse verb tokens = .ok c) :
    c.verb = verb ∧ verb.read 0 verb.schema tokens = .ok c.values := by
  have hread := map_values_parse h
  rw [hc] at hread
  cases hvalues : verb.read 0 verb.schema tokens <;> simp_all

/-- The numbers of the tokens tell their fields. -/
theorem getElem?_schema_of_token {i : Nat} {t : String} (h : tokens.length = verb.arity)
    (ht : tokens[i]? = some t) : verb.schema[i]? = some (verb.field i) := by
  obtain ⟨hi, _⟩ := List.getElem?_eq_some_iff.mp ht
  exact Verb.getElem?_schema (h ▸ hi)

theorem exists_parse_iff (h : tokens.length = verb.arity) :
    (∃ c, parse verb tokens = .ok c) ↔
      ∀ (i : Nat) (t : String), tokens[i]? = some t → (verb.field i).accepts t = true := by
  have hnone : (∃ c, parse verb tokens = .ok c) ↔
      verb.firstFault? 0 verb.schema tokens = none := by
    rw [Option.eq_none_iff_forall_ne_some]
    simp only [ne_eq, ← parse_eq_error_iff h]
    cases parse verb tokens <;> simp
  rw [hnone, Verb.firstFault?_eq_none_iff]
  constructor
  · intro hall i t ht
    exact hall i _ t (getElem?_schema_of_token h ht) ht
  · intro hall i f t hf ht
    rw [getElem?_schema_of_token h ht] at hf
    obtain rfl := Option.some.inj hf
    exact hall i t ht

theorem parse_eq_error_iff_first {e : ParseError} (h : tokens.length = verb.arity) :
    parse verb tokens = .error e ↔
      ∃ (i : Nat) (t : String), tokens[i]? = some t ∧ (verb.field i).accepts t = false ∧
        (verb.field i).fault? verb i t = some e ∧
        ∀ j < i, ∀ (u : String), tokens[j]? = some u → (verb.field j).accepts u = true := by
  rw [parse_eq_error_iff h, Verb.firstFault?_eq_some_iff]
  simp only [Nat.zero_add]
  constructor
  · rintro ⟨i, f, t, hf, ht, hunfit, hfault, hbefore⟩
    rw [getElem?_schema_of_token h ht] at hf
    obtain rfl := Option.some.inj hf
    exact ⟨i, t, ht, hunfit, hfault,
      fun j hj u hu => hbefore j hj _ u (getElem?_schema_of_token h hu) hu⟩
  · rintro ⟨i, t, ht, hunfit, hfault, hbefore⟩
    refine ⟨i, _, t, getElem?_schema_of_token h ht, ht, hunfit, hfault, ?_⟩
    intro j hj g u hg hu
    rw [getElem?_schema_of_token h hu] at hg
    obtain rfl := Option.some.inj hg
    exact hbefore j hj u hu

theorem parse_eq_wrongArity_iff {v : Verb} {n : Nat} :
    parse verb tokens = .error (.wrongArity v n) ↔
      tokens.length ≠ verb.arity ∧ v = verb ∧ n = tokens.length := by
  by_cases hlength : tokens.length = verb.arity
  · simp only [hlength, ne_eq, not_true_eq_false, false_and, iff_false]
    intro herror
    obtain ⟨i, t, _, _, hfault, _⟩ := (parse_eq_error_iff_first hlength).mp herror
    -- No field has this fault.
    cases hfield : verb.field i <;> simp [hfield, Field.fault?] at hfault
  · rw [parse_of_length_ne hlength]
    simp only [Except.error.injEq, ParseError.wrongArity.injEq]
    constructor
    · rintro ⟨rfl, rfl⟩
      exact ⟨hlength, rfl, rfl⟩
    · rintro ⟨_, rfl, rfl⟩
      exact ⟨rfl, rfl⟩

/-- Only as many tokens as the verb asks for are accepted. -/
theorem length_of_parse {c : Instruction} (h : parse verb tokens = .ok c) :
    tokens.length = verb.arity := by
  by_contra hlength
  simp [parse_of_length_ne hlength] at h

theorem values_of_parse {c : Instruction} (h : parse verb tokens = .ok c) :
    c.verb = verb ∧ c.values.length = tokens.length ∧
    ∀ (i : Nat) (t : String), tokens[i]? = some t → c.values[i]? = (verb.field i).value? t := by
  have hlength := length_of_parse h
  obtain ⟨hverb, hread⟩ := read_of_parse hlength h
  have hfields : verb.schema.length = tokens.length := verb.length_schema.trans hlength.symm
  obtain ⟨hcount, hvalues⟩ := Verb.getElem?_of_read hread hfields
  exact ⟨hverb, hcount, fun i t ht => hvalues i _ t (getElem?_schema_of_token hlength ht) ht⟩

theorem material_of_parse {c : Instruction} {spec : ObjectSpec}
    (h : parse verb tokens = .ok c) (hspec : c.spec? = some spec) :
    ∃ (i : Nat) (t : String) (n : Int), verb.flagPlace? = some i ∧ tokens[i]? = some t ∧
      Numeral.int32? t.toList = some n ∧
      spec.material = if n ≠ 0 then spec.material1 else spec.material2 := by
  obtain ⟨rfl, hcount, hvalues⟩ := values_of_parse h
  obtain ⟨i, hplace, hflag⟩ := exists_flagPlace hspec
  obtain ⟨hi, _⟩ := List.getElem?_eq_some_iff.mp hflag
  rw [hcount] at hi
  have htoken : tokens[i]? = some tokens[i] := List.getElem?_eq_getElem hi
  have hvalue := (hvalues i _ htoken).symm.trans hflag
  rw [Verb.field_of_flagPlace? hplace] at hvalue
  obtain ⟨n, hn, hset⟩ := Option.map_eq_some_iff.mp hvalue
  refine ⟨i, tokens[i], n, hplace, htoken, hn, ?_⟩
  have hvisible : spec.visible = decide (n ≠ 0) := (Value.flag.inj hset).symm
  simp [ObjectSpec.material, hvisible]

/-- **All that `parse` does.** -/
structure FollowsSchema (verb : Verb) (tokens : List String) : Prop where
  /-- A cursor that takes the tokens one by one does the same.  It never comes behind
      their end. -/
  inBounds : (Cursor.instruction verb tokens).Reads 0 tokens.length (parse verb tokens)
  /-- The number of the tokens is at fault exactly if it is not what the verb asks for. -/
  arity : ∀ v n, parse verb tokens = .error (.wrongArity v n) ↔
    tokens.length ≠ verb.arity ∧ v = verb ∧ n = tokens.length
  /-- The fault tells both numbers. -/
  arityMessage : tokens.length ≠ verb.arity → ∀ e, parse verb tokens = .error e →
    e.message = verb.letters ++ " expects " ++ toString verb.arity ++ " tokens, got " ++
      toString tokens.length
  /-- As many tokens as the verb asks for are accepted exactly if each suits its field. -/
  accepts : tokens.length = verb.arity → ((∃ c, parse verb tokens = .ok c) ↔
    ∀ (i : Nat) (t : String), tokens[i]? = some t → (verb.field i).accepts t = true)
  /-- Otherwise the first one that does not is reported, with its number and as it is. -/
  faults : tokens.length = verb.arity → ∀ e, parse verb tokens = .error e ↔
    ∃ (i : Nat) (t : String), tokens[i]? = some t ∧ (verb.field i).accepts t = false ∧
      (verb.field i).fault? verb i t = some e ∧
      ∀ j < i, ∀ (u : String), tokens[j]? = some u → (verb.field j).accepts u = true
  /-- What has been accepted holds what each token says in its field. -/
  values : ∀ c, parse verb tokens = .ok c → c.verb = verb ∧ c.values.length = tokens.length ∧
    ∀ (i : Nat) (t : String), tokens[i]? = some t → c.values[i]? = (verb.field i).value? t
  /-- An object shows its first material if its flag is not zero, and its second one
      otherwise. -/
  material : ∀ c spec, parse verb tokens = .ok c → c.spec? = some spec →
    ∃ (i : Nat) (t : String) (n : Int), verb.flagPlace? = some i ∧ tokens[i]? = some t ∧
      Numeral.int32? t.toList = some n ∧
      spec.material = if n ≠ 0 then spec.material1 else spec.material2

/-- **`parse` follows the schema,** whatever the verb and its tokens are. -/
theorem parse_follows_schema (verb : Verb) (tokens : List String) :
    FollowsSchema verb tokens where
  inBounds := Cursor.reads_instruction verb tokens
  arity _ _ := parse_eq_wrongArity_iff
  arityMessage hlength e he := by
    rw [parse_of_length_ne hlength] at he
    obtain rfl := Except.error.inj he
    rfl
  accepts := exists_parse_iff
  faults hlength _ := parse_eq_error_iff_first hlength
  values _ := values_of_parse
  material _ _ := material_of_parse

end Instruction

end Planetarium

import Planetarium.Message.Instruction

/-! # Tokens in place

    `Instruction.parse` takes the tokens of a message apart all at once.  What
    reads them one after another keeps a place in the list, and it would fail if
    it came behind the end.

    * `Cursor`: what reads at a place and goes on from there.
    * `Cursor.instruction`: reads the tokens of a verb, one field after another.
    * `Cursor.Reads`: a cursor does what `parse` does, and never comes behind the end.
    * `Cursor.reads_instruction`: that is so for every verb and all tokens. -/

namespace Planetarium

/-- A wrong number of tokens is a fault, whatever the tokens are. -/
theorem Instruction.parse_of_length_ne {verb : Verb} {tokens : List String}
    (h : tokens.length ≠ verb.arity) :
    parse verb tokens = .error (.wrongArity verb tokens.length) := by
  unfold parse
  split <;> split <;> first | exact absurd rfl h | rfl

/-- Why a cursor stops. -/
inductive Cursor.Stop where
  /-- There is no token at its place. -/
  | behindEnd
  /-- The message is at fault. -/
  | fault (e : ParseError)

/-- What reads tokens from a place on.  The place is the number of tokens read so far. -/
abbrev Cursor := EStateM Cursor.Stop Nat

namespace Cursor

/-! ## Section 1: Reading one after another -/

section fields
variable (verb : Verb) (tokens : List String)

/-- Reads the next token, with its place. -/
def next : Cursor (Nat × String) := do
  let index ← get
  match tokens[index]? with
  | some token =>
    set (index + 1)
    return (index, token)
  | none => throw .behindEnd

/-- Reads a word. -/
def word : Cursor String := do
  let (_, token) ← next tokens
  return token

/-- Goes on after a token that may be at fault. -/
def checked {α : Type} : Except ParseError α → Cursor α
  | .ok a => return a
  | .error e => throw (.fault e)

/-- Reads a number. -/
def number : Cursor Float32 := do
  let (index, token) ← next tokens
  checked (Instruction.number verb index token)

/-- Reads three numbers. -/
def vector : Cursor Vec3 := do
  let x ← number verb tokens
  let y ← number verb tokens
  let z ← number verb tokens
  return ⟨x, y, z⟩

/-- Reads a flag. -/
def flag : Cursor Bool := do
  let (index, token) ← next tokens
  checked (Instruction.flag verb index token)

/-- Reads what is said about an object behind its name and its position. -/
def objectSpec (name : String) : Cursor ObjectSpec := do
  let scale ← vector verb tokens
  let rotation ← vector verb tokens
  let model ← word tokens
  let material1 ← word tokens
  let material2 ← word tokens
  let visible ← flag verb tokens
  return { name, scale, rotation, model, material1, material2, visible }

/-- **Reads the tokens of a verb,** if there are as many as it asks for. -/
def instruction : Cursor Instruction :=
  if tokens.length = verb.arity then
    match verb with
    | .createObject => do
      let name ← word tokens
      let position ← vector .createObject tokens
      return .createObject (← objectSpec .createObject tokens name) position
    | .createObjectAtPoint => do
      let name ← word tokens
      let point ← word tokens
      return .createObjectAtPoint (← objectSpec .createObjectAtPoint tokens name) point
    | .createPoint => do
      let name ← word tokens
      return .createPoint name (← vector .createPoint tokens)
    | .moveToPoint => do
      let name ← word tokens
      return .moveToPoint name (← word tokens)
  else throw (.fault (.wrongArity verb tokens.length))

end fields

/-! ## Section 2: Reading all at once -/

/-- **A cursor reads what `r` says.**  At `i` it goes on to `j`, or it stops at a fault on
    the way there.  It never stops because it is behind the end. -/
def Reads {α : Type} (m : Cursor α) (i j : Nat) (r : Except ParseError α) : Prop :=
  match r with
  | .ok a => m.run i = .ok a j
  | .error e => ∃ n, n ≤ j ∧ m.run i = .error (.fault e) n

section reads
variable {α β : Type} {tokens : List String} {i j k : Nat} {t : String}

theorem reads_pure (a : α) (i : Nat) : Reads (pure a) i i (.ok a) := rfl

/-- Reading on behind something that is never at fault. -/
theorem Reads.of_run {m : Cursor α} {f : α → Cursor β} {a : α} {r : Except ParseError β}
    (h : m.run i = .ok a j) (h' : Reads (f a) j k r) : Reads (m >>= f) i k r := by
  have hrun : (m >>= f).run i = (f a).run j := by
    rw [EStateM.run_bind, h]
  unfold Reads at h' ⊢
  rw [hrun]
  exact h'

/-- Reading one thing after another. -/
theorem Reads.bind {m : Cursor α} {f : α → Cursor β} {r : Except ParseError α}
    {g : α → Except ParseError β} (h : Reads m i j r) (hjk : j ≤ k)
    (h' : ∀ a, Reads (f a) j k (g a)) : Reads (m >>= f) i k (r >>= g) := by
  cases r with
  | ok a => exact .of_run h (h' a)
  | error e =>
    obtain ⟨n, hn, hstop⟩ := h
    refine ⟨n, Nat.le_trans hn hjk, ?_⟩
    rw [EStateM.run_bind, hstop]

theorem run_next (h : tokens[i]? = some t) : (next tokens).run i = .ok (i, t) (i + 1) := by
  unfold next
  rw [EStateM.run_bind, EStateM.run_get]
  simp only [h]
  rfl

theorem run_word (h : tokens[i]? = some t) : (word tokens).run i = .ok t (i + 1) := by
  unfold word
  rw [EStateM.run_bind, run_next h]
  rfl

theorem reads_checked (r : Except ParseError α) (i : Nat) : Reads (checked r) i i r := by
  cases r with
  | ok a => rfl
  | error e => exact ⟨i, Nat.le_refl _, rfl⟩

theorem reads_number (verb : Verb) (h : tokens[i]? = some t) :
    Reads (number verb tokens) i (i + 1) (Instruction.number verb i t) :=
  .of_run (run_next h) (reads_checked _ _)

theorem reads_flag (verb : Verb) (h : tokens[i]? = some t) :
    Reads (flag verb tokens) i (i + 1) (Instruction.flag verb i t) :=
  .of_run (run_next h) (reads_checked _ _)

theorem reads_vector (verb : Verb) {x y z : String} (hx : tokens[i]? = some x)
    (hy : tokens[i + 1]? = some y) (hz : tokens[i + 2]? = some z) :
    Reads (vector verb tokens) i (i + 3) (Instruction.vector verb i x y z) := by
  refine (reads_number verb hx).bind (by omega) fun a => ?_
  refine (reads_number verb hy).bind (by omega) fun b => ?_
  refine (reads_number verb hz).bind (Nat.le_refl _) fun c => ?_
  exact reads_pure _ _

end reads

/-! ## Section 3: The verbs -/

/-- What the last ten tokens of a verb that creates an object say about it.  The first of
    them has the number `index`. -/
def specOf (verb : Verb) (name : String) (index : Nat)
    (sx sy sz rx ry rz model material1 material2 visible : String) :
    Except ParseError ObjectSpec := do
  let scale ← Instruction.vector verb index sx sy sz
  let rotation ← Instruction.vector verb (index + 3) rx ry rz
  let visible ← Instruction.flag verb (index + 9) visible
  return { name, scale, rotation, model, material1, material2, visible }

section verbs
variable {name point px py pz sx sy sz rx ry rz model material1 material2 visible : String}

theorem parse_createObject :
    Instruction.parse .createObject [name, px, py, pz, sx, sy, sz, rx, ry, rz, model, material1,
        material2, visible] = (do
      let position ← Instruction.vector .createObject 1 px py pz
      let spec ← specOf .createObject name 4 sx sy sz rx ry rz model material1 material2 visible
      return .createObject spec position) := by
  simp [Instruction.parse, specOf]

theorem parse_createObjectAtPoint :
    Instruction.parse .createObjectAtPoint [name, point, sx, sy, sz, rx, ry, rz, model, material1,
        material2, visible] = (do
      let spec ← specOf .createObjectAtPoint name 2 sx sy sz rx ry rz model material1 material2
        visible
      return .createObjectAtPoint spec point) := by
  simp [Instruction.parse, specOf]

theorem reads_objectSpec (verb : Verb) (before : List String) :
    Reads (objectSpec verb (before ++
        [sx, sy, sz, rx, ry, rz, model, material1, material2, visible]) name)
      before.length (before.length + 10)
      (specOf verb name before.length sx sy sz rx ry rz model material1 material2 visible) := by
  have hat : ∀ n, (before ++ [sx, sy, sz, rx, ry, rz, model, material1, material2,
      visible])[before.length + n]? =
        [sx, sy, sz, rx, ry, rz, model, material1, material2, visible][n]? := by
    intro n
    rw [List.getElem?_append_right (Nat.le_add_right _ _), Nat.add_sub_cancel_left]
  refine (reads_vector verb (hat 0) (hat 1) (hat 2)).bind (by omega) fun scale => ?_
  refine (reads_vector verb (hat 3) (hat 4) (hat 5)).bind (by omega) fun rotation => ?_
  refine .of_run (run_word (hat 6)) (.of_run (run_word (hat 7)) (.of_run (run_word (hat 8)) ?_))
  exact (reads_flag verb (hat 9)).bind (Nat.le_refl _) fun visible => reads_pure _ _

end verbs

/-- **A cursor reads what the tokens say,** and it never comes behind their end. -/
theorem reads_instruction (verb : Verb) (tokens : List String) :
    Reads (instruction verb tokens) 0 tokens.length (Instruction.parse verb tokens) := by
  unfold instruction
  by_cases hlength : tokens.length = verb.arity
  · rw [if_pos hlength]
    cases verb with
    | createObject =>
      match tokens, hlength with
      | [name, px, py, pz, sx, sy, sz, rx, ry, rz, model, material1, material2, visible], _ =>
        rw [parse_createObject]
        refine .of_run (run_word rfl) ?_
        refine (reads_vector .createObject rfl rfl rfl).bind (by simp) fun position => ?_
        refine (reads_objectSpec _ [name, px, py, pz]).bind (Nat.le_refl _) fun spec => ?_
        exact reads_pure _ _
    | createObjectAtPoint =>
      match tokens, hlength with
      | [name, point, sx, sy, sz, rx, ry, rz, model, material1, material2, visible], _ =>
        rw [parse_createObjectAtPoint]
        refine .of_run (run_word rfl) (.of_run (run_word rfl) ?_)
        refine (reads_objectSpec _ [name, point]).bind (Nat.le_refl _) fun spec => ?_
        exact reads_pure _ _
    | createPoint =>
      match tokens, hlength with
      | [name, x, y, z], _ =>
        refine .of_run (run_word rfl) ?_
        refine (reads_vector .createPoint rfl rfl rfl).bind (by simp) fun position => ?_
        exact reads_pure _ _
    | moveToPoint =>
      match tokens, hlength with
      | [name, point], _ =>
        exact .of_run (run_word rfl) (.of_run (run_word rfl) (reads_pure _ _))
  · rw [if_neg hlength, Instruction.parse_of_length_ne hlength]
    exact ⟨0, Nat.zero_le _, rfl⟩

end Cursor

end Planetarium

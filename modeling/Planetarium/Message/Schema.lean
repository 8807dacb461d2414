import Planetarium.Message.Instruction

/-!
# Schemas

What the tokens of each verb are: names and paths, which may be any word, numbers, and flags. A message is
well formed when it has as many tokens as its schema has fields and each token suits its field.
-/

namespace Planetarium

/-- What a token stands for. -/
inductive Field where
  | word
  | number
  | flag
  deriving DecidableEq

namespace Field

/-- Whether a token suits a field. -/
def accepts (f : Field) (token : String) : Bool :=
  match f with
  | .word => true
  | .number => (Numeral.real? token.toList).isSome
  | .flag => (Numeral.int32? token.toList).isSome

/-- The fault of a token that does not suit its field. No token is at fault in a field for words. -/
def fault? (f : Field) (verb : Verb) (index : Nat) (token : String) : Option ParseError :=
  match f with
  | .word => none
  | .number => some (.invalidNumber verb index token)
  | .flag => some (.invalidFlag verb index token)

end Field

/-- The fields of a verb: for an object its name, its place, nine or six numbers, the model with two
materials, and a flag. -/
def Verb.schema : Verb → List Field
  | .createObject => [.word] ++ List.replicate 9 .number ++ List.replicate 3 .word ++ [.flag]
  | .createObjectAtPoint => [.word, .word] ++ List.replicate 6 .number ++ List.replicate 3 .word ++ [.flag]
  | .createPoint => [.word] ++ List.replicate 3 .number
  | .moveToPoint => [.word, .word]

/-- The first fault of some tokens, the first of which has the number `index`. -/
def Verb.firstFault? (verb : Verb) (index : Nat) : List Field → List String → Option ParseError
  | f :: fs, t :: ts =>
    if f.accepts t then verb.firstFault? (index + 1) fs ts else f.fault? verb index t
  | _, _ => none

/-- The schema of a verb has a field for each token that the verb asks for. -/
theorem Verb.length_schema (v : Verb) : v.schema.length = v.arity := by
  cases v <;> rfl

end Planetarium

import Planetarium.Geometry.Vec3
import Planetarium.Message.Rejection
import Planetarium.Numeral.Decimal

/-!
# Instructions

An authoring message with its tokens read. Tokens are read from the left, and the first one that is at
fault is reported; a wrong number of tokens is reported before any of them is read.
-/

namespace Planetarium

/-- A new object without its position. -/
structure ObjectSpec where
  name : String
  scale : Vec3
  /-- Pitch, yaw and roll in degrees. -/
  rotation : Vec3
  model : String
  material1 : String
  material2 : String
  visible : Bool
  deriving DecidableEq

/-- The material in use: the first one for a visible object, the second one otherwise. -/
def ObjectSpec.material (s : ObjectSpec) : String := if s.visible then s.material1 else s.material2

/-- What an authoring message asks for, in full. -/
inductive Instruction where
  | createObject (spec : ObjectSpec) (position : Vec3)
  | createObjectAtPoint (spec : ObjectSpec) (point : String)
  | createPoint (name : String) (position : Vec3)
  | moveToPoint (name point : String)
  deriving DecidableEq

namespace Instruction

/-- The verb of an instruction. -/
def verb : Instruction → Verb
  | .createObject .. => .createObject
  | .createObjectAtPoint .. => .createObjectAtPoint
  | .createPoint .. => .createPoint
  | .moveToPoint .. => .moveToPoint

/-- Reads the token at a place as a number. -/
def number (verb : Verb) (index : Nat) (token : String) : Except ParseError Float32 :=
  match Numeral.real? token.toList with
  | some v => .ok v
  | none => .error (.invalidNumber verb index token)

/-- Reads three tokens from a place on as a vector. -/
def vector (verb : Verb) (index : Nat) (x y z : String) : Except ParseError Vec3 := do
  let x ← number verb index x
  let y ← number verb (index + 1) y
  let z ← number verb (index + 2) z
  return ⟨x, y, z⟩

/-- Reads the token at a place as a flag, which any number but zero sets. -/
def flag (verb : Verb) (index : Nat) (token : String) : Except ParseError Bool :=
  match Numeral.int32? token.toList with
  | some n => .ok (n ≠ 0)
  | none => .error (.invalidFlag verb index token)

/-- Reads the tokens of an authoring message. -/
def parse (verb : Verb) (tokens : List String) : Except ParseError Instruction :=
  match verb with
  | .createObject =>
    match tokens with
    | [name, px, py, pz, sx, sy, sz, rx, ry, rz, model, material1, material2, visible] => do
      let position ← vector verb 1 px py pz
      let scale ← vector verb 4 sx sy sz
      let rotation ← vector verb 7 rx ry rz
      let visible ← flag verb 13 visible
      return .createObject { name, scale, rotation, model, material1, material2, visible } position
    | _ => .error (.wrongArity verb tokens.length)
  | .createObjectAtPoint =>
    match tokens with
    | [name, point, sx, sy, sz, rx, ry, rz, model, material1, material2, visible] => do
      let scale ← vector verb 2 sx sy sz
      let rotation ← vector verb 5 rx ry rz
      let visible ← flag verb 11 visible
      return .createObjectAtPoint { name, scale, rotation, model, material1, material2, visible } point
    | _ => .error (.wrongArity verb tokens.length)
  | .createPoint =>
    match tokens with
    | [name, x, y, z] => do
      let position ← vector verb 1 x y z
      return .createPoint name position
    | _ => .error (.wrongArity verb tokens.length)
  | .moveToPoint =>
    match tokens with
    | [name, point] => .ok (.moveToPoint name point)
    | _ => .error (.wrongArity verb tokens.length)

end Instruction

end Planetarium

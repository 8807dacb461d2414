/-!
# Verbs

The verbs that a controller builds the scene with. A verb is written as three letters in front of its
tokens.
-/

namespace Planetarium

/-- What an authoring message asks for. -/
inductive Verb where
  /-- Create an object at a position. -/
  | createObject
  /-- Create an object at a named point. -/
  | createObjectAtPoint
  /-- Name a point. -/
  | createPoint
  /-- Move a named object to a named point. -/
  | moveToPoint
  deriving DecidableEq

namespace Verb

/-- All verbs. -/
def all : List Verb := [.createObject, .createObjectAtPoint, .createPoint, .moveToPoint]

/-- The letters that stand for a verb. -/
def letters : Verb → String
  | .createObject => "OBJ"
  | .createObjectAtPoint => "ATP"
  | .createPoint => "PNT"
  | .moveToPoint => "MOV"

/-- The verb that some letters stand for. Letter case counts. -/
def ofLetters? (letters : String) : Option Verb := all.find? (·.letters = letters)

/-- The number of tokens after the letters. -/
def arity : Verb → Nat
  | .createObject => 14
  | .createObjectAtPoint => 12
  | .createPoint => 4
  | .moveToPoint => 2

end Verb

end Planetarium

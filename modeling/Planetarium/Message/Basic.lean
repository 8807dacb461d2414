import Planetarium.Message.Verb
import Planetarium.Text.Blank

/-!
# Messages

A payload without the terminators at its end is an authoring message if it starts with the letters of a
verb, and otherwise a control code, which is its first character. An empty one is no message.
-/

namespace Planetarium

/-- A payload by its kind. -/
inductive Message where
  /-- A control code. -/
  | control (code : Char)
  /-- A verb and the words after its letters. -/
  | authoring (verb : Verb) (tokens : List String)
  deriving DecidableEq

namespace Message

/-- The verb whose letters a text starts with, and the text after them. -/
def splitVerb : List Char → Option (Verb × List Char)
  | a :: b :: c :: rest => (Verb.ofLetters? (String.ofList [a, b, c])).map (·, rest)
  | _ => none

/-- The message in a payload. -/
def ofPayload? (payload : String) : Option Message :=
  let text := Text.trimTerminators payload.toList
  match splitVerb text with
  | some (verb, rest) => some (.authoring verb ((Text.words rest).map String.ofList))
  | none => text.head?.map .control

end Message

end Planetarium

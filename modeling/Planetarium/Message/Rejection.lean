import Planetarium.Message.Verb
import Planetarium.Text.Quoted

/-!
# Rejections

Why an authoring message is turned down. A message that is turned down changes nothing.
-/

namespace Planetarium

/-- A fault in the tokens of an authoring message. Tokens are counted from zero. -/
inductive ParseError where
  /-- The message has `found` tokens, which is not what its verb asks for. -/
  | wrongArity (verb : Verb) (found : Nat)
  /-- A token should be a number and is none. -/
  | invalidNumber (verb : Verb) (index : Nat) (token : String)
  /-- A token should be a whole number that serves as a flag and is none. -/
  | invalidFlag (verb : Verb) (index : Nat) (token : String)
  deriving DecidableEq

/-- What a fault says. -/
def ParseError.message : ParseError → String
  | .wrongArity verb found =>
    verb.letters ++ " expects " ++ toString verb.arity ++ " tokens, got " ++ toString found
  | .invalidNumber verb index token =>
    verb.letters ++ " token " ++ toString index ++ " (" ++ Text.quote token ++ ") is not a number"
  | .invalidFlag verb index token =>
    verb.letters ++ " token " ++ toString index ++ " (" ++ Text.quote token ++
      ") is not an integer flag"

/-- A name that stands for nothing. -/
inductive NotFound where
  | node (name : String)
  | point (name : String)
  deriving DecidableEq

/-- What a missing name says. -/
def NotFound.message : NotFound → String
  | .node name => "no node registered as " ++ Text.quote name
  | .point name => "no point registered as " ++ Text.quote name

/-- Why a message is turned down. -/
inductive Rejection where
  | parse (error : ParseError)
  | notFound (missing : NotFound)
  deriving DecidableEq

/-- What a rejection says. -/
def Rejection.message : Rejection → String
  | .parse e => "parse error: " ++ e.message
  | .notFound m => "not found: " ++ m.message

end Planetarium

import Planetarium.Wire.Frame

/-!
# The sender

The sender is the program of a controller. It connects to all servers, one after another, and then takes its
input line by line. Each line is put into a frame, which is sent to one server after another.

* Lines end at a line feed, and one carriage return before it belongs to the end. What follows the last
  line feed is a line if it is not empty.
* A line that starts with `X` ends the session. A line that is too long for a frame is skipped.
* A session fails at the first server that cannot be connected to, at a line that is not text, and at the
  first frame that cannot be sent. What has been sent by then has been sent.
-/

namespace Planetarium.Sender

/-- A server, and whether a connection to it can be made. -/
structure Server where
  address : String
  reachable : Bool
  deriving DecidableEq

/-- A connection to a server, with the bytes that have been sent over it. -/
structure Link where
  address : String
  sent : List UInt8 := []
  deriving DecidableEq

/-- Why a session has failed. -/
inductive Failure where
  /-- There is no connection to a server. -/
  | connect (address : String)
  /-- A line is not text. -/
  | notText
  /-- A frame could not be sent to a server. -/
  | send (address : String) (cause : WireError)
  deriving DecidableEq

/-- What is said in front of the cause of a failure. -/
def Failure.context? : Failure → Option String
  | .connect address => some ("failed to connect to " ++ address)
  | .notText => none
  | .send address _ => some ("failed to send to " ++ address)

/-- How a session ends. -/
inductive Status where
  | success
  | failure (cause : Failure)
  /-- The sender was told of no server. -/
  | misuse
  deriving DecidableEq

/-- The number that stands for a status. -/
def Status.code : Status → Nat
  | .success => 0
  | .failure _ => 1
  | .misuse => 2

/-- A line without the carriage return at its end. -/
def dropReturn (line : List UInt8) : List UInt8 :=
  if line.getLast? = some 13 then line.dropLast else line

/-- The lines of an input. -/
def lines (input : List UInt8) : List (List UInt8) :=
  let pieces := input.splitOn 10
  pieces.dropLast.map dropReturn ++ (pieces.getLast?.toList.filter (· ≠ []))

/-- The frame for a line, unless a server would refuse it. -/
def frameFor? (line : List Char) : Option Packet :=
  let frame := Packet.game (String.ofList line)
  if frame.fits then some frame else none

/-- Connects to one server after another: the connections, and why there are no more of them. -/
def connectAll : List Server → List Link × Option Failure
  | [] => ([], none)
  | server :: servers =>
    if server.reachable then
      let (links, failure) := connectAll servers
      ({ address := server.address } :: links, failure)
    else ([], some (.connect server.address))

/-- Sends a frame over one connection after another, up to the first failure. -/
def broadcast (frame : Packet) : List Link → List Link × Option Failure
  | [] => ([], none)
  | link :: links =>
    match (Packet.send frame).run link.sent with
    | .ok () sent =>
      let (links, failure) := broadcast frame links
      ({ link with sent } :: links, failure)
    | .error cause sent => ({ link with sent } :: links, some (.send link.address cause))

/-- **The loop:** takes one line after another until one of them ends the session. -/
def converse (links : List Link) : List (List UInt8) → List Link × Option Failure
  | [] => (links, none)
  | line :: lines =>
    match Text.Utf8.strict? line with
    | none => (links, some .notText)
    | some text =>
      if text.head? = some 'X' then (links, none)
      else
        match frameFor? text with
        | none => converse links lines
        | some frame =>
          match broadcast frame links with
          | (links, none) => converse links lines
          | (links, some failure) => (links, some failure)

/-- A session: how it ended, and the connections that were made, in the order of the servers. -/
structure Session where
  status : Status
  links : List Link
  deriving DecidableEq

/-- **A session.** All servers have to be connected to before the input is read. -/
def session (servers : List Server) (input : List UInt8) : Session :=
  if servers = [] then ⟨.misuse, []⟩
  else
    match connectAll servers with
    | (links, some cause) => ⟨.failure cause, links⟩
    | (links, none) =>
      match converse links (lines input) with
      | (links, some cause) => ⟨.failure cause, links⟩
      | (links, none) => ⟨.success, links⟩

end Planetarium.Sender

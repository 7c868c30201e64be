import Provision.CommandLine.LogFilter
import Provision.CommandLine.Run
import Std.Time.DateTime.Timestamp
/-!
The command line program.

All decisions are the library's. This module reads the arguments, the environment and the clock,
prints events as they happen, and answers the operations on the wire. It brings no transport: a
server is never found, so every connection to an address that can be read fails as unavailable.
-/

namespace Provision.CommandLine

/-- Runs a program with effects: its events are printed and its operations answered as they come. -/
def perform {α : Type} (print : Event → IO Unit)
    (answer : (op : Remote.WireOp) → IO op.Reply) : Program Remote.Wire α → IO α
  | .done value => pure value
  | .emit event rest => do
    print event
    perform print answer rest
  | .perform op next => do
    let reply ← answer op
    perform print answer (next reply)

def withoutTransport : (op : Remote.WireOp) → IO op.Reply
  | .connect address _ => pure <| .error <|
    if Address.isReadable address then .serverSelection ("no transport to reach " ++ address)
    else .invalidArgument ("no server has the address " ++ address)
  | .login .. => pure (.error (.io "not connected"))
  | .command .. => pure (.error (.io "not connected"))
  | .disconnect _ => pure ()
  | .pause milliseconds => IO.sleep milliseconds.toUInt32

def readEnvironment : IO Environment := do
  let mut found : List (String × String) := []
  for v in Variable.all do
    if let some text ← IO.getEnv v.name then
      found := (v.name, text) :: found
  let known := found
  return fun name => List.lookup name known

def usage : String :=
  "Usage: bootstrap [up|status] [--marker skip|seed] [--marker-version VERSION] [--no-verify]"

def mainWith (line : List String) : IO UInt32 := do
  let env ← readEnvironment
  let choice ← IO.getEnv logVariable
  let now ← Std.Time.Timestamp.now
  let print (event : Event) : IO Unit :=
    if isPrinted choice event then IO.eprintln event.line else pure ()
  let decision := judge line env
  match decision with
  | .help => IO.println usage
  | .refuseLine => IO.eprintln usage
  | _ => pure ()
  let stamp := Int64.ofInt now.toMillisecondsSinceUnixEpoch.val
  let ending ← perform print withoutTransport (run decision stamp)
  for text in ending.output do
    IO.println text
  if let some text := ending.complaint then
    IO.eprintln text
  return ending.status.toUInt32

end Provision.CommandLine

def main (line : List String) : IO UInt32 :=
  Provision.CommandLine.mainWith line

import PrimesAndRoots.Command

/-!
# Command line

Holds the prompt of a command on the standard streams. The first argument names the command; the
setting of the log filter is taken from the environment.
-/

namespace PrimesAndRoots.CommandLine

/-- The bytes of the next line of a stream, with its line feed if it has one. -/
partial def nextLine (input : IO.FS.Stream) (taken : Array UInt8 := #[]) : IO Bytes := do
  let bytes ← input.read 1
  match bytes.data.toList with
  | [] => return taken.toList
  | b :: _ =>
    if b = Reader.lineFeed then
      return (taken.push b).toList
    nextLine input (taken.push b)

/-- Does what the action does, with a fault of the device as a failure. -/
def attempt {α : Type} (action : IO α) : IO (Except Failure α) := do
  try
    return .ok (← action)
  catch fault =>
    return .error (.device (.reported .other (toString fault)))

def log (filter : Filter) (event : Event) : IO Unit := do
  for line in Command.logLines filter [event] do
    IO.eprintln line

def converse {σ α : Type} (filter : Filter) (input output : IO.FS.Stream) :
    Dialogue σ α → IO (Except Failure α)
  | .done result => return result
  | .log event next => do
    log filter event
    converse filter input output next
  | .took _ next => converse filter input output next
  | .write text next => do
    match ← attempt (output.putStr text) with
    | .ok _ => converse filter input output next
    | .error failure => return .error failure
  | .flush next => do
    match ← attempt output.flush with
    | .ok _ => converse filter input output next
    | .error failure => return .error failure
  | .ask next => do
    match ← attempt (nextLine input) with
    | .ok bytes =>
      match (Reader.readLine [.bytes bytes]).1 with
      | .ok line => converse filter input output (next line)
      | .error fault => return .error (.device fault)
    | .error failure => return .error failure

/-- Runs a command whose prompt is given, and tells its exit code. -/
def perform {σ α : Type} (command : Command) (prompt : Dialogue σ α)
    (closing : Except Failure α → List Event) : IO UInt32 := do
  let filter := Filter.ofSetting (← IO.getEnv "RUST_LOG")
  let output ← IO.getStdout
  command.opening.forM (log filter)
  let result ← converse filter (← IO.getStdin) output prompt
  output.flush
  (closing result).forM (log filter)
  (Command.failureLines result).forM IO.eprintln
  return (Command.exitCode result).toUInt32

end PrimesAndRoots.CommandLine

open PrimesAndRoots in
def main (args : List String) : IO UInt32 := do
  match args with
  | "primes" :: _ =>
    CommandLine.perform .primes (Prompt.primes (PrimeStream.all (t := .uint64)))
      Command.primesClosing
  | "intsqrt" :: _ =>
    CommandLine.perform .squareRoot (Prompt.root : Dialogue Unit RootReport) Command.rootClosing
  | _ =>
    IO.eprintln "usage: (primes | intsqrt)"
    return 2

import PrimesAndRoots.Log.Filter
import PrimesAndRoots.PrimeStream
import PrimesAndRoots.Prompt.Primes
import PrimesAndRoots.Prompt.Root

/-!
# Commands

The two programs of the library: one shows the primes, the other takes a square root. A command
holds its prompt on standard input and output; log lines and the failure go to standard error, so
what the filter lets through never changes what is written or how the command exits.
-/

namespace PrimesAndRoots

inductive Command where
  | primes
  | squareRoot
deriving DecidableEq, Repr

/-- What a command leaves behind: its exit code, the bytes of standard output, and the lines of
standard error. -/
structure Outcome where
  exit : Nat
  stdout : Bytes
  stderr : List String
deriving DecidableEq, Repr

namespace Command

def opening : Command → List Event
  | primes => [.enumerationStarted]
  | squareRoot => []

def primesClosing : Except Failure Nat → List Event
  | .ok shown => [.enumerationEnded shown]
  | .error failure => [.enumerationFailed failure]

/-- What the root command logs after its prompt: nothing, unless it failed. -/
def rootClosing : Except Failure RootReport → List Event
  | .ok _ => []
  | .error failure => [.rootFailed failure]

def logLines (filter : Filter) (events : List Event) : List String :=
  ((events.map Event.record).filter filter.admits).map Record.line

def exitCode {α : Type} : Except Failure α → Nat
  | .ok _ => 0
  | .error _ => 1

/-- The last line of standard error, if the command failed. -/
def failureLines {α : Type} : Except Failure α → List String
  | .ok _ => []
  | .error failure => ["Error: " ++ failure.inspect]

def outcome {σ α : Type} (command : Command) (closing : List Event) (filter : Filter)
    (tr : Transcript σ α) : Outcome where
  exit := exitCode tr.result
  stdout := tr.output
  stderr := logLines filter (command.opening ++ tr.events ++ closing) ++ failureLines tr.result

/-- Runs the command on the bytes of standard input, under a filter setting. -/
def run (command : Command) (stdin : Bytes) (setting : Option String) : Outcome :=
  let terminal : Terminal := { reader := [.bytes stdin] }
  let filter := Filter.ofSetting setting
  match command with
  | primes =>
    let stream : PrimeStream .uint64 := .all
    let tr := (Prompt.primes stream).run stream terminal
    command.outcome (primesClosing tr.result) filter tr
  | squareRoot =>
    let tr := Prompt.root.run () terminal
    command.outcome (rootClosing tr.result) filter tr

end Command

end PrimesAndRoots

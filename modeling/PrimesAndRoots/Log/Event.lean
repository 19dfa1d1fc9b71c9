import PrimesAndRoots.Failure
import PrimesAndRoots.Text.Numeral

/-!
# Log events

What the library reports while it works. An event says what happened; its `record` says at which
level, under which target and in which words that is logged.
-/

namespace PrimesAndRoots

inductive Level where
  | error
  | warn
  | info
  | debug
  | trace
deriving DecidableEq, Repr

namespace Level

def name : Level → String
  | error => "ERROR"
  | warn => "WARN"
  | info => "INFO"
  | debug => "DEBUG"
  | trace => "TRACE"

/-- The place of the level in the order from the gravest events to the finest ones. -/
def rank : Level → Nat
  | error => 1
  | warn => 2
  | info => 3
  | debug => 4
  | trace => 5

end Level

structure Record where
  level : Level
  target : String
  message : String
  fields : List (String × String) := []
deriving DecidableEq, Repr

/-- The line of an entry: the level on the right of five columns, the target, the message, and the
fields. -/
def Record.line (r : Record) : String :=
  String.ofList (List.replicate (5 - r.level.name.length) ' ') ++ r.level.name ++ " " ++
    r.target ++ ": " ++ r.message ++
    String.join (r.fields.map fun field => " " ++ field.1 ++ "=" ++ field.2)

inductive Event where
  /-- A turn of the search for a root tried `mid`, and `best` is now the best number found. -/
  | rootTurn (mid best : Int)
  | primeFound (prime : Int)
  | compositePassed (candidate divisor : Int)
  | inputEnded (shown : Nat)
  | textRejected (reason : NumeralError) (text : String)
  | rootComputed (number root : Int)
  | enumerationStarted
  | enumerationEnded (shown : Nat)
  | enumerationFailed (failure : Failure)
  | rootFailed (failure : Failure)
deriving DecidableEq, Repr

def Event.record : Event → Record
  | rootTurn mid best =>
    { level := .trace, target := "trialroot::math::isqrt", message := "isqrt step"
      fields := [("mid", numeral mid), ("ans", numeral best)] }
  | primeFound prime =>
    { level := .debug, target := "trialroot::enumerator", message := "Found prime"
      fields := [("prime", numeral prime)] }
  | compositePassed candidate divisor =>
    { level := .trace, target := "trialroot::enumerator", message := "Candidate is composite"
      fields := [("candidate", numeral candidate), ("divisor", numeral divisor)] }
  | inputEnded shown =>
    { level := .info, target := "trialroot::console"
      message := "End of input, stopping enumeration"
      fields := [("printed", numeral shown)] }
  | textRejected reason text =>
    { level := .warn, target := "trialroot::console"
      message := "Rejected non-integer input: " ++ reason.message
      fields := [("input", quote text)] }
  | rootComputed number root =>
    { level := .debug, target := "trialroot::console", message := "Computed integer square root"
      fields := [("num", numeral number), ("root", numeral root)] }
  | enumerationStarted =>
    { level := .info, target := "primes", message := "Starting prime enumeration from 2" }
  | enumerationEnded shown =>
    { level := .info, target := "primes", message := "Printed " ++ numeral shown ++ " primes." }
  | enumerationFailed failure =>
    { level := .error, target := "primes"
      message := "Prime enumeration stopped: " ++ failure.message }
  | rootFailed failure =>
    { level := .error, target := "intsqrt", message := "Square root failed: " ++ failure.message }

end PrimesAndRoots

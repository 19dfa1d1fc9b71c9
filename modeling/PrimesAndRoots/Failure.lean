import PrimesAndRoots.Text.Quoted

/-!
# Failures

What can go wrong in this library. Every failure has a `message` for people, in which the text it
carries stands as it is, and an `inspect` text for developers, in which that text is quoted.
-/

namespace PrimesAndRoots

inductive FaultKind where
  | other
  | brokenPipe
  | unexpectedEof
  | invalidData
  | wouldBlock
  | timedOut
  | interrupted
  | permissionDenied
  | notFound
  | connectionReset
  | writeZero
deriving DecidableEq, Repr

namespace FaultKind

def all : List FaultKind :=
  [other, brokenPipe, unexpectedEof, invalidData, wouldBlock, timedOut, interrupted,
    permissionDenied, notFound, connectionReset, writeZero]

def name : FaultKind → String
  | other => "Other"
  | brokenPipe => "BrokenPipe"
  | unexpectedEof => "UnexpectedEof"
  | invalidData => "InvalidData"
  | wouldBlock => "WouldBlock"
  | timedOut => "TimedOut"
  | interrupted => "Interrupted"
  | permissionDenied => "PermissionDenied"
  | notFound => "NotFound"
  | connectionReset => "ConnectionReset"
  | writeZero => "WriteZero"

/-- The message of a fault that has none of its own. -/
def description : FaultKind → String
  | other => "other error"
  | brokenPipe => "broken pipe"
  | unexpectedEof => "unexpected end of file"
  | invalidData => "invalid data"
  | wouldBlock => "operation would block"
  | timedOut => "timed out"
  | interrupted => "operation interrupted"
  | permissionDenied => "permission denied"
  | notFound => "entity not found"
  | connectionReset => "connection reset"
  | writeZero => "write zero"

end FaultKind

/-- A fault of a device: known by its kind alone, reported with a message, or found by this library,
which then gives the reason. -/
inductive Fault where
  | bare (kind : FaultKind)
  | reported (kind : FaultKind) (message : String)
  | found (kind : FaultKind) (reason : String)
deriving DecidableEq, Repr

namespace Fault

def kind : Fault → FaultKind
  | bare kind => kind
  | reported kind _ => kind
  | found kind _ => kind

def message : Fault → String
  | bare kind => kind.description
  | reported _ message => message
  | found _ reason => reason

def inspect : Fault → String
  | bare kind => "Kind(" ++ kind.name ++ ")"
  | reported kind message =>
    "Custom \x7b kind: " ++ kind.name ++ ", error: " ++ quote message ++ " \x7d"
  | found kind reason =>
    "Error \x7b kind: " ++ kind.name ++ ", message: " ++ quote reason ++ " \x7d"

/-- A line whose bytes are no UTF-8. -/
def invalidText : Fault :=
  found .invalidData "stream did not contain valid UTF-8"

/-- A writer that takes no more bytes, and does not say why. -/
def nothingWritten : Fault :=
  found .writeZero "failed to write whole buffer"

end Fault

inductive Failure where
  | invalidInput (reason : String)
  | negative (number : String)
  | overflow (reason : String)
  | device (fault : Fault)
deriving DecidableEq, Repr

namespace Failure

def name : Failure → String
  | invalidInput _ => "InvalidInput"
  | negative _ => "NegativeInput"
  | overflow _ => "Overflow"
  | device _ => "Io"

def message : Failure → String
  | invalidInput reason => "Invalid input: " ++ reason
  | negative number => "Negative input has no integer square root: " ++ number
  | overflow reason => "Candidate counter overflow: " ++ reason
  | device fault => "Console I/O error: " ++ fault.message

def inspect (failure : Failure) : String :=
  failure.name ++ "(" ++
    (match failure with
      | invalidInput reason => quote reason
      | negative number => quote number
      | overflow reason => quote reason
      | device fault => fault.inspect) ++ ")"

def cause? : Failure → Option Fault
  | device fault => some fault
  | _ => none

end Failure

end PrimesAndRoots

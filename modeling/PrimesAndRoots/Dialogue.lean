import PrimesAndRoots.Log.Event
import PrimesAndRoots.Terminal.Reader
import PrimesAndRoots.Terminal.Writer

/-!
# Dialogues

A dialogue is what a program says and asks at a terminal, as a tree of requests that goes on with
each possible answer. It is run on a terminal; the first request that fails ends it. The transcript
of a run keeps every step in its order, and what was written, flushed and logged is read off the
steps.
-/

namespace PrimesAndRoots

/-- A program at a terminal that takes items from a source with states `σ`, and ends with a
result. -/
inductive Dialogue (σ α : Type) where
  | done (result : Except Failure α)
  | log (event : Event) (next : Dialogue σ α)
  /-- An item was taken, and `rest` is what the source has left. -/
  | took (rest : σ) (next : Dialogue σ α)
  | write (text : String) (next : Dialogue σ α)
  | flush (next : Dialogue σ α)
  /-- Reads a line and goes on with it, or with `none` at the end of input. -/
  | ask (next : Option String → Dialogue σ α)

structure Terminal where
  reader : Reader
  writer : Writer := {}

/-- What happened at a terminal. Flushes are noted with the number of bytes written up to then. -/
inductive Step where
  | logged (event : Event)
  | took
  | wrote (bytes : Bytes)
  /-- Only these first bytes of a text were written, and the rest was refused. -/
  | cutShort (bytes : Bytes)
  | flushed (position : Nat)
  | read (line : Option String)
deriving DecidableEq, Repr

namespace Step

def output : Step → Bytes
  | wrote bytes => bytes
  | cutShort bytes => bytes
  | _ => []

def event? : Step → Option Event
  | logged event => some event
  | _ => none

def flush? : Step → Option Nat
  | flushed position => some position
  | _ => none

end Step

/-- A finished dialogue: its steps, its result, and the source and the terminal as it left them. -/
structure Transcript (σ α : Type) where
  steps : List Step
  result : Except Failure α
  source : σ
  terminal : Terminal

namespace Transcript

variable {σ α : Type}

def cons (step : Step) (tr : Transcript σ α) : Transcript σ α :=
  { tr with steps := step :: tr.steps }

def output (tr : Transcript σ α) : Bytes :=
  tr.steps.flatMap Step.output

def events (tr : Transcript σ α) : List Event :=
  tr.steps.filterMap Step.event?

/-- For every flush, how many bytes the writer had taken. -/
def flushes (tr : Transcript σ α) : List Nat :=
  tr.steps.filterMap Step.flush?

end Transcript

namespace Dialogue

variable {σ α : Type}

def logAll (events : List Event) (next : Dialogue σ α) : Dialogue σ α :=
  events.foldr .log next

/-- Holds the dialogue at a terminal, with a source in the state `s`. -/
def run : Dialogue σ α → σ → Terminal → Transcript σ α
  | .done result, s, terminal => ⟨[], result, s, terminal⟩
  | .log event next, s, terminal => (next.run s terminal).cons (.logged event)
  | .took rest next, _, terminal => (next.run rest terminal).cons .took
  | .write text next, s, terminal =>
    let bytes := encodeText text
    let accepted := terminal.writer.accepted bytes
    let after := { terminal with writer := terminal.writer.push accepted }
    if accepted.length = bytes.length then (next.run s after).cons (.wrote bytes)
    else ⟨[.cutShort accepted], .error (.device terminal.writer.refusal), s, after⟩
  | .flush next, s, terminal =>
    let after := { terminal with writer := terminal.writer.flush }
    match terminal.writer.nextFlushFault? with
    | none => (next.run s after).cons (.flushed terminal.writer.written)
    | some fault => ⟨[], .error (.device fault), s, after⟩
  | .ask next, s, terminal =>
    let (line, left) := terminal.reader.readLine
    let after := { terminal with reader := left }
    match line with
    | .ok line => ((next line).run s after).cons (.read line)
    | .error fault => ⟨[], .error (.device fault), s, after⟩

end Dialogue

end PrimesAndRoots

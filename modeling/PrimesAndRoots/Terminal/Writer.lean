import PrimesAndRoots.Failure
import PrimesAndRoots.Text.Basic

/-!
# Writers

A writer counts the bytes it has taken and the times it was flushed. It may take a limited number of
bytes only, and one flush may fail.
-/

namespace PrimesAndRoots

structure Writer where
  /-- How many bytes it takes in all; without a capacity there is no limit. -/
  capacity : Option Nat := none
  /-- The fault of a write beyond the capacity. It is none of the kind `interrupted`: a writer that
  was interrupted is asked again, and so does not end the write. -/
  refusal : Fault := .nothingWritten
  /-- After how many flushes the next one fails, and with what fault. -/
  flushFault : Option (Nat × Fault) := none
  written : Nat := 0
  flushes : Nat := 0
deriving Repr

namespace Writer

/-- The part of `bytes` that still finds room. -/
def accepted (w : Writer) (bytes : Bytes) : Bytes :=
  match w.capacity with
  | none => bytes
  | some capacity => bytes.take (capacity - w.written)

def push (w : Writer) (bytes : Bytes) : Writer :=
  { w with written := w.written + bytes.length }

def nextFlushFault? (w : Writer) : Option Fault :=
  match w.flushFault with
  | none => none
  | some (index, fault) => if index = w.flushes then some fault else none

/-- The writer after a flush. One that failed is not counted, and does not fail again. -/
def flush (w : Writer) : Writer :=
  match w.nextFlushFault? with
  | none => { w with flushes := w.flushes + 1 }
  | some _ => { w with flushFault := none }

end Writer

end PrimesAndRoots

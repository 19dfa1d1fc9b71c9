import PrimesAndRoots.Failure
import PrimesAndRoots.Text.Basic

/-!
# Readers

A reader hands out its bytes chunk by chunk, and a chunk may be a fault instead. Lines do not know
of chunks: a line is what stands up to and including the next line feed, or up to the end of input.
-/

namespace PrimesAndRoots

inductive Chunk where
  | bytes (bytes : Bytes)
  | fault (fault : Fault)
deriving DecidableEq, Repr

/-- What a reader has still to hand out. A chunk without bytes is the end of input, once; after the
last chunk it is the end of input for ever. -/
abbrev Reader := List Chunk

namespace Reader

def lineFeed : UInt8 := 10

def unread (r : Reader) : Bytes :=
  r.flatMap fun
    | .bytes bytes => bytes
    | .fault _ => []

def putBack (bytes : Bytes) (r : Reader) : Reader :=
  if bytes.isEmpty then r else .bytes bytes :: r

/-- Takes the bytes of one line. A reader that was interrupted is asked again; any other fault ends
the line, and the bytes taken before it are lost. -/
def takeLine : Reader → Except Fault Bytes × Reader
  | [] => (.ok [], [])
  | .fault fault :: rest =>
    if fault.kind = .interrupted then takeLine rest else (.error fault, rest)
  | .bytes [] :: rest => (.ok [], rest)
  | .bytes (b :: bs) :: rest =>
    match (b :: bs).span (· ≠ lineFeed) with
    | (line, feed :: after) => (.ok (line ++ [feed]), putBack after rest)
    | (line, []) =>
      let (more, left) := takeLine rest
      (more.map (line ++ ·), left)

/-- Reads one line as text; there is none at the end of input. -/
def readLine (r : Reader) : Except Fault (Option String) × Reader :=
  let (taken, left) := takeLine r
  let line := do
    let bytes ← taken
    if bytes.isEmpty then
      return none
    match decodeText bytes with
    | none => throw .invalidText
    | some text => return some text
  (line, left)

end Reader

end PrimesAndRoots

import PrimesAndRoots.PrimeStream

/-!
# Many items at once

Taking several items from the stream of primes. A failure is an item like any other, and nothing is
pulled beyond the items that are given, apart from the pull that finds the stream at its end.
-/

namespace PrimesAndRoots

/-- Items that were taken together, the events logged on the way, and the stream after them. -/
structure Batch (t : IntType) where
  events : List Event
  items : List (Except Failure (Word t))
  rest : PrimeStream t

namespace Batch

variable {t : IntType}

def empty (s : PrimeStream t) : Batch t :=
  ⟨[], [], s⟩

def cons (events : List Event) (item : Except Failure (Word t)) (b : Batch t) : Batch t :=
  ⟨events ++ b.events, item :: b.items, b.rest⟩

end Batch

namespace PrimeStream

variable {t : IntType}

def take (s : PrimeStream t) : Nat → Batch t
  | 0 => .empty s
  | k + 1 =>
    match s.next.item with
    | none => ⟨s.next.events, [], s.next.rest⟩
    | some item => (take s.next.rest k).cons s.next.events item

def drain (s : PrimeStream t) : Batch t :=
  match _h : s.next.item with
  | none => ⟨s.next.events, [], s.next.rest⟩
  | some item => (drain s.next.rest).cons s.next.events item
termination_by s.remaining
decreasing_by exact remaining_next_lt s (by simp [_h])

/-- Passes over `k` items and gives the one after them. -/
def nth (s : PrimeStream t) (k : Nat) : Pull (PrimeStream t) t :=
  let batch := s.take (k + 1)
  ⟨batch.events, batch.items[k]?, batch.rest⟩

def count (s : PrimeStream t) : Nat :=
  s.drain.items.length

def last? (s : PrimeStream t) : Option (Except Failure (Word t)) :=
  s.drain.items.getLast?

end PrimeStream

end PrimesAndRoots

import PrimesAndRoots.Source
import PrimesAndRoots.Verdict

/-!
# The stream of primes

The primes of an integer type in increasing order. The stream goes through the candidates one by
one; where the type has no next candidate it gives one failure, and after that nothing.
-/

namespace PrimesAndRoots

/-- The candidate that comes next, and whether the failure of the stream is still to be given. -/
structure PrimeStream (t : IntType) where
  candidate : Option (Word t)
  overflowed : Bool
deriving DecidableEq

namespace PrimeStream

variable {t : IntType}

/-- The primes from `start` on. There are none below two. -/
def startingFrom (start : Word t) : PrimeStream t where
  candidate := some (if start < 2 then 2 else start)
  overflowed := false

def all : PrimeStream t :=
  startingFrom 2

/-- Steps past the candidate `c`. Where the type has a next one, the rest stays as it was. -/
def advance (s : PrimeStream t) (c : Word t) : PrimeStream t :=
  match c.add? 1 with
  | some next => { s with candidate := some next }
  | none => { s with candidate := none, overflowed := true }

/-- What is given once where the type has no next candidate. -/
def overflow (t : IntType) : Failure :=
  .overflow ("no candidate above " ++ numeral t.max ++ " fits in the counter type")

/-- An upper bound of how many items are left. -/
def remaining (s : PrimeStream t) : Nat :=
  match s.candidate with
  | some c => (t.max - c.toInt).toNat + 2
  | none => s.overflowed.toNat

theorem remaining_advance_lt {s : PrimeStream t} {c : Word t} (h : s.candidate = some c) :
    (s.advance c).remaining < s.remaining := by
  unfold advance
  split
  · rename_i next hnext
    have succ : next.toInt = c.toInt + 1 := Word.add?_eq_some_iff.1 hnext
    have := next.fits.2
    simp only [remaining, h]
    omega
  · simp only [remaining, h, Bool.toNat_true]
    omega

/-- Passes over the composites and gives the next prime. The stream has stepped past a candidate
before it is known what that is. -/
def next (s : PrimeStream t) : Pull (PrimeStream t) t :=
  match _h : s.candidate with
  | none =>
    if s.overflowed then ⟨[], some (.error (overflow t)), { s with overflowed := false }⟩
    else ⟨[], none, s⟩
  | some c =>
    match c.verdict with
    | .prime => ⟨[.primeFound c.toInt], some (.ok c), s.advance c⟩
    | .composite d =>
      let found := next (s.advance c)
      { found with events := .compositePassed c.toInt d.toInt :: found.events }
    | .neither => next (s.advance c)
termination_by s.remaining
decreasing_by all_goals exact remaining_advance_lt _h

theorem remaining_next_lt (s : PrimeStream t) (h : s.next.item.isSome) :
    s.next.rest.remaining < s.remaining := by
  fun_induction next s with
  | case1 s hc ho => simp [remaining, hc, ho]
  | case2 => simp at h
  | case3 s c hc => exact remaining_advance_lt hc
  | case4 s c hc _ _ _ ih => exact Nat.lt_trans (ih h) (remaining_advance_lt hc)
  | case5 s c hc _ ih => exact Nat.lt_trans (ih h) (remaining_advance_lt hc)

instance : Source (PrimeStream t) t where
  pull := next
  size := remaining
  size_pull_lt := remaining_next_lt

def inspect (s : PrimeStream t) : String :=
  let candidate := match s.candidate with
    | none => "None"
    | some c => "Some(" ++ c.text ++ ")"
  "Primes \x7b candidate: " ++ candidate ++ ", overflowed: " ++
    (if s.overflowed then "true" else "false") ++ " \x7d"

end PrimeStream

end PrimesAndRoots

import Mathlib.Data.Int.Range
import Mathlib.Data.List.Forall2
import PrimesAndRoots.Proofs.StreamStates

/-!
# The log of the stream of primes

What the pulls of a stream log, taken together. `Covers` says that entries tell of every number of
an interval, each once and in increasing order. A pull covers the numbers from the front of its
stream up to the front of what it leaves, so pulls one after the other leave no gap between them.

The stream steps past a candidate before it is known what the pull gives. So the composites behind
the last prime of the type are logged by the pull that fails, and `front` is the greatest value plus
one on both sides of the failure.
-/

namespace PrimesAndRoots

namespace Record

/-- The log entry tells what was found out about the candidate `m`. -/
inductive TellsOf (m : Int) : Record → Prop where
  | prime : IsPrime m →
      TellsOf m ⟨.debug, "trialroot::enumerator", "Found prime", [("prime", toString m)]⟩
  | composite {d : Int} : IsLeastDivisor m d →
      TellsOf m ⟨.trace, "trialroot::enumerator", "Candidate is composite",
        [("candidate", toString m), ("divisor", toString d)]⟩

/-- The entries tell of the numbers from `low` up to `high`, which is left out: one entry for each
of them, in increasing order. -/
def Covers (low high : Int) (entries : List Record) : Prop :=
  low ≤ high ∧ List.Forall₂ TellsOf (Int.range low high) entries

namespace Covers

variable {a b c m : Int} {entry : Record} {entries later : List Record}

theorem nil (a : Int) : Covers a a [] := by
  simp [Covers, Int.range]

theorem single (h : TellsOf m entry) : Covers m (m + 1) [entry] := by
  simp [Covers, Int.range, h]

/-- Intervals that meet are covered by the entries of the one and then those of the other. -/
theorem append (h : Covers a b entries) (h' : Covers b c later) :
    Covers a c (entries ++ later) := by
  obtain ⟨hab, hentries⟩ := h
  obtain ⟨hbc, hlater⟩ := h'
  have hrange : Int.range a c = Int.range a b ++ Int.range b c := by
    have hlength : (c - a).toNat = (b - a).toNat + (c - b).toNat := by omega
    simp only [Int.range, hlength, List.range_add, List.map_append, List.map_map]
    congr 2
    funext i
    simp only [Function.comp_apply]
    omega
  exact ⟨Int.le_trans hab hbc, hrange ▸ List.rel_append hentries hlater⟩

end Covers

end Record

namespace PrimeStream

open Record Source

variable {t : IntType}

/-- The least number that the stream has not yet judged. -/
def front (s : PrimeStream t) : Int :=
  match s.candidate with
  | some c => c.toInt
  | none => t.max + 1

theorem front_of_candidate {s : PrimeStream t} {c : Word t} (h : s.candidate = some c) :
    s.front = c.toInt := by
  rw [front, h]

theorem front_of_none {s : PrimeStream t} (h : s.candidate = none) : s.front = t.max + 1 := by
  rw [front, h]

theorem front_advance (s : PrimeStream t) (c : Word t) : (s.advance c).front = c.toInt + 1 := by
  cases hnext : c.add? 1 with
  | none =>
    have hmax := Word.add?_one_eq_none_iff.1 hnext
    rw [advance_of_none s hnext, front_of_none rfl, hmax]
  | some next =>
    have succ : next.toInt = c.toInt + 1 := Word.add?_eq_some_iff.1 hnext
    rw [advance_of_some s hnext, front_of_candidate rfl, succ]

/-- What a pull logs about the item it gives: a prime is reported, a failure is not. -/
def found : Option (Except Failure (Word t)) → List Event
  | some (.ok p) => [.primeFound p.toInt]
  | _ => []

def logged (s : PrimeStream t) (k : Nat) : List Record :=
  (List.range k).flatMap fun i => (afterPulls s i).next.events.map Event.record

theorem logged_succ (s : PrimeStream t) (k : Nat) :
    logged s (k + 1) = logged s k ++ (afterPulls s k).next.events.map Event.record := by
  simp [logged, List.range_succ]

/-! ## One pull -/

/-- A pull passes over composites, and reports the prime that ends it. -/
theorem events_next (s : PrimeStream t) :
    ∃ passed : List (Int × Int), s.next.events =
      passed.map (fun (m, d) => .compositePassed m d) ++ found s.next.item := by
  fun_induction next s with
  | case1 | case2 | case3 => exact ⟨[], rfl⟩
  | case4 s c _ d _ _ ih =>
    obtain ⟨passed, hpassed⟩ := ih
    exact ⟨(c.toInt, d.toInt) :: passed, congrArg _ hpassed⟩
  | case5 s c _ _ ih => exact ih

/-- A pull covers what lies between the front of the stream and the front it leaves. Candidates
below two would leave a gap, as they are passed over without an entry. -/
theorem covers_next {s : PrimeStream t} (hs : s.WellFormed) :
    Covers s.front s.next.rest.front (s.next.events.map Event.record) := by
  fun_induction next s with
  | case1 | case2 => exact .nil _
  | case3 s c hc hv =>
    have htells : TellsOf c.toInt (Event.record (.primeFound c.toInt)) := by
      rw [Event.record, numeral_eq_toString]
      exact .prime (Word.verdict_eq_iff.1 hv)
    rw [front_of_candidate hc, front_advance]
    exact Covers.single htells
  | case4 s c hc d hv _ ih =>
    have htells : TellsOf c.toInt (Event.record (.compositePassed c.toInt d.toInt)) := by
      rw [Event.record, numeral_eq_toString, numeral_eq_toString]
      exact .composite (Word.verdict_eq_iff.1 hv)
    have hlater := ih (hs.advance hc)
    rw [front_advance] at hlater
    rw [front_of_candidate hc]
    exact (Covers.single htells).append hlater
  | case5 s c hc hv => exact absurd hv (hs.verdict_ne_neither hc)

/-- The front that a pull leaves lies right behind a prime it gives, and otherwise behind the
greatest value of the type. -/
theorem front_rest_of_ok {s : PrimeStream t} {p : Word t} (h : s.next.item = some (.ok p)) :
    s.next.rest.front = p.toInt + 1 := by
  rw [(rest_of_item_eq_ok h).2, front_advance]

theorem front_rest_of_error {s : PrimeStream t} {failure : Failure}
    (h : s.next.item = some (.error failure)) : s.next.rest.front = t.max + 1 := by
  rw [rest_of_item_eq_error h, front_of_none rfl]

/-! ## Many pulls -/

/-- By induction over the pulls, each of which begins at the front that the one before has left. -/
theorem covers_logged {s : PrimeStream t} (hs : s.WellFormed) (k : Nat) :
    Covers s.front (afterPulls s k).front (logged s k) := by
  induction k with
  | zero => exact .nil _
  | succ k ih =>
    rw [logged_succ, afterPulls_succ]
    exact ih.append (covers_next (hs.afterPulls k))

/-- A stream that starts from `start` logs what it finds out about every number from there on, each
number once and in increasing order. Pulls up to one that gives the prime `p` have told of all
numbers up to `p`, and those up to the failure, which comes in the end, of all numbers of the type.
Each single pull tells of composites first, and then of the prime that it gives, if it gives one. -/
theorem pulls_log_every_candidate (start : Word t) :
    (∀ k p, (afterPulls (startingFrom start) k).next.item = some (.ok p) →
        Covers (max start.toInt 2) (p.toInt + 1) (logged (startingFrom start) (k + 1))) ∧
      (∀ k failure, (afterPulls (startingFrom start) k).next.item = some (.error failure) →
        Covers (max start.toInt 2) (t.max + 1) (logged (startingFrom start) (k + 1))) ∧
      (∃ k, (afterPulls (startingFrom start) k).next.item = some (.error (.overflow
        ("no candidate above " ++ toString t.max ++ " fits in the counter type")))) ∧
      ∀ k, ∃ passed : List (Int × Int), (afterPulls (startingFrom start) k).next.events =
        passed.map (fun (m, d) => .compositePassed m d) ++
          found (afterPulls (startingFrom start) k).next.item := by
  obtain ⟨c, hstart, hc⟩ := startingFrom_eq start
  have hcovers (k : Nat) :
      Covers (max start.toInt 2) (afterPulls (startingFrom start) k).next.rest.front
        (logged (startingFrom start) (k + 1)) := by
    have h := covers_logged (.startingFrom start) (k + 1)
    have hfront : (startingFrom start).front = max start.toInt 2 := by
      rw [← hc, front_of_candidate (by rw [hstart])]
    rwa [afterPulls_succ, hfront] at h
  refine ⟨fun k p hp => ?_, fun k failure hfailure => ?_, ?_, fun k => events_next _⟩
  · exact front_rest_of_ok hp ▸ hcovers k
  · exact front_rest_of_error hfailure ▸ hcovers k
  · obtain ⟨words, -, -, hitems⟩ := items_startingFrom start
    refine ⟨words.length, ?_⟩
    simp [item_next_afterPulls, hitems]

end PrimeStream

end PrimesAndRoots

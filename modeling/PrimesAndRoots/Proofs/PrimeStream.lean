import PrimesAndRoots.PrimeStream
import PrimesAndRoots.Proofs.Numeral
import PrimesAndRoots.Proofs.Source
import PrimesAndRoots.Proofs.TrialDivision

/-!
# The items of the stream of primes

A stream that searches from `c` gives the primes among the words from `c` up, then one failure, then
nothing. The words are gone through one by one, so the proofs go by `Word.upward_induction`: down
from the greatest value of the type, each word after its successor.
-/

namespace PrimesAndRoots

namespace Word

variable {t : IntType}

theorem add?_one_eq_none_iff {c : Word t} : c.add? 1 = none ↔ c.toInt = t.max := by
  have := c.fits.1
  have := c.fits.2
  rw [add?, ofInt?_eq_none_iff, toInt_one, IntType.Fits]
  omega

/-- What holds of the greatest word, and of every word whose successor it holds of, holds of all. -/
theorem upward_induction {P : Word t → Prop} (top : ∀ c, c.add? 1 = none → P c)
    (step : ∀ c next, c.add? 1 = some next → P next → P c) (c : Word t) : P c := by
  generalize hgap : (t.max - c.toInt).toNat = gap
  induction gap generalizing c with
  | zero =>
    have := c.fits.2
    exact top c (add?_one_eq_none_iff.2 (by omega))
  | succ gap ih =>
    cases hnext : c.add? 1 with
    | none => exact top c hnext
    | some next =>
      have succ : next.toInt = c.toInt + 1 := add?_eq_some_iff.1 hnext
      exact step c next hnext (ih next (by omega))

def upward (c : Word t) : List (Word t) :=
  progression c 1 ((t.max - c.toInt).toNat + 1)

theorem upward_of_none {c : Word t} (h : c.add? 1 = none) : upward c = [c] := by
  rw [upward, progression, h]

theorem upward_of_some {c next : Word t} (h : c.add? 1 = some next) :
    upward c = c :: upward next := by
  have succ : next.toInt = c.toInt + 1 := add?_eq_some_iff.1 h
  have := next.fits.2
  rw [upward, progression, h, upward,
    show (t.max - c.toInt).toNat = (t.max - next.toInt).toNat + 1 by omega]

theorem mem_upward {c w : Word t} : w ∈ upward c ↔ c ≤ w := by
  induction c using upward_induction with
  | top c h =>
    have hmax := add?_one_eq_none_iff.1 h
    have := w.fits.2
    rw [upward_of_none h, List.mem_singleton, Word.ext_iff, le_iff]
    omega
  | step c next h ih =>
    have succ : next.toInt = c.toInt + 1 := add?_eq_some_iff.1 h
    rw [upward_of_some h, List.mem_cons, ih, Word.ext_iff, le_iff, le_iff]
    omega

theorem pairwise_upward (c : Word t) : (upward c).Pairwise (· < ·) := by
  induction c using upward_induction with
  | top c h =>
    rw [upward_of_none h]
    exact List.pairwise_singleton _ _
  | step c next h ih =>
    rw [upward_of_some h, List.pairwise_cons]
    refine ⟨fun w hw => ?_, ih⟩
    have succ : next.toInt = c.toInt + 1 := add?_eq_some_iff.1 h
    have := le_iff.1 (mem_upward.1 hw)
    rw [lt_iff]
    omega

/-- The primes of the type from `c` up, in increasing order. -/
def primesFrom (c : Word t) : List (Word t) :=
  c.upward.filter fun w => IsPrime w.toInt

theorem mem_primesFrom {c w : Word t} : w ∈ primesFrom c ↔ c ≤ w ∧ IsPrime w.toInt := by
  rw [primesFrom, List.mem_filter, mem_upward, decide_eq_true_iff]

theorem mem_map_primesFrom {c : Word t} {n : Int} :
    n ∈ c.primesFrom.map toInt ↔ c.toInt ≤ n ∧ n ≤ t.max ∧ IsPrime n := by
  rw [List.mem_map]
  constructor
  · rintro ⟨w, hw, rfl⟩
    obtain ⟨hle, hp⟩ := mem_primesFrom.1 hw
    exact ⟨hle, w.fits.2, hp⟩
  · rintro ⟨hle, hmax, hp⟩
    exact ⟨⟨n, Int.le_trans c.fits.1 hle, hmax⟩, mem_primesFrom.2 ⟨hle, hp⟩, rfl⟩

theorem pairwise_primesFrom (c : Word t) : (primesFrom c).Pairwise (· < ·) :=
  (pairwise_upward c).filter _

end Word

namespace PrimeStream

open Source

variable {t : IntType}

/-! ## One pull -/

/-- The stream that has given its failure. -/
def exhausted : PrimeStream t :=
  ⟨none, false⟩

section

variable {s : PrimeStream t} {c : Word t}

theorem advance_of_none (s : PrimeStream t) (h : c.add? 1 = none) : s.advance c = ⟨none, true⟩ := by
  rw [advance, h]

theorem advance_of_some {next : Word t} (s : PrimeStream t) (h : c.add? 1 = some next) :
    s.advance c = ⟨some next, s.overflowed⟩ := by
  rw [advance, h]

theorem next_exhausted : (exhausted : PrimeStream t).next = ⟨[], none, exhausted⟩ := by
  rw [next]
  rfl

theorem next_overflowed :
    (⟨none, true⟩ : PrimeStream t).next = ⟨[], some (.error (overflow t)), exhausted⟩ := by
  rw [next]
  rfl

theorem next_of_prime (hc : s.candidate = some c) (h : IsPrime c.toInt) :
    s.next = ⟨[.primeFound c.toInt], some (.ok c), s.advance c⟩ := by
  have hv : c.verdict = .prime := Word.verdict_eq_iff.2 h
  rw [next]
  grind

/-- A candidate that is no prime leaves no trace but its events. -/
theorem next_of_not_prime (hc : s.candidate = some c) (h : ¬IsPrime c.toInt) :
    s.next.item = (s.advance c).next.item ∧ s.next.rest = (s.advance c).next.rest := by
  have hv : c.verdict ≠ .prime := fun hv => h (Word.verdict_eq_iff.1 hv)
  rw [next]
  grind

theorem lt_of_advance {d : Word t} (h : (s.advance c).candidate = some d) : c < d := by
  cases hnext : c.add? 1 with
  | none => simp [advance_of_none s hnext] at h
  | some next =>
    have succ : next.toInt = c.toInt + 1 := Word.add?_eq_some_iff.1 hnext
    obtain rfl : next = d := by simpa [advance_of_some s hnext] using h
    rw [Word.lt_iff]
    omega

/-- The candidate only ever grows. -/
theorem lt_of_next_rest {d : Word t} (h : s.next.rest.candidate = some d) :
    ∃ c, s.candidate = some c ∧ c < d := by
  fun_induction next s with
  | case1 s hc => simp [hc] at h
  | case2 s hc => simp [hc] at h
  | case3 s c hc => exact ⟨c, hc, lt_of_advance h⟩
  | case4 s c hc _ _ _ ih | case5 s c hc _ ih =>
    obtain ⟨e, he, hlt⟩ := ih h
    exact ⟨c, hc, Int.lt_trans (lt_of_advance he) hlt⟩

end

/-! ## The items that are left -/

theorem pull_eq_next (s : PrimeStream t) : Source.pull s = s.next := rfl

theorem items_exhausted : items (exhausted : PrimeStream t) = [] :=
  items_of_none (by rw [pull_eq_next, next_exhausted])

theorem items_overflowed : items (⟨none, true⟩ : PrimeStream t) = [.error (overflow t)] := by
  have hpull : Source.pull (⟨none, true⟩ : PrimeStream t) =
      ⟨[], some (.error (overflow t)), exhausted⟩ := next_overflowed
  rw [items_of_some (by rw [hpull]), hpull, items_exhausted]

theorem items_of_prime {s : PrimeStream t} {c : Word t} (hc : s.candidate = some c)
    (h : IsPrime c.toInt) : items s = .ok c :: items (s.advance c) := by
  have hpull : Source.pull s = ⟨[.primeFound c.toInt], some (.ok c), s.advance c⟩ :=
    next_of_prime hc h
  rw [items_of_some (by rw [hpull]), hpull]

theorem items_of_not_prime {s : PrimeStream t} {c : Word t} (hc : s.candidate = some c)
    (h : ¬IsPrime c.toInt) : items s = items (s.advance c) :=
  items_congr (next_of_not_prime hc h).1 (next_of_not_prime hc h).2

/-- From the candidate `c` on the stream gives the primes from `c` up, and one failure. -/
theorem items_of_candidate {s : PrimeStream t} {c : Word t} (hc : s.candidate = some c) :
    items s = c.primesFrom.map .ok ++ [.error (overflow t)] := by
  induction c using Word.upward_induction generalizing s with
  | top c h =>
    rw [Word.primesFrom, Word.upward_of_none h]
    by_cases hp : IsPrime c.toInt
    · simp [items_of_prime hc hp, advance_of_none s h, items_overflowed, hp]
    · simp [items_of_not_prime hc hp, advance_of_none s h, items_overflowed, hp]
  | step c next h ih =>
    have hrest : items (s.advance c) = next.primesFrom.map .ok ++ [.error (overflow t)] :=
      ih (by rw [advance_of_some s h])
    rw [Word.primesFrom] at hrest
    rw [Word.primesFrom, Word.upward_of_some h]
    by_cases hp : IsPrime c.toInt
    · simp [items_of_prime hc hp, hrest, hp]
    · simp [items_of_not_prime hc hp, hrest, hp]

/-- Until its end, the last thing a stream has to give is its failure. -/
theorem exists_items_eq {s : PrimeStream t} (h : s ≠ exhausted) :
    ∃ words : List (Word t), items s = words.map .ok ++ [.error (overflow t)] := by
  match s with
  | ⟨some c, _⟩ => exact ⟨c.primesFrom, items_of_candidate rfl⟩
  | ⟨none, true⟩ => exact ⟨[], items_overflowed⟩
  | ⟨none, false⟩ => exact absurd rfl h

theorem items_eq_nil_iff {s : PrimeStream t} : items s = [] ↔ s = exhausted := by
  by_cases h : s = exhausted
  · simp [h, items_exhausted]
  · obtain ⟨words, hitems⟩ := exists_items_eq h
    simp [h, hitems]

/-- Every pull takes the first item away, and at the end of the stream there is none to take. -/
theorem items_next_rest (s : PrimeStream t) : items s.next.rest = (items s).tail := by
  cases h : s.next.item with
  | some item => rw [items_of_some h, List.tail_cons, pull_eq_next]
  | none =>
    obtain rfl := items_eq_nil_iff.1 (items_of_none h)
    rw [next_exhausted, items_exhausted, List.tail_nil]

theorem items_afterPulls (s : PrimeStream t) (k : Nat) :
    items (afterPulls s k) = (items s).drop k := by
  induction k generalizing s with
  | zero => rfl
  | succ k ih => rw [afterPulls, ih, pull_eq_next, items_next_rest, List.drop_tail]

theorem item_next_afterPulls (s : PrimeStream t) (k : Nat) :
    (afterPulls s k).next.item = (items s)[k]? := by
  rw [← pull_eq_next, item_pull, items_afterPulls, List.head?_drop]

/-- Candidates grow from pull to pull: none is met twice, and none wraps around. -/
theorem candidate_lt_of_lt {s : PrimeStream t} {j k : Nat} {c d : Word t} (hjk : j < k)
    (hc : (afterPulls s j).candidate = some c) (hd : (afterPulls s k).candidate = some d) :
    c < d := by
  induction k, hjk using Nat.le_induction generalizing d with
  | base =>
    rw [afterPulls_succ] at hd
    obtain ⟨e, he, hlt⟩ := lt_of_next_rest hd
    cases hc.symm.trans he
    exact hlt
  | succ k _ ih =>
    rw [afterPulls_succ] at hd
    obtain ⟨e, he, hlt⟩ := lt_of_next_rest hd
    exact Int.lt_trans (ih he) hlt

/-! ## The whole stream -/

/-- A stream begins its search at two at the earliest. -/
theorem startingFrom_eq (s : Word t) :
    ∃ c : Word t, startingFrom s = ⟨some c, false⟩ ∧ c.toInt = max s.toInt 2 := by
  refine ⟨_, rfl, ?_⟩
  split
  · rename_i h
    have : s.toInt < 2 := h
    rw [Word.toInt_two]
    omega
  · rename_i h
    have : ¬s.toInt < 2 := h
    omega

theorem overflow_eq (t : IntType) :
    overflow t =
      .overflow ("no candidate above " ++ toString t.max ++ " fits in the counter type") := by
  rw [overflow, numeral_eq_toString]

/-- The items of a stream are the primes from its start on, in increasing order, and the failure. -/
theorem items_startingFrom (s : Word t) :
    ∃ words : List (Word t), words.Pairwise (· < ·) ∧
      (∀ n : Int, n ∈ words.map Word.toInt ↔ max s.toInt 2 ≤ n ∧ n ≤ t.max ∧ IsPrime n) ∧
      items (startingFrom s) = words.map .ok ++ [.error (.overflow
        ("no candidate above " ++ toString t.max ++ " fits in the counter type"))] := by
  obtain ⟨c, hstart, hc⟩ := startingFrom_eq s
  refine ⟨c.primesFrom, Word.pairwise_primesFrom c, fun n => hc ▸ Word.mem_map_primesFrom, ?_⟩
  rw [items_of_candidate (by rw [hstart]), overflow_eq]

/-- The greatest values of the signed types of 8, 32 and 128 bits are primes of the form that
the test of Lucas and Lehmer decides. -/
theorem isPrime_max (hs : t.signed = true) (hb : t.bits ∈ [8, 32, 128]) : IsPrime t.max := by
  rw [IntType.max, IntType.valueBits, if_pos hs]
  simp only [List.mem_cons, List.not_mem_nil, or_false] at hb
  apply isPrime_two_pow_sub_one
  rcases hb with hb | hb | hb <;> rw [hb] <;>
    exact lucas_lehmer_sufficiency _ (by norm_num) (by norm_num)

/-- The pulls of a stream that starts from `s` give every prime of the type from `s` on, each once
and in increasing order, then one failure that names the greatest value of the type, and nothing
from then on. The candidate never turns back on the way, and a greatest value that is prime is
among the primes. -/
theorem pulls_of_startingFrom (s : Word t) :
    ∃ primes : List (Word t),
      primes.Pairwise (· < ·) ∧
      (∀ n : Int, n ∈ primes.map Word.toInt ↔ max s.toInt 2 ≤ n ∧ n ≤ t.max ∧ IsPrime n) ∧
      (∀ k, (afterPulls (startingFrom s) k).next.item =
        (primes.map Except.ok ++ [.error (.overflow
          ("no candidate above " ++ toString t.max ++ " fits in the counter type"))])[k]?) ∧
      (∀ j k c d, j < k → (afterPulls (startingFrom s) j).candidate = some c →
        (afterPulls (startingFrom s) k).candidate = some d → c < d) ∧
      (t.signed = true ∧ t.bits ∈ [8, 32, 128] → t.max ∈ primes.map Word.toInt) := by
  obtain ⟨primes, hsorted, hmem, hitems⟩ := items_startingFrom s
  refine ⟨primes, hsorted, hmem, ?_, ?_, ?_⟩
  · intro k
    rw [item_next_afterPulls, hitems]
  · intro j k d e hjk hd he
    exact candidate_lt_of_lt hjk hd he
  · rintro ⟨hs, hb⟩
    have hp : IsPrime t.max := isPrime_max hs hb
    exact (hmem t.max).2 ⟨by have := s.fits.2; have := hp.1; omega, Int.le_refl _, hp⟩

end PrimeStream

end PrimesAndRoots

import Mathlib.NumberTheory.LucasLehmer
import PrimesAndRoots.Verdict

/-!
# What trial division finds

Primality and least divisors of integers, and the proof that the verdict on a word is the right one.
The search keeps one invariant, `NoDivisorBelow`: when it tries `d`, nothing from two up to `d`
divides the number. `verdict_eq_iff` is what the rest of the theory knows about verdicts. The turns
of the search are told by `TriesAt`, and none of them leaves the numbers from two to `n`.
-/

namespace PrimesAndRoots

/-- Nothing from two up to `d`, which is left out, divides `n`. -/
def NoDivisorBelow (n d : Int) : Prop :=
  ∀ e, 2 ≤ e → e < d → ¬e ∣ n

/-- A prime is at least two, and nothing from two up to itself divides it. -/
def IsPrime (n : Int) : Prop :=
  2 ≤ n ∧ NoDivisorBelow n n

/-- The least divisor of `n` from two up, where it is smaller than `n`. -/
def IsLeastDivisor (n d : Int) : Prop :=
  2 ≤ d ∧ d < n ∧ d ∣ n ∧ NoDivisorBelow n d

/-- A least divisor is a prime, since what divides it divides the number as well. -/
theorem IsLeastDivisor.isPrime {n d : Int} (h : IsLeastDivisor n d) : IsPrime d := by
  obtain ⟨hd, -, hdvd, below⟩ := h
  refine ⟨hd, fun e he hlt hed => ?_⟩
  exact below e he hlt (Int.dvd_trans hed hdvd)

theorem isPrime_iff_prime_toNat {n : Int} : IsPrime n ↔ n.toNat.Prime := by
  rw [Nat.prime_def_lt']
  constructor
  · rintro ⟨hn, below⟩
    refine ⟨by omega, fun d hd hlt hdvd => below d (by omega) (by omega) ?_⟩
    rw [← Int.toNat_of_nonneg (show 0 ≤ n by omega)]
    exact Int.natCast_dvd_natCast.2 hdvd
  · rintro ⟨hn, below⟩
    refine ⟨by omega, fun d hd hlt hdvd => below d.toNat (by omega) (by omega) ?_⟩
    rw [← Int.natCast_dvd_natCast, Int.toNat_of_nonneg (by omega), Int.toNat_of_nonneg (by omega)]
    exact hdvd

instance (n : Int) : Decidable (IsPrime n) :=
  decidable_of_iff _ isPrime_iff_prime_toNat.symm

theorem isPrime_two_pow_sub_one {p : Nat} (h : (mersenne p).Prime) : IsPrime (2 ^ p - 1) := by
  have cast : (2 ^ p - 1 : Int) = (mersenne p : Nat) := by
    rw [mersenne, Nat.cast_sub Nat.one_le_two_pow]
    norm_cast
  rwa [cast, isPrime_iff_prime_toNat, Int.toNat_natCast]

namespace NoDivisorBelow

variable {n d : Int}

theorem two (n : Int) : NoDivisorBelow n 2 := by
  intro e _ _
  omega

/-- The step of the search: a number that does not divide `n` can be passed over. -/
theorem succ (h : NoDivisorBelow n d) (hd : ¬d ∣ n) : NoDivisorBelow n (d + 1) := by
  intro e he hlt hdvd
  by_cases heq : e = d
  · exact hd (heq ▸ hdvd)
  · exact h e he (by omega) hdvd

end NoDivisorBelow

namespace Verdict

variable {t : IntType}

def Holds (n : Word t) : Verdict t → Prop
  | prime => IsPrime n.toInt
  | composite d => IsLeastDivisor n.toInt d.toInt
  | neither => n.toInt < 2

/-- No two verdicts are true of one number. -/
theorem Holds.unique {n : Word t} {v v' : Verdict t} (h : v.Holds n) (h' : v'.Holds n) :
    v = v' := by
  have least {d e : Word t} (hd : IsLeastDivisor n.toInt d.toInt)
      (he : IsLeastDivisor n.toInt e.toInt) : d.toInt ≤ e.toInt :=
    Int.not_lt.1 fun hlt => hd.2.2.2 e.toInt he.1 hlt he.2.2.1
  cases v <;> cases v' <;> simp only [Holds] at h h'
  case prime.prime | neither.neither => rfl
  case prime.composite d => exact absurd h'.2.2.1 (h.2 d.toInt h'.1 h'.2.1)
  case composite.prime d => exact absurd h.2.2.1 (h'.2 d.toInt h.1 h.2.1)
  case composite.composite d e =>
    rw [Word.ext (Int.le_antisymm (least h h') (least h' h))]
  case prime.neither => exact absurd h.1 (Int.not_le.2 h')
  case neither.prime => exact absurd h'.1 (Int.not_le.2 h)
  case composite.neither => have := h.1; have := h.2.1; omega
  case neither.composite => have := h'.1; have := h'.2.1; omega

end Verdict

namespace Word

variable {t : IntType}

theorem not_dvd_of_rem?_ne_zero {n d r : Word t} (hr : n.rem? d = some r) (hr0 : r ≠ 0) :
    ¬d.toInt ∣ n.toInt := by
  intro hdvd
  have hrem := (rem?_eq_some_iff.1 hr).2
  rw [Int.tmod_eq_zero_of_dvd hdvd] at hrem
  exact hr0 (eq_zero_iff.2 hrem)

/-- What the search tells from `d` on is true, as long as it has passed over every divisor below
`d`. -/
theorem holds_of_probe?_eq_some {n d : Word t} {v : Verdict t} (hd : 2 ≤ d) (hn : d ≤ n)
    (below : NoDivisorBelow n.toInt d.toInt) (h : probe? n d = some v) : v.Holds n := by
  rw [le_iff] at hd hn
  simp only [toInt_two] at hd
  fun_induction probe? n d with
  | case1 =>
    cases h
    exact ⟨hd, below⟩
  | case2 => contradiction
  | case3 d hne hr =>
    cases h
    have lt : d.toInt < n.toInt := Int.lt_iff_le_and_ne.2 ⟨hn, fun h => hne (Word.ext h)⟩
    have zero : n.toInt.tmod d.toInt = 0 := (rem?_eq_some_iff.1 hr).2.symm
    exact ⟨hd, lt, Int.dvd_of_tmod_eq_zero zero, below⟩
  | case4 => contradiction
  | case5 d hne r hr hr0 next hnext ih =>
    have lt : d.toInt < n.toInt := Int.lt_iff_le_and_ne.2 ⟨hn, fun h => hne (Word.ext h)⟩
    have succ : next.toInt = d.toInt + 1 := add?_eq_some_iff.1 hnext
    have ndvd : ¬d.toInt ∣ n.toInt := not_dvd_of_rem?_ne_zero hr hr0
    exact ih (by omega) (by omega) (succ ▸ below.succ ndvd) h

theorem holds_verdict (n : Word t) : n.verdict.Holds n := by
  unfold verdict
  split
  · assumption
  · rename_i h
    exact holds_of_probe?_eq_some (Int.le_refl 2) (Int.not_lt.1 h) (.two _)
      (Option.some_get _).symm

/-- The verdict on `n` is the one that is true of it. -/
theorem verdict_eq_iff {n : Word t} {v : Verdict t} : n.verdict = v ↔ v.Holds n :=
  ⟨fun h => h ▸ holds_verdict n, fun h => (holds_verdict n).unique h⟩

/-! ## The search, turn by turn -/

/-- The search on `n` tries `d` at its turn number `k`. It begins with two, and goes on to the next
number behind one that is neither `n` nor a divisor of `n`. -/
inductive TriesAt (n : Word t) : Nat → Word t → Prop where
  | first : TriesAt n 0 2
  | next {k : Nat} {d r next : Word t} : TriesAt n k d → d ≠ n → n.rem? d = some r → r ≠ 0 →
      d.add? 1 = some next → TriesAt n (k + 1) next

namespace TriesAt

variable {n d : Word t} {k : Nat}

/-- Each turn tries the next number, so a number tells its turn. -/
theorem toInt_eq (h : TriesAt n k d) : d.toInt = k + 2 := by
  induction h with
  | first => rfl
  | @next k d r next _ _ _ _ hnext ih =>
    have succ : next.toInt = d.toInt + 1 := add?_eq_some_iff.1 hnext
    omega

/-- No turn comes behind the one that tries `n` itself. -/
theorem le (h : TriesAt n k d) (hn : 2 ≤ n.toInt) : d.toInt ≤ n.toInt := by
  induction h with
  | first => exact hn
  | @next k d r next _ hne _ _ hnext ih =>
    have succ : next.toInt = d.toInt + 1 := add?_eq_some_iff.1 hnext
    have : d.toInt ≠ n.toInt := fun h => hne (Word.ext h)
    omega

/-- What the search tells from any of its turns on is the verdict. -/
theorem probe?_eq (h : TriesAt n k d) (hn : 2 ≤ n.toInt) : probe? n d = some n.verdict := by
  induction h with
  | first =>
    have : ¬n < 2 := Int.not_lt.2 hn
    rw [verdict, dif_neg this, Option.some_get]
  | @next k d r next _ hne hr hr0 hnext ih =>
    rw [probe?, if_neg hne, hr] at ih
    simp only [if_neg hr0] at ih
    split at ih
    · contradiction
    · rename_i next' hnext'
      obtain rfl : next' = next := Option.some.inj (hnext'.symm.trans hnext)
      exact ih

/-- A turn that tries `n` tells a prime, one that tries a divisor tells a composite, and any other
has a turn behind it. The remainder and the next number are there when a turn asks for them. -/
theorem goes_on (h : TriesAt n k d) (hn : 2 ≤ n.toInt) :
    d = n ∧ n.verdict = .prime ∨
      d ≠ n ∧ ∃ r, n.rem? d = some r ∧
        (r = 0 ∧ n.verdict = .composite d ∨
          r ≠ 0 ∧ ∃ next, d.add? 1 = some next ∧ TriesAt n (k + 1) next) := by
  have hverdict := h.probe?_eq hn
  rw [probe?] at hverdict
  by_cases hd : d = n
  · rw [if_pos hd] at hverdict
    exact .inl ⟨hd, (Option.some.inj hverdict).symm⟩
  · refine .inr ⟨hd, ?_⟩
    rw [if_neg hd] at hverdict
    split at hverdict
    · contradiction
    · rename_i r hr
      refine ⟨r, hr, ?_⟩
      split at hverdict
      · rename_i hr0
        exact .inl ⟨hr0, (Option.some.inj hverdict).symm⟩
      · rename_i hr0
        split at hverdict
        · contradiction
        · rename_i next hnext
          exact .inr ⟨hr0, next, hnext, h.next hd hr hr0 hnext⟩

end TriesAt

/-- Trial division ends with the right verdict on every word: neither below two, prime where nothing
from two up to the word divides it, and otherwise composite, with the least divisor from two up,
which is a prime. Each turn of the search tries the number behind that of the turn before, and none
goes past the word, so there are only so many turns. In each of them the remainder and the next
number are defined where they are needed, also for the greatest word of the type. -/
theorem verdict_tells_least_divisor (n : Word t) :
    (n.verdict = .neither ↔ n.toInt < 2) ∧
      (n.verdict = .prime ↔ 2 ≤ n.toInt ∧ ∀ d, 2 ≤ d → d < n.toInt → ¬d ∣ n.toInt) ∧
      ((∃ d, n.verdict = .composite d) ↔
        2 ≤ n.toInt ∧ ∃ d, 2 ≤ d ∧ d < n.toInt ∧ d ∣ n.toInt) ∧
      (∀ d, n.verdict = .composite d → 2 ≤ d.toInt ∧ d.toInt ∣ n.toInt ∧
        (∀ e, 2 ≤ e → e ∣ n.toInt → d.toInt ≤ e) ∧ IsPrime d.toInt) ∧
      (2 ≤ n.toInt → ∀ k d, TriesAt n k d →
        2 ≤ d.toInt ∧ d.toInt ≤ n.toInt ∧ d.toInt = k + 2 ∧ probe? n d = some n.verdict ∧
          (d = n ∧ n.verdict = .prime ∨
            d ≠ n ∧ ∃ r, n.rem? d = some r ∧
              (r = 0 ∧ n.verdict = .composite d ∨
                r ≠ 0 ∧ ∃ next, d.add? 1 = some next ∧ TriesAt n (k + 1) next))) := by
  refine ⟨verdict_eq_iff, verdict_eq_iff, ⟨?_, ?_⟩, ?_, ?_⟩
  · rintro ⟨d, hd⟩
    obtain ⟨h2, hlt, hdvd, -⟩ := verdict_eq_iff.1 hd
    exact ⟨by omega, d.toInt, h2, hlt, hdvd⟩
  · rintro ⟨hn, d, h2, hlt, hdvd⟩
    cases hv : n.verdict with
    | composite e => exact ⟨e, rfl⟩
    | prime => exact absurd hdvd ((verdict_eq_iff.1 hv).2 d h2 hlt)
    | neither => exact absurd (verdict_eq_iff.1 hv) (Int.not_lt.2 hn)
  · intro d hd
    have hleast : IsLeastDivisor n.toInt d.toInt := verdict_eq_iff.1 hd
    have hprime := hleast.isPrime
    obtain ⟨h2, -, hdvd, below⟩ := hleast
    refine ⟨h2, hdvd, fun e he hedvd => ?_, hprime⟩
    exact Int.not_lt.1 fun hlt => below e he hlt hedvd
  · intro hn k d h
    have hk := h.toInt_eq
    exact ⟨by omega, h.le hn, hk, h.probe?_eq hn, h.goes_on hn⟩

end Word

end PrimesAndRoots

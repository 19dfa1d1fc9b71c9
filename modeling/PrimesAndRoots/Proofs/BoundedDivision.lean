import PrimesAndRoots.Proofs.SquareRoot
import PrimesAndRoots.Proofs.TrialDivision

/-!
# Trial division up to the root

A least divisor has a square that is at most the number, so trial division may stop at the floor of
the square root. `probeUpTo?` does so. Up to the root it takes the turns of the full search; behind
the root it tells a prime at once, where the full search goes on to the number itself.
-/

namespace PrimesAndRoots

section

variable {n d r : Int}

/-- The cofactor of a least divisor divides the number as well, so it is not the smaller of the
two. -/
theorem IsLeastDivisor.mul_self_le (h : IsLeastDivisor n d) : d * d ≤ n := by
  obtain ⟨hd, hlt, ⟨q, rfl⟩, below⟩ := h
  have hq : 2 ≤ q := by
    by_contra hsmall
    nlinarith
  have hle : d ≤ q := Int.not_lt.1 fun hqd => below q hq hqd (Int.dvd_mul_left d q)
  exact Int.mul_le_mul_of_nonneg_left hle (by omega)

theorem IsLeastDivisor.le_root (h : IsLeastDivisor n d) (hr : IsFloorRoot n r) : d ≤ r :=
  hr.le_of_mul_self_le h.mul_self_le

end

namespace Word

variable {t : IntType}

/-- A word without a divisor up to its root has none at all below itself: there would be a least
one, and that is not above the root. -/
theorem isPrime_of_noDivisorBelow {n : Word t} {r : Int} (hr : IsFloorRoot n.toInt r)
    (hn : 2 ≤ n.toInt) (below : NoDivisorBelow n.toInt (r + 1)) : IsPrime n.toInt := by
  cases hv : n.verdict with
  | prime => exact verdict_eq_iff.1 hv
  | composite d =>
    have hleast : IsLeastDivisor n.toInt d.toInt := verdict_eq_iff.1 hv
    have hdr : d.toInt ≤ r := hleast.le_root hr
    exact absurd hleast.2.2.1 (below d.toInt hleast.1 (by omega))
  | neither => exact absurd (verdict_eq_iff.1 hv) (Int.not_lt.2 hn)

/-- Tries the divisors of `n` upward from `d` as `probe?` does, but none behind `bound`. -/
def probeUpTo? (n bound d : Word t) : Option (Verdict t) :=
  if bound < d then some .prime
  else
    match n.rem? d with
    | none => none
    | some r =>
      if r = 0 then some (.composite d)
      else
        match _h : d.add? 1 with
        | none => none
        | some next => probeUpTo? n bound next
termination_by (t.max - d.toInt).toNat
decreasing_by
  have := add?_eq_some_iff.1 _h
  have := next.fits.2
  simp only [toInt_one] at *
  omega

/-- Before the bound and before `n` a turn of the two searches is the same. -/
theorem probeUpTo?_turn {n bound d : Word t} (hle : ¬bound < d) (hne : d ≠ n)
    (hlater : ∀ r next, n.rem? d = some r → r ≠ 0 → d.add? 1 = some next →
      probeUpTo? n bound next = probe? n next) :
    probeUpTo? n bound d = probe? n d := by
  rw [probeUpTo?, probe?, if_neg hle, if_neg hne]
  cases hr : n.rem? d with
  | none => rfl
  | some r =>
    by_cases hr0 : r = 0
    · simp [hr0]
    · simp only [if_neg hr0]
      -- each side has a match of its own on the next number
      grind

/-- From any number between two and `n` on, the full search tells a prime if `n` is one. -/
theorem probe?_of_isPrime {n d : Word t} (hd : 2 ≤ d) (hdn : d ≤ n) (hn : IsPrime n.toInt) :
    probe? n d = some .prime := by
  obtain ⟨v, hv⟩ := Option.isSome_iff_exists.1 (probe?_isSome hd hdn)
  have below : NoDivisorBelow n.toInt d.toInt := by
    intro e he hlt
    exact hn.2 e he (Int.lt_of_lt_of_le hlt hdn)
  have hprime : Verdict.Holds n .prime := hn
  rw [hv, (holds_of_probe?_eq_some hd hdn below hv).unique hprime]

/-- As long as nothing was found below `d`, the search up to the root tells from `d` on what the
full search tells. By induction over the numbers between `d` and the root. -/
theorem probeUpTo?_eq_probe? {n r d : Word t} (hr : IsFloorRoot n.toInt r.toInt)
    (hn : 2 ≤ n.toInt) (hd : 2 ≤ d.toInt) (hdr : d.toInt ≤ r.toInt + 1)
    (below : NoDivisorBelow n.toInt d.toInt) : probeUpTo? n r d = probe? n d := by
  have hrn : r.toInt < n.toInt := hr.lt_self hn
  generalize hgap : (r.toInt + 1 - d.toInt).toNat = gap
  induction gap generalizing d with
  | zero =>
    have heq : d.toInt = r.toInt + 1 := by omega
    have hlt : r < d := by rw [lt_iff]; omega
    have hprime : IsPrime n.toInt := isPrime_of_noDivisorBelow hr hn (heq ▸ below)
    rw [probeUpTo?, if_pos hlt, probe?_of_isPrime hd (by rw [le_iff]; omega) hprime]
  | succ gap ih =>
    apply probeUpTo?_turn
    · rw [lt_iff]
      omega
    · rintro rfl
      omega
    · intro rem next hrem hrem0 hnext
      have succ : next.toInt = d.toInt + 1 := add?_eq_some_iff.1 hnext
      have ndvd : ¬d.toInt ∣ n.toInt := not_dvd_of_rem?_ne_zero hrem hrem0
      exact ih (by omega) (by omega) (succ ▸ below.succ ndvd) (by omega)

/-- Trial division up to the root gives the verdict on every word from two up: prime where nothing
from two up to the root divides the word, and otherwise composite, with the least divisor from two
up. So no divisor that it tells is above the root. -/
theorem verdict_by_division_up_to_root {n : Word t} (hn : 2 ≤ n.toInt) :
    ∃ r, n.squareRoot = .ok r ∧ probeUpTo? n r 2 = some n.verdict ∧
      (n.verdict = .prime ↔ ∀ d, 2 ≤ d → d ≤ r.toInt → ¬d ∣ n.toInt) ∧
      ((∃ d, n.verdict = .composite d) ↔ ∃ d, 2 ≤ d ∧ d ≤ r.toInt ∧ d ∣ n.toInt) ∧
      ∀ d, n.verdict = .composite d → 2 ≤ d.toInt ∧ d.toInt ≤ r.toInt ∧ d.toInt ∣ n.toInt ∧
        ∀ e, 2 ≤ e → e ∣ n.toInt → d.toInt ≤ e := by
  obtain ⟨r, hsqrt, hr⟩ := squareRoot_of_nonneg (n := n) (by omega)
  have hr1 : 1 ≤ r.toInt := hr.one_le (by omega)
  have hrn : r.toInt < n.toInt := hr.lt_self hn
  refine ⟨r, hsqrt, ?_, ?_, ?_, ?_⟩
  · rw [probeUpTo?_eq_probe? hr hn (Int.le_refl 2) (by rw [toInt_two]; omega) (.two _)]
    exact TriesAt.first.probe?_eq hn
  · rw [verdict_eq_iff]
    constructor
    · rintro ⟨-, below⟩ d hd hdr
      exact below d hd (by omega)
    · intro hnone
      exact isPrime_of_noDivisorBelow hr hn fun d hd hlt => hnone d hd (by omega)
  · constructor
    · rintro ⟨d, hd⟩
      have hleast : IsLeastDivisor n.toInt d.toInt := verdict_eq_iff.1 hd
      exact ⟨d.toInt, hleast.1, hleast.le_root hr, hleast.2.2.1⟩
    · rintro ⟨d, hd, hdr, hdvd⟩
      cases hv : n.verdict with
      | composite e => exact ⟨e, rfl⟩
      | prime => exact absurd hdvd ((verdict_eq_iff.1 hv).2 d hd (by omega))
      | neither => exact absurd (verdict_eq_iff.1 hv) (Int.not_lt.2 hn)
  · intro d hd
    have hleast : IsLeastDivisor n.toInt d.toInt := verdict_eq_iff.1 hd
    refine ⟨hleast.1, hleast.le_root hr, hleast.2.2.1, fun e he hdvd => ?_⟩
    exact Int.not_lt.1 fun hlt => hleast.2.2.2 e he hlt hdvd

/-- The square of a prime is the tightest case: the root of 49 is the least divisor. -/
theorem verdict_by_division_up_to_root_square :
    let n : Word .int64 := ⟨49, by decide⟩
    2 ≤ n.toInt ∧ ∃ r, n.squareRoot = .ok r ∧ r.toInt = 7 ∧ n.verdict = .composite r ∧
      probeUpTo? n r 2 = some (.composite r) := by
  intro n
  have hn : 2 ≤ n.toInt := by decide
  obtain ⟨r, hsqrt, hprobe, -, hcomposite, hleast⟩ := verdict_by_division_up_to_root hn
  obtain ⟨r', hsqrt', hr0, hle, hlt⟩ := squareRoot_of_nonneg (n := n) (by decide)
  obtain rfl : r = r' := Except.ok.inj (hsqrt.symm.trans hsqrt')
  have hr : r.toInt = 7 := by
    have hle : r.toInt * r.toInt ≤ 49 := hle
    have hlt : 49 < (r.toInt + 1) * (r.toInt + 1) := hlt
    apply Int.le_antisymm <;> nlinarith
  obtain ⟨d, hd⟩ := hcomposite.2 ⟨7, by decide, by omega, by decide⟩
  obtain ⟨h2, hle, hdvd, -⟩ := hleast d hd
  have hseven : d.toInt = 7 := by
    have hdvd : d.toInt ∣ 49 := hdvd
    rw [hr] at hle
    interval_cases d.toInt <;> revert hdvd <;> decide
  obtain rfl : d = r := Word.ext (hseven.trans hr.symm)
  exact ⟨hn, d, hsqrt, hr, hd, hd ▸ hprobe⟩

end Word

end PrimesAndRoots

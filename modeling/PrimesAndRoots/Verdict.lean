import PrimesAndRoots.Text.Numeral

/-!
# Prime, composite, neither

Trial division: the divisors of `n` are tried upward from two, and the search stops at the first
one that divides `n`, which is `n` itself when `n` is prime. The search runs in the arithmetic of
its type; `probe?_isSome` says that it never leaves it.
-/

namespace PrimesAndRoots

inductive Verdict (t : IntType) where
  | prime
  | composite (divisor : Word t)
  | neither
deriving DecidableEq

namespace Verdict

variable {t : IntType}

def name : Verdict t → String
  | prime => "Prime"
  | composite _ => "Composite"
  | neither => "Neither"

def divisor? : Verdict t → Option (Word t)
  | composite d => some d
  | _ => none

def inspect (v : Verdict t) : String :=
  match v.divisor? with
  | none => v.name
  | some d => v.name ++ "(" ++ d.text ++ ")"

end Verdict

namespace Word

variable {t : IntType}

/-- Tries the divisors of `n` upward from `d`. There is no verdict when a step leaves the type or
divides by zero. -/
def probe? (n d : Word t) : Option (Verdict t) :=
  if d = n then some .prime
  else
    match n.rem? d with
    | none => none
    | some r =>
      if r = 0 then some (.composite d)
      else
        match _h : d.add? 1 with
        | none => none
        | some next => probe? n next
termination_by (t.max - d.toInt).toNat
decreasing_by
  have := add?_eq_some_iff.1 _h
  have := next.fits.2
  simp only [toInt_one] at *
  omega

/-- Between two and `n` the probe never leaves the type: the remainder is smaller than the divisor,
and a divisor below `n` has a successor. -/
theorem probe?_isSome {n d : Word t} (hd : 2 ≤ d) (hn : d ≤ n) : (probe? n d).isSome := by
  rw [le_iff] at hd hn
  simp only [toInt_two] at hd
  fun_induction probe? n d with
  | case1 => rfl
  | case2 d hne hr =>
    have bound := Int.tmod_lt_of_pos n.toInt (show 0 < d.toInt by omega)
    have nonneg := Int.tmod_nonneg d.toInt (show 0 ≤ n.toInt by omega)
    have : n.rem? d = some ⟨_, IntType.fits_of_le d.fits nonneg (Int.le_of_lt bound)⟩ :=
      rem?_eq_some_iff.2 ⟨by omega, rfl⟩
    simp [this] at hr
  | case3 => rfl
  | case4 d hne r hr hr0 ha =>
    have lt : d.toInt < n.toInt := Int.lt_iff_le_and_ne.2 ⟨hn, fun h => hne (Word.ext h)⟩
    have : d.add? 1 = some ⟨_, IntType.fits_of_le n.fits (show 0 ≤ d.toInt + 1 by omega) lt⟩ :=
      add?_eq_some_iff.2 rfl
    simp [this] at ha
  | case5 d hne r hr hr0 next ha ih =>
    have lt : d.toInt < n.toInt := Int.lt_iff_le_and_ne.2 ⟨hn, fun h => hne (Word.ext h)⟩
    have := add?_eq_some_iff.1 ha
    simp only [toInt_one] at this
    exact ih (by omega) (by omega)

/-- The verdict on `n`: its least divisor from two up tells primes from composites, and a number
below two is neither. -/
def verdict (n : Word t) : Verdict t :=
  if h : n < 2 then .neither
  else (probe? n 2).get (probe?_isSome (Int.le_refl 2) (Int.not_lt.1 h))

end Word

end PrimesAndRoots

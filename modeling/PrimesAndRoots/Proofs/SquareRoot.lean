import Mathlib.Data.Nat.Sqrt
import Mathlib.Tactic.Linarith
import PrimesAndRoots.Proofs.Numeral
import PrimesAndRoots.SquareRoot

/-!
# The floor of the square root

The bisection in the arithmetic of a type is the bisection over the integers, turn by turn, so its
correctness is proved there. Its invariant is `Bracket`: the best number found is the one below the
interval, its square is at most the number, and the square of the number above the interval exceeds
it. `Narrows` says once what a turn can do, and the rest of the theory goes by induction over it.
-/

namespace PrimesAndRoots

def IsFloorRoot (n r : Int) : Prop :=
  0 ≤ r ∧ r * r ≤ n ∧ n < (r + 1) * (r + 1)

namespace IsFloorRoot

variable {n r : Int}

theorem eq_sqrt (h : IsFloorRoot n r) : r = Nat.sqrt n.toNat := by
  obtain ⟨hr, hle, hlt⟩ := h
  lift r to Nat using hr
  have hn : (0 : Int) ≤ n := Int.le_trans (by positivity) hle
  lift n to Nat using hn
  have hsqrt : r = n.sqrt := Nat.eq_sqrt.2 ⟨by exact_mod_cast hle, by exact_mod_cast hlt⟩
  rw [Int.toNat_natCast, hsqrt]

theorem le_of_mul_self_le {d : Int} (hr : IsFloorRoot n r) (h : d * d ≤ n) : d ≤ r := by
  obtain ⟨hr0, -, hlt⟩ := hr
  by_contra hd
  nlinarith

theorem one_le (hr : IsFloorRoot n r) (hn : 1 ≤ n) : 1 ≤ r :=
  hr.le_of_mul_self_le (by omega)

theorem lt_self (hr : IsFloorRoot n r) (hn : 2 ≤ n) : r < n := by
  obtain ⟨hr0, hle, -⟩ := hr
  nlinarith

end IsFloorRoot

/-! ## The search over the integers -/

structure TurnValues where
  low : Int
  high : Int
  mid : Int
  best : Int
deriving DecidableEq

def Turn.values {t : IntType} (turn : Turn t) : TurnValues :=
  ⟨turn.low.toInt, turn.high.toInt, turn.mid.toInt, turn.best.toInt⟩

/-- The search for the root of `n` between `low` and `high` over the integers, where no step can
fail. -/
def rootSearch (n low high best : Int) : List TurnValues :=
  if low ≤ high then
    let mid := low + (high - low) / 2
    if mid ≤ n.tdiv mid then ⟨low, high, mid, mid⟩ :: rootSearch n (mid + 1) high mid
    else ⟨low, high, mid, best⟩ :: rootSearch n low (mid - 1) best
  else []
termination_by (high + 1 - low).toNat
decreasing_by all_goals omega

section

variable {n low high best mid : Int}

theorem rootSearch_of_lt (h : high < low) : rootSearch n low high best = [] := by
  rw [rootSearch, if_neg (Int.not_le.2 h)]

theorem rootSearch_of_fit (hle : low ≤ high) (hmid : mid = low + (high - low) / 2)
    (hfit : mid ≤ n.tdiv mid) :
    rootSearch n low high best = ⟨low, high, mid, mid⟩ :: rootSearch n (mid + 1) high mid := by
  subst hmid
  rw [rootSearch, if_pos hle]
  exact if_pos hfit

theorem rootSearch_of_not_fit (hle : low ≤ high) (hmid : mid = low + (high - low) / 2)
    (hfit : ¬mid ≤ n.tdiv mid) :
    rootSearch n low high best = ⟨low, high, mid, best⟩ :: rootSearch n low (mid - 1) best := by
  subst hmid
  rw [rootSearch, if_pos hle]
  exact if_neg hfit

end

/-- What the search knows when it ends: the best number of its last turn. -/
def lastBest (best : Int) (turns : List TurnValues) : Int :=
  turns.getLast?.elim best TurnValues.best

theorem lastBest_cons (best : Int) (turn : TurnValues) (turns : List TurnValues) :
    lastBest best (turn :: turns) = lastBest turn.best turns := by
  cases turns with
  | nil => rfl
  | cons next turns => simp [lastBest, List.getLast?_cons]

/-- What holds of the search before every turn. -/
structure Bracket (n low high best : Int) : Prop where
  low_pos : 1 ≤ low
  low_le : low ≤ high + 1
  high_le : high ≤ n
  best_eq : best = low - 1
  best_le : best * best ≤ n
  lt_high : n < (high + 1) * (high + 1)

/-- A positive number is at most its share of `n` exactly when its square is at most `n`. -/
theorem le_tdiv_self_iff {n m : Int} (hm : 0 < m) (hn : 0 ≤ n) : m ≤ n.tdiv m ↔ m * m ≤ n := by
  rw [Int.tdiv_eq_ediv_of_nonneg hn, Int.le_ediv_iff_mul_le hm]

namespace Bracket

variable {n low high best mid : Int}

/-- The whole interval from one to `n` is a bracket. -/
theorem whole (h : 0 ≤ n) : Bracket n 1 n 0 where
  low_pos := Int.le_refl 1
  low_le := by omega
  high_le := Int.le_refl n
  best_eq := rfl
  best_le := h
  lt_high := by nlinarith

theorem raise (h : Bracket n low high best) (hlow : low ≤ mid) (hhigh : mid ≤ high)
    (hmid : mid * mid ≤ n) : Bracket n (mid + 1) high mid where
  low_pos := by have := h.low_pos; omega
  low_le := by omega
  high_le := h.high_le
  best_eq := by omega
  best_le := hmid
  lt_high := h.lt_high

theorem lower (h : Bracket n low high best) (hlow : low ≤ mid) (hhigh : mid ≤ high)
    (hmid : n < mid * mid) : Bracket n low (mid - 1) best where
  low_pos := h.low_pos
  low_le := by omega
  high_le := by have := h.high_le; omega
  best_eq := h.best_eq
  best_le := h.best_le
  lt_high := by rwa [Int.sub_add_cancel]

/-- An empty interval has the root just below it. -/
theorem isFloorRoot_of_lt (h : Bracket n low high best) (hlt : high < low) :
    IsFloorRoot n best := by
  have heq : best = high := by have := h.best_eq; have := h.low_le; omega
  exact ⟨by have := h.low_pos; have := h.best_eq; omega, h.best_le, heq ▸ h.lt_high⟩

end Bracket

/-- The turns of a search for the root of `n` between `low` and `high`. Each tries a number of the
interval, and goes on above it if it fits and below it if not, until the interval is empty. -/
inductive Narrows (n : Int) : Int → Int → Int → List TurnValues → Prop where
  | done {low high best : Int} : Bracket n low high best → high < low → Narrows n low high best []
  | raise {low high best mid : Int} {turns : List TurnValues} : Bracket n low high best →
      low ≤ mid → mid ≤ high → mid * mid ≤ n → Narrows n (mid + 1) high mid turns →
      Narrows n low high best (⟨low, high, mid, mid⟩ :: turns)
  | lower {low high best mid : Int} {turns : List TurnValues} : Bracket n low high best →
      low ≤ mid → mid ≤ high → n < mid * mid → Narrows n low (mid - 1) best turns →
      Narrows n low high best (⟨low, high, mid, best⟩ :: turns)

/-- A search of this kind ends with the root. -/
theorem Narrows.isFloorRoot_lastBest {n low high best : Int} {turns : List TurnValues}
    (h : Narrows n low high best turns) : IsFloorRoot n (lastBest best turns) := by
  induction h with
  | done hbracket hlt => exact hbracket.isFloorRoot_of_lt hlt
  | raise _ _ _ _ _ ih | lower _ _ _ _ _ ih =>
    rw [lastBest_cons]
    exact ih

/-- From a bracket the bisection is one. -/
theorem Bracket.narrows {n low high best : Int} (h : Bracket n low high best) :
    Narrows n low high best (rootSearch n low high best) := by
  fun_induction rootSearch n low high best with
  | case1 low high best hle mid hfit ih =>
    have := h.low_pos
    have hsq := (le_tdiv_self_iff (by omega) (by have := h.high_le; omega)).1 hfit
    exact .raise h (by omega) (by omega) hsq (ih (h.raise (by omega) (by omega) hsq))
  | case2 low high best hle mid hfit ih =>
    have := h.low_pos
    rw [le_tdiv_self_iff (by omega) (by have := h.high_le; omega), Int.not_le] at hfit
    exact .lower h (by omega) (by omega) hfit (ih (h.lower (by omega) (by omega) hfit))
  | case3 low high best hle => exact .done h (Int.not_le.1 hle)

namespace Word

variable {t : IntType}

/-- The search in the arithmetic of the type takes the turns of the search over the integers. -/
theorem values_of_bisect?_eq_some {n low high best : Word t} {turns : List (Turn t)}
    (h : bisect? n low high best = some turns) :
    turns.map Turn.values = rootSearch n.toInt low.toInt high.toInt best.toInt := by
  fun_induction bisect? n low high best generalizing turns with
  | case1 | case2 | case3 | case5 => contradiction
  | case4 low high best hle mid hmid quotient hdiv hfit next hnext ih =>
    obtain ⟨rest, hrest, rfl⟩ := Option.map_eq_some_iff.1 h
    have hq : quotient.toInt = n.toInt.tdiv mid.toInt := (div?_eq_some_iff.1 hdiv).2
    have hsucc : next.toInt = mid.toInt + 1 := add?_eq_some_iff.1 hnext
    rw [le_iff, hq] at hfit
    rw [rootSearch_of_fit hle (midpoint?_eq_some hmid) hfit, List.map_cons, ih hrest, hsucc]
    rfl
  | case6 low high best hle mid hmid quotient hdiv hfit next hnext ih =>
    obtain ⟨rest, hrest, rfl⟩ := Option.map_eq_some_iff.1 h
    have hq : quotient.toInt = n.toInt.tdiv mid.toInt := (div?_eq_some_iff.1 hdiv).2
    have hpred : next.toInt = mid.toInt - 1 := sub?_eq_some_iff.1 hnext
    rw [le_iff, hq] at hfit
    rw [rootSearch_of_not_fit hle (midpoint?_eq_some hmid) hfit, List.map_cons, ih hrest, hpred]
    rfl
  | case7 low high best hle =>
    cases h
    exact (rootSearch_of_lt (Int.not_le.1 hle)).symm

theorem values_rootTurns (n : Word t) :
    n.rootTurns.map Turn.values = rootSearch n.toInt 1 n.toInt 0 :=
  values_of_bisect?_eq_some (Option.some_get _).symm

theorem toInt_lastBest (n : Word t) :
    (n.rootTurns.getLast?.elim 0 Turn.best).toInt =
      lastBest 0 (rootSearch n.toInt 1 n.toInt 0) := by
  rw [← values_rootTurns, lastBest, List.getLast?_map]
  cases n.rootTurns.getLast? <;> rfl

theorem squareRoot_of_neg {n : Word t} (h : n.toInt < 0) :
    n.squareRoot = .error (.negative n.text) :=
  if_pos h

/-- A number that is not negative has a root, and the search finds it. -/
theorem squareRoot_of_nonneg {n : Word t} (h : 0 ≤ n.toInt) :
    ∃ r, n.squareRoot = .ok r ∧ IsFloorRoot n.toInt r.toInt := by
  refine ⟨_, if_neg (Int.not_lt.2 h), ?_⟩
  rw [toInt_lastBest]
  exact (Bracket.whole h).narrows.isFloorRoot_lastBest

/-- The root of a word is the floor of its square root over the integers, whether or not the squares
are values of the type; only negative words have none, and their failure carries their decimal
text. -/
theorem squareRoot_bracket (n : Word t) :
    (n.squareRoot = .error (.negative (toString n.toInt)) ↔ n.toInt < 0) ∧
      ((∃ r, n.squareRoot = .ok r ∧ 0 ≤ r.toInt ∧ r.toInt * r.toInt ≤ n.toInt ∧
        n.toInt < (r.toInt + 1) * (r.toInt + 1)) ↔ 0 ≤ n.toInt) := by
  rcases Int.lt_or_le n.toInt 0 with hneg | hnonneg
  · rw [squareRoot_of_neg hneg, text, numeral_eq_toString]
    simp [hneg]
  · obtain ⟨r, hr, hroot⟩ := squareRoot_of_nonneg hnonneg
    refine ⟨⟨fun h => ?_, fun h => absurd h (Int.not_lt.2 hnonneg)⟩, fun _ => hnonneg, fun _ => ?_⟩
    · rw [hr] at h
      contradiction
    · exact ⟨r, hr, hroot⟩

end Word

end PrimesAndRoots

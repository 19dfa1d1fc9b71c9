import PrimesAndRoots.Log.Event

/-!
# Square roots

The floor of the square root, by bisection. A number `mid` is at most the root of `n` exactly when
`mid ≤ n / mid`, so no square is ever formed, and the search stays inside its type up to the
greatest value; `bisect?_isSome` says so. Each turn of the search is kept, so that the turns can be
logged and checked afterwards.
-/

namespace PrimesAndRoots

/-- One turn of the bisection: the interval it halves, the number it tries, and the best number
found once the turn is over. -/
structure Turn (t : IntType) where
  low : Word t
  high : Word t
  mid : Word t
  best : Word t
deriving DecidableEq

namespace Word

variable {t : IntType}

/-- The middle of the interval from `low` to `high`, without their sum. -/
def midpoint? (low high : Word t) : Option (Word t) :=
  match high.sub? low with
  | none => none
  | some gap => low.add? gap.half

theorem midpoint?_eq_some {low high mid : Word t} (h : midpoint? low high = some mid) :
    mid.toInt = low.toInt + (high.toInt - low.toInt) / 2 := by
  unfold midpoint? at h
  split at h
  · contradiction
  · rename_i gap hgap
    rw [add?_eq_some_iff.1 h, toInt_half, sub?_eq_some_iff.1 hgap]

/-- The turns of the search for the root of `n` between `low` and `high`, where `best` is the best
number found so far. There are none when a step leaves the type or divides by zero. -/
def bisect? (n low high best : Word t) : Option (List (Turn t)) :=
  if _hle : low ≤ high then
    match _hmid : midpoint? low high with
    | none => none
    | some mid =>
      match n.div? mid with
      | none => none
      | some quotient =>
        if mid ≤ quotient then
          match _hnext : mid.add? 1 with
          | none => none
          | some next => (bisect? n next high mid).map (⟨low, high, mid, mid⟩ :: ·)
        else
          match _hnext : mid.sub? 1 with
          | none => none
          | some next => (bisect? n low next best).map (⟨low, high, mid, best⟩ :: ·)
  else some []
termination_by (high.toInt + 1 - low.toInt).toNat
decreasing_by
  all_goals
    rw [le_iff] at _hle
    have := midpoint?_eq_some _hmid
  · have := add?_eq_some_iff.1 _hnext
    simp only [toInt_one] at this
    omega
  · have := sub?_eq_some_iff.1 _hnext
    simp only [toInt_one] at this
    omega

/-- Inside the interval from one to `n` every step of the search succeeds. -/
theorem bisect?_isSome {n low high best : Word t} (hlow : 1 ≤ low) (hhigh : high ≤ n) :
    (bisect? n low high best).isSome := by
  rw [le_iff] at hlow hhigh
  simp only [toInt_one] at hlow
  fun_induction bisect? n low high best with
  | case1 low high best hle hmid =>
    rw [le_iff] at hle
    have hgap : high.sub? low = some ⟨high.toInt - low.toInt,
        IntType.fits_of_le high.fits (by omega) (by omega)⟩ := sub?_eq_some_iff.2 rfl
    have hadd : low.add? (half ⟨high.toInt - low.toInt,
          IntType.fits_of_le high.fits (by omega) (by omega)⟩) =
        some ⟨low.toInt + (high.toInt - low.toInt) / 2,
          IntType.fits_of_le high.fits (by omega) (by omega)⟩ := add?_eq_some_iff.2 rfl
    simp [midpoint?, hgap, hadd] at hmid
  | case2 low high best hle mid hmid hdiv =>
    rw [le_iff] at hle
    have := midpoint?_eq_some hmid
    have hfits : t.Fits (n.toInt.tdiv mid.toInt) :=
      IntType.fits_of_le n.fits (Int.tdiv_nonneg (by omega) (by omega))
        (Int.tdiv_le_self _ (by omega))
    have : n.div? mid = some ⟨_, hfits⟩ := div?_eq_some_iff.2 ⟨by omega, rfl⟩
    simp [this] at hdiv
  | case3 low high best hle mid hmid quotient hdiv hfit hnext =>
    rw [le_iff] at hle hfit
    have := midpoint?_eq_some hmid
    have hquotient := (div?_eq_some_iff.1 hdiv).2
    -- the greatest value of a type is above the root of anything in the type
    have hlt : mid.toInt < t.max := by
      have := n.fits.2
      have := t.le_max
      by_cases heq : mid.toInt = n.toInt
      · rw [heq, Int.tdiv_self (by omega)] at hquotient
        omega
      · omega
    have : mid.add? 1 = some ⟨mid.toInt + 1, by
        have := t.min_le_zero
        constructor <;> omega⟩ := add?_eq_some_iff.2 rfl
    simp [this] at hnext
  | case4 low high best hle mid hmid quotient hdiv hfit next hnext ih =>
    rw [le_iff] at hle
    have := midpoint?_eq_some hmid
    have := add?_eq_some_iff.1 hnext
    simp only [toInt_one] at this
    simpa using ih (by omega) hhigh
  | case5 low high best hle mid hmid quotient hdiv hfit hnext =>
    rw [le_iff] at hle
    have := midpoint?_eq_some hmid
    have : mid.sub? 1 = some ⟨mid.toInt - 1,
        IntType.fits_of_le mid.fits (by omega) (by omega)⟩ := sub?_eq_some_iff.2 rfl
    simp [this] at hnext
  | case6 low high best hle mid hmid quotient hdiv hfit next hnext ih =>
    rw [le_iff] at hle
    have := midpoint?_eq_some hmid
    have := sub?_eq_some_iff.1 hnext
    simp only [toInt_one] at this
    simpa using ih hlow (by omega)
  | case7 => rfl

/-- The turns of the search for the root of `n`. There are none below one, where the interval from
one to `n` is empty. -/
def rootTurns (n : Word t) : List (Turn t) :=
  (bisect? n 1 n 0).get (bisect?_isSome (Int.le_refl 1) (Int.le_refl n.toInt))

def rootEvents (n : Word t) : List Event :=
  n.rootTurns.map fun turn => .rootTurn turn.mid.toInt turn.best.toInt

/-- The floor of the square root of `n`: the best number that the last turn knows. -/
def squareRoot (n : Word t) : Except Failure (Word t) :=
  if n < 0 then .error (.negative n.text)
  else .ok (n.rootTurns.getLast?.elim 0 Turn.best)

end Word

end PrimesAndRoots

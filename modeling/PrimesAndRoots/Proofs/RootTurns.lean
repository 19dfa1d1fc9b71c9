import PrimesAndRoots.Proofs.SquareRoot

/-!
# The turns of the search for a root

A turn of the bisection takes a difference, a sum, a quotient, and one step up or down from the
middle. `Turn.Sound` says that each of these is there when the turn asks for it, with the bounds
that make it so; every turn of a search that begins between one and `n` is sound. So the search in
the arithmetic of a type takes the turns of the search over the integers, and the type does not
matter.
-/

namespace PrimesAndRoots

variable {t : IntType}

/-- The turn of the search for the root of `n` keeps inside its interval, and never leaves its type
or divides by zero. Where the middle is small enough it has a successor in the type, and where it is
too large it is not yet one, so that the upper end stays positive. -/
structure Turn.Sound (n : Word t) (turn : Turn t) : Prop where
  one_le_low : 1 ≤ turn.low.toInt
  low_le_mid : turn.low.toInt ≤ turn.mid.toInt
  mid_le_high : turn.mid.toInt ≤ turn.high.toInt
  high_le : turn.high.toInt ≤ n.toInt
  middle : ∃ gap, turn.high.sub? turn.low = some gap ∧ turn.low.add? gap.half = some turn.mid
  step : ∃ quotient, n.div? turn.mid = some quotient ∧
    (turn.mid ≤ quotient ∧ turn.best = turn.mid ∧
        (∃ next, turn.mid.add? 1 = some next) ∧ turn.mid.toInt + 1 ≤ t.max ∨
      quotient < turn.mid ∧ (∃ next, turn.mid.sub? 1 = some next) ∧ 1 ≤ turn.mid.toInt - 1)

def integerRoot (n : Int) : Except Failure Int :=
  if n < 0 then .error (.negative (numeral n)) else .ok (lastBest 0 (rootSearch n 1 n 0))

namespace Word

/-! ## One turn -/

theorem exists_gap_of_midpoint?_eq_some {low high mid : Word t}
    (h : midpoint? low high = some mid) :
    ∃ gap, high.sub? low = some gap ∧ low.add? gap.half = some mid := by
  unfold midpoint? at h
  split at h
  · contradiction
  · rename_i gap hgap
    exact ⟨gap, hgap, h⟩

section

variable {n low high mid best quotient next : Word t}

theorem sound_of_fit (hlow : 1 ≤ low.toInt) (hhigh : high.toInt ≤ n.toInt) (hle : low ≤ high)
    (hmid : midpoint? low high = some mid) (hdiv : n.div? mid = some quotient)
    (hfit : mid ≤ quotient) (hnext : mid.add? 1 = some next) :
    Turn.Sound n ⟨low, high, mid, mid⟩ := by
  have hmiddle := midpoint?_eq_some hmid
  have hsucc : next.toInt = mid.toInt + 1 := add?_eq_some_iff.1 hnext
  rw [le_iff] at hle
  constructor
  case one_le_low => exact hlow
  case high_le => exact hhigh
  case middle => exact exists_gap_of_midpoint?_eq_some hmid
  case step => exact ⟨quotient, hdiv, .inl ⟨hfit, rfl, ⟨next, hnext⟩, hsucc ▸ next.fits.2⟩⟩
  all_goals
    dsimp only
    omega

/-- One is at most its share of `n`, so a middle that is too large is at least two. -/
theorem sound_of_not_fit (hlow : 1 ≤ low.toInt) (hhigh : high.toInt ≤ n.toInt) (hle : low ≤ high)
    (hmid : midpoint? low high = some mid) (hdiv : n.div? mid = some quotient)
    (hfit : ¬mid ≤ quotient) (hnext : mid.sub? 1 = some next) :
    Turn.Sound n ⟨low, high, mid, best⟩ := by
  have hmiddle := midpoint?_eq_some hmid
  rw [le_iff] at hle hfit
  have hne : mid.toInt ≠ 1 := by
    intro hone
    have hquotient := (div?_eq_some_iff.1 hdiv).2
    rw [hone, Int.tdiv_one] at hquotient
    omega
  constructor
  case one_le_low => exact hlow
  case high_le => exact hhigh
  case middle => exact exists_gap_of_midpoint?_eq_some hmid
  case step =>
    refine ⟨quotient, hdiv, .inr ⟨Int.not_le.1 hfit, ⟨next, hnext⟩, ?_⟩⟩
    dsimp only
    omega
  all_goals
    dsimp only
    omega

end

/-! ## The whole search -/

/-- A search that begins between one and `n` stays there, and all its turns are sound. -/
theorem sound_of_bisect?_eq_some {n low high best : Word t} {turns : List (Turn t)}
    (hlow : 1 ≤ low.toInt) (hhigh : high.toInt ≤ n.toInt)
    (h : bisect? n low high best = some turns) : ∀ turn ∈ turns, turn.Sound n := by
  fun_induction bisect? n low high best generalizing turns with
  | case1 | case2 | case3 | case5 => contradiction
  | case4 low high best hle mid hmid quotient hdiv hfit next hnext ih =>
    obtain ⟨rest, hrest, rfl⟩ := Option.map_eq_some_iff.1 h
    have hsound := sound_of_fit hlow hhigh hle hmid hdiv hfit hnext
    have hsucc : next.toInt = mid.toInt + 1 := add?_eq_some_iff.1 hnext
    have hmiddle : low.toInt ≤ mid.toInt := hsound.low_le_mid
    exact List.forall_mem_cons.2 ⟨hsound, ih (by omega) hhigh hrest⟩
  | case6 low high best hle mid hmid quotient hdiv hfit next hnext ih =>
    obtain ⟨rest, hrest, rfl⟩ := Option.map_eq_some_iff.1 h
    have hsound : Turn.Sound n ⟨low, high, mid, best⟩ :=
      sound_of_not_fit hlow hhigh hle hmid hdiv hfit hnext
    have hpred : next.toInt = mid.toInt - 1 := sub?_eq_some_iff.1 hnext
    have hmiddle : mid.toInt ≤ high.toInt := hsound.mid_le_high
    exact List.forall_mem_cons.2 ⟨hsound, ih hlow (by omega) hrest⟩
  | case7 =>
    cases h
    exact List.forall_mem_nil _

theorem bisect?_eq_rootTurns (n : Word t) : bisect? n 1 n 0 = some n.rootTurns :=
  (Option.some_get _).symm

theorem rootEvents_eq (n : Word t) :
    n.rootEvents =
      (rootSearch n.toInt 1 n.toInt 0).map fun turn => .rootTurn turn.mid turn.best := by
  rw [rootEvents, ← values_rootTurns, List.map_map]
  rfl

theorem map_toInt_squareRoot (n : Word t) : n.squareRoot.map toInt = integerRoot n.toInt := by
  unfold integerRoot
  split
  · rename_i hneg
    rw [squareRoot_of_neg hneg]
    rfl
  · rename_i hneg
    have hnonneg : ¬n < 0 := hneg
    rw [← toInt_lastBest, squareRoot, if_neg hnonneg]
    rfl

/-- The search for the root of a word never leaves its type. Each of its turns is sound, and they
are the turns of the search over the integers, with the same events and the same root or failure; so
two types that hold a number have the same turns and the same root for it. -/
theorem root_search_stays_in_type (n : Word t) :
    bisect? n 1 n 0 = some n.rootTurns ∧ (∀ turn ∈ n.rootTurns, turn.Sound n) ∧
      n.rootTurns.map Turn.values = rootSearch n.toInt 1 n.toInt 0 ∧
      n.rootEvents =
        (rootSearch n.toInt 1 n.toInt 0).map (fun turn => .rootTurn turn.mid turn.best) ∧
      n.squareRoot.map toInt = integerRoot n.toInt ∧
      ∀ (u : IntType) (m : Word u), m.toInt = n.toInt →
        m.rootTurns.map Turn.values = n.rootTurns.map Turn.values ∧
          m.rootEvents = n.rootEvents ∧ m.squareRoot.map toInt = n.squareRoot.map toInt := by
  have hall := bisect?_eq_rootTurns n
  refine ⟨hall, sound_of_bisect?_eq_some (Int.le_refl 1) (Int.le_refl _) hall, values_rootTurns n,
    rootEvents_eq n, map_toInt_squareRoot n, ?_⟩
  intro u m hm
  refine ⟨?_, ?_, ?_⟩
  · rw [values_rootTurns, values_rootTurns, hm]
  · rw [rootEvents_eq, rootEvents_eq, hm]
  · rw [map_toInt_squareRoot, map_toInt_squareRoot, hm]

end Word

end PrimesAndRoots

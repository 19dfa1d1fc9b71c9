import Mathlib.Data.Nat.Size
import PrimesAndRoots.Proofs.RootTurns

/-!
# How many turns the search for a root takes

A turn takes the middle out of its interval and goes on in one of the two sides, whichever number
the search is for. Of `k` numbers the sides hold `(k - 1) / 2` and `k / 2`, so a search through less
than `2 ^ b` numbers has at most `b` turns, and one through `2 ^ b - 1` numbers or more has at least
`b`. The search for the root of `n` goes through `n` numbers: its turns are as many as `n` has bits,
or one less.
-/

namespace PrimesAndRoots

section

variable {low high mid : Int} {b : Nat}

/-- Neither side of the middle holds more than half of the interval. -/
theorem sides_lt (hmid : mid = low + (high - low) / 2) (h : high + 1 - low < 2 ^ (b + 1)) :
    high + 1 - (mid + 1) < 2 ^ b ∧ mid - 1 + 1 - low < 2 ^ b := by
  rw [Int.pow_succ] at h
  constructor <;> omega

/-- Each side of the middle holds half of what is left without it, rounded down. -/
theorem le_sides (hmid : mid = low + (high - low) / 2) (h : 2 ^ (b + 1) - 1 ≤ high + 1 - low) :
    2 ^ b - 1 ≤ high + 1 - (mid + 1) ∧ 2 ^ b - 1 ≤ mid - 1 + 1 - low := by
  rw [Int.pow_succ] at h
  constructor <;> omega

end

theorem length_rootSearch_le (n low high best : Int) :
    ∀ b : Nat, high + 1 - low < 2 ^ b → (rootSearch n low high best).length ≤ b := by
  fun_induction rootSearch n low high best with
  | case1 low high best hle mid hfit ih =>
    rintro (_ | b) h
    · omega
    · exact Nat.succ_le_succ (ih b (sides_lt rfl h).1)
  | case2 low high best hle mid hfit ih =>
    rintro (_ | b) h
    · omega
    · exact Nat.succ_le_succ (ih b (sides_lt rfl h).2)
  | case3 => exact fun b _ => Nat.zero_le b

theorem le_length_rootSearch (n low high best : Int) :
    ∀ b : Nat, 2 ^ b - 1 ≤ high + 1 - low → b ≤ (rootSearch n low high best).length := by
  fun_induction rootSearch n low high best with
  | case1 low high best hle mid hfit ih =>
    rintro (_ | b) h
    · exact Nat.zero_le _
    · exact Nat.succ_le_succ (ih b (le_sides rfl h).1)
  | case2 low high best hle mid hfit ih =>
    rintro (_ | b) h
    · exact Nat.zero_le _
    · exact Nat.succ_le_succ (ih b (le_sides rfl h).2)
  | case3 low high best hle =>
    -- an empty interval has no room for even one number
    rintro (_ | b) h
    · exact Nat.zero_le _
    · have : (0 : Int) < 2 ^ b := Int.pow_pos (by decide)
      rw [Int.pow_succ] at h
      omega

namespace Word

variable {t : IntType}

theorem length_rootTurns (n : Word t) :
    n.rootTurns.length = (rootSearch n.toInt 1 n.toInt 0).length := by
  rw [← values_rootTurns, List.length_map]

theorem length_rootTurns_le {n : Word t} {b : Nat} (h : n.toInt < 2 ^ b) :
    n.rootTurns.length ≤ b := by
  rw [length_rootTurns]
  exact length_rootSearch_le _ _ _ _ b (by omega)

theorem le_length_rootTurns {n : Word t} {b : Nat} (h : 2 ^ b - 1 ≤ n.toInt) :
    b ≤ n.rootTurns.length := by
  rw [length_rootTurns]
  exact le_length_rootSearch _ _ _ _ b (by omega)

/-- The search for the root of a word from one up takes as many turns as the word has bits, or one
less, and it takes all of them where the word has only ones. No search takes more turns than its
type has bits for the value. -/
theorem rootTurns_count_bits (n : Word t) :
    let turns := (n.rootEvents.filter (·.record.message = "isqrt step")).length
    let b := n.toInt.toNat.size
    turns = n.rootTurns.length ∧
      (1 ≤ n.toInt → 2 ^ (b - 1) ≤ n.toInt ∧ n.toInt < 2 ^ b ∧ (turns = b - 1 ∨ turns = b) ∧
        ((∃ k : Nat, n.toInt + 1 = 2 ^ k) → turns = b)) ∧
      turns ≤ t.valueBits := by
  intro turns b
  have hturns : turns = n.rootTurns.length := by
    simp only [turns, rootEvents, List.filter_map, List.length_map]
    rw [List.filter_eq_self.2 fun _ _ => by rfl]
  have hvalue : turns ≤ t.valueBits := by
    have hmax : n.toInt ≤ 2 ^ t.valueBits - 1 := n.fits.2
    exact hturns ▸ length_rootTurns_le (by omega)
  refine ⟨hturns, fun hn => ?_, hvalue⟩
  have hnat : (n.toInt.toNat : Int) = n.toInt := Int.toNat_of_nonneg (by omega)
  have hb : 0 < b := Nat.size_pos.2 (by omega)
  have hlow : 2 ^ (b - 1) ≤ n.toInt := by
    rw [← hnat]
    exact_mod_cast Nat.lt_size.1 (Nat.sub_lt hb Nat.one_pos)
  have hhigh : n.toInt < 2 ^ b := by
    rw [← hnat]
    exact_mod_cast Nat.lt_size_self n.toInt.toNat
  have hle : turns ≤ b := hturns ▸ length_rootTurns_le hhigh
  have hge : b - 1 ≤ turns := hturns ▸ le_length_rootTurns (by omega)
  refine ⟨hlow, hhigh, by omega, ?_⟩
  rintro ⟨k, hk⟩
  -- the power of two behind `n` is the first one above it
  have hbk : b ≤ k := Nat.size_le.2 (by zify; omega)
  have hall : k ≤ turns := hturns ▸ le_length_rootTurns (by omega)
  omega

/-- The greatest value of a signed type of 8 bits has seven ones, and its search takes seven turns.
-/
theorem rootTurns_count_bits_max :
    let n : Word ⟨true, 8, by decide⟩ := ⟨127, by decide⟩
    1 ≤ n.toInt ∧ n.toInt + 1 = 2 ^ 7 ∧
      (n.rootEvents.filter (·.record.message = "isqrt step")).length = 7 := by
  intro n
  have hn : 1 ≤ n.toInt := by decide
  have hones : n.toInt + 1 = 2 ^ 7 := by decide
  obtain ⟨-, hbits, -⟩ := rootTurns_count_bits n
  exact ⟨hn, hones, ((hbits hn).2.2.2 ⟨7, hones⟩).trans (by decide)⟩

end Word

end PrimesAndRoots

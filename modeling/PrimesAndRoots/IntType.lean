/-!
# Integer types

The two's-complement integer types, signed and unsigned, of any width from eight bits up. A type
is known by the least and the greatest integer it holds; every proof about arithmetic inside a
type rests on `min_le_zero` and `le_max`.
-/

namespace PrimesAndRoots

/-- An integer type: whether its values carry a sign, and how many bits they take. -/
structure IntType where
  signed : Bool
  bits : Nat
  eight_le_bits : 8 ≤ bits := by decide
deriving DecidableEq, Repr

namespace IntType

/-- The bits that are left for the value once the sign has its own. -/
def valueBits (t : IntType) : Nat :=
  if t.signed then t.bits - 1 else t.bits

protected def max (t : IntType) : Int :=
  Int.pow 2 t.valueBits - 1

protected def min (t : IntType) : Int :=
  if t.signed then -Int.pow 2 t.valueBits else 0

def Fits (t : IntType) (n : Int) : Prop :=
  t.min ≤ n ∧ n ≤ t.max

instance (t : IntType) (n : Int) : Decidable (t.Fits n) :=
  inferInstanceAs (Decidable (_ ∧ _))

def int64 : IntType := { signed := true, bits := 64 }

def uint64 : IntType := { signed := false, bits := 64 }

theorem min_le_zero (t : IntType) : t.min ≤ 0 := by
  unfold IntType.min
  split
  · have : 0 < Int.pow 2 t.valueBits := Int.pow_pos (by decide)
    omega
  · exact Int.le_refl 0

/-- Every type holds the integers up to 127. -/
theorem le_max (t : IntType) : 127 ≤ t.max := by
  have seven : 7 ≤ t.valueBits := by
    have := t.eight_le_bits
    unfold valueBits
    split <;> omega
  have : 2 ^ 7 ≤ 2 ^ t.valueBits := Nat.pow_le_pow_right (by decide) seven
  have : (2 ^ 7 : Int) ≤ 2 ^ t.valueBits := by exact_mod_cast this
  change 127 ≤ (2 : Int) ^ t.valueBits - 1
  omega

/-- A type holds whatever lies between zero and one of its values. -/
theorem fits_of_le {t : IntType} {m n : Int} (hn : t.Fits n) (h0 : 0 ≤ m) (h : m ≤ n) :
    t.Fits m :=
  ⟨Int.le_trans t.min_le_zero h0, Int.le_trans h hn.2⟩

end IntType

end PrimesAndRoots

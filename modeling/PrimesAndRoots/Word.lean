import PrimesAndRoots.IntType

/-!
# Words

A word is an integer together with the proof that its type holds it. Arithmetic on words is
checked: an operation gives `none` where the exact result is not a value of the type, or where
it would divide by zero. Each operation has one lemma that says when it succeeds and with what.
-/

namespace PrimesAndRoots

@[ext] structure Word (t : IntType) where
  toInt : Int
  fits : t.Fits toInt
deriving DecidableEq

namespace Word

variable {t : IntType}

instance : LE (Word t) := ⟨fun a b => a.toInt ≤ b.toInt⟩

instance : LT (Word t) := ⟨fun a b => a.toInt < b.toInt⟩

instance (a b : Word t) : Decidable (a ≤ b) := inferInstanceAs (Decidable (a.toInt ≤ b.toInt))

instance (a b : Word t) : Decidable (a < b) := inferInstanceAs (Decidable (a.toInt < b.toInt))

theorem le_iff {a b : Word t} : a ≤ b ↔ a.toInt ≤ b.toInt := Iff.rfl

theorem lt_iff {a b : Word t} : a < b ↔ a.toInt < b.toInt := Iff.rfl

/-- A number that every type holds. -/
def small (k : Nat) (h : k ≤ 127 := by decide) : Word t :=
  ⟨k, IntType.fits_of_le ⟨Int.le_trans t.min_le_zero (by decide), t.le_max⟩ (by omega) (by omega)⟩

instance : OfNat (Word t) 0 := ⟨small 0⟩

instance : OfNat (Word t) 1 := ⟨small 1⟩

instance : OfNat (Word t) 2 := ⟨small 2⟩

@[simp] theorem toInt_zero : (0 : Word t).toInt = 0 := rfl

@[simp] theorem toInt_one : (1 : Word t).toInt = 1 := rfl

@[simp] theorem toInt_two : (2 : Word t).toInt = 2 := rfl

def ofInt? (t : IntType) (n : Int) : Option (Word t) :=
  if h : t.Fits n then some ⟨n, h⟩ else none

theorem ofInt?_eq_some_iff {n : Int} {w : Word t} : ofInt? t n = some w ↔ w.toInt = n := by
  unfold ofInt?
  constructor
  · intro h
    split at h
    · cases h; rfl
    · contradiction
  · rintro rfl
    simp [w.fits]

theorem ofInt?_eq_none_iff {n : Int} : ofInt? t n = none ↔ ¬t.Fits n := by
  simp [ofInt?]

def add? (a b : Word t) : Option (Word t) :=
  ofInt? t (a.toInt + b.toInt)

def sub? (a b : Word t) : Option (Word t) :=
  ofInt? t (a.toInt - b.toInt)

/-- Division toward zero. -/
def div? (a b : Word t) : Option (Word t) :=
  if b = 0 then none else ofInt? t (a.toInt.tdiv b.toInt)

/-- The remainder of division toward zero. That of the least value by minus one is zero, though the
quotient is no value of the type; trial division asks for remainders by two and more only. -/
def rem? (a b : Word t) : Option (Word t) :=
  if b = 0 then none else ofInt? t (a.toInt.tmod b.toInt)

def half (a : Word t) : Word t :=
  ⟨a.toInt / 2, by
    have := a.fits.1
    have := a.fits.2
    have := t.min_le_zero
    have := t.le_max
    constructor <;> omega⟩

@[simp] theorem toInt_half (a : Word t) : a.half.toInt = a.toInt / 2 := rfl

theorem add?_eq_some_iff {a b c : Word t} : a.add? b = some c ↔ c.toInt = a.toInt + b.toInt :=
  ofInt?_eq_some_iff

theorem sub?_eq_some_iff {a b c : Word t} : a.sub? b = some c ↔ c.toInt = a.toInt - b.toInt :=
  ofInt?_eq_some_iff

theorem eq_zero_iff {a : Word t} : a = 0 ↔ a.toInt = 0 :=
  ⟨fun h => h ▸ rfl, fun h => Word.ext h⟩

theorem div?_eq_some_iff {a b c : Word t} :
    a.div? b = some c ↔ b.toInt ≠ 0 ∧ c.toInt = a.toInt.tdiv b.toInt := by
  unfold div?
  split <;> rename_i h <;> rw [eq_zero_iff] at h <;> simp [h, ofInt?_eq_some_iff]

theorem rem?_eq_some_iff {a b c : Word t} :
    a.rem? b = some c ↔ b.toInt ≠ 0 ∧ c.toInt = a.toInt.tmod b.toInt := by
  unfold rem?
  split <;> rename_i h <;> rw [eq_zero_iff] at h <;> simp [h, ofInt?_eq_some_iff]

/-- The words `start`, `start + step`, and so on: at most `count` of them, and none past the first
sum that leaves the type. -/
def progression (start step : Word t) : Nat → List (Word t)
  | 0 => []
  | count + 1 =>
    start :: match start.add? step with
      | none => []
      | some next => progression next step count

end Word

end PrimesAndRoots

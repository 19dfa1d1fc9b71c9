import PrimesAndRoots.Text.Numeral

/-!
# Numerals and their values

Written numerals are the decimal texts of integers. A text that is read as a word is a numeral with
the value of that word; the scan gives up at the first digit whose value leaves the type, and since
the values of longer numerals only lie further out, it gives up no numeral of a word.
-/

namespace PrimesAndRoots

/-! ## Writing -/

theorem digitChar_eq {d : Nat} (h : d < 10) : digitChar d = d.digitChar := by
  have : ∀ d < 10, digitChar d = d.digitChar := by decide
  exact this d h

theorem decimal_eq_toDigits (n : Nat) : decimal n = Nat.toDigits 10 n := by
  unfold decimal
  fun_induction digits 10 _ n with
  | case1 n h => rw [Nat.toDigits_of_lt_base h, List.map_singleton, digitChar_eq h]
  | case2 n h ih =>
    rw [Nat.toDigits_of_base_le (by decide) (Nat.not_lt.1 h), List.map_append, ih,
      List.map_singleton, digitChar_eq (Nat.mod_lt _ (by decide))]

theorem numeral_eq_toString (n : Int) : numeral n = toString n := by
  rw [Int.toString_eq_repr, Int.repr_eq_if, numeral, decimal_eq_toDigits]
  by_cases h : n < 0
  · rw [if_pos h, if_neg (Int.not_le.2 h), show n.natAbs = (-n).toNat by omega]
    simp [Nat.repr_eq_ofList_toDigits]
  · rw [if_neg h, if_pos (Int.not_lt.1 h), show n.natAbs = n.toNat by omega]
    simp [Nat.repr_eq_ofList_toDigits]

/-! ## Reading -/

/-- One ASCII digit or more. -/
def IsDigits (cs : List Char) : Prop :=
  cs ≠ [] ∧ ∀ c ∈ cs, c.isDigit

theorem IsDigits.isDigit_head {c : Char} {cs : List Char} (h : IsDigits (c :: cs)) : c.isDigit :=
  h.2 c List.mem_cons_self

/-- The characters are a numeral of the integer: at most one sign, then digits. -/
inductive IsNumeral : List Char → Int → Prop where
  | unsigned {cs : List Char} (h : IsDigits cs) : IsNumeral cs (Nat.ofDigitChars 10 cs 0)
  | plus {cs : List Char} (h : IsDigits cs) : IsNumeral ('+' :: cs) (Nat.ofDigitChars 10 cs 0)
  | minus {cs : List Char} (h : IsDigits cs) : IsNumeral ('-' :: cs) (-Nat.ofDigitChars 10 cs 0)

namespace IsNumeral

variable {cs : List Char} {x : Int}

theorem plus_iff : IsNumeral ('+' :: cs) x ↔ IsDigits cs ∧ x = Nat.ofDigitChars 10 cs 0 := by
  constructor
  · intro h
    cases h with
    | unsigned h => exact absurd h.isDigit_head (by decide)
    | plus h => exact ⟨h, rfl⟩
  · rintro ⟨h, rfl⟩
    exact plus h

theorem minus_iff : IsNumeral ('-' :: cs) x ↔ IsDigits cs ∧ x = -Nat.ofDigitChars 10 cs 0 := by
  constructor
  · intro h
    cases h with
    | unsigned h => exact absurd h.isDigit_head (by decide)
    | minus h => exact ⟨h, rfl⟩
  · rintro ⟨h, rfl⟩
    exact minus h

theorem unsigned_iff (hplus : ∀ ds, cs ≠ '+' :: ds) (hminus : ∀ ds, cs ≠ '-' :: ds) :
    IsNumeral cs x ↔ IsDigits cs ∧ x = Nat.ofDigitChars 10 cs 0 := by
  constructor
  · intro h
    cases h with
    | unsigned h => exact ⟨h, rfl⟩
    | plus h => exact absurd rfl (hplus _)
    | minus h => exact absurd rfl (hminus _)
  · rintro ⟨h, rfl⟩
    exact unsigned h

theorem ne_nil (h : IsNumeral cs x) : cs ≠ [] := by
  cases h with
  | unsigned h => exact h.1
  | plus | minus => exact List.cons_ne_nil _ _

/-- A numeral has one value. -/
theorem unique {y : Int} (h : IsNumeral cs x) (h' : IsNumeral cs y) : x = y := by
  cases h with
  | plus h => exact (plus_iff.1 h').2.symm
  | minus h => exact (minus_iff.1 h').2.symm
  | unsigned h =>
    cases h' with
    | unsigned => rfl
    | plus | minus => exact absurd h.isDigit_head (by decide)

end IsNumeral

theorem isDigit_iff_toNat {c : Char} : c.isDigit ↔ 48 ≤ c.toNat ∧ c.toNat ≤ 57 := by
  rw [Char.isDigit, Bool.and_eq_true, decide_eq_true_iff, decide_eq_true_iff]
  exact Iff.rfl

theorem digitValue?_of_isDigit {c : Char} (h : c.isDigit) :
    digitValue? c = some (c.toNat - '0'.toNat) := by
  rw [Char.isDigit, Bool.and_eq_true, decide_eq_true_iff, decide_eq_true_iff] at h
  exact if_pos h

theorem isDigit_of_digitValue?_eq_some {c : Char} {d : Nat} (h : digitValue? c = some d) :
    c.isDigit ∧ d = c.toNat - '0'.toNat := by
  unfold digitValue? at h
  split at h
  · rename_i hc
    cases h
    rw [Char.isDigit, Bool.and_eq_true, decide_eq_true_iff, decide_eq_true_iff]
    exact ⟨hc, rfl⟩
  · contradiction

/-- Further digits never make a number smaller. -/
theorem le_ofDigitChars (cs : List Char) (m : Nat) : m ≤ Nat.ofDigitChars 10 cs m := by
  induction cs generalizing m with
  | nil => exact Nat.le_of_eq Nat.ofDigitChars_nil.symm
  | cons c cs ih =>
    rw [Nat.ofDigitChars_cons]
    exact Nat.le_trans (by omega) (ih _)

def withSign (negative : Bool) (m : Nat) : Int :=
  if negative then -m else m

namespace Word

variable {t : IntType} {negative : Bool}

/-- A type that holds an integer holds the integers of its sign that are nearer to zero. -/
theorem fits_withSign_of_le {m n : Nat} (h : t.Fits (withSign negative n)) (hle : m ≤ n) :
    t.Fits (withSign negative m) := by
  have := t.min_le_zero
  have := t.le_max
  have := h.1
  have := h.2
  cases negative <;> simp only [withSign, if_true, Bool.false_eq_true, if_false] at * <;>
    constructor <;> omega

/-- What one character does to a numeral whose digits so far stand for `m`: it is no digit, the
value it makes is no word, or the scan goes on with that value. -/
theorem appendDigits_cons_cases {value : Word t} {m : Nat}
    (hvalue : value.toInt = withSign negative m) (c : Char) (cs : List Char) :
    let grown := withSign negative (10 * m + (c.toNat - '0'.toNat))
    (¬c.isDigit ∧ appendDigits negative value (c :: cs) = .error .invalidDigit) ∨
      (c.isDigit ∧ ¬t.Fits grown ∧ appendDigits negative value (c :: cs) =
        .error (if negative then .tooSmall else .tooLarge)) ∨
      (c.isDigit ∧ ∃ next : Word t, next.toInt = grown ∧
        appendDigits negative value (c :: cs) = appendDigits negative next cs) := by
  intro grown
  rw [appendDigits]
  cases hd : digitValue? c with
  | none =>
    refine .inl ⟨fun hdigit => ?_, rfl⟩
    rw [digitValue?_of_isDigit hdigit] at hd
    contradiction
  | some d =>
    obtain ⟨hdigit, rfl⟩ := isDigit_of_digitValue?_eq_some hd
    refine .inr ?_
    have hgrown (d : Nat) : (if negative then 10 * value.toInt - d else 10 * value.toInt + d) =
        withSign negative (10 * m + d) := by
      rw [hvalue]
      cases negative with
      | false => simp [withSign]
      | true =>
        simp only [withSign, if_true]
        omega
    simp only [hgrown]
    cases hnext : ofInt? t grown with
    | none => exact .inl ⟨hdigit, ofInt?_eq_none_iff.1 hnext, rfl⟩
    | some next => exact .inr ⟨hdigit, next, ofInt?_eq_some_iff.1 hnext, rfl⟩

/-- Digits are appended with success exactly when they are digits and their value is a word. -/
theorem appendDigits_eq_ok_iff {value w : Word t} {m : Nat} {cs : List Char}
    (hvalue : value.toInt = withSign negative m) :
    appendDigits negative value cs = .ok w ↔
      (∀ c ∈ cs, c.isDigit) ∧ w.toInt = withSign negative (Nat.ofDigitChars 10 cs m) := by
  induction cs generalizing value m with
  | nil =>
    rw [appendDigits, Nat.ofDigitChars_nil, ← hvalue]
    constructor
    · intro h
      cases h
      exact ⟨List.forall_mem_nil _, rfl⟩
    · rintro ⟨-, h⟩
      exact congrArg _ (Word.ext h.symm)
  | cons c cs ih =>
    rw [List.forall_mem_cons, Nat.ofDigitChars_cons]
    obtain ⟨hdigit, heq⟩ | ⟨hdigit, hout, heq⟩ | ⟨hdigit, next, hnext, heq⟩ :=
      appendDigits_cons_cases hvalue c cs <;> rw [heq]
    · exact ⟨nofun, fun h => absurd h.1.1 hdigit⟩
    · -- the numeral has left the type, and no digit brings it back
      refine ⟨nofun, fun h => absurd ?_ hout⟩
      exact fits_withSign_of_le (h.2 ▸ w.fits) (le_ofDigitChars _ _)
    · simp only [ih hnext, hdigit, true_and]

theorem toInt_zero_eq_withSign : (0 : Word t).toInt = withSign negative 0 := by
  cases negative <;> rfl

theorem appendDigits_zero_eq_ok_iff {w : Word t} {cs : List Char} (hne : cs ≠ []) :
    appendDigits negative 0 cs = .ok w ↔
      IsDigits cs ∧ w.toInt = withSign negative (Nat.ofDigitChars 10 cs 0) := by
  rw [appendDigits_eq_ok_iff toInt_zero_eq_withSign, IsDigits, and_iff_right hne]

/-- In a signed type exactly the numerals of a word are read as that word. -/
theorem ofChars_eq_ok_iff (hs : t.signed = true) {cs : List Char} {w : Word t} :
    ofChars t cs = .ok w ↔ IsNumeral cs w.toInt := by
  unfold ofChars
  split
  case h_1 =>
    rw [IsNumeral.unsigned_iff (by simp) (by simp)]
    simp [IsDigits]
  case h_2 =>
    rw [IsNumeral.plus_iff]
    simp [IsDigits]
  case h_3 =>
    rw [IsNumeral.minus_iff]
    simp [IsDigits]
  case h_4 ds hds =>
    rw [IsNumeral.plus_iff]
    exact appendDigits_zero_eq_ok_iff hds
  case h_5 ds hds =>
    rw [if_pos hs, IsNumeral.minus_iff]
    exact appendDigits_zero_eq_ok_iff hds
  case h_6 hnil _ _ hplus hminus =>
    rw [IsNumeral.unsigned_iff hplus hminus]
    exact appendDigits_zero_eq_ok_iff hnil

end Word

end PrimesAndRoots

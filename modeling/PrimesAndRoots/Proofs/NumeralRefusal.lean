import Mathlib.Data.List.Basic
import PrimesAndRoots.Proofs.Numeral
import PrimesAndRoots.Proofs.Terminal

/-!
# Why a text is refused

The reason for which a text is no numeral of a type, told by its bytes and not by how it is scanned.
Behind the sign a byte offends if it is no digit, or if the digits up to it and with it stand for an
integer outside the type. The first byte that offends gives the reason, whatever comes behind it;
`ofText_eq_error_iff` says that the scan of the characters gives the same one.

That the scan looks at one byte and one value at a time is enough, since digits only lead further
away from zero: as long as all digits taken have a value in the type, so had every part of them.
-/

namespace PrimesAndRoots

def IsDigitByte (b : UInt8) : Prop :=
  48 ≤ b ∧ b ≤ 57

instance (b : UInt8) : Decidable (IsDigitByte b) :=
  inferInstanceAs (Decidable (_ ∧ _))

def digitsValue (digits : Bytes) : Nat :=
  digits.foldl (fun value b => 10 * value + (b.toNat - 48)) 0

/-- The byte at position `i` cannot be taken: it is no digit, or the digits up to and with it stand
for an integer that the type does not hold. -/
def Offends (t : IntType) (negative : Bool) (digits : Bytes) (i : Nat) : Prop :=
  ∃ b ∈ digits[i]?,
    ¬IsDigitByte b ∨ ¬t.Fits (withSign negative (digitsValue (digits.take (i + 1))))

instance (t : IntType) (negative : Bool) (digits : Bytes) (i : Nat) :
    Decidable (Offends t negative digits i) :=
  inferInstanceAs (Decidable (∃ b ∈ digits[i]?, _))

def firstOffence? (t : IntType) (negative : Bool) (digits : Bytes) : Option Nat :=
  (List.range digits.length).find? (Offends t negative digits ·)

/-- The reason that the first offence gives, at a digit or not. A digit has led out of the type. -/
def offenceReason (negative digit : Bool) : NumeralError :=
  if digit then if negative then .tooSmall else .tooLarge else .invalidDigit

/-- The reason for which the bytes behind a sign are no digits of a numeral, if they are none. -/
def digitsRefusal? (t : IntType) (negative : Bool) (digits : Bytes) : Option NumeralError :=
  if digits = [] then some .invalidDigit
  else (firstOffence? t negative digits).bind fun i =>
    digits[i]?.map fun b => offenceReason negative (IsDigitByte b)

/-- Whether there is a minus sign in front, and the bytes behind at most one sign. -/
def splitSign : Bytes → Bool × Bytes
  | 43 :: bytes => (false, bytes)
  | 45 :: bytes => (true, bytes)
  | bytes => (false, bytes)

/-- The reason for which the bytes are no numeral of the type, if they are none. -/
def refusal? (t : IntType) (bytes : Bytes) : Option NumeralError :=
  if bytes = [] then some .empty
  else digitsRefusal? t (splitSign bytes).1 (splitSign bytes).2

/-! ## The first byte that offends -/

section

variable {t : IntType} {negative : Bool} {before after : Bytes} {b : UInt8}

theorem digitsValue_le_append (before after : Bytes) :
    digitsValue before ≤ digitsValue (before ++ after) := by
  rw [digitsValue, digitsValue, List.foldl_append]
  generalize List.foldl _ 0 before = m
  induction after generalizing m with
  | nil => exact Nat.le_refl m
  | cons b after ih => exact Nat.le_trans (by omega) (ih (10 * m + (b.toNat - 48)))

/-- Digits whose value is in the type do not offend, wherever they stand among themselves. -/
theorem not_offends_of_fits (after : Bytes) (hdigits : ∀ b ∈ before, IsDigitByte b)
    (hfits : t.Fits (withSign negative (digitsValue before))) {i : Nat} (hi : i < before.length) :
    ¬Offends t negative (before ++ after) i := by
  rintro ⟨b, hb, hnot | hout⟩
  · rw [List.getElem?_append_left hi] at hb
    exact hnot (hdigits b (List.mem_of_getElem? hb))
  · rw [List.take_append_of_le_length hi] at hout
    refine hout (Word.fits_withSign_of_le hfits ?_)
    have := digitsValue_le_append (before.take (i + 1)) (before.drop (i + 1))
    rwa [List.take_append_drop] at this

theorem digitsRefusal?_of_fits (hne : before ≠ []) (hdigits : ∀ b ∈ before, IsDigitByte b)
    (hfits : t.Fits (withSign negative (digitsValue before))) :
    digitsRefusal? t negative before = none := by
  have hnone : firstOffence? t negative before = none := by
    rw [firstOffence?, List.find?_range_eq_none]
    intro i hi
    have := not_offends_of_fits [] hdigits hfits hi
    rw [List.append_nil] at this
    simpa using this
  rw [digitsRefusal?, if_neg hne, hnone, Option.bind_none]

/-- The first byte that offends gives the reason. -/
theorem digitsRefusal?_append_cons (hdigits : ∀ b ∈ before, IsDigitByte b)
    (hfits : t.Fits (withSign negative (digitsValue before)))
    (hb : ¬IsDigitByte b ∨ ¬t.Fits (withSign negative (digitsValue (before ++ [b])))) :
    digitsRefusal? t negative (before ++ b :: after) =
      some (offenceReason negative (IsDigitByte b)) := by
  have hfirst : firstOffence? t negative (before ++ b :: after) = some before.length := by
    rw [firstOffence?, List.find?_range_eq_some]
    refine ⟨decide_eq_true ⟨b, by simp, ?_⟩, by simp, fun i hi => ?_⟩
    · rwa [List.take_length_add_append, List.take_succ_cons, List.take_zero]
    · simpa using not_offends_of_fits _ hdigits hfits hi
  rw [digitsRefusal?, if_neg (by simp), hfirst]
  simp

/-- A text is refused because it is empty, because nothing follows its sign, or for what is at the
first offence: a byte that is no digit, or a digit that leads out of the type on the side of the
sign. -/
theorem refusal?_cases {bytes : Bytes} {reason : NumeralError}
    (h : refusal? t bytes = some reason) :
    let negative := (splitSign bytes).1
    let digits := (splitSign bytes).2
    bytes = [] ∧ reason = .empty ∨ bytes ≠ [] ∧ digits = [] ∧ reason = .invalidDigit ∨
      ∃ i b, firstOffence? t negative digits = some i ∧ digits[i]? = some b ∧
        (¬IsDigitByte b ∧ reason = .invalidDigit ∨
          IsDigitByte b ∧ negative = true ∧ reason = .tooSmall ∨
          IsDigitByte b ∧ negative = false ∧ reason = .tooLarge) := by
  intro negative digits
  by_cases hbytes : bytes = []
  · rw [refusal?, if_pos hbytes] at h
    exact .inl ⟨hbytes, (Option.some.inj h).symm⟩
  rw [refusal?, if_neg hbytes, digitsRefusal?] at h
  by_cases hdigits : digits = []
  · rw [if_pos hdigits] at h
    exact .inr (.inl ⟨hbytes, hdigits, (Option.some.inj h).symm⟩)
  · rw [if_neg hdigits] at h
    obtain ⟨i, hfirst, h⟩ := Option.bind_eq_some_iff.1 h
    obtain ⟨b, hb, hreason⟩ := Option.map_eq_some_iff.1 h
    refine .inr (.inr ⟨i, b, hfirst, hb, ?_⟩)
    by_cases hdigit : IsDigitByte b <;> cases hsign : negative <;>
      simp [offenceReason, hdigit, hsign, negative, ← hreason] at hsign ⊢

theorem refusal?_of_no_sign {bytes : Bytes} (hplus : b ≠ 43) (hminus : b ≠ 45) :
    refusal? t (b :: bytes) = digitsRefusal? t false (b :: bytes) := by
  have hsplit : splitSign (b :: bytes) = (false, b :: bytes) := by
    unfold splitSign
    split <;> simp_all
  rw [refusal?, if_neg (List.cons_ne_nil _ _), hsplit]

end

/-! ## Characters and their bytes -/

theorem isDigitByte_iff_toNat {b : UInt8} : IsDigitByte b ↔ 48 ≤ b.toNat ∧ b.toNat ≤ 57 :=
  Iff.rfl

/-- The first byte of a character is its code for ASCII, and no byte of ASCII for others. -/
theorem exists_utf8EncodeChar (c : Char) :
    ∃ b bytes, String.utf8EncodeChar c = b :: bytes ∧
      (c.toNat < 128 ∧ b.toNat = c.toNat ∨ 128 ≤ c.toNat ∧ 128 ≤ b.toNat) := by
  unfold String.utf8EncodeChar
  have hval : c.val.toNat = c.toNat := rfl
  simp only [hval]
  split_ifs <;> refine ⟨_, _, rfl, ?_⟩ <;> simp only [UInt8.toNat_ofNat'] <;> omega

theorem utf8EncodeChar_of_isDigit {c : Char} (h : c.isDigit) :
    String.utf8EncodeChar c = [c.toUInt8] ∧ c.toUInt8.toNat = c.toNat := by
  obtain ⟨-, hle⟩ := isDigit_iff_toNat.1 h
  have hmod : c.toUInt8.toNat = c.toNat % 256 := UInt32.toNat_toUInt8 _
  exact ⟨utf8EncodeChar_of_lt (by omega), by omega⟩

/-- Digits have one byte each, and the same value by their bytes. -/
theorem digitsValue_of_isDigit {cs : List Char} (h : ∀ c ∈ cs, c.isDigit) :
    (∀ b ∈ cs.flatMap String.utf8EncodeChar, IsDigitByte b) ∧
      digitsValue (cs.flatMap String.utf8EncodeChar) = Nat.ofDigitChars 10 cs 0 := by
  have hbytes : cs.flatMap String.utf8EncodeChar = cs.map Char.toUInt8 := by
    rw [List.flatMap_def, List.map_congr_left fun c hc => (utf8EncodeChar_of_isDigit (h c hc)).1,
      ← List.flatMap_def, ← List.map_eq_flatMap]
  rw [hbytes]
  constructor
  · rw [List.forall_mem_map]
    intro c hc
    rw [isDigitByte_iff_toNat, (utf8EncodeChar_of_isDigit (h c hc)).2]
    exact isDigit_iff_toNat.1 (h c hc)
  · rw [digitsValue, List.foldl_map, Nat.ofDigitChars_eq_foldl]
    refine List.foldl_ext _ _ _ fun m c hc => ?_
    rw [(utf8EncodeChar_of_isDigit (h c hc)).2]
    rfl

section

variable {t : IntType} {negative : Bool}

/-- The first character that cannot be taken begins with the first byte that offends. -/
theorem digitsRefusal?_flatMap_append_cons {before after : List Char} {c : Char}
    (hdigits : ∀ d ∈ before, d.isDigit)
    (hfits : t.Fits (withSign negative (Nat.ofDigitChars 10 before 0)))
    (hc : ¬c.isDigit ∨ ¬t.Fits (withSign negative (Nat.ofDigitChars 10 (before ++ [c]) 0))) :
    digitsRefusal? t negative ((before ++ c :: after).flatMap String.utf8EncodeChar) =
      some (offenceReason negative c.isDigit) := by
  obtain ⟨b, rest, hb, hcode⟩ := exists_utf8EncodeChar c
  obtain ⟨hbytes, hvalue⟩ := digitsValue_of_isDigit hdigits
  have hdigit : IsDigitByte b ↔ c.isDigit := by
    rw [isDigitByte_iff_toNat, isDigit_iff_toNat]
    omega
  have hoffends : ¬IsDigitByte b ∨ ¬t.Fits (withSign negative
      (digitsValue (before.flatMap String.utf8EncodeChar ++ [b]))) := by
    by_cases hyes : c.isDigit
    · have hall : ∀ d ∈ before ++ [c], d.isDigit := by
        simpa [or_imp, forall_and] using ⟨hdigits, hyes⟩
      have hout := hc.resolve_left (not_not_intro hyes)
      rw [← (digitsValue_of_isDigit hall).2, List.flatMap_append, List.flatMap_singleton] at hout
      have hsingle := (utf8EncodeChar_of_isDigit hyes).1
      cases hb.symm.trans hsingle
      exact .inr (hsingle ▸ hout)
    · exact .inl (mt hdigit.1 hyes)
  rw [List.flatMap_append, List.flatMap_cons, hb, List.cons_append,
    digitsRefusal?_append_cons hbytes (hvalue ▸ hfits) hoffends]
  simp [hdigit]

end

namespace Word

variable {t : IntType} {negative : Bool}

/-- Where the scan gives up: behind digits whose value is a word stands a character that is no
digit, or a digit that makes a value outside the type. -/
theorem exists_of_appendDigits_eq_error {value : Word t} {m : Nat} {cs : List Char}
    {reason : NumeralError} (hvalue : value.toInt = withSign negative m)
    (h : appendDigits negative value cs = .error reason) :
    ∃ before c after, cs = before ++ c :: after ∧ (∀ d ∈ before, d.isDigit) ∧
      t.Fits (withSign negative (Nat.ofDigitChars 10 before m)) ∧
      (¬c.isDigit ∨ ¬t.Fits (withSign negative (Nat.ofDigitChars 10 (before ++ [c]) m))) ∧
      reason = offenceReason negative c.isDigit := by
  induction cs generalizing value m with
  | nil => contradiction
  | cons c cs ih =>
    have hfits : t.Fits (withSign negative m) := hvalue ▸ value.fits
    obtain ⟨hdigit, heq⟩ | ⟨hdigit, hout, heq⟩ | ⟨hdigit, next, hnext, heq⟩ :=
      appendDigits_cons_cases hvalue c cs <;> rw [heq] at h
    · cases h
      exact ⟨[], c, cs, rfl, List.forall_mem_nil _, hfits, .inl hdigit, (if_neg hdigit).symm⟩
    · cases h
      exact ⟨[], c, cs, rfl, List.forall_mem_nil _, hfits, .inr hout, (if_pos hdigit).symm⟩
    · obtain ⟨before, d, after, rfl, hbefore, hd⟩ := ih hnext h
      exact ⟨c :: before, d, after, rfl, List.forall_mem_cons.2 ⟨hdigit, hbefore⟩, hd⟩

/-- The scan fails exactly where a byte offends, for the reason that the first such byte gives. -/
theorem appendDigits_zero_eq_error_iff {cs : List Char} {reason : NumeralError} (hne : cs ≠ []) :
    appendDigits (t := t) negative 0 cs = .error reason ↔
      digitsRefusal? t negative (cs.flatMap String.utf8EncodeChar) = some reason := by
  have hzero : (0 : Word t).toInt = withSign negative 0 := toInt_zero_eq_withSign
  cases hscan : appendDigits (t := t) negative 0 cs with
  | ok w =>
    obtain ⟨hdigits, hw⟩ := (appendDigits_eq_ok_iff hzero).1 hscan
    obtain ⟨hbytes, hvalue⟩ := digitsValue_of_isDigit hdigits
    have hne : cs.flatMap String.utf8EncodeChar ≠ [] := by
      obtain ⟨c, cs, rfl⟩ := List.exists_cons_of_ne_nil hne
      simp [String.utf8EncodeChar_ne_nil]
    rw [digitsRefusal?_of_fits hne hbytes (hvalue ▸ hw ▸ w.fits)]
    simp
  | error found =>
    obtain ⟨before, c, after, rfl, hdigits, hfits, hc, rfl⟩ :=
      exists_of_appendDigits_eq_error hzero hscan
    rw [digitsRefusal?_flatMap_append_cons hdigits hfits hc]
    simp

/-- In a signed type, the reason for refusing a text is the one that its bytes give. -/
theorem ofText_eq_error_iff (hs : t.signed = true) {text : String} {reason : NumeralError} :
    ofText t text = .error reason ↔ refusal? t (encodeText text) = some reason := by
  have hbytes : encodeText text = text.toList.flatMap String.utf8EncodeChar := by
    rw [← encodeText_ofList, String.ofList_toList]
  rw [ofText, hbytes]
  generalize text.toList = cs
  unfold ofChars
  split
  case h_1 => simp [refusal?]
  case h_2 | h_3 =>
    -- a sign alone has no byte behind it
    change _ ↔ some .invalidDigit = some reason
    simp
  case h_4 ds hds => exact appendDigits_zero_eq_error_iff hds
  case h_5 ds hds =>
    rw [if_pos hs]
    exact appendDigits_zero_eq_error_iff hds
  case h_6 hnil _ _ hplus hminus =>
    obtain ⟨c, ds, rfl⟩ := List.exists_cons_of_ne_nil hnil
    obtain ⟨b, rest, hb, hcode⟩ := exists_utf8EncodeChar c
    -- the byte of a sign is the first one of no other character
    have hfirst (sign : Char) (hsign : sign.toNat < 128) (hne : c ≠ sign) :
        b.toNat ≠ sign.toNat := by
      intro heq
      exact hne (Char.toNat_inj.1 (by omega))
    rw [appendDigits_zero_eq_error_iff hnil, List.flatMap_cons, hb, List.cons_append,
      refusal?_of_no_sign]
    · rintro rfl
      exact hfirst '+' (by decide) (fun h => hplus ds (h ▸ rfl)) rfl
    · rintro rfl
      exact hfirst '-' (by decide) (fun h => hminus ds (h ▸ rfl)) rfl

end Word

end PrimesAndRoots

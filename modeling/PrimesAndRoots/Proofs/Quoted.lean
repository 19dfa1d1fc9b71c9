import Mathlib.Data.List.Basic
import Mathlib.Data.List.TakeDrop
import Mathlib.Data.List.TakeWhile
import Mathlib.Tactic.SplitIfs
import PrimesAndRoots.Text.Quoted

/-!
# Quoted text

What is seen of a text that is quoted. What has to be escaped is given by tables of code points;
the plain characters of ASCII lie between their ranges, so a text of plain characters is quoted as
it is. Every character is written in one of three ways, told by `Escaped`. Each of them can be read
back whatever stands behind it, so a quoted text and what follows it can be told from the two
together (`quote_append_inj`), and none of them shows a control character (`isVisible_quote`).
-/

namespace PrimesAndRoots

/-! ## Text that needs no escapes -/

/-- A visible ASCII character or a space, other than the double quote and the backslash. -/
def IsPlain (c : Char) : Prop :=
  0x20 ≤ c.toNat ∧ c.toNat < 0x7f ∧ c ≠ '"' ∧ c ≠ '\\'

instance (c : Char) : Decidable (IsPlain c) :=
  inferInstanceAs (Decidable (_ ∧ _))

/-- No combining mark comes before U+0300. -/
theorem not_isCombiningMark {c : Char} (h : c.toNat < 0x300) : ¬isCombiningMark c := by
  intro hmark
  have hfirst : ∀ range ∈ combiningMarkRanges, 0x300 ≤ range.1 := by decide +kernel
  obtain ⟨range, hrange, hle, -⟩ := inRanges_iff.1 hmark
  have := hfirst range hrange
  omega

/-- What cannot be shown in ASCII comes before the space or behind the tilde. -/
theorem not_isUnprintable {c : Char} (hspace : 0x20 ≤ c.toNat) (htilde : c.toNat < 0x7f) :
    ¬isUnprintable c := by
  intro hhidden
  have hapart : ∀ range ∈ unprintableRanges, range.2 < 0x20 ∨ 0x7f ≤ range.1 := by decide +kernel
  obtain ⟨range, hrange, hle, hge⟩ := inRanges_iff.1 hhidden
  rcases hapart range hrange with hbefore | hbehind <;> omega

theorem escape_of_isPlain {c : Char} (h : IsPlain c) : escape c = [c] := by
  obtain ⟨hspace, htilde, hquote, hslash⟩ := h
  have hne {d : Char} (hd : d.toNat < 0x20) : c ≠ d := by
    rintro rfl
    omega
  have hmark := not_isCombiningMark (c := c) (by omega)
  have hhidden := not_isUnprintable hspace htilde
  rw [escape, if_neg hquote, if_neg hslash, if_neg (hne (by decide)), if_neg (hne (by decide)),
    if_neg (hne (by decide)), if_neg (hne (by decide)), if_neg (by simp [hmark, hhidden])]

def IsPlainText (text : String) : Prop :=
  ∀ c ∈ text.toList, IsPlain c

instance (text : String) : Decidable (IsPlainText text) :=
  List.decidableBAll _ _

theorem quote_of_isPlainText {text : String} (h : IsPlainText text) :
    quote text = "\"" ++ text ++ "\"" := by
  have hescape : text.toList.flatMap escape = text.toList := by
    rw [List.flatMap_def, List.map_congr_left fun c hc => escape_of_isPlain (h c hc),
      ← List.flatMap_def, List.flatMap_singleton']
  apply String.toList_injective
  simp [quote, quoteChars, hescape]

/-! ## Reading what was quoted -/

/-- The character of an escape of two characters, by the second one. -/
def shortEscape? : Char → Option Char
  | '"' => some '"'
  | '\\' => some '\\'
  | '0' => some '\x00'
  | 't' => some '\t'
  | 'n' => some '\n'
  | 'r' => some '\r'
  | _ => none

def hexDigitValue (c : Char) : Nat :=
  if c.isDigit then c.toNat - '0'.toNat else c.toNat - 'a'.toNat + 10

def hexValue (cs : List Char) : Nat :=
  cs.foldl (fun value c => 16 * value + hexDigitValue c) 0

/-- Reads one character as it is written inside quotes, and leaves what comes behind it. There is
none where the quotation ends. -/
def unescape? : List Char → Option (Char × List Char)
  | '\\' :: 'u' :: '\x7b' :: cs =>
    match cs.span (· ≠ '\x7d') with
    | (_, []) => none
    | (hex, _ :: rest) => some (Char.ofNat (hexValue hex), rest)
  | '\\' :: c :: cs => (shortEscape? c).map (·, cs)
  | '"' :: _ => none
  | c :: cs => some (c, cs)
  | [] => none

/-- The three ways to write a character inside quotes. -/
inductive Escaped : Char → List Char → Prop where
  | short {c k : Char} (h : shortEscape? k = some c) : Escaped c ['\\', k]
  | code (c : Char) : Escaped c ('\\' :: 'u' :: '\x7b' :: (hexadecimal c.toNat ++ ['\x7d']))
  | plain {c : Char} (hquote : c ≠ '"') (hslash : c ≠ '\\') (h : ¬isUnprintable c) : Escaped c [c]

theorem escaped_escape (c : Char) : Escaped c (escape c) := by
  unfold escape
  split_ifs with hquote hslash hzero htab hfeed hreturn hhidden
  iterate 6 exact .short (by subst c; rfl)
  · exact .code c
  · exact .plain hquote hslash (by simp_all)

/-- The digits of a number tell the number. -/
theorem foldl_digits {b : Nat} (hb : 2 ≤ b) (n : Nat) :
    (digits b hb n).foldl (fun value d => b * value + d) 0 = n := by
  fun_induction digits b hb n with
  | case1 n h => simp
  | case2 n h ih =>
    rw [List.foldl_append, ih]
    exact Nat.div_add_mod n b

theorem lt_of_mem_digits {b : Nat} (hb : 2 ≤ b) {n d : Nat} (h : d ∈ digits b hb n) : d < b := by
  fun_induction digits b hb n with
  | case1 n hlt =>
    cases List.mem_singleton.1 h
    exact hlt
  | case2 n hlt ih =>
    rcases List.mem_append.1 h with h | h
    · exact ih h
    · cases List.mem_singleton.1 h
      exact Nat.mod_lt _ (by omega)

theorem hexDigitValue_digitChar : ∀ d < 16, hexDigitValue (digitChar d) = d := by
  decide

theorem hexValue_hexadecimal (n : Nat) : hexValue (hexadecimal n) = n := by
  rw [hexValue, hexadecimal, List.foldl_map]
  refine (List.foldl_ext _ _ _ fun value d hd => ?_).trans (foldl_digits (by decide) n)
  rw [hexDigitValue_digitChar d (lt_of_mem_digits _ hd)]

theorem exists_of_mem_hexadecimal {n : Nat} {c : Char} (h : c ∈ hexadecimal n) :
    ∃ d < 16, digitChar d = c := by
  obtain ⟨d, hd, rfl⟩ := List.mem_map.1 h
  exact ⟨d, lt_of_mem_digits _ hd, rfl⟩

/-- The brace that ends a code is none of its digits. -/
theorem span_hexadecimal (n : Nat) (rest : List Char) :
    (hexadecimal n ++ '\x7d' :: rest).span (· ≠ '\x7d') = (hexadecimal n, '\x7d' :: rest) := by
  have hdigits : ∀ c ∈ hexadecimal n, decide (c ≠ '\x7d') = true := by
    intro c hc
    obtain ⟨d, hd, rfl⟩ := exists_of_mem_hexadecimal hc
    have : ∀ d < 16, digitChar d ≠ '\x7d' := by decide
    exact decide_eq_true (this d hd)
  rw [List.span_eq_takeWhile_dropWhile, List.takeWhile_append_of_pos hdigits,
    List.dropWhile_append_of_pos hdigits]
  simp

/-- A character can be told from the way it is written, whatever comes behind it. -/
theorem unescape?_of_escaped {c : Char} {cs : List Char} (h : Escaped c cs) (rest : List Char) :
    unescape? (cs ++ rest) = some (c, rest) := by
  cases h with
  | @short k h =>
    have hne : k ≠ 'u' := by
      rintro rfl
      contradiction
    simp [unescape?, hne, h]
  | code =>
    simp only [List.cons_append, List.append_assoc, List.nil_append, unescape?, span_hexadecimal,
      hexValue_hexadecimal, Char.ofNat_toNat]
  | plain hquote hslash h =>
    rw [List.singleton_append, unescape?]
    all_goals simp_all

theorem unescape?_flatMap_cons (c : Char) (cs rest : List Char) :
    unescape? ((c :: cs).flatMap escape ++ rest) = some (c, cs.flatMap escape ++ rest) := by
  rw [List.flatMap_cons, List.append_assoc]
  exact unescape?_of_escaped (escaped_escape c) _

/-- A quotation ends at its closing quote: if two quotations are the same with what stands behind
them, they quote one text and have the same behind them. -/
theorem flatMap_escape_append_inj {cs ds xs ys : List Char}
    (h : cs.flatMap escape ++ '"' :: xs = ds.flatMap escape ++ '"' :: ys) : cs = ds ∧ xs = ys := by
  -- what can be read at the front tells how both quotations go on, or that both end here
  induction cs generalizing ds with
  | nil =>
    cases ds with
    | nil => simpa using h
    | cons d ds =>
      have hread := congrArg unescape? h
      rw [unescape?_flatMap_cons] at hread
      contradiction
  | cons c cs ih =>
    have hread := congrArg unescape? h
    rw [unescape?_flatMap_cons] at hread
    cases ds with
    | nil => contradiction
    | cons d ds =>
      rw [unescape?_flatMap_cons] at hread
      obtain ⟨rfl, hrest⟩ := Prod.mk.inj (Option.some.inj hread)
      obtain ⟨rfl, rfl⟩ := ih hrest
      exact ⟨rfl, rfl⟩

theorem quote_append_inj {a b x y : String} (h : quote a ++ x = quote b ++ y) : a = b ∧ x = y := by
  have hchars := congrArg String.toList h
  simp only [String.toList_append, quote, String.toList_ofList, quoteChars, List.cons_append,
    List.cons.injEq, true_and, List.append_assoc, List.nil_append] at hchars
  obtain ⟨htext, hrest⟩ := flatMap_escape_append_inj hchars
  exact ⟨String.toList_injective htext, String.toList_injective hrest⟩

/-! ## Control characters -/

/-- The character is a control character, such as a line feed, an escape or a null. -/
def IsControl (c : Char) : Prop :=
  c.toNat < 0x20 ∨ 0x7f ≤ c.toNat ∧ c.toNat < 0xa0

instance (c : Char) : Decidable (IsControl c) :=
  inferInstanceAs (Decidable (_ ∨ _))

-- line feed, carriage return, escape and null
example : IsControl '\n' ∧ IsControl '\r' ∧ IsControl '\x1b' ∧ IsControl '\x00' := by
  decide

theorem isUnprintable_of_isControl {c : Char} (h : IsControl c) : isUnprintable c := by
  rcases h with h | ⟨h, h'⟩
  · exact inRanges_iff.2 ⟨(0x0, 0x1f), by decide, Nat.zero_le _, Nat.le_of_lt_succ h⟩
  · exact inRanges_iff.2 ⟨(0x7f, 0xa0), by decide, h, Nat.le_of_lt h'⟩

theorem not_isControl_of_escaped {c d : Char} {cs : List Char} (h : Escaped c cs) (hd : d ∈ cs) :
    ¬IsControl d := by
  cases h with
  | @short k h =>
    simp only [List.mem_cons, List.not_mem_nil, or_false] at hd
    rcases hd with rfl | rfl
    · decide
    · unfold shortEscape? at h
      split at h <;> first | decide | contradiction
  | code =>
    simp only [List.mem_cons, List.mem_append, List.not_mem_nil, or_false] at hd
    rcases hd with rfl | rfl | rfl | hd | rfl
    case inr.inr.inr.inl =>
      obtain ⟨k, hk, rfl⟩ := exists_of_mem_hexadecimal hd
      have : ∀ k < 16, ¬IsControl (digitChar k) := by decide
      exact this k hk
    all_goals decide
  | plain _ _ h =>
    cases List.mem_singleton.1 hd
    exact fun hcontrol => h (isUnprintable_of_isControl hcontrol)

/-- The text has no control characters. -/
def IsVisible (text : String) : Prop :=
  ∀ c ∈ text.toList, ¬IsControl c

instance (text : String) : Decidable (IsVisible text) :=
  List.decidableBAll _ _

theorem IsVisible.append {a b : String} (ha : IsVisible a) (hb : IsVisible b) :
    IsVisible (a ++ b) := by
  intro c hc
  rw [String.toList_append, List.mem_append] at hc
  exact hc.elim (ha c) (hb c)

theorem isVisible_quote (text : String) : IsVisible (quote text) := by
  intro c hc
  simp only [quote, String.toList_ofList, quoteChars, List.mem_cons, List.mem_append,
    List.mem_flatMap, List.not_mem_nil, or_false] at hc
  rcases hc with rfl | ⟨d, -, hc⟩ | rfl
  · decide
  · exact not_isControl_of_escaped (escaped_escape d) hc
  · decide

end PrimesAndRoots

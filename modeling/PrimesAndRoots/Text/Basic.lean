/-!
# Text

Text as it is on devices, which is its UTF-8 bytes; digits and their characters; classes of
characters as ranges of code points; and blanks at the ends of a text.
-/

namespace PrimesAndRoots

/-! ## Bytes -/

abbrev Bytes := List UInt8

def encodeText (text : String) : Bytes :=
  text.toUTF8.data.toList

def decodeText (bytes : Bytes) : Option String :=
  String.fromUTF8? ⟨bytes.toArray⟩

def byteCount (cs : List Char) : Nat :=
  (String.ofList cs).utf8ByteSize

/-- The characters of the `size` bytes behind the first `start`, if no character lies across an end
of that stretch. -/
def stretch? (bytes : Bytes) (start size : Nat) : Option (List Char) :=
  (decodeText ((bytes.drop start).take size)).map String.toList

/-! ## Digits -/

/-- The digits of `n` in base `b`, most significant first. Zero has the one digit zero. -/
def digits (b : Nat) (hb : 2 ≤ b) (n : Nat) : List Nat :=
  if n < b then [n] else digits b hb (n / b) ++ [n % b]
termination_by n
decreasing_by exact Nat.div_lt_self (by omega) hb

/-- The character of a digit below sixteen. -/
def digitChar (d : Nat) : Char :=
  if d < 10 then Char.ofNat ('0'.toNat + d) else Char.ofNat ('a'.toNat + (d - 10))

def digitValue? (c : Char) : Option Nat :=
  if '0' ≤ c ∧ c ≤ '9' then some (c.toNat - '0'.toNat) else none

def decimal (n : Nat) : List Char :=
  (digits 10 (by decide) n).map digitChar

def hexadecimal (n : Nat) : List Char :=
  (digits 16 (by decide) n).map digitChar

/-! ## Classes of characters -/

def inRanges (ranges : List (Nat × Nat)) (c : Char) : Bool :=
  ranges.any fun range => range.1 ≤ c.toNat && c.toNat ≤ range.2

theorem inRanges_iff {ranges : List (Nat × Nat)} {c : Char} :
    inRanges ranges c ↔ ∃ range ∈ ranges, range.1 ≤ c.toNat ∧ c.toNat ≤ range.2 := by
  simp [inRanges]

/-! ## Blanks -/

/-- The character has the property White_Space. The zero-width characters have not. -/
def isBlank (c : Char) : Bool :=
  let n := c.toNat
  (0x9 ≤ n && n ≤ 0xd) || n == 0x20 || n == 0x85 || n == 0xa0 || n == 0x1680 ||
    (0x2000 ≤ n && n ≤ 0x200a) || n == 0x2028 || n == 0x2029 || n == 0x202f || n == 0x205f ||
    n == 0x3000

def trimBlanks (cs : List Char) : List Char :=
  ((cs.dropWhile isBlank).reverse.dropWhile isBlank).reverse

def trim (text : String) : String :=
  String.ofList (trimBlanks text.toList)

end PrimesAndRoots

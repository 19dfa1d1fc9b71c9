import PrimesAndRoots.Text.Pattern.Mode

/-!
# Atoms of a pattern

The signs that a pattern is built from, as far as they are no sets, and the escapes that stand for
them. A pattern is for text in UTF-8, and there are no tables of properties of characters. This
decides which atoms can be used in which mode.
-/

namespace PrimesAndRoots

namespace Pattern

inductive Atom where
  /-- One character; `byte` if it is written as an escape of two hexadecimal digits. -/
  | char (c : Char) (byte : Bool)
  /-- Any character. -/
  | any
  /-- An edge of the text or of a line. -/
  | edge
  /-- An edge of a word, or a place that is none. -/
  | wordEdge
  /-- Digits, blanks or word characters, or all that are none. -/
  | shorthand (negated : Bool)
deriving DecidableEq, Repr

namespace Atom

/-- The atom can be used outside sets. Shorthands, words and case need tables when they are about
characters. When they are about bytes, an atom must not match a part of a character. -/
def usable (m : Mode) : Atom → Bool
  | char c byte => if m.unicode then !m.ignoreCase else !byte || c.toNat < 0x80
  | any => m.unicode
  | edge => true
  | wordEdge => !m.unicode
  | shorthand negated => !m.unicode && !negated

/-- The atom can be a member of a set. A set of bytes holds ASCII characters only. -/
def usableInSet (m : Mode) : Atom → Bool
  | char c _ => if m.unicode then !m.ignoreCase else c.toNat < 0x80
  | shorthand negated => !m.unicode && !negated
  | _ => false

end Atom

/-! ## Escapes -/

def hexDigit? (c : Char) : Option Nat :=
  if c.isDigit then some (c.toNat - '0'.toNat)
  else if 'a' ≤ c && c ≤ 'f' then some (c.toNat - 'a'.toNat + 10)
  else if 'A' ≤ c && c ≤ 'F' then some (c.toNat - 'A'.toNat + 10)
  else none

/-- Reads that many hexadecimal digits behind those of value `value`. -/
def hexDigits? (m : Mode) : Nat → Nat → List Char → Option (Nat × List Char)
  | 0, value, cs => some (value, cs)
  | _ + 1, _, [] => none
  | width + 1, value, c :: cs => do
    let digit ← hexDigit? c
    hexDigits? m width (16 * value + digit) (m.skip cs)

theorem hexDigits?_length_le {m : Mode} {width value n : Nat} {cs rest : List Char}
    (h : hexDigits? m width value cs = some (n, rest)) : rest.length ≤ cs.length := by
  fun_induction hexDigits? m width value cs <;> grind [Option.bind_eq_some_iff, Mode.length_skip_le]

def codePoint? (m : Mode) (width : Nat) (cs : List Char) : Option (Char × List Char) := do
  let (value, rest) ← hexDigits? m width 0 (m.skip cs)
  if value.isValidChar then some (Char.ofNat value, rest) else none

theorem codePoint?_length_le {m : Mode} {width : Nat} {c : Char} {cs rest : List Char}
    (h : codePoint? m width cs = some (c, rest)) : rest.length ≤ cs.length := by
  obtain ⟨⟨value, more⟩, read, valid⟩ := Option.bind_eq_some_iff.mp h
  grind [hexDigits?_length_le read, Mode.length_skip_le m cs]

/-- A sign that stands for itself behind a backslash. -/
def isMark (c : Char) : Bool :=
  c.toNat < 0x80 && !c.isAlphanum && c != '<' && c != '>'

def escapedAtom? (c : Char) : Option Atom :=
  if isMark c then some (.char c false)
  else
    [('a', .char '\x07' false), ('f', .char '\x0c' false), ('t', .char '\t' false),
     ('n', .char '\n' false), ('r', .char '\r' false), ('v', .char '\x0b' false),
     ('d', .shorthand false), ('s', .shorthand false), ('w', .shorthand false),
     ('D', .shorthand true), ('S', .shorthand true), ('W', .shorthand true),
     ('A', .edge), ('z', .edge),
     ('b', .wordEdge), ('B', .wordEdge), ('<', .wordEdge), ('>', .wordEdge)].lookup c

def escape? (m : Mode) : List Char → Option (Atom × List Char)
  | [] => none
  | 'x' :: cs => (codePoint? m 2 cs).map fun (c, rest) => (.char c true, rest)
  | 'u' :: cs => (codePoint? m 4 cs).map fun (c, rest) => (.char c false, rest)
  | 'U' :: cs => (codePoint? m 8 cs).map fun (c, rest) => (.char c false, rest)
  | c :: cs => (escapedAtom? c).map (·, cs)

theorem escape?_length_lt {m : Mode} {a : Atom} {cs rest : List Char}
    (h : escape? m cs = some (a, rest)) : rest.length < cs.length := by
  fun_cases escape? m cs <;> simp only [escape?] at h <;>
    grind [Option.map_eq_some_iff, → codePoint?_length_le]

end Pattern

end PrimesAndRoots

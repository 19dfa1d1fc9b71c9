import PrimesAndRoots.Text.Basic
import PrimesAndRoots.Word

/-!
# Numerals

Integers written in decimal, and words read from decimal text. A numeral is read from left to
right: one sign, then digits, of which there may be any number of leading zeros. The first
character that cannot be taken decides why a text is refused.
-/

namespace PrimesAndRoots

/-- The decimal text of an integer: no leading zeros, and a minus sign below zero. -/
def numeral (n : Int) : String :=
  String.ofList (if n < 0 then '-' :: decimal n.natAbs else decimal n.natAbs)

inductive NumeralError where
  | empty
  | invalidDigit
  | tooLarge
  | tooSmall
deriving DecidableEq, Repr

def NumeralError.message : NumeralError → String
  | .empty => "cannot parse integer from empty string"
  | .invalidDigit => "invalid digit found in string"
  | .tooLarge => "number too large to fit in target type"
  | .tooSmall => "number too small to fit in target type"

namespace Word

variable {t : IntType}

/-- Appends the digits `cs` to the numeral read so far, whose value is `value`. A character that is
no digit is refused before the value it would give is looked at. -/
def appendDigits (negative : Bool) (value : Word t) : List Char → Except NumeralError (Word t)
  | [] => .ok value
  | c :: cs =>
    match digitValue? c with
    | none => .error .invalidDigit
    | some d =>
      let grown := if negative then 10 * value.toInt - d else 10 * value.toInt + d
      match ofInt? t grown with
      | none => .error (if negative then .tooSmall else .tooLarge)
      | some next => appendDigits negative next cs

/-- Reads a whole numeral. Only a signed type has numerals with a minus sign. -/
def ofChars (t : IntType) : List Char → Except NumeralError (Word t)
  | [] => .error .empty
  | ['+'] => .error .invalidDigit
  | ['-'] => .error .invalidDigit
  | '+' :: cs => appendDigits false 0 cs
  | '-' :: cs => if t.signed then appendDigits true 0 cs else .error .invalidDigit
  | cs => appendDigits false 0 cs

def ofText (t : IntType) (text : String) : Except NumeralError (Word t) :=
  ofChars t text.toList

def text (w : Word t) : String :=
  numeral w.toInt

end Word

/-- Digits with at most one point among them. -/
def isDecimal (cs : List Char) : Bool :=
  match cs.span Char.isDigit with
  | (whole, []) => !whole.isEmpty
  | (whole, '.' :: fraction) => !(whole ++ fraction).isEmpty && fraction.all Char.isDigit
  | _ => false

/-- A number with a sign, a fraction and an exponent, of which any may be missing, or the name of a
number that is not finite. -/
def isNumber (cs : List Char) : Bool :=
  let unsigned := match cs with
    | '+' :: cs => cs
    | '-' :: cs => cs
    | cs => cs
  let mantissa := unsigned.takeWhile fun c => c.toLower ≠ 'e'
  let exponentFits := match unsigned.drop mantissa.length with
    | [] => true
    | _ :: '+' :: ds => !ds.isEmpty && ds.all Char.isDigit
    | _ :: '-' :: ds => !ds.isEmpty && ds.all Char.isDigit
    | _ :: ds => !ds.isEmpty && ds.all Char.isDigit
  isDecimal mantissa && exponentFits ||
    ["inf", "infinity", "nan"].contains (String.ofList (unsigned.map Char.toLower))

end PrimesAndRoots

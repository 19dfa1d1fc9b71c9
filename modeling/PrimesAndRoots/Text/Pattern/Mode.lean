import PrimesAndRoots.Text.Basic

/-!
# Modes of a pattern

What the options of a pattern, such as `x` in `(?x)`, change about how the rest of it is read.
-/

namespace PrimesAndRoots

namespace Pattern

/-- How a stretch of a pattern is read: in Unicode mode as about characters, otherwise bytes. -/
structure Mode where
  /-- Blanks and comments between the signs of the pattern mean nothing. -/
  spaced : Bool := false
  unicode : Bool := true
  ignoreCase : Bool := false
deriving DecidableEq, Repr

namespace Mode

/-- Drops blanks and comments. A comment goes from a number sign to the end of the line. -/
def dropSpace (inComment : Bool) : List Char → List Char
  | [] => []
  | c :: cs =>
    if inComment then dropSpace (c ≠ '\n') cs
    else if isBlank c then dropSpace false cs
    else if c = '#' then dropSpace true cs
    else c :: cs

/-- The pattern from the next sign on that means something. -/
def skip (m : Mode) (cs : List Char) : List Char :=
  if m.spaced then dropSpace false cs else cs

theorem length_dropSpace_le (inComment : Bool) (cs : List Char) :
    (dropSpace inComment cs).length ≤ cs.length := by
  fun_induction dropSpace inComment cs <;> grind

theorem length_skip_le (m : Mode) (cs : List Char) : (m.skip cs).length ≤ cs.length := by
  grind [skip, length_dropSpace_le]

/-- The character that tells whether a dash before `cs` stands for a range. Blanks are passed over
if they mean nothing. Of a comment only the number sign is, so its first word is looked at. -/
def peek (m : Mode) (cs : List Char) : Option Char :=
  if m.spaced then
    let ahead :=
      match cs.dropWhile isBlank with
      | '#' :: comment => comment.dropWhile isBlank
      | ahead => ahead
    ahead.head?.or cs.head?
  else cs.head?

/-- Turns one option on or off. The options not named here change what a pattern matches, and
nothing about how it is read. -/
def set (m : Mode) (on : Bool) : Char → Mode
  | 'x' => { m with spaced := on }
  | 'u' => { m with unicode := on }
  | 'i' => { m with ignoreCase := on }
  | _ => m

/-- The mode after a list of options, where those behind the dash are turned off. No option comes
twice, and a dash is followed by one. -/
def change? (m : Mode) (options : List Char) : Option Mode :=
  if options.all (· ∈ ['i', 'm', 's', 'U', 'u', 'R', 'x', '-']) && options.Nodup &&
      options.getLast? ≠ some '-' then
    let on := options.takeWhile (· ≠ '-')
    let off := options.dropWhile (· ≠ '-')
    some (off.foldl (·.set false ·) (on.foldl (·.set true ·) m))
  else none

end Mode

end Pattern

end PrimesAndRoots

import PrimesAndRoots.Text.Letter
import PrimesAndRoots.Text.Pattern.CharSet

/-!
# Patterns

Regular expressions, as far as whether one can be used. Nothing is matched here. A pattern is read
from left to right; what is kept of it are the groups that are open, the names of groups, and how
deep the parts are nested. A brace is never closed in a pattern, because it stands in braces itself,
so nothing is repeated a given number of times.
-/

namespace PrimesAndRoots

namespace Pattern

def greatestHeight : Nat :=
  250

/-- A part of a branch. Options alone make a part that cannot be repeated. -/
structure Part where
  height : Nat := 0
  repeatable : Bool := true
deriving DecidableEq, Repr

/-- What has been read of a group that is still open, or of the whole pattern. -/
structure OpenGroup where
  /-- The mode in front of the group, which is in force again behind it. -/
  before : Mode := {}
  /-- The heights of the branches that have ended. -/
  branches : List Nat := []
  /-- The parts of the last branch, the last one first. -/
  parts : List Part := []
deriving DecidableEq, Repr

namespace OpenGroup

/-- The height of the last branch. Several parts together are one higher than each. -/
def branchHeight (g : OpenGroup) : Nat :=
  match g.parts with
  | [] => 0
  | [part] => part.height
  | parts => parts.foldl (fun height part => max height part.height) 0 + 1

/-- The height of all that has been read. Several branches together are one higher than each. -/
def height (g : OpenGroup) : Nat :=
  match g.branches with
  | [] => g.branchHeight
  | branches => branches.foldl max g.branchHeight + 1

def add (g : OpenGroup) (part : Part) : OpenGroup :=
  { g with parts := part :: g.parts }

def branch (g : OpenGroup) : OpenGroup :=
  { g with branches := g.branchHeight :: g.branches, parts := [] }

def repeat? (g : OpenGroup) : Option OpenGroup :=
  match g.parts with
  | part :: parts =>
    if part.repeatable then
      some { g with parts := { part with height := part.height + 1 } :: parts }
    else none
  | [] => none

end OpenGroup

structure Place where
  mode : Mode := {}
  /-- The names of groups so far. -/
  names : List (List Char) := []
  /-- The innermost open group. -/
  group : OpenGroup := {}
  /-- The open groups around it, from the inside out. -/
  outer : List OpenGroup := []
deriving DecidableEq, Repr

namespace Place

def add (p : Place) (part : Part) : Place :=
  { p with group := p.group.add part }

/-- Adds an atom, if it can be used in the mode. -/
def atom? (p : Place) (a : Atom) : Option Place :=
  if a.usable p.mode then some (p.add {}) else none

/-- Opens a group in which another mode may be in force. -/
def opened (p : Place) (mode : Mode) : Place :=
  { p with mode, group := { before := p.mode }, outer := p.group :: p.outer }

def close? (p : Place) : Option Place :=
  match p.outer with
  | [] => none
  | parent :: outer =>
    some { p with
      mode := p.group.before, group := parent.add { height := p.group.height + 1 }, outer }

/-- The text is a name for a group: a letter or an underscore, then also numbers, points and square
brackets. -/
def isName : List Char → Bool
  | [] => false
  | c :: cs =>
    (isAlphabetic c || c == '_') &&
      cs.all fun c => isAlphanumeric c || c ∈ ['_', '.', '[', ']']

/-- Opens a group whose name ends at the next angle bracket. No two groups have one name. -/
def openNamed? (p : Place) (cs : List Char) : Option (Place × List Char) :=
  let name := cs.takeWhile (· ≠ '>')
  match cs.dropWhile (· ≠ '>') with
  | [] => none
  | _ :: rest =>
    if isName name && name ∉ p.names then
      some ({ p.opened p.mode with names := name :: p.names }, rest)
    else none

theorem openNamed?_length_le {p next : Place} {cs rest : List Char}
    (h : p.openNamed? cs = some (next, rest)) : rest.length ≤ cs.length := by
  have := (List.dropWhile_suffix (l := cs) (· ≠ '>')).length_le
  grind [openNamed?]

/-- Reads options: for a group, up to a colon, or for the rest of the innermost group. -/
def options? (p : Place) (cs : List Char) : Option (Place × List Char) :=
  let options := cs.takeWhile fun c => c ≠ ':' && c ≠ ')'
  match p.mode.change? options, cs.dropWhile fun c => c ≠ ':' && c ≠ ')' with
  | some mode, ':' :: rest => some (p.opened mode, rest)
  | some mode, ')' :: rest =>
    if options.isEmpty then none
    else some ({ p.add { repeatable := false } with mode }, rest)
  | _, _ => none

theorem options?_length_le {p next : Place} {cs rest : List Char}
    (h : p.options? cs = some (next, rest)) : rest.length ≤ cs.length := by
  have := (List.dropWhile_suffix (l := cs) fun c => c ≠ ':' && c ≠ ')').length_le
  grind [options?]

/-- Reads what stands between a parenthesis and the inside of its group. A group does not look ahead
or behind. -/
def open? (p : Place) (cs : List Char) : Option (Place × List Char) :=
  match p.mode.skip cs with
  | '?' :: '=' :: _ | '?' :: '!' :: _ | '?' :: '<' :: '=' :: _ | '?' :: '<' :: '!' :: _ => none
  | '?' :: 'P' :: '<' :: rest | '?' :: '<' :: rest => p.openNamed? rest
  | '?' :: rest => p.options? rest
  | rest => some (p.opened p.mode, rest)

theorem open?_length_le {p next : Place} {cs rest : List Char}
    (h : p.open? cs = some (next, rest)) : rest.length ≤ cs.length := by
  have := p.mode.length_skip_le cs
  unfold open? at h
  grind [→ openNamed?_length_le, → options?_length_le]

def step (p : Place) (c : Char) (cs : List Char) : Option (Place × List Char) :=
  match c with
  | '(' => p.open? cs
  | ')' => p.close?.map (·, cs)
  | '|' => some ({ p with group := p.group.branch }, cs)
  | '*' | '+' | '?' =>
    p.group.repeat?.map fun group =>
      ({ p with group }, if cs.head? = some '?' then cs.tail else cs)
  | '\x7b' => none
  | '[' => do
    let members ← openSet? p.mode cs
    let (height, rest) ← charSet? p.mode (.inside {} []) members
    return (p.add { height }, rest)
  | '\\' => do
    let (a, rest) ← escape? p.mode cs
    return (← p.atom? a, rest)
  | '.' => (p.atom? .any).map (·, cs)
  | '^' | '$' => (p.atom? .edge).map (·, cs)
  | _ => (p.atom? (.char c false)).map (·, cs)

/-- Every step takes a character away. -/
theorem step_length_le {p next : Place} {c : Char} {cs rest : List Char}
    (h : p.step c cs = some (next, rest)) : rest.length ≤ cs.length := by
  unfold step at h
  grind [Option.map_eq_some_iff, Option.bind_eq_some_iff, → open?_length_le,
    → openSet?_length_le, → charSet?_length_le, → escape?_length_lt]

def read? (p : Place) (cs : List Char) : Option Place :=
  match _found : p.mode.skip cs with
  | [] => some p
  | c :: more =>
    match _read : p.step c more with
    | none => none
    | some (next, rest) => next.read? rest
termination_by cs.length
decreasing_by grind [Mode.length_skip_le, step_length_le _read]

end Place

end Pattern

/-- The pattern can be read to its end, where no group is left open, and is not nested too deep. -/
def isPattern (cs : List Char) : Bool :=
  match ({} : Pattern.Place).read? cs with
  | some place => place.outer.isEmpty && place.group.height ≤ Pattern.greatestHeight
  | none => false

end PrimesAndRoots

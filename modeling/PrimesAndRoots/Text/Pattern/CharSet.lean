import PrimesAndRoots.Text.Pattern.Atom

/-!
# Sets of characters in a pattern

A set stands in brackets. It has characters, ranges, named classes and further sets as members, and
may be an intersection, a difference or a symmetric difference of such. What is kept of a set is its
height: how deep its parts are nested.
-/

namespace PrimesAndRoots

namespace Pattern

/-- What has been read of a set whose bracket is still open. -/
structure OpenSet where
  /-- Nothing but dashes has been read, so a dash is a member. -/
  opening : Bool := true
  /-- The number of members since the last operator. -/
  size : Nat := 0
  /-- The greatest height of one of them. -/
  highest : Nat := 0
  /-- The height of what stands to the left of the last operator. -/
  left : Option Nat := none
deriving DecidableEq, Repr

namespace OpenSet

def insert (s : OpenSet) (height : Nat) : OpenSet :=
  { s with opening := false, size := s.size + 1, highest := max s.highest height }

/-- The height of all that has been read. Several members together are one higher than each, and so
are the two sides of an operator. -/
def height (s : OpenSet) : Nat :=
  let right := if s.size ≤ 1 then s.highest else s.highest + 1
  match s.left with
  | none => right
  | some left => max left right + 1

def operate (s : OpenSet) : OpenSet :=
  { opening := false, left := some s.height }

/-- The character is a member because of where it stands: a dash before all else, or a closing
bracket as the very first, since no set is written empty. -/
def takes (s : OpenSet) (c : Char) : Bool :=
  s.opening && (c = '-' || c = ']' && s.size = 0)

end OpenSet

def classNames : List String :=
  ["alnum", "alpha", "ascii", "blank", "cntrl", "digit", "graph", "lower", "print", "punct",
   "space", "upper", "word", "xdigit"]

def className? (cs : List Char) : Option (List Char) :=
  match cs.dropWhile (· ≠ ':') with
  | ':' :: ']' :: rest =>
    if String.ofList (cs.takeWhile (· ≠ ':')) ∈ classNames then some rest else none
  | _ => none

theorem className?_length_le {cs rest : List Char} (h : className? cs = some rest) :
    rest.length ≤ cs.length := by
  have := (List.dropWhile_suffix (l := cs) (· ≠ ':')).length_le
  grind [className?]

/-- Reads a named class behind its bracket, as `:alpha:]`, and says whether it is negated. -/
def namedClass? : List Char → Option (Bool × List Char)
  | ':' :: '^' :: cs => (className? cs).map (true, ·)
  | ':' :: cs => (className? cs).map (false, ·)
  | _ => none

theorem namedClass?_length_le {negated : Bool} {cs rest : List Char}
    (h : namedClass? cs = some (negated, rest)) : rest.length ≤ cs.length := by
  fun_cases namedClass? cs <;> simp only [namedClass?] at h <;>
    grind [Option.map_eq_some_iff, → className?_length_le]

/-- A named class can be used where ASCII characters can be members. As a set of bytes it cannot be
negated. -/
def namedClassUsable (m : Mode) (negated : Bool) : Bool :=
  if m.unicode then !m.ignoreCase else !negated

/-- Reads a member that is a character or a shorthand, or an end of a range. -/
def member? (m : Mode) : List Char → Option (Atom × List Char)
  | [] => none
  | '\\' :: cs => escape? m cs
  | c :: cs => some (.char c false, cs)

theorem member?_length_lt {m : Mode} {a : Atom} {cs rest : List Char}
    (h : member? m cs = some (a, rest)) : rest.length < cs.length := by
  fun_cases member? m cs <;> simp only [member?] at h <;> grind [→ escape?_length_lt]

/-- Reads a member or a range of characters, in which the first comes not after the last. A dash
before a bracket or another dash makes no range. -/
def range? (m : Mode) (cs : List Char) : Option (List Char) := do
  let (first, rest) ← member? m cs
  let single := if first.usableInSet m then some rest else none
  match m.skip rest with
  | '-' :: more =>
    if m.peek more = some ']' || m.peek more = some '-' then single
    else
      let (last, rest) ← member? m (m.skip more)
      match first, last with
      | .char lo _, .char hi _ =>
        if lo ≤ hi && first.usableInSet m && last.usableInSet m then some rest else none
      | _, _ => none
  | _ => single

theorem range?_length_lt {m : Mode} {cs rest : List Char} (h : range? m cs = some rest) :
    rest.length < cs.length := by
  obtain ⟨⟨first, more⟩, read, h⟩ := Option.bind_eq_some_iff.mp h
  grind [→ member?_length_lt, Mode.length_skip_le, Option.bind_eq_some_iff]

/-- Reads the start of a set behind its bracket. Only a set of characters can be negated: the
complement of a set of bytes has parts of characters. -/
def openSet? (m : Mode) (cs : List Char) : Option (List Char) :=
  match m.skip cs with
  | '^' :: rest => if m.unicode then some rest else none
  | rest => some rest

theorem openSet?_length_le {m : Mode} {cs rest : List Char} (h : openSet? m cs = some rest) :
    rest.length ≤ cs.length := by
  grind [openSet?, Mode.length_skip_le]

/-- Where the reader of a set stands: in the innermost of some open sets, or behind the last
bracket, with the height of the whole set. -/
inductive SetPlace where
  | inside (s : OpenSet) (outer : List OpenSet)
  | behind (height : Nat)
deriving DecidableEq, Repr

def OpenSet.step (m : Mode) (s : OpenSet) (outer : List OpenSet) (c : Char) (cs : List Char) :
    Option (SetPlace × List Char) :=
  if s.takes c then
    if (Atom.char c false).usableInSet m then
      some (.inside { s.insert 0 with opening := c = '-' } outer, cs)
    else none
  else
    match c, cs with
    | '&', '&' :: rest | '-', '-' :: rest | '~', '~' :: rest =>
      some (.inside s.operate outer, rest)
    | '[', _ =>
      match namedClass? cs with
      | some (negated, rest) =>
        if namedClassUsable m negated then some (.inside (s.insert 0) outer, rest) else none
      | none => (openSet? m cs).map (.inside {} (s :: outer), ·)
    | ']', _ =>
      match outer with
      | [] => some (.behind (s.height + 1), cs)
      | parent :: outer => some (.inside (parent.insert (s.height + 1)) outer, cs)
    | _, _ => (range? m (c :: cs)).map (.inside (s.insert 0) outer, ·)

/-- Every step takes a character away. -/
theorem OpenSet.step_length_le {m : Mode} {s : OpenSet} {outer : List OpenSet} {c : Char}
    {cs rest : List Char} {place : SetPlace} (h : s.step m outer c cs = some (place, rest)) :
    rest.length ≤ cs.length := by
  unfold step at h
  grind [Option.map_eq_some_iff, → namedClass?_length_le, → openSet?_length_le, → range?_length_lt]

def charSet? (m : Mode) (place : SetPlace) (cs : List Char) : Option (Nat × List Char) :=
  match place with
  | .behind height => some (height, cs)
  | .inside s outer =>
    match _found : m.skip cs with
    | [] => none
    | c :: more =>
      match _read : s.step m outer c more with
      | none => none
      | some (place, rest) => charSet? m place rest
termination_by cs.length
decreasing_by grind [Mode.length_skip_le, OpenSet.step_length_le _read]

theorem charSet?_length_le {m : Mode} {place : SetPlace} {height : Nat} {cs rest : List Char}
    (h : charSet? m place cs = some (height, rest)) : rest.length ≤ cs.length := by
  fun_induction charSet? m place cs <;>
    grind [Mode.length_skip_le, → OpenSet.step_length_le]

end Pattern

end PrimesAndRoots

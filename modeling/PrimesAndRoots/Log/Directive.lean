import PrimesAndRoots.Log.Event
import PrimesAndRoots.Text.Letter
import PrimesAndRoots.Text.Pattern

/-!
# Log directives

A directive lets some entries through up to a level. It is written as a level, or as a target with
a condition in brackets and a level, of which any may be left out: `target[span{field}]=level`. A
condition on a span, or on the value of a field, speaks of entries inside spans only. This library
opens no span, so such a directive can be read but decides about nothing.
-/

namespace PrimesAndRoots

/-- Lets entries through whose target begins with `target` and that have the field, if one is given,
up to `level`; without a level, none. -/
structure Directive where
  target : String := ""
  field : Option String := none
  level : Option Level
deriving DecidableEq, Repr

/-- The names of the fields of an entry. Its message is one of them. -/
def Record.fieldNames (r : Record) : List String :=
  "message" :: r.fields.map Prod.fst

namespace Directive

def Matches (d : Directive) (r : Record) : Prop :=
  d.target.toList <+: r.target.toList ∧ ∀ name ∈ d.field, name ∈ r.fieldNames

instance (d : Directive) (r : Record) : Decidable (d.Matches r) :=
  inferInstanceAs (Decidable (_ ∧ _))

def allows (d : Directive) (level : Level) : Bool :=
  match d.level with
  | none => false
  | some most => level.rank ≤ most.rank

/-- The directive `d` is at least as specific as `e`: its target is longer, or its target is as long
and it asks for a field where `e` asks for none or for one that comes before it. -/
def AtLeast (d e : Directive) : Prop :=
  e.target.length < d.target.length ∨
    e.target.length = d.target.length ∧
      match e.field, d.field with
      | none, _ => True
      | some _, none => False
      | some x, some y => ¬y < x

instance (d e : Directive) : Decidable (d.AtLeast e) := by
  unfold AtLeast
  split <;> infer_instance

/-! ## Reading -/

/-- The levels by name and by number. The outer option says whether the text is a level at all; the
inner one is `none` where the level lets nothing through. -/
def level? (cs : List Char) : Option (Option Level) :=
  match Word.ofChars IntType.uint64 cs with
  | .ok number =>
    if number.toInt = 0 then some none
    else
      match [Level.error, .warn, .info, .debug, .trace].find? fun l => number.toInt = l.rank with
      | some level => some (some level)
      | none => none
  | .error _ =>
    match String.ofList (cs.map Char.toLower) with
    | "off" => some none
    | "error" => some (some .error)
    | "warn" => some (some .warn)
    | "info" => some (some .info)
    | "debug" => some (some .debug)
    | "trace" => some (some .trace)
    | _ => none

/-- The level behind the equals sign. If nothing is there, everything gets through. -/
def levelPart? (cs : List Char) : Option (Option Level) :=
  if cs.isEmpty then some (some .trace) else level? cs

/-- A target begins with a letter, a number, or one of three marks. -/
def startsTarget (c : Char) : Bool :=
  isAlphanumeric c || c == '-' || c == ':' || c == '_'

/-- What a condition in brackets comes to: the field an entry has to have, or nothing where it
speaks of spans or values. -/
inductive Condition where
  | field (name : String)
  | insideSpan
deriving DecidableEq, Repr

/-- Reads a condition on a field: its name, and perhaps the value it has to have. -/
def fieldCondition? (cs : List Char) : Option Condition :=
  if cs.isEmpty then none
  else
    let name := cs.takeWhile (· ≠ '=')
    match cs.dropWhile (· ≠ '=') with
    | [] => some (.field (String.ofList name))
    | _ :: more =>
      let value := more.takeWhile (· ≠ '=')
      if isNumber value || isPattern value then some .insideSpan else none

/-- What stands in the brackets of a directive: the name of a span, perhaps a field in braces. -/
structure SpanClause where
  span : List Char
  field : Option (List Char) := none
deriving DecidableEq, Repr

namespace SpanClause

/-- Takes the text behind an opening bracket apart, and gives what follows the closing one. -/
def ofChars? (cs : List Char) : Option (SpanClause × List Char) :=
  let span := cs.takeWhile fun c => c ≠ ']' && c ≠ '\x7b'
  match cs.dropWhile fun c => c ≠ ']' && c ≠ '\x7b' with
  | [] => none
  | ']' :: rest => some ({ span }, rest)
  | _ :: inner =>
    match inner.dropWhile (· ≠ '\x7d') with
    | '\x7d' :: ']' :: rest => some ({ span, field := some (inner.takeWhile (· ≠ '\x7d')) }, rest)
    | _ => none

def condition? (b : SpanClause) : Option Condition :=
  match b.field with
  | none => some .insideSpan
  | some field => do
    let condition ← fieldCondition? field
    return if b.span.isEmpty then condition else .insideSpan

/-- The number of bytes it takes, brackets and braces included. -/
def size (b : SpanClause) : Nat :=
  match b.field with
  | none => byteCount b.span + 2
  | some field => byteCount b.span + byteCount field + 4

/-- The stretches of another text that lie where the parts of `b` do, behind `start` bytes. -/
def cutFrom? (b : SpanClause) (bytes : Bytes) (start : Nat) : Option SpanClause := do
  let inside := start + 1
  let span ← stretch? bytes inside (byteCount b.span)
  match b.field with
  | none => some { span }
  | some field =>
    let field ← stretch? bytes (inside + byteCount b.span + 1) (byteCount field)
    some { span, field := some field }

end SpanClause

/-- The parts of a directive: the word it begins with, what stands in brackets, and what stands
behind the equals sign. -/
structure Parts where
  word : List Char
  bracket : Option SpanClause := none
  level : Option (List Char) := none
deriving DecidableEq, Repr

namespace Parts

/-- What stands behind the equals sign, if there is one. Nothing else may follow. -/
def levelText? : List Char → Option (Option (List Char))
  | [] => some none
  | '=' :: level => some (some level)
  | _ => none

/-- Takes a directive without blanks at its ends apart. -/
def ofChars? (cs : List Char) : Option Parts :=
  if cs.head?.any fun c => c = '[' || startsTarget c then
    let word := cs.takeWhile fun c => c ≠ '=' && c ≠ '['
    match cs.dropWhile fun c => c ≠ '=' && c ≠ '[' with
    | '[' :: inner => do
      let (bracket, rest) ← SpanClause.ofChars? inner
      return { word, bracket, level := ← levelText? rest }
    | rest => (levelText? rest).map fun level => { word, level }
  else none

/-- The stretches of another text that lie where the parts of `p` do. A word or a level that `p`
ends with goes on to the end of that text. -/
def cutFrom? (p : Parts) (bytes : Bytes) : Option Parts := do
  let wordSize := if p.bracket.isNone && p.level.isNone then bytes.length else byteCount p.word
  let word ← stretch? bytes 0 wordSize
  let bracket ← p.bracket.mapM (·.cutFrom? bytes wordSize)
  let levelStart := wordSize + (p.bracket.elim 0 SpanClause.size) + 1
  let level ← p.level.mapM fun _ => stretch? bytes levelStart bytes.length
  return { word, bracket, level }

/-- The directive with these parts; none, if it speaks of what is inside spans. A word alone is a
level or else a target, and a directive without a level lets everything through. -/
def directives? (p : Parts) : Option (List Directive) :=
  let target := String.ofList p.word
  match p.bracket, p.level with
  | none, none =>
    match level? p.word with
    | some level => some [{ level }]
    | none => some [{ target, level := some .trace }]
  | _, _ => do
    let level ← p.level.elim (some (some .trace)) levelPart?
    match ← p.bracket.mapM SpanClause.condition? with
    | none => some [{ target, level }]
    | some (.field name) => some [{ target, field := some name, level }]
    | some .insideSpan => some []

end Parts

/-- Reads a directive. Where its parts lie is found out without the blanks at either end, but they
are the stretches at those places of the text with its blanks. So blanks behind it belong to the
word or the level that it ends with, and blanks before it push every part out of place: it has no
readable level then, and no target or field of an entry. -/
def ofText? (text : String) : Option (List Directive) := do
  let places ← Parts.ofChars? (trimBlanks text.toList)
  let parts ← places.cutFrom? (encodeText text)
  parts.directives?

end Directive

end PrimesAndRoots

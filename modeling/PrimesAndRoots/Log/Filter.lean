import PrimesAndRoots.Log.Directive

/-!
# Log filters

A filter is a list of directives, and the most specific one that speaks of an entry decides about
it. It is written as a setting: directives separated by commas.
-/

namespace PrimesAndRoots

abbrev Filter := List Directive

namespace Filter

/-- Lets through what is a warning or graver. -/
def warnings : Filter :=
  [{ level := some .warn }]

/-- The filter of a setting. Without a setting, or if any of its directives cannot be read, only
warnings get through. -/
def ofSetting : Option String → Filter
  | none => warnings
  | some setting =>
    let pieces := (setting.splitOn ",").filter fun piece => piece ≠ ""
    match pieces.mapM Directive.ofText? with
    | none => warnings
    | some directives => directives.flatten

/-- The directive that decides about an entry: of those that speak of it the most specific one, and
of equals the last. -/
def deciding? (f : Filter) (r : Record) : Option Directive :=
  (f.filter fun d => d.Matches r).foldl (fun best d =>
    match best with
    | none => some d
    | some e => if d.AtLeast e then some d else some e) none

/-- An entry gets through if a directive decides about it and allows its level. -/
def admits (f : Filter) (r : Record) : Bool :=
  match f.deciding? r with
  | none => false
  | some d => d.allows r.level

end Filter

end PrimesAndRoots

import PrimesAndRoots.Log.Event
import PrimesAndRoots.Word

/-!
# Sources

A source is pulled for one item after the other. An item is a word or a failure; a pull may log
events on its way. Every item a source gives makes it smaller, so a loop that pulls until there is
no item ends.

A source that never ends has no such measure. No moment of a program that pulls from one is lost for
that: up to then it has made some finite number of pulls, and it cannot tell the source from the
list of the items these have given, which is a source that ends behind them.
-/

namespace PrimesAndRoots

/-- What one pull gives: the events it logged, the item, if there is one, and what is left of the
source. -/
structure Pull (σ : Type) (t : IntType) where
  events : List Event
  item : Option (Except Failure (Word t))
  rest : σ

/-- Sources of words of the type `t`, with the measure that each item lowers. -/
class Source (σ : Type) (t : outParam IntType) where
  pull : σ → Pull σ t
  size : σ → Nat
  size_pull_lt : ∀ s, (pull s).item.isSome → size (pull s).rest < size s

/-- A list of items is a source that logs nothing. -/
instance {t : IntType} : Source (List (Except Failure (Word t))) t where
  pull
    | [] => ⟨[], none, []⟩
    | item :: items => ⟨[], some item, items⟩
  size := List.length
  size_pull_lt items h := by
    cases items with
    | nil => contradiction
    | cons => exact Nat.lt_succ_self _

end PrimesAndRoots

import PrimesAndRoots.Dialogue
import PrimesAndRoots.Source

/-!
# The prime prompt

Shows the items of a source one at a time and waits for a line after each. The input that ends, the
source that ends, and the first failure each end the prompt.
-/

namespace PrimesAndRoots.Prompt

variable {σ : Type} {t : IntType}

def primeText (w : Word t) : String :=
  "Prime: " ++ w.text ++ "\nEnter to continue..."

/-- The prompt over the source `s`, of which `shown` items have been shown before. The result is the
number of items shown in all. An item is pulled only once the line after the last one is there. -/
def primes [Source σ t] (s : σ) (shown : Nat := 0) : Dialogue σ Nat :=
  let pulled := Source.pull s
  .logAll pulled.events <|
    match _h : pulled.item with
    | none => .done (.ok shown)
    | some (.error failure) => .took pulled.rest <| .done (.error failure)
    | some (.ok w) =>
      .took pulled.rest <| .write (primeText w) <| .flush <| .ask fun
        | none =>
          .write "\n" <| .log (.inputEnded (shown + 1)) <| .done (.ok (shown + 1))
        | some _ => primes pulled.rest (shown + 1)
termination_by Source.size s
decreasing_by exact Source.size_pull_lt s (by simp [pulled] at _h; simp [_h])

end PrimesAndRoots.Prompt

import PrimesAndRoots.Command
import PrimesAndRoots.Proofs.PrimePrompt
import PrimesAndRoots.Proofs.PrimeStream
import PrimesAndRoots.Proofs.Quoted
import PrimesAndRoots.Proofs.RootPrompt

/-!
# What the commands leave behind

From the bytes of standard input to the exit code and the bytes of standard output. The prime
command ends as its prompt over all primes of 64 bits does, and the root command as the root prompt;
a failure is told by the exit code and by the last line of standard error. The filter setting
reaches standard error only. That no log line gets into standard output is seen by its letters: the
name of every level has a capital letter that no prompt and no answer has.
-/

namespace PrimesAndRoots

open Reader Prompt

/-! ## Bytes of prompts and bytes of log lines -/

/-- A capital letter other than the two that words of a prompt begin with. -/
def isLogLetter (b : UInt8) : Bool :=
  65 ≤ b && b ≤ 90 && b ≠ 69 && b ≠ 80

/-- The bytes have none of those letters. -/
def Quiet (bytes : Bytes) : Prop :=
  ∀ b ∈ bytes, ¬isLogLetter b

instance (bytes : Bytes) : Decidable (Quiet bytes) :=
  List.decidableBAll _ _

theorem Quiet.append {a b : Bytes} (ha : Quiet a) (hb : Quiet b) : Quiet (a ++ b) := by
  intro c hc
  rcases List.mem_append.1 hc with hc | hc
  · exact ha c hc
  · exact hb c hc

namespace Command

variable {σ α : Type} {command : Command} {closing : List Event} {filter : Filter}
  {tr : Transcript σ α} {stdin : Bytes} {setting : Option String}

/-! ## How failures are told -/

/-- The first line of the input is text, and without the blanks at its ends a numeral of `x`. -/
def Enters (stdin : Bytes) (x : Int) : Prop :=
  ∃ text t : String, encodeText text = firstLine stdin ∧ Trimmed text.toList t.toList ∧
    IsNumeral t.toList x

theorem enters_iff {text : String} {x : Int} (htext : encodeText text = firstLine stdin) :
    Enters stdin x ↔ IsNumeral (trim text).toList x := by
  constructor
  · rintro ⟨text', t, htext', htrim, hx⟩
    obtain rfl := encodeText_injective (htext'.trans htext.symm)
    rwa [← htrim.eq_trim]
  · intro hx
    exact ⟨text, trim text, htext, trimmed_trim text, hx⟩

theorem Enters.unique {x y : Int} (hx : Enters stdin x) (hy : Enters stdin y) : x = y := by
  have ⟨text, _, htext, _⟩ := hx
  rw [enters_iff htext] at hx hy
  exact hx.unique hy

end Command

end PrimesAndRoots

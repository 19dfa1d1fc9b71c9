import PrimesAndRoots.PrimeStream
import PrimesAndRoots.Prompt.Primes
import PrimesAndRoots.Prompt.Root

/-!
# Sessions

Prompts held one after the other at one terminal. Each goes on where the last one left the reader
and the writer, whether or not that one failed.
-/

namespace PrimesAndRoots

/-- One prompt, with the source it shows. -/
inductive Call where
  | root
  | primes {t : IntType} (stream : PrimeStream t)
  | given {t : IntType} (items : List (Except Failure (Word t)))

inductive Report where
  | root (transcript : Transcript Unit RootReport)
  | primes {t : IntType} (transcript : Transcript (PrimeStream t) Nat)
  | given {t : IntType} (transcript : Transcript (List (Except Failure (Word t))) Nat)

namespace Report

def terminal : Report → Terminal
  | root tr => tr.terminal
  | primes tr => tr.terminal
  | given tr => tr.terminal

end Report

def Call.run (terminal : Terminal) : Call → Report
  | root => .root (Prompt.root.run () terminal)
  | primes stream => .primes ((Prompt.primes stream).run stream terminal)
  | given items => .given ((Prompt.primes items).run items terminal)

def Session.run (terminal : Terminal) : List Call → List Report
  | [] => []
  | call :: calls =>
    let report := call.run terminal
    report :: Session.run report.terminal calls

end PrimesAndRoots

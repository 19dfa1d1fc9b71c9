import PrimesAndRoots.Proofs.Conversation
import PrimesAndRoots.Proofs.PrimePrompt

/-!
# The prime prompt goes in lock step

Pull, write, flush, read, and again: no request of the prime prompt comes out of turn, whatever its
source gives and whatever the devices answer. `Phase` is the cycle of requests as a machine that
takes one exchange at a time. Every conversation of the prompt is a path of that machine
(`orderly_of_allows`), and what a path counts is told by the phase it has come to
(`Phase.Counts`), so the bounds hold at every moment.
-/

namespace PrimesAndRoots

namespace Exchange

variable {t : IntType}

def isPull : Exchange t → Bool
  | pulled _ => true
  | _ => false

/-- A prompt was written whole. The only other text is the line feed at the end of input. -/
def isPrompt : Exchange t → Bool
  | written text => text ≠ "\n"
  | _ => false

def isFlush : Exchange t → Bool
  | flushed (.ok _) => true
  | _ => false

def isLine : Exchange t → Bool
  | read (.ok (some _)) => true
  | _ => false

/-- What a device took and was not flushed since. -/
def unflushed (exchanges : List (Exchange t)) : Bytes :=
  exchanges.foldl (fun waiting x => if x.isFlush then [] else waiting ++ x.output) []

@[simp] theorem unflushed_concat (exchanges : List (Exchange t)) (x : Exchange t) :
    unflushed (exchanges ++ [x]) = if x.isFlush then [] else unflushed exchanges ++ x.output := by
  simp [unflushed]

end Exchange

/-! ## The cycle -/

/-- What the prime prompt is at: it may pull, it has an item to show, the item is written, it is
flushed, the input has ended, it is closed, or it has failed. -/
inductive Phase where
  | ready
  | holding
  | shown
  | waiting
  | ended
  | closed
  | failed
deriving DecidableEq

namespace Phase

variable {t : IntType}

/-- The phase after an exchange, if that is in its turn. -/
def after? : Phase → Exchange t → Option Phase
  | failed, _ => none
  | phase, .logged _ => some phase
  | ready, .pulled (.ok _) => some holding
  | ready, .pulled (.error _) => some failed
  | holding, .written text => if text = "\n" then none else some shown
  | holding, .refused _ _ => some failed
  | shown, .flushed (.ok _) => some waiting
  | shown, .flushed (.error _) => some failed
  | waiting, .read (.ok (some _)) => some ready
  | waiting, .read (.ok none) => some ended
  | waiting, .read (.error _) => some failed
  | ended, .written text => if text = "\n" then some closed else none
  | ended, .refused _ _ => some failed
  | _, _ => none

def path? : Phase → List (Exchange t) → Option Phase
  | phase, [] => some phase
  | phase, x :: later => (phase.after? x).bind (path? · later)

theorem path?_append (phase : Phase) (before after : List (Exchange t)) :
    phase.path? (before ++ after) = (phase.path? before).bind (path? · after) := by
  induction before generalizing phase with
  | nil => rfl
  | cons x before ih =>
    cases h : phase.after? x <;> simp [path?, h, ih]

theorem path?_logged {phase : Phase} (h : phase ≠ failed) (events : List Event)
    (later : List (Exchange t)) :
    phase.path? (events.map .logged ++ later) = phase.path? later := by
  induction events with
  | nil => rfl
  | cons event events ih =>
    cases phase <;> simp_all [path?, after?]

/-- An exchange that fails is the last one of its path. -/
theorem eq_nil_of_path?_cons {phase last : Phase} {x : Exchange t} {later : List (Exchange t)}
    (h : phase.path? (x :: later) = some last) (hx : x.failure?.isSome) : later = [] := by
  obtain ⟨next, hnext, hlater⟩ := Option.bind_eq_some_iff.1 h
  obtain rfl : next = failed := by
    revert hnext
    fun_cases after? phase x <;> simp_all [Exchange.failure?]
  cases later with
  | nil => rfl
  | cons y later => simp [path?, after?] at hlater

/-- What the exchanges that led to a phase have in common. Behind a failure only the bounds are
left. -/
def Counts (phase : Phase) (before : List (Exchange t)) : Prop :=
  let pulls := before.countP Exchange.isPull
  let prompts := before.countP Exchange.isPrompt
  let flushes := before.countP Exchange.isFlush
  let lines := before.countP Exchange.isLine
  match phase with
  | ready => pulls = lines ∧ prompts = lines ∧ flushes = lines ∧ Exchange.unflushed before = []
  | holding =>
    pulls = lines + 1 ∧ prompts = lines ∧ flushes = lines ∧ Exchange.unflushed before = []
  | shown => pulls = lines + 1 ∧ prompts = lines + 1 ∧ flushes = lines
  | waiting =>
    pulls = lines + 1 ∧ prompts = lines + 1 ∧ flushes = lines + 1 ∧ Exchange.unflushed before = []
  | ended => pulls = lines + 1 ∧ prompts = lines + 1 ∧ flushes = lines + 1
  | closed => pulls = lines + 1 ∧ prompts = lines + 1 ∧ flushes = lines + 1
  | failed => lines ≤ flushes ∧ flushes ≤ prompts ∧ prompts ≤ pulls ∧ pulls ≤ lines + 1

theorem counts_nil : ready.Counts ([] : List (Exchange t)) := ⟨rfl, rfl, rfl, rfl⟩

theorem Counts.concat {phase next : Phase} {before : List (Exchange t)} {x : Exchange t}
    (h : phase.Counts before) (hnext : phase.after? x = some next) :
    next.Counts (before ++ [x]) := by
  revert hnext
  fun_cases after? phase x <;> intro hnext <;> cases hnext <;>
    simp_all [Counts, Exchange.isPull, Exchange.isPrompt, Exchange.isFlush, Exchange.isLine,
      Exchange.output]

theorem Counts.append {phase last : Phase} {before exchanges : List (Exchange t)}
    (h : phase.Counts before) (hpath : phase.path? exchanges = some last) :
    last.Counts (before ++ exchanges) := by
  induction exchanges generalizing phase before with
  | nil =>
    cases hpath
    rwa [List.append_nil]
  | cons x exchanges ih =>
    obtain ⟨next, hnext, hlater⟩ := Option.bind_eq_some_iff.1 hpath
    simpa using ih (h.concat hnext) hlater

theorem Counts.bounds {phase : Phase} {before : List (Exchange t)} (h : phase.Counts before) :
    before.countP Exchange.isLine ≤ before.countP Exchange.isFlush ∧
      before.countP Exchange.isFlush ≤ before.countP Exchange.isPrompt ∧
      before.countP Exchange.isPrompt ≤ before.countP Exchange.isPull ∧
      before.countP Exchange.isPull ≤ before.countP Exchange.isLine + 1 := by
  cases phase <;> simp only [Counts] at h <;> omega

/-- A line is asked for only when all is flushed. -/
theorem Counts.unflushed_eq_nil {phase last : Phase} {before later : List (Exchange t)}
    {answer : Except Fault (Option String)} (h : phase.Counts before)
    (hpath : phase.path? (.read answer :: later) = some last) : Exchange.unflushed before = [] := by
  obtain ⟨next, hnext, -⟩ := Option.bind_eq_some_iff.1 hpath
  cases phase <;> simp [after?] at hnext
  exact h.2.2.2

end Phase

namespace Prompt

open Source

variable {σ : Type} {t : IntType} [Source σ t] {s : σ} {shown : Nat}
  {exchanges : List (Exchange t)} {result : Except Failure Nat}

/-! ## One round of the prompt -/

/-- The ways a round of the prompt can go, apart from what its pull logs: the exchanges from that
round on, and the result in the end. -/
inductive Round (s : σ) (shown : Nat) : List (Exchange t) → Except Failure Nat → Prop where
  | sourceEnded : (pull s).item = none → Round s shown [] (.ok shown)
  | itemFailed {failure : Failure} : (pull s).item = some (.error failure) →
      Round s shown [.pulled (.error failure)] (.error failure)
  | promptRefused {w : Word t} {bytes : Bytes} {fault : Fault} : (pull s).item = some (.ok w) →
      Round s shown [.pulled (.ok w), .refused bytes fault] (.error (.device fault))
  | flushFailed {w : Word t} {fault : Fault} : (pull s).item = some (.ok w) →
      Round s shown [.pulled (.ok w), .written (primeText w), .flushed (.error fault)]
        (.error (.device fault))
  | readFailed {w : Word t} {fault : Fault} : (pull s).item = some (.ok w) →
      Round s shown
        [.pulled (.ok w), .written (primeText w), .flushed (.ok ()), .read (.error fault)]
        (.error (.device fault))
  | feedRefused {w : Word t} {bytes : Bytes} {fault : Fault} : (pull s).item = some (.ok w) →
      Round s shown
        [.pulled (.ok w), .written (primeText w), .flushed (.ok ()), .read (.ok none),
          .refused bytes fault]
        (.error (.device fault))
  | inputEnded {w : Word t} : (pull s).item = some (.ok w) →
      Round s shown
        [.pulled (.ok w), .written (primeText w), .flushed (.ok ()), .read (.ok none),
          .written "\n", .logged (.inputEnded (shown + 1))]
        (.ok (shown + 1))
  | lineRead {w : Word t} {line : String} {later : List (Exchange t)}
      {result : Except Failure Nat} : (pull s).item = some (.ok w) →
      (primes (pull s).rest (shown + 1)).Allows (pull s).rest later result →
      Round s shown
        (.pulled (.ok w) :: .written (primeText w) :: .flushed (.ok ()) ::
          .read (.ok (some line)) :: later)
        result

/-- Every conversation of the prompt begins with one of these rounds. -/
theorem round_of_allows (h : (primes s shown).Allows s exchanges result) :
    ∃ later, exchanges = (pull s).events.map .logged ++ later ∧ Round s shown later result := by
  cases hitem : (pull s).item with
  | none =>
    rw [primes_of_none hitem] at h
    obtain ⟨later, rfl, hlater⟩ := h.of_logAll
    cases hlater
    exact ⟨[], rfl, .sourceEnded hitem⟩
  | some item =>
    cases item with
    | error failure =>
      rw [primes_of_error hitem] at h
      obtain ⟨later, rfl, hlater⟩ := h.of_logAll
      cases hlater with
      | took hpull hlater =>
        cases hlater
        rw [hpull] at hitem
        cases hitem
        exact ⟨_, rfl, .itemFailed (by rw [hpull])⟩
    | ok w =>
      rw [primes_of_ok hitem] at h
      obtain ⟨later, rfl, hlater⟩ := h.of_logAll
      refine ⟨later, rfl, ?_⟩
      cases hlater with
      | took hpull hlater =>
        rw [hpull] at hitem
        cases hitem
        have hitem : (pull s).item = some (.ok w) := by rw [hpull]
        cases hlater with
        | refuse => exact .promptRefused hitem
        | write hlater =>
          cases hlater with
          | flushFault => exact .flushFailed hitem
          | flush hlater =>
            cases hlater with
            | askFault => exact .readFailed hitem
            | @ask _ _ line _ _ hlater =>
              cases line with
              | some line => exact .lineRead hitem hlater
              | none =>
                cases hlater with
                | refuse => exact .feedRefused hitem
                | write hlater =>
                  cases hlater with
                  | log hlater =>
                    cases hlater
                    exact .inputEnded hitem

/-! ## Whole conversations -/

theorem primeText_ne_feed (w : Word t) : primeText w ≠ "\n" := by
  intro h
  have := congrArg (fun text => text.toList.head?) h
  simp [primeText] at this

/-- What is true of a conversation of the prompt as a whole, with `shown` items shown before. -/
structure Orderly (shown : Nat) (exchanges : List (Exchange t)) (result : Except Failure Nat) :
    Prop where
  path : ∃ last, Phase.ready.path? exchanges = some last
  error_iff : ∀ failure, result = .error failure ↔
    exchanges.findSome? Exchange.failure? = some failure
  of_ok : ∀ n, result = .ok n → n = shown + exchanges.countP Exchange.isFlush
  feed_iff : result.toOption.isSome → (.written "\n" ∈ exchanges ↔ .read (.ok none) ∈ exchanges)

theorem Orderly.logged (h : Orderly shown exchanges result) (events : List Event) :
    Orderly shown (events.map .logged ++ exchanges) result where
  path := by
    rw [Phase.path?_logged (by decide)]
    exact h.path
  error_iff failure := by
    have hnone : (events.map (Exchange.logged (t := t))).findSome? Exchange.failure? = none := by
      simp [Exchange.failure?]
    rw [List.findSome?_append, hnone, Option.none_or]
    exact h.error_iff failure
  of_ok n hn := by
    rw [List.countP_append, h.of_ok n hn]
    simp [Function.comp_def, Exchange.isFlush]
  feed_iff hok := by simpa using h.feed_iff hok

theorem orderly_of_round {later : List (Exchange t)} (h : Round s shown later result)
    (ih : ∀ w, (pull s).item = some (.ok w) → ∀ later result,
      (primes (pull s).rest (shown + 1)).Allows (pull s).rest later result →
      Orderly (shown + 1) later result) :
    Orderly shown later result := by
  cases h with
  | lineRead hitem hlater =>
    obtain ⟨⟨last, hpath⟩, herror, hok, hfeed⟩ := ih _ hitem _ _ hlater
    refine ⟨⟨last, ?_⟩, ?_, ?_, ?_⟩
    · simpa [Phase.path?, Phase.after?, primeText_ne_feed] using hpath
    · simpa [List.findSome?_cons, Exchange.failure?] using herror
    · intro n hn
      simpa [List.countP_cons, Exchange.isFlush, Nat.add_assoc, Nat.add_comm 1] using hok n hn
    · simpa [(primeText_ne_feed _).symm] using hfeed
  | _ =>
    constructor <;>
      simp [Phase.path?, Phase.after?, (primeText_ne_feed _).symm, List.findSome?_cons,
        List.countP_cons, Exchange.failure?, Exchange.isFlush, Except.toOption, eq_comm]

/-- Every conversation of the prompt is orderly, by induction over its rounds. -/
theorem orderly_of_allows (h : (primes s shown).Allows s exchanges result) :
    Orderly shown exchanges result := by
  induction s using pull_induction generalizing shown exchanges result with
  | nothing s hs =>
    obtain ⟨later, rfl, hround⟩ := round_of_allows h
    refine (orderly_of_round hround fun w hw => ?_).logged _
    rw [hs] at hw
    contradiction
  | item s item hs ih =>
    obtain ⟨later, rfl, hround⟩ := round_of_allows h
    exact (orderly_of_round hround fun _ _ _ _ => ih).logged _

/-- What the prompt does at a terminal is a conversation that it allows, and takes from the source
what it shows. -/
theorem realized_primes (s : σ) (shown : Nat) : (primes s shown).Realized s := by
  induction s using pull_induction generalizing shown with
  | nothing s hs =>
    rw [primes_of_none hs]
    exact (Dialogue.realized_done _).logAll _
  | item s item hs ih =>
    have hpull : pull s = ⟨(pull s).events, some item, (pull s).rest⟩ := by rw [← hs]
    cases item with
    | error failure =>
      rw [primes_of_error hs]
      exact ((Dialogue.realized_done _).took hpull).logAll _
    | ok w =>
      rw [primes_of_ok hs]
      refine (Dialogue.Realized.took (.write (.flush (.ask ?_)) _) hpull).logAll _
      intro line
      cases line with
      | none => exact ((Dialogue.realized_done _).log _).write _
      | some line => exact ih _

/-- The prime prompt goes in lock step in every conversation that devices can make of it. At every
moment of it the lines read, the flushes, the prompts written and the items pulled are ahead of each
other in this order, and by one at most in all; whenever a line is asked for, all bytes have been
flushed. The result is the first failure that occurs, which ends the conversation, and without one
it is the number of flushes; then the line feed is written just if the input has ended. What is held
at a terminal is such a conversation, of which the transcript is the record. -/
theorem primes_go_in_lock_step (s : σ) :
    (∀ (exchanges : List (Exchange t)) (result : Except Failure Nat),
      (primes s).Allows s exchanges result →
      (∀ before after, exchanges = before ++ after →
        before.countP Exchange.isLine ≤ before.countP Exchange.isFlush ∧
        before.countP Exchange.isFlush ≤ before.countP Exchange.isPrompt ∧
        before.countP Exchange.isPrompt ≤ before.countP Exchange.isPull ∧
        before.countP Exchange.isPull ≤ before.countP Exchange.isLine + 1) ∧
      (∀ before answer after, exchanges = before ++ .read answer :: after →
        Exchange.unflushed before = []) ∧
      (∀ failure, result = .error failure ↔
        exchanges.findSome? Exchange.failure? = some failure) ∧
      (∀ before x after, exchanges = before ++ x :: after → x.failure?.isSome → after = []) ∧
      (∀ n, result = .ok n → n = exchanges.countP Exchange.isFlush ∧
        (.written "\n" ∈ exchanges ↔ .read (.ok none) ∈ exchanges))) ∧
    ∀ terminal, ∃ exchanges,
      (primes s).Allows s exchanges ((primes s).run s terminal).result ∧
      ((primes s).run s terminal).steps = Exchange.record terminal.writer.written exchanges := by
  refine ⟨?_, fun terminal => (realized_primes s 0 terminal).1⟩
  intro exchanges result h
  obtain ⟨⟨last, hpath⟩, herror, hok, hfeed⟩ := orderly_of_allows h
  -- each part of the conversation is a path of its own
  have hsplit (before after : List (Exchange t)) (heq : exchanges = before ++ after) :
      ∃ phase, Phase.ready.path? before = some phase ∧ phase.path? after = some last := by
    rw [heq, Phase.path?_append] at hpath
    exact Option.bind_eq_some_iff.1 hpath
  refine ⟨?_, ?_, herror, ?_, ?_⟩
  · intro before after heq
    obtain ⟨phase, hbefore, -⟩ := hsplit before after heq
    exact (Phase.counts_nil.append hbefore).bounds
  · intro before answer after heq
    obtain ⟨phase, hbefore, hafter⟩ := hsplit before _ heq
    exact (Phase.counts_nil.append hbefore).unflushed_eq_nil hafter
  · intro before x after heq hx
    obtain ⟨phase, -, hafter⟩ := hsplit before _ heq
    exact Phase.eq_nil_of_path?_cons hafter hx
  · intro n hn
    refine ⟨?_, hfeed ?_⟩
    · simpa using hok n hn
    · simp [hn, Except.toOption]

end Prompt

end PrimesAndRoots

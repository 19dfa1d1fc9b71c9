import PrimesAndRoots.Dialogue
import PrimesAndRoots.Proofs.Source

/-!
# Conversations

A dialogue with every device it could be held with. An exchange is one request together with its
answer, also where the answer is a fault, and `Dialogue.Allows` relates a dialogue to the lists of
exchanges that some devices make of it: a text may be written or be cut short after any byte, a
flush may succeed or fail, and a reader may give any line, the end of input or a fault.

A terminal is one such device. `Dialogue.Realized` says that what is held at a terminal is a
conversation that the dialogue allows, that its transcript is the record of that conversation, and
that its source has given what was taken; there is one lemma for each request.
-/

namespace PrimesAndRoots

/-- A request and how it was answered, with the items of a source of words of the type `t`. -/
inductive Exchange (t : IntType) where
  | logged (event : Event)
  | pulled (item : Except Failure (Word t))
  | written (text : String)
  /-- Only these first bytes of a text were written. -/
  | refused (bytes : Bytes) (fault : Fault)
  | flushed (answer : Except Fault Unit)
  | read (answer : Except Fault (Option String))

namespace Exchange

variable {t : IntType}

def failure? : Exchange t → Option Failure
  | pulled (.error failure) => some failure
  | refused _ fault => some (.device fault)
  | flushed (.error fault) => some (.device fault)
  | read (.error fault) => some (.device fault)
  | _ => none

def output : Exchange t → Bytes
  | written text => encodeText text
  | refused bytes _ => bytes
  | _ => []

/-- The steps by which a transcript tells the exchanges, where `count` bytes were written before.
Requests that failed are not told, apart from the bytes that were written. -/
def record (count : Nat) : List (Exchange t) → List Step
  | [] => []
  | logged event :: later => .logged event :: record count later
  | pulled _ :: later => .took :: record count later
  | written text :: later =>
    .wrote (encodeText text) :: record (count + (encodeText text).length) later
  | refused bytes _ :: later => .cutShort bytes :: record (count + bytes.length) later
  | flushed (.ok _) :: later => .flushed count :: record count later
  | flushed (.error _) :: later => record count later
  | read (.ok line) :: later => .read line :: record count later
  | read (.error _) :: later => record count later

end Exchange

/-- A writer takes the first bytes of what it is given. -/
theorem Writer.accepted_prefix (w : Writer) (bytes : Bytes) : w.accepted bytes <+: bytes := by
  unfold accepted
  split
  · exact List.prefix_rfl
  · exact List.take_prefix _ _

def Transcript.taken {σ α : Type} (tr : Transcript σ α) : Nat :=
  tr.steps.count .took

namespace Dialogue

variable {σ α : Type} {t : IntType} [Source σ t]

/-- Some devices make the conversation `exchanges` of the dialogue, with a source in the state `s`,
and it ends with `result`. -/
inductive Allows :
    Dialogue σ α → σ → List (Exchange t) → Except Failure α → Prop where
  | done {s : σ} {result : Except Failure α} : Allows (.done result) s [] result
  | log {s : σ} {event : Event} {next : Dialogue σ α} {later result} :
      Allows next s later result → Allows (.log event next) s (.logged event :: later) result
  | took {s rest : σ} {events : List Event} {item : Except Failure (Word t)}
      {next : Dialogue σ α} {later result} :
      Source.pull s = ⟨events, some item, rest⟩ → Allows next rest later result →
      Allows (.took rest next) s (.pulled item :: later) result
  | write {s : σ} {text : String} {next : Dialogue σ α} {later result} :
      Allows next s later result → Allows (.write text next) s (.written text :: later) result
  | refuse {s : σ} {text : String} {next : Dialogue σ α} {bytes : Bytes} {fault : Fault} :
      bytes <+: encodeText text → bytes ≠ encodeText text →
      Allows (.write text next) s [.refused bytes fault] (.error (.device fault))
  | flush {s : σ} {next : Dialogue σ α} {later result} :
      Allows next s later result → Allows (.flush next) s (.flushed (.ok ()) :: later) result
  | flushFault {s : σ} {next : Dialogue σ α} {fault : Fault} :
      Allows (.flush next) s [.flushed (.error fault)] (.error (.device fault))
  | ask {s : σ} {next : Option String → Dialogue σ α} {line : Option String} {later result} :
      Allows (next line) s later result → Allows (.ask next) s (.read (.ok line) :: later) result
  | askFault {s : σ} {next : Option String → Dialogue σ α} {fault : Fault} :
      Allows (.ask next) s [.read (.error fault)] (.error (.device fault))

/-- Logging comes first in every conversation that begins with it. -/
theorem Allows.of_logAll {events : List Event} {next : Dialogue σ α} {s : σ}
    {exchanges : List (Exchange t)} {result : Except Failure α}
    (h : (logAll events next).Allows s exchanges result) :
    ∃ later, exchanges = events.map .logged ++ later ∧ next.Allows s later result := by
  induction events generalizing exchanges with
  | nil => exact ⟨exchanges, rfl, h⟩
  | cons event events ih =>
    cases h with
    | log h =>
      obtain ⟨later, rfl, hlater⟩ := ih h
      exact ⟨later, rfl, hlater⟩

/-! ## Conversations at a terminal -/

/-- At every terminal the dialogue is a conversation that it allows, the transcript is its record,
and as many items have left the source as were taken. -/
def Realized (d : Dialogue σ α) (s : σ) : Prop :=
  ∀ tm : Terminal,
    (∃ exchanges, d.Allows s exchanges (d.run s tm).result ∧
      (d.run s tm).steps = Exchange.record tm.writer.written exchanges) ∧
    (d.run s tm).source = Source.afterPulls s (d.run s tm).taken

variable {s : σ}

theorem realized_done (result : Except Failure α) : (done result).Realized s :=
  fun _ => ⟨⟨[], .done, rfl⟩, rfl⟩

theorem Realized.log {next : Dialogue σ α} (h : next.Realized s) (event : Event) :
    (log event next).Realized s := by
  intro tm
  obtain ⟨⟨later, hlater, hsteps⟩, hsource⟩ := h tm
  exact ⟨⟨_, .log hlater, congrArg (Step.logged event :: ·) hsteps⟩, hsource⟩

theorem Realized.logAll {next : Dialogue σ α} (h : next.Realized s) (events : List Event) :
    (logAll events next).Realized s := by
  induction events with
  | nil => exact h
  | cons event events ih => exact ih.log event

theorem Realized.took {rest : σ} {events : List Event} {item : Except Failure (Word t)}
    {next : Dialogue σ α} (h : next.Realized rest)
    (hpull : Source.pull s = ⟨events, some item, rest⟩) : (took rest next).Realized s := by
  intro tm
  obtain ⟨⟨later, hlater, hsteps⟩, hsource⟩ := h tm
  refine ⟨⟨_, .took hpull hlater, congrArg (Step.took :: ·) hsteps⟩, ?_⟩
  have htaken : ((Dialogue.took rest next).run s tm).taken = (next.run rest tm).taken + 1 :=
    List.count_cons_self
  rw [htaken, Source.afterPulls, hpull]
  exact hsource

theorem Realized.write {next : Dialogue σ α} (h : next.Realized s) (text : String) :
    (write text next).Realized s := by
  intro tm
  have hprefix := tm.writer.accepted_prefix (encodeText text)
  by_cases hall : (tm.writer.accepted (encodeText text)).length = (encodeText text).length
  · have heq := hprefix.eq_of_length hall
    obtain ⟨⟨later, hlater, hsteps⟩, hsource⟩ :=
      h { tm with writer := tm.writer.push (encodeText text) }
    simp only [run, heq, if_true]
    exact ⟨⟨_, .write hlater, congrArg (Step.wrote (encodeText text) :: ·) hsteps⟩, hsource⟩
  · simp only [run, if_neg hall]
    exact ⟨⟨_, .refuse hprefix fun heq => hall (congrArg List.length heq), rfl⟩, rfl⟩

theorem Realized.flush {next : Dialogue σ α} (h : next.Realized s) : (flush next).Realized s := by
  intro tm
  cases hfault : tm.writer.nextFlushFault? with
  | none =>
    obtain ⟨⟨later, hlater, hsteps⟩, hsource⟩ := h { tm with writer := tm.writer.flush }
    have hwritten : tm.writer.flush.written = tm.writer.written := by
      rw [Writer.flush, hfault]
    rw [hwritten] at hsteps
    simp only [run, hfault]
    exact ⟨⟨_, .flush hlater, congrArg (Step.flushed tm.writer.written :: ·) hsteps⟩, hsource⟩
  | some fault =>
    simp only [run, hfault]
    exact ⟨⟨_, .flushFault, rfl⟩, rfl⟩

theorem Realized.ask {next : Option String → Dialogue σ α} (h : ∀ line, (next line).Realized s) :
    (ask next).Realized s := by
  intro tm
  cases hread : tm.reader.readLine.1 with
  | ok line =>
    obtain ⟨⟨later, hlater, hsteps⟩, hsource⟩ := h line { tm with reader := tm.reader.readLine.2 }
    simp only [run, hread]
    exact ⟨⟨_, .ask hlater, congrArg (Step.read line :: ·) hsteps⟩, hsource⟩
  | error fault =>
    simp only [run, hread]
    exact ⟨⟨_, .askFault, rfl⟩, rfl⟩

end Dialogue

end PrimesAndRoots

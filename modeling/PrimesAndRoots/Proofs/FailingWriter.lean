import PrimesAndRoots.Proofs.LockStep
import PrimesAndRoots.Prompt.Root

/-!
# Prompts at a writer that fails

What becomes of a run when the writer is full or does not flush, told by the run at a writer that
has been used as much and does not fail. The two agree, or the first one breaks off at a request of
the other (`BreaksOff`): then its steps are those before the request, it has read nothing more, and
the fault of the writer is its result. `outcome_run` says so of every dialogue, by one induction over
its requests.

`FailsFast` reads this off for a writer with a limit and for one that fails in a flush. Both prompts
fail fast.
-/

namespace PrimesAndRoots

/-! ## What a step does to the devices -/

namespace Reader

/-- What a reader has left, also where a fault made it lose bytes, are the last bytes it had. -/
theorem unread_takeLine_suffix (r : Reader) : r.takeLine.2.unread <:+ r.unread := by
  fun_induction takeLine r with
  | case1 => exact List.suffix_rfl
  | case2 fault rest hkind ih => exact ih
  | case3 fault rest hkind => exact List.suffix_rfl
  | case4 rest => exact List.suffix_rfl
  | case5 b bs rest line feed after hspan =>
    obtain ⟨hchunk, -, -⟩ := span_ne_lineFeed hspan
    rw [unread_bytes, hchunk, unread_putBack]
    exact ⟨line ++ [feed], by simp⟩
  | case6 b bs rest line hspan more left hmore ih =>
    rw [hmore] at ih
    exact ih.trans (List.suffix_append _ _)

def after (r : Reader) : Step → Reader
  | .read _ => r.readLine.2
  | _ => r

def afterAll (r : Reader) (steps : List Step) : Reader :=
  steps.foldl after r

end Reader

namespace Writer

def after (w : Writer) (step : Step) : Writer :=
  { w with
    written := w.written + step.output.length
    flushes := w.flushes + step.flush?.toList.length }

/-- The writer that has been used as much and does not fail. -/
def sound (w : Writer) : Writer :=
  { written := w.written, flushes := w.flushes }

theorem unfailing_sound (w : Writer) : w.sound.Unfailing := ⟨rfl, rfl⟩

structure Permits (w : Writer) (step : Step) : Prop where
  output_le : ∀ capacity, w.capacity = some capacity → step.output.length ≤ capacity - w.written
  flush_ne : ∀ index fault, w.flushFault = some (index, fault) → step.flush?.isSome →
    index ≠ w.flushes

theorem permits_of_silent (w : Writer) {step : Step} (houtput : step.output = [])
    (hflush : step.flush? = none) : w.Permits step :=
  ⟨by simp [houtput], by simp [hflush]⟩

end Writer

/-! ## Runs that break off -/

namespace Transcript

variable {σ α : Type}

/-- The two runs differ in their writers at most. -/
structure Agrees (tr whole : Transcript σ α) : Prop where
  steps_eq : tr.steps = whole.steps
  result_eq : tr.result = whole.result
  source_eq : tr.source = whole.source
  reader_eq : tr.terminal.reader = whole.terminal.reader

theorem Agrees.cons {tr whole : Transcript σ α} (h : tr.Agrees whole) (step : Step) :
    (tr.cons step).Agrees (whole.cons step) :=
  { h with steps_eq := congrArg (step :: ·) h.steps_eq }

/-- The run `early` is `whole` up to a request that fails with `fault`, where `whole` makes the step
`next`. Of that request only the steps `last` are left. -/
structure BreaksOff (r : Reader) (fault : Fault) (before : List Step) (next : Step)
    (last : List Step) (early whole : Transcript σ α) : Prop where
  result_eq : early.result = .error (.device fault)
  early_steps : early.steps = before ++ last
  whole_steps : ∃ after, whole.steps = before ++ next :: after
  reader_eq : early.terminal.reader = r.afterAll before
  unread_suffix : whole.terminal.reader.unread <:+ early.terminal.reader.unread

/-- A run breaks off at once if its first request fails. -/
theorem breaksOff_nil {r : Reader} {fault : Fault} {next : Step} {last : List Step} {s : σ}
    {w : Writer} {whole : Transcript σ α} (h : whole.terminal.reader.unread <:+ r.unread) :
    BreaksOff r fault [] next last ⟨last, .error (.device fault), s, ⟨r, w⟩⟩ (whole.cons next) :=
  ⟨rfl, rfl, ⟨_, rfl⟩, rfl, h⟩

theorem BreaksOff.cons {r : Reader} {fault : Fault} {before last : List Step} {next step : Step}
    {early whole : Transcript σ α}
    (h : BreaksOff (r.after step) fault before next last early whole) :
    BreaksOff r fault (step :: before) next last (early.cons step) (whole.cons step) := by
  obtain ⟨after, hafter⟩ := h.whole_steps
  exact
    { h with
      early_steps := congrArg (step :: ·) h.early_steps
      whole_steps := ⟨after, congrArg (step :: ·) hafter⟩ }

/-- The ways a run `tr` at the writer `w` can go, where `whole` is the run at the sound writer. -/
inductive Outcome (w : Writer) (r : Reader) (whole tr : Transcript σ α) : Prop where
  | agrees :
      (∀ capacity, w.capacity = some capacity → whole.output.length ≤ capacity - w.written) →
      (∀ index fault, w.flushFault = some (index, fault) → w.flushes ≤ index →
        w.flushes + whole.flushes.length ≤ index) →
      tr.Agrees whole → Outcome w r whole tr
  | full {capacity : Nat} {before : List Step} {text bytes : Bytes} :
      w.capacity = some capacity → bytes <+: text → bytes.length < text.length →
      (before.flatMap Step.output).length + bytes.length = capacity - w.written →
      BreaksOff r w.refusal before (.wrote text) [.cutShort bytes] tr whole →
      Outcome w r whole tr
  | unflushed {index position : Nat} {fault : Fault} {before : List Step} :
      w.flushFault = some (index, fault) →
      w.flushes + (before.filterMap Step.flush?).length = index →
      w.written + (before.flatMap Step.output).length = position →
      BreaksOff r fault before (.flushed position) [] tr whole →
      Outcome w r whole tr

theorem filterMap_flush?_cons (step : Step) (steps : List Step) :
    (step :: steps).filterMap Step.flush? =
      step.flush?.toList ++ steps.filterMap Step.flush? := by
  cases h : step.flush? <;> simp [h]

/-- A step in which the writer does not fail puts off what becomes of the run. -/
theorem Outcome.cons {w : Writer} {r : Reader} {whole tr : Transcript σ α} {step : Step}
    (hstep : w.Permits step) (h : Outcome (w.after step) (r.after step) whole tr) :
    Outcome w r (whole.cons step) (tr.cons step) := by
  cases h with
  | agrees houtput hflush h =>
    refine .agrees ?_ ?_ (h.cons step)
    · intro capacity hcapacity
      have hroom := hstep.output_le capacity hcapacity
      have hrest := houtput capacity hcapacity
      simp only [Writer.after] at hrest
      simp only [output_cons, List.length_append]
      omega
    · intro index fault hfault hle
      have hne := hstep.flush_ne index fault hfault
      have hrest := hflush index fault hfault
      simp only [Writer.after] at hrest
      simp only [flushes, steps_cons, filterMap_flush?_cons, List.length_append] at hrest ⊢
      cases hposition : step.flush? with
      | none =>
        simp only [hposition, Option.toList_none, List.length_nil] at hrest ⊢
        omega
      | some position =>
        have hne := hne (by rw [hposition]; rfl)
        simp only [hposition, Option.toList_some, List.length_singleton] at hrest ⊢
        omega
  | full hcapacity hpart hlt hlength h =>
    refine .full hcapacity hpart hlt ?_ h.cons
    have hroom := hstep.output_le _ hcapacity
    simp only [Writer.after] at hlength
    simp only [List.flatMap_cons, List.length_append]
    omega
  | unflushed hfault hcount hposition h =>
    simp only [Writer.after] at hcount hposition
    refine .unflushed hfault ?_ ?_ h.cons
    · simp only [filterMap_flush?_cons, List.length_append]
      omega
    · simp only [List.flatMap_cons, List.length_append]
      omega

end Transcript

/-! ## Every dialogue at every writer -/

namespace Dialogue

open Transcript

variable {σ α : Type}

theorem unread_run_suffix (d : Dialogue σ α) (s : σ) (tm : Terminal) :
    (d.run s tm).terminal.reader.unread <:+ tm.reader.unread := by
  induction d generalizing s tm with
  | done result => exact List.suffix_rfl
  | log event next ih => exact ih s tm
  | took rest next ih => exact ih rest tm
  | write text next ih =>
    simp only [run]
    split
    · exact ih s _
    · exact List.suffix_rfl
  | flush next ih =>
    simp only [run]
    split
    · exact ih s _
    · exact List.suffix_rfl
  | ask next ih =>
    have hsuffix := tm.reader.unread_takeLine_suffix
    simp only [run]
    split
    · exact (ih _ s _).trans hsuffix
    · exact hsuffix

/-- A text that finds room is written as at the sound writer, any other one is cut at the end of the
room. -/
theorem outcome_write {text : String} {next : Dialogue σ α} {s : σ} {r : Reader}
    (ih : ∀ w : Writer, Outcome w r (next.run s ⟨r, w.sound⟩) (next.run s ⟨r, w⟩)) (w : Writer) :
    Outcome w r ((write text next).run s ⟨r, w.sound⟩) ((write text next).run s ⟨r, w⟩) := by
  rw [run_write w.unfailing_sound]
  generalize hbytes : encodeText text = bytes
  by_cases hfits : ∀ capacity, w.capacity = some capacity → bytes.length ≤ capacity - w.written
  · have hall : w.accepted bytes = bytes := by
      cases hcapacity : w.capacity with
      | none => simp [Writer.accepted, hcapacity]
      | some capacity => simp [Writer.accepted, hcapacity, hfits capacity hcapacity]
    simp only [run, hbytes, hall, if_true]
    exact .cons ⟨hfits, by simp [Step.flush?]⟩ (ih (w.push bytes))
  · simp only [not_forall, Nat.not_le] at hfits
    obtain ⟨capacity, hcapacity, hlt⟩ := hfits
    have hcut : w.accepted bytes = bytes.take (capacity - w.written) := by
      rw [Writer.accepted, hcapacity]
    have hlength : (bytes.take (capacity - w.written)).length = capacity - w.written :=
      List.length_take_of_le (Nat.le_of_lt hlt)
    simp only [run, hbytes, hcut, hlength, if_neg (Nat.ne_of_lt hlt)]
    refine .full hcapacity (List.take_prefix _ _) ?_ ?_
      (breaksOff_nil (unread_run_suffix next s _))
    · rwa [hlength]
    · rw [hlength]
      exact Nat.zero_add _

theorem outcome_flush {next : Dialogue σ α} {s : σ} {r : Reader}
    (ih : ∀ w : Writer, Outcome w r (next.run s ⟨r, w.sound⟩) (next.run s ⟨r, w⟩)) (w : Writer) :
    Outcome w r ((flush next).run s ⟨r, w.sound⟩) ((flush next).run s ⟨r, w⟩) := by
  rw [run_flush w.unfailing_sound]
  cases hfault : w.nextFlushFault? with
  | none =>
    have hafter : w.flush = w.after (.flushed w.written) := by
      rw [Writer.flush, hfault]
      rfl
    have hpermits : w.Permits (.flushed w.written) := by
      refine ⟨fun _ _ => Nat.zero_le _, fun index fault h _ heq => ?_⟩
      simp [Writer.nextFlushFault?, h, heq] at hfault
    simp only [run, hfault, hafter]
    exact .cons hpermits (ih _)
  | some fault =>
    obtain ⟨index, hflushFault, hindex⟩ :
        ∃ index, w.flushFault = some (index, fault) ∧ index = w.flushes := by
      cases h : w.flushFault with
      | none => simp [Writer.nextFlushFault?, h] at hfault
      | some planned =>
        obtain ⟨hindex, rfl⟩ : planned.1 = w.flushes ∧ planned.2 = fault := by
          simpa [Writer.nextFlushFault?, h] using hfault
        exact ⟨planned.1, rfl, hindex⟩
    simp only [run, hfault]
    refine .unflushed hflushFault ?_ ?_ (breaksOff_nil (unread_run_suffix next s _))
    · exact hindex.symm
    · rfl

/-- A run at any writer agrees with the run at the sound writer, or breaks off from it where the
writer fails. -/
theorem outcome_run (d : Dialogue σ α) (s : σ) (r : Reader) (w : Writer) :
    Outcome w r (d.run s ⟨r, w.sound⟩) (d.run s ⟨r, w⟩) := by
  induction d generalizing s r w with
  | done result => exact .agrees (fun _ _ => Nat.zero_le _) (fun _ _ _ h => h) ⟨rfl, rfl, rfl, rfl⟩
  | log event next ih => exact .cons (w.permits_of_silent rfl rfl) (ih s r w)
  | took rest next ih => exact .cons (w.permits_of_silent rfl rfl) (ih rest r w)
  | write text next ih => exact outcome_write (ih s r) w
  | flush next ih => exact outcome_flush (ih s r) w
  | ask next ih =>
    cases hread : r.readLine.1 with
    | ok line =>
      rw [run_ask_ok hread, run_ask_ok hread]
      exact .cons (w.permits_of_silent rfl rfl) (ih line s r.readLine.2 w)
    | error fault =>
      rw [run_ask_error hread, run_ask_error hread]
      exact .agrees (fun _ _ => Nat.zero_le _) (fun _ _ _ h => h) ⟨rfl, rfl, rfl, rfl⟩

end Dialogue

/-! ## The two ways of failing -/

namespace Writer

/-- The writer that takes `limit` bytes more and then reports `error`, or else that it takes
nothing. -/
def limitedTo (w : Writer) (limit : Nat) (error : Option Fault) : Writer :=
  { w with capacity := some (w.written + limit), refusal := error.getD .nothingWritten }

/-- The writer that fails in the flush after `index` more of them. -/
def failingAt (w : Writer) (index : Nat) (fault : Fault) : Writer :=
  { w with flushFault := some (w.flushes + index, fault) }

end Writer

namespace Transcript

variable {σ α : Type} {t : IntType} [Source σ t]

/-- The run `tr` from the source `s` and the reader `r` is cut where `whole` writes a byte after the
first `limit` ones. -/
structure Truncates (s : σ) (r : Reader) (limit : Nat) (fault : Fault)
    (tr whole : Transcript σ α) : Prop where
  result_eq : tr.result = .error (.device fault)
  output_eq : tr.output = whole.output.take limit
  flushes_prefix : tr.flushes <+: whole.flushes
  events_prefix : tr.events <+: whole.events
  taken_le : tr.taken ≤ whole.taken
  source_eq : tr.source = Source.afterPulls s tr.taken
  whole_source_eq : whole.source = Source.afterPulls s whole.taken
  reader_eq : tr.terminal.reader = r.afterAll tr.steps
  unread_suffix : whole.terminal.reader.unread <:+ tr.terminal.reader.unread
  unread_suffix_start : tr.terminal.reader.unread <:+ r.unread

/-- The run `tr` from the source `s` and the reader `r` ends where `whole` makes the flush after
`index` ones. Before it `written` bytes had been written. -/
structure StopsAtFlush (s : σ) (r : Reader) (written index : Nat) (fault : Fault)
    (tr whole : Transcript σ α) : Prop where
  result_eq : tr.result = .error (.device fault)
  steps_eq : ∃ later, whole.steps = tr.steps ++ .flushed (written + tr.output.length) :: later
  length_flushes : tr.flushes.length = index
  source_eq : tr.source = Source.afterPulls s tr.taken
  reader_eq : tr.terminal.reader = r.afterAll tr.steps

variable {s : σ} {r : Reader} {fault : Fault} {before : List Step} {tr whole : Transcript σ α}

/-- A run that breaks off in the midst of a text has written a proper part of the whole output. -/
theorem BreaksOff.output_append {text bytes : Bytes}
    (h : BreaksOff r fault before (.wrote text) [.cutShort bytes] tr whole)
    (hpart : bytes <+: text) (hlt : bytes.length < text.length) :
    ∃ later, later ≠ [] ∧ whole.output = tr.output ++ later := by
  obtain ⟨after, hwhole⟩ := h.whole_steps
  obtain ⟨rest, rfl⟩ := hpart
  refine ⟨rest ++ after.flatMap Step.output, ?_, ?_⟩
  · rintro hnil
    simp_all
  · simp [output, hwhole, h.early_steps, Step.output]

theorem BreaksOff.truncates {text bytes : Bytes} {limit : Nat}
    (h : BreaksOff r fault before (.wrote text) [.cutShort bytes] tr whole)
    (hpart : bytes <+: text) (hlt : bytes.length < text.length)
    (hlength : (before.flatMap Step.output).length + bytes.length = limit)
    (hsource : tr.source = Source.afterPulls s tr.taken)
    (hwhole : whole.source = Source.afterPulls s whole.taken)
    (hstart : tr.terminal.reader.unread <:+ r.unread) :
    limit < whole.output.length ∧ tr.Truncates s r limit fault whole := by
  obtain ⟨later, hlater, houtput⟩ := h.output_append hpart hlt
  obtain ⟨after, hsteps⟩ := h.whole_steps
  have htr : tr.output.length = limit := by
    simp only [output, h.early_steps, List.flatMap_append, List.length_append]
    simpa [Step.output] using hlength
  refine ⟨?_, h.result_eq, ?_, ?_, ?_, ?_, hsource, hwhole, ?_, h.unread_suffix, hstart⟩
  · have hpos := List.length_pos_iff.2 hlater
    simp only [houtput, List.length_append]
    omega
  · simp [houtput, ← htr]
  · simp only [flushes, hsteps, h.early_steps, List.filterMap_append, List.prefix_append_right_inj]
    exact List.nil_prefix
  · simp only [events, hsteps, h.early_steps, List.filterMap_append, List.prefix_append_right_inj]
    exact List.nil_prefix
  · simp [taken, hsteps, h.early_steps]
  · simp [h.reader_eq, h.early_steps, Reader.afterAll, Reader.after]

theorem BreaksOff.stopsAtFlush {written index position : Nat}
    (h : BreaksOff r fault before (.flushed position) [] tr whole)
    (hindex : (before.filterMap Step.flush?).length = index)
    (hposition : written + (before.flatMap Step.output).length = position)
    (hsource : tr.source = Source.afterPulls s tr.taken) :
    index < whole.flushes.length ∧ tr.StopsAtFlush s r written index fault whole := by
  obtain ⟨after, hwhole⟩ := h.whole_steps
  have hsteps : tr.steps = before := by
    rw [h.early_steps, List.append_nil]
  refine ⟨?_, h.result_eq, ⟨after, ?_⟩, ?_, hsource, ?_⟩
  · simp [flushes, hwhole, Step.flush?, hindex]
  · simp only [hwhole, output, hsteps, hposition]
  · simp [flushes, hsteps, hindex]
  · simp [h.reader_eq, hsteps]

end Transcript

namespace Dialogue

open Transcript

variable {σ α : Type} {t : IntType} [Source σ t]

/-- What a fault of the writer does to the dialogue, held with the source `s`, the reader `r` and a
writer that has been used as much as `w`: it agrees with the whole dialogue as long as no fault
occurs, and ends with the first one. -/
structure FailsFast (d : Dialogue σ α) (s : σ) (r : Reader) (w : Writer) : Prop where
  of_output_le : ∀ limit error, (d.run s ⟨r, w.sound⟩).output.length ≤ limit →
    (d.run s ⟨r, w.sound.limitedTo limit error⟩).Agrees (d.run s ⟨r, w.sound⟩)
  of_lt_output : ∀ limit (error : Option Fault), limit < (d.run s ⟨r, w.sound⟩).output.length →
    (d.run s ⟨r, w.sound.limitedTo limit error⟩).Truncates s r limit
      (error.getD (.found .writeZero "failed to write whole buffer")) (d.run s ⟨r, w.sound⟩)
  of_flushes_le : ∀ index fault, (d.run s ⟨r, w.sound⟩).flushes.length ≤ index →
    (d.run s ⟨r, w.sound.failingAt index fault⟩).Agrees (d.run s ⟨r, w.sound⟩)
  of_lt_flushes : ∀ index fault, index < (d.run s ⟨r, w.sound⟩).flushes.length →
    (d.run s ⟨r, w.sound.failingAt index fault⟩).StopsAtFlush s r w.written index fault
      (d.run s ⟨r, w.sound⟩)

variable {d : Dialogue σ α} {s : σ}

/-- A writer with a limit lets the run agree, or cuts it at the limit. -/
theorem Realized.agrees_or_truncates (hd : d.Realized s) (r : Reader) (w : Writer) (limit : Nat)
    (error : Option Fault) :
    ((d.run s ⟨r, w.sound⟩).output.length ≤ limit ∧
      (d.run s ⟨r, w.sound.limitedTo limit error⟩).Agrees (d.run s ⟨r, w.sound⟩)) ∨
    (limit < (d.run s ⟨r, w.sound⟩).output.length ∧
      (d.run s ⟨r, w.sound.limitedTo limit error⟩).Truncates s r limit
        (error.getD .nothingWritten) (d.run s ⟨r, w.sound⟩)) := by
  have hroom : w.written + limit - w.written = limit := Nat.add_sub_cancel_left _ _
  cases d.outcome_run s r (w.sound.limitedTo limit error) with
  | agrees houtput _ h =>
    have hle := houtput _ rfl
    exact .inl ⟨hle.trans_eq hroom, h⟩
  | full hcapacity hpart hlt hlength h =>
    cases hcapacity
    exact .inr (h.truncates hpart hlt (hlength.trans hroom) (hd _).2 (hd _).2
      (unread_run_suffix d s _))
  | unflushed hfault _ _ h => cases hfault

/-- A writer that fails in a flush lets the run agree, or stops it there. -/
theorem Realized.agrees_or_stopsAtFlush (hd : d.Realized s) (r : Reader) (w : Writer) (index : Nat)
    (fault : Fault) :
    ((d.run s ⟨r, w.sound⟩).flushes.length ≤ index ∧
      (d.run s ⟨r, w.sound.failingAt index fault⟩).Agrees (d.run s ⟨r, w.sound⟩)) ∨
    (index < (d.run s ⟨r, w.sound⟩).flushes.length ∧
      (d.run s ⟨r, w.sound.failingAt index fault⟩).StopsAtFlush s r w.written index fault
        (d.run s ⟨r, w.sound⟩)) := by
  cases d.outcome_run s r (w.sound.failingAt index fault) with
  | agrees _ hflushes h =>
    have hle := hflushes _ _ rfl (Nat.le_add_right _ _)
    exact .inl ⟨Nat.le_of_add_le_add_left hle, h⟩
  | full hcapacity _ _ _ h => cases hcapacity
  | unflushed hfault hcount hposition h =>
    cases hfault
    exact .inr (h.stopsAtFlush (Nat.add_left_cancel hcount) hposition (hd _).2)

theorem Realized.failsFast (hd : d.Realized s) (r : Reader) (w : Writer) : d.FailsFast s r w := by
  constructor
  · intro limit error hle
    rcases hd.agrees_or_truncates r w limit error with ⟨-, h⟩ | ⟨hlt, -⟩
    · exact h
    · omega
  · intro limit error hlt
    rcases hd.agrees_or_truncates r w limit error with ⟨hle, -⟩ | ⟨-, h⟩
    · omega
    · exact h
  · intro index fault hle
    rcases hd.agrees_or_stopsAtFlush r w index fault with ⟨-, h⟩ | ⟨hlt, -⟩
    · exact h
    · omega
  · intro index fault hlt
    rcases hd.agrees_or_stopsAtFlush r w index fault with ⟨hle, -⟩ | ⟨-, h⟩
    · omega
    · exact h

end Dialogue

/-! ## The prompts -/

namespace Prompt

open Dialogue

variable {σ : Type} {t : IntType} [Source σ t]

theorem realized_answerTo (s : σ) (text : String) :
    (answerTo text : Dialogue σ RootReport).Realized s := by
  unfold answerTo
  split
  · exact (realized_done _).log _
  · apply Realized.logAll
    split
    · exact realized_done _
    · exact ((realized_done _).write _).log _

theorem realized_root (s : σ) : (root : Dialogue σ RootReport).Realized s := by
  apply Realized.write
  apply Realized.flush
  apply Realized.ask
  intro line
  cases line with
  | none => exact realized_done _
  | some line => exact realized_answerTo s (trim line)

/-- Both prompts end with the first fault of a writer. One that is full gets the first bytes of the
output, as many as it takes, and one that does not flush has what was written by then. What the
prompts have logged, flushed, pulled and read is the beginning of what they do at a writer without
faults, and it is all the same if the fault never occurs. -/
theorem prompts_fail_fast (s : σ) (r : Reader) (w : Writer) :
    (primes s).FailsFast s r w ∧ (root : Dialogue σ RootReport).FailsFast s r w :=
  ⟨(realized_primes s 0).failsFast r w, (realized_root s).failsFast r w⟩

-- four bytes end within the second character of the question
example : ((root : Dialogue Unit RootReport).run () ⟨[], { capacity := some 4 }⟩).output =
    [232, 175, 183, 232] := by
  decide

end Prompt

end PrimesAndRoots

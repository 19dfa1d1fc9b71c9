import PrimesAndRoots.Proofs.RootPrompt
import PrimesAndRoots.Session

/-!
# Sessions at one reader

Prompts that share a reader see its lines and not its chunks. Two steady readers with the same
unread bytes are `Reader.Alike`, and every dialogue makes alike transcripts at alike readers
(`Dialogue.alike_run`), so a whole session does (`Session.alike_run`). Each prompt takes whole lines
from the front of what the one before has left.
-/

namespace PrimesAndRoots

/-! ## Alike readers -/

namespace Reader

/-- Two steady readers that have the same bytes left, whatever the chunks. -/
structure Alike (r r' : Reader) : Prop where
  steady_left : Steady r
  steady_right : Steady r'
  unread_eq : r.unread = r'.unread

/-- Alike readers read the same, and stay alike. -/
theorem Alike.readLine {r r' : Reader} (h : Alike r r') :
    r.readLine.1 = r'.readLine.1 ∧ Alike r.readLine.2 r'.readLine.2 := by
  obtain ⟨hline, hsteady, hleft⟩ := takeLine_of_steady h.steady_left
  obtain ⟨hline', hsteady', hleft'⟩ := takeLine_of_steady h.steady_right
  rw [← h.unread_eq] at hline' hleft'
  refine ⟨?_, hsteady, hsteady', hleft.trans hleft'.symm⟩
  simp only [Reader.readLine, hline, hline']

/-- A read takes one line, if there is one. -/
theorem lines_readLine {r : Reader} (h : Steady r) :
    Steady r.readLine.2 ∧ lines r.readLine.2.unread = (lines r.unread).tail := by
  cases hlines : lines r.unread with
  | nil =>
    obtain ⟨-, hsteady, hleft⟩ := readLine_of_nil h hlines
    exact ⟨hsteady, hleft⟩
  | cons line rest =>
    obtain ⟨-, -, hsteady, hleft⟩ := readLine_of_cons h hlines
    exact ⟨hsteady, hleft⟩

end Reader

/-! ## Dialogues at alike readers -/

structure Terminal.Alike (tm tm' : Terminal) : Prop where
  readers : tm.reader.Alike tm'.reader
  writer_eq : tm.writer = tm'.writer

/-- Two transcripts with the same steps and the same result, so with the same output, flushes and
events, and with the same source and the same bytes left. -/
structure Transcript.Alike {σ α : Type} (tr tr' : Transcript σ α) : Prop where
  steps_eq : tr.steps = tr'.steps
  result_eq : tr.result = tr'.result
  source_eq : tr.source = tr'.source
  terminals : tr.terminal.Alike tr'.terminal

theorem Transcript.Alike.cons {σ α : Type} {tr tr' : Transcript σ α} (h : tr.Alike tr')
    (step : Step) : (tr.cons step).Alike (tr'.cons step) :=
  { h with steps_eq := congrArg (step :: ·) h.steps_eq }

namespace Dialogue

variable {σ α : Type}

/-- No dialogue can tell alike readers apart. -/
theorem alike_run (d : Dialogue σ α) (s : σ) {tm tm' : Terminal} (h : tm.Alike tm') :
    (d.run s tm).Alike (d.run s tm') := by
  induction d generalizing s tm tm' with
  | done result => exact ⟨rfl, rfl, rfl, h⟩
  | log event next ih => exact (ih s h).cons _
  | took rest next ih => exact (ih rest h).cons _
  | write text next ih =>
    simp only [run, h.writer_eq]
    split
    · refine (ih s ?_).cons _
      exact ⟨h.readers, rfl⟩
    · exact ⟨rfl, rfl, rfl, h.readers, rfl⟩
  | flush next ih =>
    simp only [run, h.writer_eq]
    split
    · refine (ih s ?_).cons _
      exact ⟨h.readers, rfl⟩
    · exact ⟨rfl, rfl, rfl, h.readers, rfl⟩
  | ask next ih =>
    obtain ⟨hline, hleft⟩ := h.readers.readLine
    simp only [run, hline]
    split
    · refine (ih _ s ?_).cons _
      exact ⟨hleft, h.writer_eq⟩
    · exact ⟨rfl, rfl, rfl, hleft, h.writer_eq⟩

/-- At a terminal without faults a dialogue takes whole lines, also where it fails midway, and the
terminal stays without faults. -/
theorem faultless_run (d : Dialogue σ α) (s : σ) {tm : Terminal} (h : tm.Faultless) :
    (d.run s tm).terminal.Faultless ∧ ∃ n,
      Reader.lines (d.run s tm).terminal.reader.unread =
        (Reader.lines tm.reader.unread).drop n := by
  obtain ⟨r, out⟩ := tm
  obtain ⟨hr, hout⟩ := h
  dsimp only at hr hout
  induction d generalizing s r out with
  | done result => exact ⟨⟨hr, hout⟩, 0, rfl⟩
  | log event next ih => exact ih s r out hr hout
  | took rest next ih => exact ih rest r out hr hout
  | write text next ih =>
    rw [run_write hout]
    exact ih s r _ hr (hout.push _)
  | flush next ih =>
    rw [run_flush hout]
    exact ih s r _ hr hout.flush
  | ask next ih =>
    obtain ⟨hsteady, htail⟩ := Reader.lines_readLine hr
    cases hread : r.readLine.1 with
    | ok line =>
      obtain ⟨hleft, n, hlines⟩ := ih line s _ out hsteady hout
      rw [run_ask_ok hread]
      refine ⟨hleft, n + 1, hlines.trans ?_⟩
      rw [htail, List.drop_tail]
    | error fault =>
      rw [run_ask_error hread]
      exact ⟨⟨hsteady, hout⟩, 1, htail.trans List.drop_one.symm⟩

end Dialogue

/-! ## The root prompt on its line -/

namespace Reader

theorem firstLine_firstLine (bytes : Bytes) : firstLine (firstLine bytes) = firstLine bytes := by
  induction bytes with
  | nil => rfl
  | cons b bytes ih =>
    by_cases hb : b = lineFeed <;> simp [firstLine, hb, ih]

theorem firstLine_eq (bytes : Bytes) : firstLine bytes = (lines bytes).head?.getD [] := by
  by_cases h : bytes = []
  · subst h
    rfl
  · rw [lines_of_ne_nil h]
    rfl

/-- What is read depends on the first line only. -/
theorem readLine_congr {r r' : Reader} (h : Steady r) (h' : Steady r')
    (hfirst : firstLine r.unread = firstLine r'.unread) : r.readLine.1 = r'.readLine.1 := by
  obtain ⟨hline, -⟩ := takeLine_of_steady h
  obtain ⟨hline', -⟩ := takeLine_of_steady h'
  simp only [readLine, hline, hline', hfirst]

end Reader

namespace Prompt

variable {σ : Type} {s s' : σ} {r r' : Reader} {out out' : Writer}

/-- Answering reads nothing. -/
theorem reader_answerTo (text : String) (tm : Terminal) :
    ((answerTo text : Dialogue σ RootReport).run s tm).terminal.reader = tm.reader := by
  unfold answerTo
  split
  · rfl
  · rw [Dialogue.run_logAll]
    split
    · rfl
    · simp only [Dialogue.run]
      split <;> rfl

theorem result_answerTo (text : String) (hout : out.Unfailing) (hout' : out'.Unfailing) :
    ((answerTo text : Dialogue σ RootReport).run s ⟨r, out⟩).result =
      ((answerTo text : Dialogue σ RootReport).run s' ⟨r', out'⟩).result := by
  unfold answerTo
  split
  · rfl
  · rw [Dialogue.run_logAll, Dialogue.run_logAll]
    split
    · rfl
    · simp only [Dialogue.run, hout.accepted_eq, hout'.accepted_eq, if_true]
      rfl

/-- The prompt takes one line, if there is one, whether or not it likes it. -/
theorem lines_root (hr : r.Steady) (hout : out.Unfailing) :
    Reader.lines ((root : Dialogue σ RootReport).run s ⟨r, out⟩).terminal.reader.unread =
      (Reader.lines r.unread).tail := by
  have htail := (Reader.lines_readLine hr).2
  rw [root, Dialogue.run_write hout, Dialogue.run_flush (hout.push _)]
  cases hread : r.readLine.1 with
  | error fault =>
    rw [Dialogue.run_ask_error hread]
    exact htail
  | ok line =>
    rw [Dialogue.run_ask_ok hread]
    cases line with
    | none => exact htail
    | some line => simpa only [Transcript.terminal_cons, reader_answerTo] using htail

/-- The result of the prompt depends on its line only. -/
theorem result_root_congr (hr : r.Steady) (hr' : r'.Steady) (hout : out.Unfailing)
    (hout' : out'.Unfailing)
    (hfirst : Reader.firstLine r.unread = Reader.firstLine r'.unread) :
    ((root : Dialogue σ RootReport).run s ⟨r, out⟩).result =
      ((root : Dialogue σ RootReport).run s' ⟨r', out'⟩).result := by
  have hline := Reader.readLine_congr hr hr' hfirst
  rw [root, Dialogue.run_write hout, Dialogue.run_flush (hout.push _), Dialogue.run_write hout',
    Dialogue.run_flush (hout'.push _)]
  simp only [Transcript.result_cons]
  cases hread : r.readLine.1 with
  | error fault => rw [Dialogue.run_ask_error hread, Dialogue.run_ask_error (hline ▸ hread)]
  | ok line =>
    rw [Dialogue.run_ask_ok hread, Dialogue.run_ask_ok (hline ▸ hread), Transcript.result_cons,
      Transcript.result_cons]
    cases line with
    | none => rfl
    | some line => exact result_answerTo _ (hout.push _).flush (hout'.push _).flush

/-- The result of the prompt on a line that is all of the input; `none` is the end of input. -/
def rootResult (line : Option Bytes) : Except Failure RootReport :=
  (root.run () ⟨[.bytes (line.getD [])], {}⟩).result

theorem result_root (hr : r.Steady) (hout : out.Unfailing) :
    (root.run () ⟨r, out⟩).result = rootResult (Reader.lines r.unread).head? := by
  refine result_root_congr hr (Reader.steady_oneChunk _) hout ⟨rfl, rfl⟩ ?_
  rw [Reader.unread_oneChunk, ← Reader.firstLine_eq, Reader.firstLine_firstLine]

end Prompt

/-! ## Whole sessions -/

/-- Two reports of the same prompt that tell the same, and leave alike readers. -/
inductive Report.Alike : Report → Report → Prop where
  | root {tr tr' : Transcript Unit RootReport} : tr.Alike tr' → Alike (.root tr) (.root tr')
  | primes {t : IntType} {tr tr' : Transcript (PrimeStream t) Nat} :
      tr.Alike tr' → Alike (.primes tr) (.primes tr')
  | given {t : IntType} {tr tr' : Transcript (List (Except Failure (Word t))) Nat} :
      tr.Alike tr' → Alike (.given tr) (.given tr')

theorem Report.Alike.terminals {report report' : Report} (h : report.Alike report') :
    report.terminal.Alike report'.terminal := by
  cases h with
  | root h | primes h | given h => exact h.terminals

namespace Call

theorem alike_run (call : Call) {tm tm' : Terminal} (h : tm.Alike tm') :
    (call.run tm).Alike (call.run tm') := by
  cases call with
  | root => exact .root (Dialogue.alike_run _ _ h)
  | primes stream => exact .primes (Dialogue.alike_run _ _ h)
  | given items => exact .given (Dialogue.alike_run _ _ h)

/-- Each prompt takes whole lines, and the root prompt takes one of those that are left. -/
theorem faultless_run (call : Call) {tm : Terminal} (h : tm.Faultless) :
    (call.run tm).terminal.Faultless ∧ ∃ n,
      Reader.lines (call.run tm).terminal.reader.unread =
        (Reader.lines tm.reader.unread).drop n ∧ (call = root → n = 1) := by
  cases call with
  | root =>
    refine ⟨(Dialogue.faultless_run Prompt.root () h).1, 1, ?_, fun _ => rfl⟩
    exact (Prompt.lines_root h.steady h.unfailing).trans List.drop_one.symm
  | primes stream =>
    obtain ⟨hleft, n, hlines⟩ := Dialogue.faultless_run (Prompt.primes stream) stream h
    exact ⟨hleft, n, hlines, nofun⟩
  | given items =>
    obtain ⟨hleft, n, hlines⟩ := Dialogue.faultless_run (Prompt.primes items) items h
    exact ⟨hleft, n, hlines, nofun⟩

end Call

namespace Session

open Reader

/-- A session cannot tell alike readers apart. -/
theorem alike_run (calls : List Call) {tm tm' : Terminal} (h : tm.Alike tm') :
    List.Forall₂ Report.Alike (run tm calls) (run tm' calls) := by
  induction calls generalizing tm tm' with
  | nil => exact .nil
  | cons call calls ih =>
    have hreport := call.alike_run h
    exact .cons hreport (ih hreport.terminals)

def leaves (tm : Terminal) (reports : List Report) : Terminal :=
  (reports.getLast?.map Report.terminal).getD tm

@[simp] theorem leaves_nil (tm : Terminal) : leaves tm [] = tm := rfl

@[simp] theorem leaves_cons (tm : Terminal) (report : Report) (reports : List Report) :
    leaves tm (report :: reports) = leaves report.terminal reports := by
  cases reports with
  | nil => rfl
  | cons _ _ => simp [leaves, List.getLast?_cons]

/-- The lines that each prompt takes, and those that are left after some prompts, make up the
input. -/
theorem exists_taken (calls : List Call) {tm : Terminal} (h : tm.Faultless) :
    ∃ taken : List (List Bytes), taken.length = calls.length ∧
      (∀ i, (taken.take i).flatten ++ lines (leaves tm ((run tm calls).take i)).reader.unread =
        lines tm.reader.unread) ∧
      ∀ i, calls[i]? = some .root → taken[i]? =
        some ((lines (leaves tm ((run tm calls).take i)).reader.unread).take 1) := by
  induction calls generalizing tm with
  | nil => exact ⟨[], rfl, by simp [run], by simp⟩
  | cons call calls ih =>
    obtain ⟨hleft, n, hlines, hroot⟩ := call.faultless_run h
    obtain ⟨taken, hlength, hall, hone⟩ := ih hleft
    refine ⟨(lines tm.reader.unread).take n :: taken, congrArg (· + 1) hlength, ?_, ?_⟩
    · intro i
      cases i with
      | zero => rfl
      | succ i =>
        simp only [run, List.take_succ_cons, leaves_cons, List.flatten_cons, List.append_assoc]
        rw [hall i, hlines, List.take_append_drop]
    · intro i hi
      cases i with
      | zero =>
        rw [List.getElem?_cons_zero, Option.some.injEq] at hi
        simp [hroot hi]
      | succ i => simpa [run] using hone i hi

/-- In a session of root prompts each answers to its own line. -/
theorem results_of_roots (k : Nat) {tm : Terminal} (h : tm.Faultless) {i : Nat} (hi : i < k) :
    ∃ tr, (run tm (List.replicate k .root))[i]? = some (.root tr) ∧
      tr.result = Prompt.rootResult (lines tm.reader.unread)[i]? := by
  induction k generalizing tm i with
  | zero => contradiction
  | succ k ih =>
    cases i with
    | zero =>
      refine ⟨_, rfl, ?_⟩
      rw [Prompt.result_root h.steady h.unfailing, List.head?_eq_getElem?]
    | succ i =>
      obtain ⟨tr, htr, hresult⟩ := ih (Call.root.faultless_run h).1 (Nat.lt_of_succ_lt_succ hi)
      refine ⟨tr, htr, hresult.trans ?_⟩
      have htail :
          lines (Call.root.run tm).terminal.reader.unread = (lines tm.reader.unread).tail :=
        Prompt.lines_root h.steady h.unfailing
      rw [htail, List.getElem?_tail]

/-- A session without faults depends on the bytes of its input and not on the chunks they come in:
at another reader with the same bytes every report is alike. Each prompt takes whole lines from the
front of what is left, the root prompt one of them if there is one, and what the prompts take
together with what they leave is the input. In a session of root prompts each result is the one of a
prompt that has the corresponding line for its whole input. -/
theorem reports_depend_on_lines (calls : List Call) {r r' : Reader} {out : Writer} (hr : r.Steady)
    (hr' : r'.Steady) (hsame : r.unread = r'.unread) (hout : out.Unfailing) :
    let reports := run ⟨r, out⟩ calls
    let left := fun i => (leaves ⟨r, out⟩ (reports.take i)).reader.unread
    List.Forall₂ Report.Alike reports (run ⟨r', out⟩ calls) ∧
      (∃ taken : List (List Bytes), taken.length = calls.length ∧
        (∀ i, (taken.take i).flatten ++ lines (left i) = lines r.unread) ∧
        (∀ i, calls[i]? = some .root → taken[i]? = some ((lines (left i)).take 1)) ∧
        taken.flatten.flatten ++ (leaves ⟨r, out⟩ reports).reader.unread = r.unread) ∧
      ∀ k i, i < k → ∃ tr, (run ⟨r, out⟩ (List.replicate k .root))[i]? = some (.root tr) ∧
        tr.result = Prompt.rootResult (lines r.unread)[i]? := by
  intro reports left
  have hfaultless : Terminal.Faultless ⟨r, out⟩ := ⟨hr, hout⟩
  refine ⟨alike_run calls ⟨⟨hr, hr', hsame⟩, rfl⟩, ?_, ?_⟩
  · obtain ⟨taken, hlength, hall, hone⟩ := exists_taken calls hfaultless
    refine ⟨taken, hlength, hall, hone, ?_⟩
    have hbytes := congrArg List.flatten (hall (max taken.length reports.length))
    rw [List.flatten_append, flatten_lines, flatten_lines,
      List.take_of_length_le (Nat.le_max_left _ _),
      List.take_of_length_le (Nat.le_max_right _ _)] at hbytes
    exact hbytes
  · intro k i hi
    exact results_of_roots k hfaultless hi

/-- A character that is cut in two and a line feed in a chunk of its own make no difference. -/
theorem reports_depend_on_lines_split_character :
    let r : Reader := [.bytes [228, 189], .fault (.bare .interrupted), .bytes [160, 10, 57],
      .bytes [10], .bytes [10, 255]]
    let r' : Reader := [.bytes [228, 189, 160, 10, 57, 10, 10, 255]]
    let calls : List Call := [.root, .root, .given (t := .uint64) [.ok 1, .ok 2], .root]
    r.Steady ∧ r'.Steady ∧ r.unread = r'.unread ∧ Writer.Unfailing {} ∧
      List.Forall₂ Report.Alike (run ⟨r, {}⟩ calls) (run ⟨r', {}⟩ calls) ∧
      ∃ taken : List (List Bytes), taken.length = 4 ∧ taken[0]? = some [[228, 189, 160, 10]] ∧
        taken.flatten.flatten ++ (leaves ⟨r, {}⟩ (run ⟨r, {}⟩ calls)).reader.unread = r.unread := by
  intro r r' calls
  have hr : r.Steady := by decide
  have hr' : r'.Steady := by decide
  have hsame : r.unread = r'.unread := by decide
  have hout : Writer.Unfailing {} := ⟨rfl, rfl⟩
  obtain ⟨halike, ⟨taken, hlength, -, hone, hbytes⟩, -⟩ :=
    reports_depend_on_lines calls hr hr' hsame hout
  exact ⟨hr, hr', hsame, hout, halike, taken, hlength, (hone 0 rfl).trans (by decide), hbytes⟩

end Session

end PrimesAndRoots

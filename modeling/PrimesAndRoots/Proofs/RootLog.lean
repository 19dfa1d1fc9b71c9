import PrimesAndRoots.Proofs.NumeralRefusal
import PrimesAndRoots.Proofs.Quoted
import PrimesAndRoots.Proofs.RootPrompt
import PrimesAndRoots.Proofs.RootTurns

/-!
# What the root prompt logs

Once the prompt has read a line, what it logs depends on the trimmed text alone, also at terminals
that fail before or after (`exists_reply_of_read`). A text that is no integer is warned about once,
with the reason that its bytes give. An integer is not, and its root is reported once if it has one;
that comes before the answer is written, so it does not matter whether the writer takes the answer.
-/

namespace PrimesAndRoots

theorem Transcript.events_cons {σ α : Type} (step : Step) (tr : Transcript σ α) :
    (tr.cons step).events = step.event?.toList ++ tr.events := by
  simp only [events, steps_cons, List.filterMap_cons]
  cases step.event? <;> rfl

namespace Dialogue

variable {σ α : Type} {s : σ} {tm : Terminal} {answer : Option String}

theorem events_logAll (events : List Event) (next : Dialogue σ α) (s : σ) (tm : Terminal) :
    ((logAll events next).run s tm).events = events ++ (next.run s tm).events := by
  rw [run_logAll, Transcript.events, List.filterMap_append, List.filterMap_map]
  exact congrArg (· ++ _) List.filterMap_some

/-! ## Requests that come before a read

A run that has come to a read has had no fault up to there. -/

theorem run_write_of_read {text : String} {next : Dialogue σ α}
    (h : .read answer ∈ ((write text next).run s tm).steps) :
    ∃ after, .read answer ∈ (next.run s after).steps ∧
      (write text next).run s tm = (next.run s after).cons (.wrote (encodeText text)) := by
  simp only [run] at h ⊢
  split at h
  · rename_i hall
    exact ⟨_, by simpa using h, if_pos hall⟩
  · simp at h

theorem run_flush_of_read {next : Dialogue σ α} (h : .read answer ∈ ((flush next).run s tm).steps) :
    ∃ after, .read answer ∈ (next.run s after).steps ∧
      (flush next).run s tm = (next.run s after).cons (.flushed tm.writer.written) := by
  simp only [run] at h ⊢
  split at h
  · exact ⟨_, by simpa using h, rfl⟩
  · simp at h

theorem run_ask_of_read {next : Option String → Dialogue σ α}
    (h : .read answer ∈ ((ask next).run s tm).steps) :
    ∃ line after, (answer = line ∨ .read answer ∈ ((next line).run s after).steps) ∧
      (ask next).run s tm = ((next line).run s after).cons (.read line) := by
  simp only [run] at h ⊢
  split at h
  · exact ⟨_, _, by simpa using h, rfl⟩
  · simp at h

end Dialogue

namespace Prompt

variable {σ : Type} {s : σ} {tm : Terminal} {line text : String}

/-! ## The answer to a text, at any terminal -/

theorem events_answerTo_of_error {reason : NumeralError}
    (h : Word.ofText .int64 text = .error reason) :
    ((answerTo text).run s tm).events = [.textRejected reason text] := by
  rw [answerTo, h]
  rfl

theorem events_answerTo_of_neg {n : Word .int64} (h : Word.ofText .int64 text = .ok n)
    (hn : n.toInt < 0) : ((answerTo text).run s tm).events = [] := by
  simp only [answerTo, h, Dialogue.events_logAll, Word.squareRoot_of_neg hn]
  rw [Word.rootEvents_eq, rootSearch_of_lt (by omega)]
  rfl

theorem events_answerTo_of_root {n root : Word .int64} (h : Word.ofText .int64 text = .ok n)
    (hroot : n.squareRoot = .ok root) :
    ((answerTo text).run s tm).events = n.rootEvents ++ [.rootComputed n.toInt root.toInt] := by
  simp only [answerTo, h, Dialogue.events_logAll, hroot, Dialogue.run, Transcript.events_cons]
  split <;> rfl

theorem read_not_mem_steps_answerTo (answer : Option String) :
    .read answer ∉ ((answerTo text : Dialogue σ RootReport).run s tm).steps := by
  unfold answerTo
  split
  · simp [Dialogue.run]
  · rw [Dialogue.run_logAll]
    split
    · simp [Dialogue.run]
    · simp only [Dialogue.run]
      split <;> simp

/-- How the prompt goes on when it has read a line or the end of input. -/
def reply : Option String → Dialogue σ RootReport
  | none => .done (.error (.invalidInput "no integer was entered"))
  | some line => answerTo (trim line)

theorem root_eq : (root : Dialogue σ RootReport) = .write question (.flush (.ask reply)) := by
  rw [root]
  congr

theorem read_not_mem_steps_reply (answer found : Option String) :
    .read answer ∉ ((reply found : Dialogue σ RootReport).run s tm).steps := by
  cases found with
  | none => exact List.not_mem_nil
  | some line => exact read_not_mem_steps_answerTo answer

/-- What the prompt has logged and how it ends is up to what it has read. -/
theorem exists_reply_of_read {answer : Option String}
    (h : .read answer ∈ ((root : Dialogue σ RootReport).run s tm).steps) :
    ∃ after : Terminal,
      (root.run s tm).events = ((reply answer).run s after).events ∧
        (root.run s tm).result = ((reply answer).run s after).result := by
  rw [root_eq] at h ⊢
  obtain ⟨_, h, hwrite⟩ := Dialogue.run_write_of_read h
  obtain ⟨_, h, hflush⟩ := Dialogue.run_flush_of_read h
  obtain ⟨found, after, h, hask⟩ := Dialogue.run_ask_of_read h
  obtain rfl : answer = found := h.resolve_right (read_not_mem_steps_reply _ _)
  rw [hwrite, hflush, hask]
  refine ⟨after, ?_, rfl⟩
  simp only [Transcript.events_cons, Step.event?, Option.toList_none, List.nil_append]

/-! ## Warnings and reports -/

/-- The events of a search are neither warnings nor reports of its root. -/
theorem filter_record_rootEvents {t : IntType} {n : Word t} {p : Record → Bool}
    (hp : ∀ record : Record,
      record.message = "isqrt step" → record.level = .trace → p record = false) :
    (n.rootEvents.map Event.record).filter p = [] := by
  rw [List.filter_eq_nil_iff, Word.rootEvents, List.map_map, List.forall_mem_map]
  intro turn _
  rw [hp _ rfl rfl]
  exact Bool.false_ne_true

/-- Where the root prompt has read a line, it logs a single warning if the text between the blanks
is no 64-bit integer, and no warning if it is one. The warning says that the text is empty, or else
what is wrong at the first byte behind the sign that is no digit or that makes the number leave its
type; a sign with nothing behind it counts as a wrong digit. The root is reported once, for the
integers that have one. -/
theorem root_prompt_warns_once
    (h : .read (some line) ∈ ((root : Dialogue σ RootReport).run s tm).steps) :
    let records := ((root : Dialogue σ RootReport).run s tm).events.map Event.record
    let warnings := records.filter (·.level = .warn)
    let reports := records.filter (·.message = "Computed integer square root")
    ∃ t : String, Trimmed line.toList t.toList ∧
      ((∀ x, IsNumeral t.toList x → ¬(-2 ^ 63 ≤ x ∧ x ≤ 2 ^ 63 - 1)) →
        let negative := (splitSign (encodeText t)).1
        let digits := (splitSign (encodeText t)).2
        reports = [] ∧ ∃ reason,
          warnings = [⟨.warn, "trialroot::console", "Rejected non-integer input: " ++ reason,
            [("input", quote t)]⟩] ∧
          (t = "" ∧ reason = "cannot parse integer from empty string" ∨
            t ≠ "" ∧ digits = [] ∧ reason = "invalid digit found in string" ∨
            ∃ i b, firstOffence? .int64 negative digits = some i ∧ digits[i]? = some b ∧
              (¬IsDigitByte b ∧ reason = "invalid digit found in string" ∨
                IsDigitByte b ∧ negative = true ∧
                  reason = "number too small to fit in target type" ∨
                IsDigitByte b ∧ negative = false ∧
                  reason = "number too large to fit in target type"))) ∧
      ∀ x, IsNumeral t.toList x → -2 ^ 63 ≤ x → x ≤ 2 ^ 63 - 1 →
        warnings = [] ∧ reports =
          if 0 ≤ x then [⟨.debug, "trialroot::console", "Computed integer square root",
            [("num", toString x), ("root", toString (Nat.sqrt x.toNat : Int))]⟩] else [] := by
  intro records warnings reports
  obtain ⟨after, hevents, -⟩ := exists_reply_of_read h
  rw [reply] at hevents
  refine ⟨trim line, trimmed_trim line, ?_, fun x hx hle hge => ?_⟩
  · intro hnot negative digits
    cases hread : Word.ofText .int64 (trim line) with
    | ok n => exact absurd n.fits (hnot n.toInt (ofText_int64_eq_ok_iff.1 hread))
    | error reason =>
      have hrecords : records = [(Event.textRejected reason (trim line)).record] := by
        simp only [records, hevents, events_answerTo_of_error hread, List.map_singleton]
      refine ⟨?_, reason.message, ?_, ?_⟩
      · simp only [reports, hrecords]
        cases reason <;> rfl
      · simp only [warnings, hrecords]
        rfl
      · rcases refusal?_cases ((Word.ofText_eq_error_iff rfl).1 hread) with
          ⟨hnil, rfl⟩ | ⟨hne, hdigits, rfl⟩ | ⟨i, b, hfirst, hb, hreason⟩
        · exact .inl ⟨encodeText_eq_nil_iff.1 hnil, rfl⟩
        · exact .inr (.inl ⟨mt encodeText_eq_nil_iff.2 hne, hdigits, rfl⟩)
        · refine .inr (.inr ⟨i, b, hfirst, hb, ?_⟩)
          rcases hreason with ⟨hdigit, rfl⟩ | ⟨hdigit, hsign, rfl⟩ | ⟨hdigit, hsign, rfl⟩
          · exact .inl ⟨hdigit, rfl⟩
          · exact .inr (.inl ⟨hdigit, hsign, rfl⟩)
          · exact .inr (.inr ⟨hdigit, hsign, rfl⟩)
  · obtain ⟨n, rfl⟩ : ∃ n : Word .int64, n.toInt = x := ⟨⟨x, hle, hge⟩, rfl⟩
    have hread := ofText_int64_eq_ok_iff.2 hx
    by_cases hnonneg : 0 ≤ n.toInt
    · obtain ⟨r, hroot, hfloor⟩ := Word.squareRoot_of_nonneg hnonneg
      have hrecords : records =
          n.rootEvents.map Event.record ++ [(Event.rootComputed n.toInt r.toInt).record] := by
        simp only [records, hevents, events_answerTo_of_root hread hroot, List.map_append,
          List.map_singleton]
      simp only [warnings, reports, hrecords, List.filter_append]
      rw [filter_record_rootEvents fun _ _ hlevel => by simp [hlevel],
        filter_record_rootEvents fun _ hmessage _ => by simp [hmessage], if_pos hnonneg,
        ← numeral_eq_toString, ← numeral_eq_toString, ← hfloor.eq_sqrt]
      exact ⟨rfl, rfl⟩
    · have hrecords : records = [] := by
        rw [Int.not_le] at hnonneg
        simp only [records, hevents, events_answerTo_of_neg hread hnonneg, List.map_nil]
      simp only [warnings, reports, hrecords, if_neg hnonneg]
      exact ⟨rfl, rfl⟩

/-- The greatest integer and one more, and then a letter: the number leaves the type before the
letter is reached, so the letter is not the reason. -/
theorem root_prompt_warns_once_too_large :
    let tm : Terminal := ⟨[.bytes (encodeText "9223372036854775808x\n")], {}⟩
    let tr := (root : Dialogue Unit RootReport).run () tm
    .read (some "9223372036854775808x\n") ∈ tr.steps ∧
      (tr.events.map Event.record).filter (·.level = .warn) =
        [⟨.warn, "trialroot::console",
          "Rejected non-integer input: number too large to fit in target type",
          [("input", "\"9223372036854775808x\"")]⟩] := by
  intro tm tr
  have hread : .read (some "9223372036854775808x\n") ∈ tr.steps := by
    decide
  have hrefused : refusal? .int64 (encodeText "9223372036854775808x") = some .tooLarge := by
    decide
  obtain ⟨t, ht, hwarn, -⟩ := root_prompt_warns_once hread
  obtain rfl : t = "9223372036854775808x" := String.toList_injective (ht.eq_trim.trans (by decide))
  obtain ⟨-, reason, hwarnings, hreason⟩ := hwarn fun x hx hfits => by
    have herror := (Word.ofText_eq_error_iff rfl).2 hrefused
    have hok : Word.ofText .int64 _ = .ok ⟨x, hfits⟩ := ofText_int64_eq_ok_iff.2 hx
    cases herror.symm.trans hok
  have hlast : firstOffence? .int64 false (encodeText "9223372036854775808x") = some 18 := by
    decide
  rw [quote_of_isPlainText (by decide)] at hwarnings
  obtain ⟨hempty, -⟩ | ⟨-, hnone, -⟩ | ⟨i, b, hfirst, hb, hreason⟩ := hreason
  · exact absurd hempty (by decide)
  · exact absurd hnone (by decide)
  · cases hlast.symm.trans hfirst
    cases hb
    obtain ⟨hdigit, -⟩ | ⟨-, hsign, -⟩ | ⟨-, -, rfl⟩ := hreason
    · exact absurd hdigit (by decide)
    · exact absurd hsign (by decide)
    · exact ⟨hread, hwarnings⟩

end Prompt

end PrimesAndRoots

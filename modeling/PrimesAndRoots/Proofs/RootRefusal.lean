import PrimesAndRoots.Proofs.Quoted
import PrimesAndRoots.Proofs.RootLog

/-!
# What a refusal tells

The failure of a line that is no integer carries the trimmed text in quotes, once in its message and
twice in its inspection text. Quoting can be undone, so either of them tells which text was refused,
and neither can be taken for the failure of a missing line or break a line of a log, whatever was
entered.
-/

namespace PrimesAndRoots

/-- The prompt has read a line, which is `text` between blanks, and refused it as no integer with
this message. -/
structure Transcript.Refuses {σ : Type} (tr : Transcript σ RootReport) (text message : String) :
    Prop where
  read : ∃ line, .read (some line) ∈ tr.steps ∧ Trimmed line.toList text.toList
  result_eq : tr.result = .error (.invalidInput message)

namespace Failure

variable {reason reason' : String}

theorem message_invalidInput_inj :
    (invalidInput reason).message = (invalidInput reason').message ↔ reason = reason' :=
  String.append_right_inj _

theorem inspect_invalidInput (reason : String) :
    (invalidInput reason).inspect = "InvalidInput(" ++ (quote reason ++ ")") := by
  rw [inspect, String.append_assoc]
  rfl

/-- The reason stands in quotes, and can be told from what is around it. -/
theorem inspect_invalidInput_inj :
    (invalidInput reason).inspect = (invalidInput reason').inspect ↔ reason = reason' := by
  rw [inspect_invalidInput, inspect_invalidInput, String.append_right_inj]
  exact ⟨fun h => (quote_append_inj h).1, fun h => h ▸ rfl⟩

theorem isVisible_inspect_invalidInput (reason : String) :
    IsVisible (invalidInput reason).inspect := by
  rw [inspect_invalidInput]
  exact .append (by decide) (.append (isVisible_quote reason) (by decide))

end Failure

namespace Prompt

variable {σ : Type} {s s' : σ} {tm tm' : Terminal} {text text' message message' : String}

/-- An integer of the type is not refused as none, whatever the writer does. -/
theorem result_answerTo_ne_of_ok {n : Word .int64} (h : Word.ofText .int64 text = .ok n) :
    ((answerTo text).run s tm).result ≠ .error (.invalidInput message) := by
  simp only [answerTo, h, Dialogue.run_logAll]
  rcases Int.lt_or_le n.toInt 0 with hneg | hnonneg
  · rw [Word.squareRoot_of_neg hneg]
    simp [Dialogue.run]
  · obtain ⟨r, hroot, -⟩ := Word.squareRoot_of_nonneg hnonneg
    simp only [hroot, Dialogue.run]
    split <;> simp

/-- The message of a refusal is the text in quotes with fixed words behind it. -/
theorem message_of_refuses (h : ((root : Dialogue σ RootReport).run s tm).Refuses text message) :
    message = quote text ++ " is not an integer" := by
  obtain ⟨⟨line, hline, htrim⟩, hresult⟩ := h
  obtain ⟨after, -, hreply⟩ := exists_reply_of_read hline
  obtain rfl : text = trim line := String.toList_injective htrim.eq_trim
  rw [hresult, reply] at hreply
  cases hread : Word.ofText .int64 (trim line) with
  | ok n => exact absurd hreply.symm (result_answerTo_ne_of_ok hread)
  | error reason =>
    rw [answerTo, hread] at hreply
    injection hreply with hfailure
    injection hfailure

/-- The prompt ends with a failure of its own at the end of input. -/
theorem result_of_read_none (h : .read none ∈ ((root : Dialogue σ RootReport).run s tm).steps) :
    (root.run s tm).result = .error (.invalidInput "no integer was entered") := by
  obtain ⟨after, -, hreply⟩ := exists_reply_of_read h
  exact hreply

/-- Two refusals have the same message, the same text for people or the same inspection text only if
the refused texts are the same. None of these is the one for a missing line, and none has a control
character in it. -/
theorem refusals_tell_texts_apart
    (h : ((root : Dialogue σ RootReport).run s tm).Refuses text message)
    (h' : ((root : Dialogue σ RootReport).run s' tm').Refuses text' message') :
    let failure := Failure.invalidInput message
    let failure' := Failure.invalidInput message'
    (message = message' ↔ text = text') ∧
      (failure.message = failure'.message ↔ text = text') ∧
      (failure.inspect = failure'.inspect ↔ text = text') ∧
      (∀ (s₀ : σ) (tm₀ : Terminal), .read none ∈ (root.run s₀ tm₀).steps →
        ∃ missing, (root.run s₀ tm₀).result = .error (.invalidInput missing) ∧
          message ≠ missing ∧ failure.message ≠ (Failure.invalidInput missing).message ∧
          failure.inspect ≠ (Failure.invalidInput missing).inspect) ∧
      IsVisible message ∧ IsVisible failure.message ∧ IsVisible failure.inspect := by
  intro failure failure'
  have hmessage : message = message' ↔ text = text' := by
    rw [message_of_refuses h, message_of_refuses h']
    exact ⟨fun heq => (quote_append_inj heq).1, fun heq => heq ▸ rfl⟩
  have hne : message ≠ "no integer was entered" := by
    rw [message_of_refuses h]
    exact rejection_ne_missing text
  have hvisible : IsVisible message := by
    rw [message_of_refuses h]
    exact (isVisible_quote text).append (by decide)
  refine ⟨hmessage, ?_, ?_, ?_, hvisible, ?_, ?_⟩
  · rw [Failure.message_invalidInput_inj, hmessage]
  · rw [Failure.inspect_invalidInput_inj, hmessage]
  · intro s₀ tm₀ hnone
    refine ⟨_, result_of_read_none hnone, hne, ?_, ?_⟩
    · rwa [Ne, Failure.message_invalidInput_inj]
    · rwa [Ne, Failure.inspect_invalidInput_inj]
  · exact IsVisible.append (by decide) hvisible
  · exact Failure.isVisible_inspect_invalidInput message

/-- A text of one control character, and the text that this character is shown as in quotes: they
are not shown alike. -/
theorem refusals_tell_texts_apart_escape :
    let tm : Terminal := ⟨[.bytes [27]], {}⟩
    let tm' : Terminal := ⟨[.bytes (encodeText "\\u\x7b1b\x7d")], {}⟩
    let message := quote "\x1b" ++ " is not an integer"
    let message' := quote "\\u\x7b1b\x7d" ++ " is not an integer"
    ((root : Dialogue Unit RootReport).run () tm).Refuses "\x1b" message ∧
      ((root : Dialogue Unit RootReport).run () tm').Refuses "\\u\x7b1b\x7d" message' ∧
      (Failure.invalidInput message).inspect ≠ (Failure.invalidInput message').inspect ∧
      IsVisible (Failure.invalidInput message).inspect := by
  intro tm tm' message message'
  have h : ((root : Dialogue Unit RootReport).run () tm).Refuses "\x1b" message :=
    ⟨⟨"\x1b", by decide, trimmed_trim _⟩, rfl⟩
  have h' : ((root : Dialogue Unit RootReport).run () tm').Refuses "\\u\x7b1b\x7d" message' :=
    ⟨⟨"\\u\x7b1b\x7d", by decide, trimmed_trim _⟩, rfl⟩
  obtain ⟨-, -, hinspect, -, -, -, hvisible⟩ := refusals_tell_texts_apart h h'
  exact ⟨h, h', fun heq => absurd (hinspect.1 heq) (by decide), hvisible⟩

end Prompt

end PrimesAndRoots

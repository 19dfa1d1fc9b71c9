import PrimesAndRoots.Prompt.Primes
import PrimesAndRoots.Proofs.Numeral
import PrimesAndRoots.Proofs.Source
import PrimesAndRoots.Proofs.Terminal

/-!
# How the prime prompt ends

The items of the source and the lines of the input run out one against the other. `ending` is the
closed form of that race, in the number of leading words and the number of leading lines that are
text; `leaves_primes` says that a run at a terminal without faults ends so, whatever the source.
-/

namespace PrimesAndRoots.Prompt

open Reader Source

variable {σ : Type} {t : IntType}

/-! ## The closed form -/

/-- The words before the first failure. -/
def leading : List (Except Failure (Word t)) → List (Word t)
  | .ok w :: items => w :: leading items
  | _ => []

def primeBytes (w : Word t) : Bytes :=
  encodeText ("Prime: " ++ toString w.toInt ++ "\nEnter to continue...")

def shownBytes (words : List (Word t)) : Bytes :=
  words.flatMap primeBytes

@[simp] theorem shownBytes_nil : shownBytes ([] : List (Word t)) = [] := rfl

@[simp] theorem shownBytes_cons (w : Word t) (words : List (Word t)) :
    shownBytes (w :: words) = primeBytes w ++ shownBytes words := rfl

theorem encodeText_primeText (w : Word t) : encodeText (primeText w) = primeBytes w := by
  rw [primeText, Word.text, numeral_eq_toString, primeBytes]

/-- How many lines come before the first one that is no text. -/
def textLines (lines : List Bytes) : Nat :=
  (lines.takeWhile fun line => IsText line).length

theorem textLines_eq_length_iff {lines : List Bytes} :
    textLines lines = lines.length ↔ ∀ line ∈ lines, IsText line := by
  have hprefix := List.takeWhile_prefix (l := lines) fun line => decide (IsText line)
  constructor
  · intro h line hline
    rw [← hprefix.eq_of_length h] at hline
    simpa using List.mem_takeWhile_imp hline
  · intro h
    rw [textLines, List.takeWhile_eq_self_iff.2]
    simpa using h

/-- What a prompt has done when it is over: the bytes it wrote, its result, how many items it took,
and the lines it did not read. -/
structure Ending where
  output : Bytes
  result : Except Failure Nat
  taken : Nat
  unread : List Bytes

/-- The ending of a prompt over the given items and lines, with `shown` items shown before. -/
def ending (shown : Nat) (items : List (Except Failure (Word t))) (lines : List Bytes) : Ending :=
  let k := (leading items).length
  let v := textLines lines
  if v < k then
    let output := shownBytes ((leading items).take (v + 1))
    if v = lines.length then
      ⟨output ++ encodeText "\n", .ok (shown + (v + 1)), v + 1, []⟩
    else ⟨output, .error (.device .invalidText), v + 1, lines.drop (v + 1)⟩
  else
    match items[k]? with
    | some (.error failure) => ⟨shownBytes (leading items), .error failure, k + 1, lines.drop k⟩
    | _ => ⟨shownBytes (leading items), .ok (shown + k), k, lines.drop k⟩

/-- The ending of a prompt that has shown `w` and read a line before. -/
def Ending.later (w : Word t) (e : Ending) : Ending :=
  ⟨primeBytes w ++ e.output, e.result, e.taken + 1, e.unread⟩

section

variable {shown : Nat} {items : List (Except Failure (Word t))} {lines : List Bytes} {w : Word t}

theorem ending_nil : ending (t := t) shown [] lines = ⟨[], .ok shown, 0, lines⟩ := by
  simp [ending, leading]

theorem ending_error {failure : Failure} :
    ending shown (.error failure :: items) lines = ⟨[], .error failure, 1, lines⟩ := by
  simp [ending, leading]

theorem ending_end_of_input :
    ending shown (.ok w :: items) [] =
      ⟨primeBytes w ++ encodeText "\n", .ok (shown + 1), 1, []⟩ := by
  simp [ending, leading, textLines]

theorem ending_not_text {line : Bytes} (h : ¬IsText line) :
    ending shown (.ok w :: items) (line :: lines) =
      ⟨primeBytes w, .error (.device .invalidText), 1, lines⟩ := by
  simp [ending, leading, textLines, h]

theorem ending_text {line : Bytes} (h : IsText line) :
    ending shown (.ok w :: items) (line :: lines) = (ending (shown + 1) items lines).later w := by
  have hv : textLines (line :: lines) = textLines lines + 1 := by simp [textLines, h]
  simp only [ending, leading, hv, List.length_cons, Nat.add_lt_add_iff_right,
    Nat.add_right_cancel_iff, List.take_succ_cons, shownBytes_cons, List.drop_succ_cons,
    List.getElem?_cons_succ]
  split
  · split <;> simp [Ending.later]; omega
  · split <;> simp [Ending.later]; omega

theorem leading_append_error (words : List (Word t)) (failure : Failure) :
    leading (words.map .ok ++ [.error failure]) = words := by
  induction words with
  | nil => rfl
  | cons w words ih => exact congrArg (w :: ·) ih

/-- The ending over words with a failure behind them. -/
theorem ending_append_error (words : List (Word t)) (failure : Failure) :
    ending shown (words.map .ok ++ [.error failure]) lines =
      let v := textLines lines
      if v < words.length then
        if v = lines.length then
          ⟨shownBytes (words.take (v + 1)) ++ encodeText "\n", .ok (shown + (v + 1)), v + 1, []⟩
        else
          ⟨shownBytes (words.take (v + 1)), .error (.device .invalidText), v + 1,
            lines.drop (v + 1)⟩
      else ⟨shownBytes words, .error failure, words.length + 1, lines.drop words.length⟩ := by
  have hitem :
      (words.map Except.ok ++ [.error failure])[words.length]? = some (.error failure) := by
    simp
  simp only [ending, leading_append_error, hitem]

end

/-! ## One turn of the prompt -/

section

variable [Source σ t] {s : σ} {shown : Nat}

theorem primes_of_none (h : (pull s).item = none) :
    primes s shown = .logAll (pull s).events (.done (.ok shown)) := by
  rw [primes]
  split <;> simp_all

theorem primes_of_error {failure : Failure} (h : (pull s).item = some (.error failure)) :
    primes s shown =
      .logAll (pull s).events (.took (pull s).rest (.done (.error failure))) := by
  rw [primes]
  split <;> simp_all

theorem primes_of_ok {w : Word t} (h : (pull s).item = some (.ok w)) :
    primes s shown =
      .logAll (pull s).events (.took (pull s).rest (.write (primeText w) (.flush (.ask fun
        | none => .write "\n" (.log (.inputEnded (shown + 1)) (.done (.ok (shown + 1))))
        | some _ => primes (pull s).rest (shown + 1))))) := by
  rw [primes]
  split
  · simp_all
  · simp_all
  · rename_i w' hw'
    obtain rfl : w = w' := by simp_all
    rfl

end

/-- An item that is shown adds its bytes to what the rest of the run leaves. -/
theorem leaves_show {s rest : σ} {w : Word t} {next : Dialogue σ Nat} {r : Reader} {out : Writer}
    {output : Bytes} {result : Except Failure Nat} {source : σ} {unread : Bytes}
    (hout : out.Unfailing)
    (h : ∀ out : Writer, out.Unfailing →
      (next.run rest ⟨r, out⟩).Leaves output result source unread) :
    ((Dialogue.took rest (.write (primeText w) (.flush next))).run s ⟨r, out⟩).Leaves
      (primeBytes w ++ output) result source unread := by
  rw [Dialogue.run, Dialogue.run_write hout, Dialogue.run_flush (hout.push _),
    encodeText_primeText]
  exact (((h _ (hout.push _).flush).cons _).cons (.wrote (primeBytes w))).cons .took

/-- A prompt at a terminal without faults ends as its items and lines say, whatever its source. -/
theorem leaves_primes [Source σ t] (s : σ) (shown : Nat) {r : Reader} {out : Writer}
    (hr : r.Steady) (hout : out.Unfailing) :
    let e := ending shown (items s) (lines r.unread)
    ((primes s shown).run s ⟨r, out⟩).Leaves e.output e.result (afterPulls s e.taken)
      e.unread.flatten := by
  induction s using pull_induction generalizing shown r out with
  | nothing s h =>
    rw [items_of_none h, ending_nil, primes_of_none h]
    exact Dialogue.leaves_logAll ⟨rfl, rfl, rfl, (flatten_lines _).symm⟩
  | item s item h ih =>
    rw [items_of_some h]
    cases item with
    | error failure =>
      rw [ending_error, primes_of_error h]
      exact Dialogue.leaves_logAll ⟨rfl, rfl, rfl, (flatten_lines _).symm⟩
    | ok w =>
      rw [primes_of_ok h]
      refine Dialogue.leaves_logAll ?_
      -- the input decides how it goes on: it has ended, or its next line is text, or it is not
      cases hlines : lines r.unread with
      | nil =>
        obtain ⟨hread, -, hleft⟩ := readLine_of_nil hr hlines
        rw [ending_end_of_input]
        refine leaves_show hout fun out hout => ?_
        rw [Dialogue.run_ask_ok hread, Dialogue.run_write hout]
        exact ⟨rfl, rfl, rfl, lines_eq_nil_iff.1 hleft⟩
      | cons line rest =>
        obtain ⟨htext, hnot, hsteady, hleft⟩ := readLine_of_cons hr hlines
        by_cases hline : IsText line
        · obtain ⟨text, hencode⟩ := hline
          rw [ending_text ⟨text, hencode⟩]
          refine leaves_show hout fun out hout => ?_
          rw [Dialogue.run_ask_ok (htext text hencode), ← hleft]
          exact (ih (shown + 1) hsteady hout).cons _
        · rw [ending_not_text hline, ← List.append_nil (primeBytes w)]
          refine leaves_show hout fun out hout => ?_
          rw [Dialogue.run_ask_error (hnot hline)]
          refine ⟨rfl, rfl, rfl, ?_⟩
          rw [← hleft, flatten_lines]

/-! ## Given items -/

/-- Behind the leading words the items have ended, or a failure stands there. -/
theorem getElem?_length_leading (items : List (Except Failure (Word t))) :
    (leading items).length = items.length ∨
      ∃ failure, items[(leading items).length]? = some (.error failure) := by
  induction items with
  | nil => exact .inl rfl
  | cons item items ih =>
    cases item with
    | error failure => exact .inr ⟨failure, rfl⟩
    | ok w =>
      rcases ih with ih | ⟨failure, ih⟩
      · exact .inl (congrArg (· + 1) ih)
      · exact .inr ⟨failure, ih⟩

/-- The prompt over given items at a terminal without faults, in closed form: with `k` leading words
and `v` leading lines of text, the input ends the prompt when `v < k`, at its end or at a line that
is no text, and otherwise the items end it, at their end or at a failure. -/
theorem primes_closed_form (items : List (Except Failure (Word t))) {r : Reader} {out : Writer}
    (hr : r.Steady) (hout : out.Unfailing) :
    let k := (leading items).length
    let v := textLines (lines r.unread)
    let tr := (primes items).run items ⟨r, out⟩
    (v < k ∧ tr.source = items.drop (v + 1) ∧
      (v = (lines r.unread).length ∧
          tr.output = shownBytes ((leading items).take (v + 1)) ++ encodeText "\n" ∧
          tr.result = .ok (v + 1) ∧ tr.terminal.reader.unread = [] ∨
        v < (lines r.unread).length ∧
          tr.output = shownBytes ((leading items).take (v + 1)) ∧
          tr.result =
            .error (.device (.found .invalidData "stream did not contain valid UTF-8")) ∧
          tr.terminal.reader.unread = ((lines r.unread).drop (v + 1)).flatten)) ∨
    (k ≤ v ∧ tr.output = shownBytes (leading items) ∧
      tr.terminal.reader.unread = ((lines r.unread).drop k).flatten ∧
      (k = items.length ∧ tr.result = .ok k ∧ tr.source = [] ∨
        ∃ failure, items[k]? = some (.error failure) ∧ tr.result = .error failure ∧
          tr.source = items.drop (k + 1))) := by
  intro k v tr
  have h : tr.Leaves _ _ _ _ := leaves_primes items 0 hr hout
  rw [items_list, afterPulls_list] at h
  have hv : v ≤ (lines r.unread).length := (List.takeWhile_prefix _).length_le
  by_cases hvk : v < k
  · refine .inl ⟨hvk, ?_⟩
    by_cases hend : v = (lines r.unread).length
    · have he : ending 0 items (lines r.unread) =
          ⟨shownBytes ((leading items).take (v + 1)) ++ encodeText "\n", .ok (v + 1), v + 1,
            []⟩ := by
        rw [ending, if_pos hvk, if_pos hend, Nat.zero_add]
      rw [he] at h
      exact ⟨h.source_eq, .inl ⟨hend, h.output_eq, h.result_eq, h.unread_eq⟩⟩
    · have he : ending 0 items (lines r.unread) =
          ⟨shownBytes ((leading items).take (v + 1)), .error (.device .invalidText), v + 1,
            (lines r.unread).drop (v + 1)⟩ := by
        rw [ending, if_pos hvk, if_neg hend]
      rw [he] at h
      exact ⟨h.source_eq, .inr ⟨by omega, h.output_eq, h.result_eq, h.unread_eq⟩⟩
  · refine .inr ⟨Nat.not_lt.1 hvk, ?_⟩
    rcases getElem?_length_leading items with hend | ⟨failure, hfailure⟩
    · have he : ending 0 items (lines r.unread) =
          ⟨shownBytes (leading items), .ok k, k, (lines r.unread).drop k⟩ := by
        rw [ending, if_neg hvk, List.getElem?_eq_none (Nat.le_of_eq hend.symm), Nat.zero_add]
      rw [he] at h
      refine ⟨h.output_eq, h.unread_eq, .inl ⟨hend, h.result_eq, ?_⟩⟩
      rw [h.source_eq, List.drop_of_length_le (Nat.le_of_eq hend.symm)]
    · have he : ending 0 items (lines r.unread) =
          ⟨shownBytes (leading items), .error failure, k + 1, (lines r.unread).drop k⟩ := by
        rw [ending, if_neg hvk, hfailure]
      rw [he] at h
      exact ⟨h.output_eq, h.unread_eq, .inr ⟨failure, hfailure, h.result_eq, h.source_eq⟩⟩

/-- The last word is shown, and the line after it is no text. -/
theorem primes_closed_form_broken_line :
    let items : List (Except Failure (Word .uint64)) := [.ok 1, .ok 2, .error (.negative "-1")]
    let r : Reader := [.bytes [13], .fault (.bare .interrupted), .bytes [10, 255]]
    let tr := (primes items).run items ⟨r, {}⟩
    r.Steady ∧ Writer.Unfailing {} ∧
      tr.output = shownBytes ([1, 2] : List (Word .uint64)) ∧
      tr.result = .error (.device .invalidText) ∧ tr.source = [.error (.negative "-1")] ∧
      tr.terminal.reader.unread = [] := by
  intro items r tr
  have hr : r.Steady := by decide
  have hout : Writer.Unfailing {} := ⟨rfl, rfl⟩
  rcases primes_closed_form items hr hout with
    ⟨-, hsource, ⟨hend, -⟩ | ⟨-, houtput, hresult, hunread⟩⟩ | ⟨hle, -⟩
  · exact absurd hend (by decide)
  · exact ⟨hr, hout, houtput, hresult, hsource, hunread⟩
  · exact absurd hle (by decide)

end PrimesAndRoots.Prompt

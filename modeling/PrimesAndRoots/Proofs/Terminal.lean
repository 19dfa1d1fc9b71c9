import Mathlib.Data.List.TakeDrop
import Mathlib.Data.List.TakeWhile
import PrimesAndRoots.Dialogue

/-!
# Terminals without faults

Reading and writing where no device fails. A steady reader hands out its bytes in chunks of any
size, and `takeLine_of_steady` says that the chunks do not matter: lines are those of the unread
bytes. A writer without limits takes every text. What a run leaves behind is `Transcript.Leaves`,
and the lemmas about `Dialogue.run` say how each request adds to it.
-/

namespace PrimesAndRoots

/-! ## Text -/

def IsText (bytes : Bytes) : Prop :=
  ∃ text, encodeText text = bytes

theorem decodeText_eq_some_iff {bytes : Bytes} {text : String} :
    decodeText bytes = some text ↔ encodeText text = bytes := by
  unfold decodeText String.fromUTF8? encodeText
  constructor
  · intro h
    split at h
    · cases h
      rfl
    · contradiction
  · rintro rfl
    exact dif_pos text.isValidUTF8

theorem encodeText_injective {a b : String} (h : encodeText a = encodeText b) : a = b :=
  Option.some.inj ((decodeText_eq_some_iff.2 h).symm.trans (decodeText_eq_some_iff.2 rfl))

theorem encodeText_eq_nil_iff {text : String} : encodeText text = [] ↔ text = "" :=
  ⟨fun h => encodeText_injective h, fun h => h ▸ rfl⟩

theorem encodeText_append (a b : String) : encodeText (a ++ b) = encodeText a ++ encodeText b := by
  simp [encodeText]

theorem encodeText_ofList (cs : List Char) :
    encodeText (String.ofList cs) = cs.flatMap String.utf8EncodeChar := by
  simp [encodeText, List.utf8Encode]

theorem utf8EncodeChar_of_lt {c : Char} (h : c.toNat < 128) :
    String.utf8EncodeChar c = [c.toUInt8] := by
  have hsize : c.utf8Size = 1 := by
    rw [Char.utf8Size_eq_one_iff, UInt32.le_iff_toNat_le]
    exact Nat.le_of_lt_succ h
  rw [String.utf8EncodeChar_eq_singleton hsize]
  rfl

theorem isText_iff_isSome {bytes : Bytes} : IsText bytes ↔ (decodeText bytes).isSome := by
  rw [Option.isSome_iff_exists]
  exact exists_congr fun _ => decodeText_eq_some_iff.symm

instance (bytes : Bytes) : Decidable (IsText bytes) :=
  decidable_of_iff _ isText_iff_isSome.symm

theorem decodeText_of_not_isText {bytes : Bytes} (h : ¬IsText bytes) : decodeText bytes = none := by
  rwa [isText_iff_isSome, Option.not_isSome_iff_eq_none] at h

/-- Behind the leading elements that pass a test stands one that does not. -/
theorem not_of_mem_head?_dropWhile {α : Type} {p : α → Bool} {l : List α} {a : α}
    (h : a ∈ (l.dropWhile p).head?) : ¬p a := by
  have := List.head?_dropWhile_not p l
  rw [Option.mem_def.1 h] at this
  simpa using this

namespace Reader

/-! ## Lines -/

/-- The bytes up to the first line feed, which is the last of them. Without a line feed they are all
bytes. -/
def firstLine : Bytes → Bytes
  | [] => []
  | b :: bytes => if b = lineFeed then [b] else b :: firstLine bytes

def afterLine : Bytes → Bytes
  | [] => []
  | b :: bytes => if b = lineFeed then bytes else afterLine bytes

/-- The bytes cut after each line feed. What stands behind the last one is a line if it is not
empty. -/
def lines : Bytes → List Bytes
  | [] => []
  | b :: bytes =>
    if b = lineFeed then [b] :: lines bytes
    else match lines bytes with
      | [] => [[b]]
      | line :: rest => (b :: line) :: rest

theorem lines_of_ne_nil {bytes : Bytes} (h : bytes ≠ []) :
    lines bytes = firstLine bytes :: lines (afterLine bytes) := by
  induction bytes with
  | nil => contradiction
  | cons b bytes ih =>
    rw [lines, firstLine, afterLine]
    split
    · rfl
    · cases bytes with
      | nil => rfl
      | cons c bytes => rw [ih (List.cons_ne_nil _ _)]

theorem flatten_lines (bytes : Bytes) : (lines bytes).flatten = bytes := by
  fun_induction lines bytes with
  | case1 => rfl
  | case2 bytes ih => rw [List.flatten_cons, ih, List.singleton_append]
  | case3 b bytes hb hnil ih =>
    rw [hnil, List.flatten_nil] at ih
    rw [← ih]
    rfl
  | case4 b bytes hb line rest hrest ih =>
    rw [hrest, List.flatten_cons] at ih
    rw [List.flatten_cons, List.cons_append, ih]

theorem lines_injective {a b : Bytes} (h : lines a = lines b) : a = b := by
  rw [← flatten_lines a, h, flatten_lines]

theorem lines_eq_nil_iff {bytes : Bytes} : lines bytes = [] ↔ bytes = [] := by
  constructor
  · intro h
    rw [← flatten_lines bytes, h, List.flatten_nil]
  · rintro rfl
    rfl

/-- Bytes without a line feed are the beginning of a line. -/
theorem firstLine_append {before : Bytes} (h : ∀ b ∈ before, b ≠ lineFeed) (bytes : Bytes) :
    firstLine (before ++ bytes) = before ++ firstLine bytes ∧
      afterLine (before ++ bytes) = afterLine bytes := by
  induction before with
  | nil => exact ⟨rfl, rfl⟩
  | cons b before ih =>
    obtain ⟨hb, hbefore⟩ := List.forall_mem_cons.1 h
    obtain ⟨hfirst, hafter⟩ := ih hbefore
    rw [List.cons_append, firstLine, afterLine, if_neg hb, if_neg hb, hfirst, hafter]
    exact ⟨rfl, rfl⟩

/-- Where a chunk is cut at its first line feed. -/
theorem span_ne_lineFeed {bytes line rest : Bytes}
    (h : bytes.span (· ≠ lineFeed) = (line, rest)) :
    bytes = line ++ rest ∧ (∀ b ∈ line, b ≠ lineFeed) ∧ ∀ b ∈ rest.head?, b = lineFeed := by
  rw [List.span_eq_takeWhile_dropWhile] at h
  cases h
  refine ⟨List.takeWhile_append_dropWhile.symm, fun b hb => ?_, fun b hb => ?_⟩
  · simpa using List.mem_takeWhile_imp hb
  · simpa using not_of_mem_head?_dropWhile hb

/-! ## Steady readers -/

/-- The reader raises no fault of its own, but that it may be interrupted and asked again, and it
tells the end of input only where no byte follows. -/
def Steady : Reader → Prop
  | [] => True
  | .fault fault :: rest => fault.kind = .interrupted ∧ Steady rest
  | .bytes bytes :: rest => (bytes = [] → unread rest = []) ∧ Steady rest

instance instDecidableSteady : (r : Reader) → Decidable (Steady r)
  | [] => inferInstanceAs (Decidable True)
  | .fault _ :: rest => @instDecidableAnd _ _ _ (instDecidableSteady rest)
  | .bytes _ :: rest => @instDecidableAnd _ _ _ (instDecidableSteady rest)

@[simp] theorem unread_bytes (bytes : Bytes) (r : Reader) :
    unread (.bytes bytes :: r) = bytes ++ unread r := rfl

/-- Every input has a steady reader, which hands it out in one chunk. -/
theorem steady_oneChunk (bytes : Bytes) : Steady [.bytes bytes] :=
  ⟨fun _ => rfl, trivial⟩

theorem unread_oneChunk (bytes : Bytes) : unread [.bytes bytes] = bytes :=
  List.append_nil bytes

@[simp] theorem unread_putBack (bytes : Bytes) (r : Reader) :
    unread (putBack bytes r) = bytes ++ unread r := by
  cases bytes <;> rfl

theorem Steady.putBack {r : Reader} (h : Steady r) (bytes : Bytes) : Steady (putBack bytes r) := by
  cases bytes with
  | nil => exact h
  | cons b bytes => exact ⟨fun h => absurd h (List.cons_ne_nil _ _), h⟩

/-- What a steady reader has left after one line, which is what its bytes have left. -/
structure LeavesAfterLine (r left : Reader) : Prop where
  steady : Steady left
  unread_eq : left.unread = afterLine r.unread

/-- A steady reader takes the first line of its bytes, however they are cut into chunks. -/
theorem takeLine_of_steady {r : Reader} (h : Steady r) :
    (takeLine r).1 = .ok (firstLine r.unread) ∧ LeavesAfterLine r (takeLine r).2 := by
  fun_induction takeLine r with
  | case1 => exact ⟨rfl, trivial, rfl⟩
  | case2 fault rest hkind ih =>
    obtain ⟨hline, hsteady, hleft⟩ := ih h.2
    exact ⟨hline, hsteady, hleft⟩
  | case3 fault rest hkind => exact absurd h.1 hkind
  | case4 rest =>
    have hnil : unread rest = [] := h.1 rfl
    rw [unread_bytes, List.nil_append, hnil]
    exact ⟨rfl, h.2, by rw [unread_bytes, List.nil_append, hnil]; rfl⟩
  | case5 b bs rest line feed after hspan =>
    obtain ⟨hchunk, hline, hfeed⟩ := span_ne_lineFeed hspan
    cases hfeed feed rfl
    have hbytes : unread (.bytes (b :: bs) :: rest) =
        line ++ lineFeed :: (after ++ unread rest) := by
      rw [unread_bytes, hchunk, List.append_assoc, List.cons_append]
    obtain ⟨hfirst, hafter⟩ := firstLine_append hline (lineFeed :: (after ++ unread rest))
    refine ⟨by rw [hbytes, hfirst]; rfl, h.2.putBack after, ?_⟩
    rw [hbytes, hafter, unread_putBack]
    rfl
  | case6 b bs rest line hspan more left hmore ih =>
    obtain ⟨hchunk, hline, -⟩ := span_ne_lineFeed hspan
    rw [List.append_nil] at hchunk
    obtain ⟨hfirst, hafter⟩ := firstLine_append hline (unread rest)
    obtain ⟨ihline, ihsteady, ihleft⟩ := ih h.2
    rw [hmore] at ihline ihsteady ihleft
    refine ⟨?_, ihsteady, ?_⟩
    · rw [unread_bytes, hchunk, hfirst, show more = .ok (firstLine (unread rest)) from ihline]
      rfl
    · rw [unread_bytes, hchunk, hafter]
      exact ihleft

/-- At the end of input there is no line. -/
theorem readLine_of_nil {r : Reader} (h : Steady r) (hnil : lines r.unread = []) :
    (readLine r).1 = .ok none ∧ Steady (readLine r).2 ∧ lines (readLine r).2.unread = [] := by
  obtain ⟨hline, hsteady, hleft⟩ := takeLine_of_steady h
  rw [lines_eq_nil_iff] at hnil
  rw [hnil] at hline hleft
  refine ⟨?_, hsteady, by rw [lines_eq_nil_iff]; exact hleft⟩
  simp only [readLine, hline]
  rfl

/-- Otherwise the first line is read, as text if its bytes are text. -/
theorem readLine_of_cons {r : Reader} {line : Bytes} {rest : List Bytes} (h : Steady r)
    (hcons : lines r.unread = line :: rest) :
    (∀ text, encodeText text = line → (readLine r).1 = .ok (some text)) ∧
      (¬IsText line → (readLine r).1 = .error .invalidText) ∧
      Steady (readLine r).2 ∧ lines (readLine r).2.unread = rest := by
  obtain ⟨hline, hsteady, hleft⟩ := takeLine_of_steady h
  have hne : r.unread ≠ [] := by
    intro hnil
    rw [hnil] at hcons
    contradiction
  rw [lines_of_ne_nil hne, List.cons.injEq] at hcons
  obtain ⟨rfl, rfl⟩ := hcons
  have hempty : (firstLine r.unread).isEmpty = false := by
    cases hr : r.unread with
    | nil => exact absurd hr hne
    | cons b bytes =>
      rw [firstLine]
      split <;> rfl
  refine ⟨fun text htext => ?_, fun hnot => ?_, hsteady, congrArg lines hleft⟩
  · have hdecode := decodeText_eq_some_iff.2 htext
    simp only [readLine, hline]
    simp [bind, Except.bind, hempty, hdecode, pure, Except.pure]
  · have hdecode := decodeText_of_not_isText hnot
    simp only [readLine, hline]
    simp [bind, Except.bind, hempty, hdecode, throw, throwThe, MonadExceptOf.throw]

end Reader

/-! ## Writers without limits -/

namespace Writer

/-- The writer takes every byte, and none of its flushes fails. -/
def Unfailing (w : Writer) : Prop :=
  w.capacity = none ∧ w.flushFault = none

namespace Unfailing

variable {w : Writer}

theorem accepted_eq (h : w.Unfailing) (bytes : Bytes) : w.accepted bytes = bytes := by
  rw [accepted, h.1]

theorem nextFlushFault?_eq (h : w.Unfailing) : w.nextFlushFault? = none := by
  rw [nextFlushFault?, h.2]

theorem push (h : w.Unfailing) (bytes : Bytes) : (w.push bytes).Unfailing := h

theorem flush (h : w.Unfailing) : w.flush.Unfailing := by
  rw [Writer.flush, h.nextFlushFault?_eq]
  exact h

end Unfailing

end Writer

structure Terminal.Faultless (tm : Terminal) : Prop where
  steady : tm.reader.Steady
  unfailing : tm.writer.Unfailing

/-! ## Transcripts -/

namespace Transcript

variable {σ α : Type}

@[simp] theorem output_cons (step : Step) (tr : Transcript σ α) :
    (tr.cons step).output = step.output ++ tr.output := rfl

@[simp] theorem steps_cons (step : Step) (tr : Transcript σ α) :
    (tr.cons step).steps = step :: tr.steps := rfl

@[simp] theorem result_cons (step : Step) (tr : Transcript σ α) :
    (tr.cons step).result = tr.result := rfl

@[simp] theorem terminal_cons (step : Step) (tr : Transcript σ α) :
    (tr.cons step).terminal = tr.terminal := rfl

/-- What a run leaves behind for those who do not see its steps: the bytes it wrote, its result, and
the source and the input as they are afterwards. -/
structure Leaves (tr : Transcript σ α) (output : Bytes) (result : Except Failure α) (source : σ)
    (unread : Bytes) : Prop where
  output_eq : tr.output = output
  result_eq : tr.result = result
  source_eq : tr.source = source
  unread_eq : tr.terminal.reader.unread = unread

namespace Leaves

variable {tr : Transcript σ α} {output : Bytes} {result : Except Failure α} {source : σ}
  {unread : Bytes}

/-- A step before the run adds what it wrote. -/
theorem cons (h : tr.Leaves output result source unread) (step : Step) :
    (tr.cons step).Leaves (step.output ++ output) result source unread where
  output_eq := by rw [output_cons, h.output_eq]
  result_eq := h.result_eq
  source_eq := h.source_eq
  unread_eq := h.unread_eq

end Leaves

end Transcript

namespace Dialogue

variable {σ α : Type} {r : Reader} {w : Writer} {s : σ}

theorem run_write (hw : w.Unfailing) (text : String) (next : Dialogue σ α) :
    (write text next).run s ⟨r, w⟩ =
      (next.run s ⟨r, w.push (encodeText text)⟩).cons (.wrote (encodeText text)) := by
  simp only [run, hw.accepted_eq, if_true]

theorem run_flush (hw : w.Unfailing) (next : Dialogue σ α) :
    (flush next).run s ⟨r, w⟩ = (next.run s ⟨r, w.flush⟩).cons (.flushed w.written) := by
  simp only [run, hw.nextFlushFault?_eq]

theorem run_ask_ok {line : Option String} (h : r.readLine.1 = .ok line)
    (next : Option String → Dialogue σ α) :
    (ask next).run s ⟨r, w⟩ = ((next line).run s ⟨r.readLine.2, w⟩).cons (.read line) := by
  simp only [run, h]

theorem run_ask_error {fault : Fault} (h : r.readLine.1 = .error fault)
    (next : Option String → Dialogue σ α) :
    (ask next).run s ⟨r, w⟩ = ⟨[], .error (.device fault), s, ⟨r.readLine.2, w⟩⟩ := by
  simp only [run, h]

/-- Logging adds its steps and changes nothing else. -/
theorem run_logAll (events : List Event) (next : Dialogue σ α) (s : σ) (tm : Terminal) :
    (logAll events next).run s tm =
      { next.run s tm with steps := events.map .logged ++ (next.run s tm).steps } := by
  induction events with
  | nil => rfl
  | cons event events ih => exact congrArg (Transcript.cons (.logged event)) ih

/-- Logging changes nothing of what a run leaves. -/
theorem leaves_logAll {events : List Event} {next : Dialogue σ α} {tm : Terminal} {output : Bytes}
    {result : Except Failure α} {source : σ} {unread : Bytes}
    (h : (next.run s tm).Leaves output result source unread) :
    ((logAll events next).run s tm).Leaves output result source unread := by
  induction events with
  | nil => exact h
  | cons event events ih => exact ih.cons (.logged event)

end Dialogue

end PrimesAndRoots

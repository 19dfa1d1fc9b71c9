import PrimesAndRoots.Prompt.Root
import PrimesAndRoots.Proofs.Numeral
import PrimesAndRoots.Proofs.SquareRoot
import PrimesAndRoots.Proofs.Terminal

/-!
# What the root prompt answers

The prompt takes one line. Without the blanks at its ends the line is a numeral of a 64-bit integer
or it is not, and the integer is negative or it is not; each case has its answer. A numeral is told
by `IsNumeral`, so the language that the prompt accepts does not depend on how it is scanned.
-/

namespace PrimesAndRoots

/-! ## Trimming -/

/-- `ds` is what is left of `cs` when the blanks at both ends are removed. -/
def Trimmed (cs ds : List Char) : Prop :=
  ∃ before after, cs = before ++ ds ++ after ∧ (∀ c ∈ before, isBlank c) ∧
    (∀ c ∈ after, isBlank c) ∧ (∀ c ∈ ds.head?, ¬isBlank c) ∧ ∀ c ∈ ds.getLast?, ¬isBlank c

theorem dropWhile_isBlank_of_head? {cs : List Char} (h : ∀ c ∈ cs.head?, ¬isBlank c) :
    cs.dropWhile isBlank = cs := by
  cases cs with
  | nil => rfl
  | cons c cs => exact List.dropWhile_cons_of_neg (h c rfl)

/-- Nothing else is left when the blanks are removed. -/
theorem Trimmed.eq_trimBlanks {cs ds : List Char} (h : Trimmed cs ds) : ds = trimBlanks cs := by
  obtain ⟨before, after, rfl, hbefore, hafter, hhead, hlast⟩ := h
  rw [trimBlanks, List.append_assoc, List.dropWhile_append_of_pos hbefore]
  cases ds with
  | nil => rw [List.nil_append, List.dropWhile_eq_nil_iff.2 hafter]; rfl
  | cons d ds =>
    rw [List.cons_append, List.dropWhile_cons_of_neg (hhead d rfl), ← List.cons_append,
      List.reverse_append,
      List.dropWhile_append_of_pos fun c hc => hafter c (List.mem_reverse.1 hc),
      dropWhile_isBlank_of_head? (by rwa [List.head?_reverse]), List.reverse_reverse]

theorem trimmed_trimBlanks (cs : List Char) : Trimmed cs (trimBlanks cs) := by
  generalize hmid : cs.dropWhile isBlank = mid
  have hcs : cs = cs.takeWhile isBlank ++ mid := by
    rw [← hmid, List.takeWhile_append_dropWhile]
  have hmid' : mid = trimBlanks cs ++ (mid.reverse.takeWhile isBlank).reverse := by
    rw [trimBlanks, hmid, ← List.reverse_append, List.takeWhile_append_dropWhile,
      List.reverse_reverse]
  refine ⟨cs.takeWhile isBlank, (mid.reverse.takeWhile isBlank).reverse, ?_, ?_, ?_, ?_, ?_⟩
  · rw [List.append_assoc, ← hmid']
    exact hcs
  · intro c hc
    exact List.mem_takeWhile_imp hc
  · intro c hc
    exact List.mem_takeWhile_imp (List.mem_reverse.1 hc)
  · intro c hc
    -- the first character that is left is the first one behind the leading blanks
    have hhead : c ∈ (cs.dropWhile isBlank).head? := by
      rw [hmid, hmid', List.head?_append, Option.mem_def.1 hc]
      rfl
    exact not_of_mem_head?_dropWhile hhead
  · intro c hc
    rw [trimBlanks, List.getLast?_reverse] at hc
    exact not_of_mem_head?_dropWhile hc

theorem trimmed_trim (text : String) : Trimmed text.toList (trim text).toList := by
  rw [trim, String.toList_ofList]
  exact trimmed_trimBlanks _

theorem Trimmed.eq_trim {text : String} {cs : List Char} (h : Trimmed text.toList cs) :
    cs = (trim text).toList := by
  rw [trim, String.toList_ofList]
  exact h.eq_trimBlanks

namespace Prompt

variable {σ : Type} {s : σ} {r : Reader} {out : Writer} {text : String}

/-! ## The answer to a text -/

theorem leaves_answerTo_of_error {reason : NumeralError}
    (h : Word.ofText .int64 text = .error reason) :
    ((answerTo text).run s ⟨r, out⟩).Leaves []
      (.error (.invalidInput (quote text ++ " is not an integer"))) s r.unread := by
  rw [answerTo, h]
  exact ⟨rfl, rfl, rfl, rfl⟩

theorem leaves_answerTo_of_neg {n : Word .int64} (h : Word.ofText .int64 text = .ok n)
    (hn : n.toInt < 0) :
    ((answerTo text).run s ⟨r, out⟩).Leaves [] (.error (.negative (toString n.toInt))) s
      r.unread := by
  simp only [answerTo, h]
  refine Dialogue.leaves_logAll ?_
  rw [Word.squareRoot_of_neg hn, Word.text, numeral_eq_toString]
  exact ⟨rfl, rfl, rfl, rfl⟩

theorem leaves_answerTo_of_root (hout : out.Unfailing) {n root : Word .int64}
    (h : Word.ofText .int64 text = .ok n) (hroot : n.squareRoot = .ok root) :
    ((answerTo text).run s ⟨r, out⟩).Leaves
      (encodeText (toString n.toInt ++ "的整数平方根是" ++ toString root.toInt ++ "\n"))
      (.ok ⟨n, root⟩) s r.unread := by
  simp only [answerTo, h]
  refine Dialogue.leaves_logAll ?_
  rw [hroot, Dialogue.run, Dialogue.run_write hout, RootReport.answer, Word.text, Word.text,
    numeral_eq_toString, numeral_eq_toString]
  exact ⟨List.append_nil _, rfl, rfl, rfl⟩

/-! ## The whole prompt -/

theorem leaves_root_of_nil (hr : r.Steady) (hout : out.Unfailing) (hnil : r.unread = []) :
    ((root : Dialogue σ RootReport).run s ⟨r, out⟩).Leaves (encodeText question)
      (.error (.invalidInput "no integer was entered")) s [] := by
  obtain ⟨hread, -, hleft⟩ := Reader.readLine_of_nil hr (Reader.lines_eq_nil_iff.2 hnil)
  rw [root, Dialogue.run_write hout, Dialogue.run_flush (hout.push _), Dialogue.run_ask_ok hread]
  exact ⟨List.append_nil _, rfl, rfl, Reader.lines_eq_nil_iff.1 hleft⟩

/-- The answer to the trimmed line comes behind the question, and the line is taken. -/
theorem leaves_root_of_text (hr : r.Steady) (hout : out.Unfailing) (hne : r.unread ≠ [])
    (htext : encodeText text = Reader.firstLine r.unread) {output : Bytes}
    {result : Except Failure RootReport}
    (h : ∀ {r : Reader} {out : Writer}, out.Unfailing →
      ((answerTo (trim text)).run s ⟨r, out⟩).Leaves output result s r.unread) :
    ((root : Dialogue σ RootReport).run s ⟨r, out⟩).Leaves (encodeText question ++ output) result s
      (Reader.afterLine r.unread) := by
  obtain ⟨hread, -, -, hleft⟩ := Reader.readLine_of_cons hr (Reader.lines_of_ne_nil hne)
  have hunread := Reader.lines_injective hleft
  rw [root, Dialogue.run_write hout, Dialogue.run_flush (hout.push _),
    Dialogue.run_ask_ok (hread text htext), ← hunread]
  exact (((h (hout.push _).flush).cons _).cons _).cons (.wrote (encodeText question))

theorem fits_int64_iff {x : Int} : IntType.int64.Fits x ↔ -2 ^ 63 ≤ x ∧ x ≤ 2 ^ 63 - 1 := Iff.rfl

theorem ofText_int64_eq_ok_iff {n : Word .int64} :
    Word.ofText .int64 text = .ok n ↔ IsNumeral text.toList n.toInt :=
  Word.ofChars_eq_ok_iff rfl

/-- The four cases of the prompt: the input has ended, the line is a numeral of an integer that has
a root, of a negative integer, or of none. -/
theorem root_cases (hr : r.Steady) (hout : out.Unfailing)
    (htext : encodeText text = Reader.firstLine r.unread) :
    let tr := (root : Dialogue σ RootReport).run s ⟨r, out⟩
    let numeral := IsNumeral (trim text).toList
    (r.unread = [] ∧ (∀ x, ¬numeral x) ∧
      tr.output = encodeText question ∧
      tr.result = .error (.invalidInput "no integer was entered")) ∨
    (r.unread ≠ [] ∧ ∃ n root : Word .int64, numeral n.toInt ∧ 0 ≤ n.toInt ∧
      IsFloorRoot n.toInt root.toInt ∧
      tr.output = encodeText (question ++
        (toString n.toInt ++ "的整数平方根是" ++ toString root.toInt ++ "\n")) ∧
      tr.result = .ok ⟨n, root⟩) ∨
    (r.unread ≠ [] ∧ ∃ n : Word .int64, numeral n.toInt ∧ n.toInt < 0 ∧
      tr.output = encodeText question ∧ tr.result = .error (.negative (toString n.toInt))) ∨
    (r.unread ≠ [] ∧ (∀ x, numeral x → ¬IntType.int64.Fits x) ∧
      tr.output = encodeText question ∧
      tr.result = .error (.invalidInput (quote (trim text) ++ " is not an integer"))) := by
  intro tr numeral
  by_cases hne : r.unread = []
  · have h := leaves_root_of_nil (s := s) hr hout hne
    have hempty : text = "" := by
      rw [hne] at htext
      exact encodeText_injective htext
    refine .inl ⟨hne, fun x hx => ?_, h.output_eq, h.result_eq⟩
    exact hx.ne_nil (by simp [hempty, trim, trimBlanks])
  refine .inr ?_
  cases hread : Word.ofText .int64 (trim text) with
  | error reason =>
    have h := leaves_root_of_text hr hout hne htext
      fun {_ _} _ => leaves_answerTo_of_error (s := s) hread
    rw [List.append_nil] at h
    refine .inr (.inr ⟨hne, fun x hx hfits => ?_, h.output_eq, h.result_eq⟩)
    have hok : Word.ofText .int64 (trim text) = .ok ⟨x, hfits⟩ := ofText_int64_eq_ok_iff.2 hx
    rw [hread] at hok
    cases hok
  | ok n =>
    have hn : numeral n.toInt := ofText_int64_eq_ok_iff.1 hread
    rcases Int.lt_or_le n.toInt 0 with hneg | hnonneg
    · have h := leaves_root_of_text hr hout hne htext
        fun {_ _} _ => leaves_answerTo_of_neg (s := s) hread hneg
      rw [List.append_nil] at h
      exact .inr (.inl ⟨hne, n, hn, hneg, h.output_eq, h.result_eq⟩)
    · obtain ⟨m, hroot, hfloor⟩ := Word.squareRoot_of_nonneg hnonneg
      have h := leaves_root_of_text hr hout hne htext
        fun {_ _} hout => leaves_answerTo_of_root (s := s) hout hread hroot
      rw [← encodeText_append] at h
      exact .inl ⟨hne, n, m, hn, hnonneg, hfloor, h.output_eq, h.result_eq⟩

/-- The message for a line that is no integer is not the one for a missing line. -/
theorem rejection_ne_missing (t : String) :
    quote t ++ " is not an integer" ≠ "no integer was entered" := by
  intro h
  have := congrArg (fun message => message.toList.head?) h
  simp [quote, quoteChars] at this

/-- The root prompt at a terminal without faults, on a first line that is text. With the blanks at
both ends of the line removed, it accepts exactly the numerals of the integers from zero to the
greatest 64-bit one, and answers with the floor of the square root; a numeral of a negative integer,
the end of input and every other line have a failure each, after the question alone. -/
theorem root_prompt_answers (hr : r.Steady) (hout : out.Unfailing)
    (htext : encodeText text = Reader.firstLine r.unread) :
    let tr := (root : Dialogue σ RootReport).run s ⟨r, out⟩
    ∃ t : String, Trimmed text.toList t.toList ∧
      ((∃ report, tr.result = .ok report) ↔
        ∃ x, IsNumeral t.toList x ∧ 0 ≤ x ∧ x ≤ 2 ^ 63 - 1) ∧
      (∀ report, tr.result = .ok report → ∃ x, IsNumeral t.toList x ∧
        report.number.toInt = x ∧ report.root.toInt = Nat.sqrt x.toNat ∧
        tr.output = encodeText ("请输入一个整数：" ++
          (toString x ++ "的整数平方根是" ++ toString (Nat.sqrt x.toNat : Int) ++ "\n"))) ∧
      (∀ message, tr.result = .error (.negative message) ↔
        ∃ x, IsNumeral t.toList x ∧ -2 ^ 63 ≤ x ∧ x < 0 ∧ message = toString x) ∧
      (tr.result = .error (.invalidInput "no integer was entered") ↔ r.unread = []) ∧
      (tr.result = .error (.invalidInput (quote t ++ " is not an integer")) ↔
        r.unread ≠ [] ∧ ∀ x, IsNumeral t.toList x → ¬(-2 ^ 63 ≤ x ∧ x ≤ 2 ^ 63 - 1)) ∧
      (∀ failure, tr.result = .error failure → tr.output = encodeText "请输入一个整数：") := by
  intro tr
  refine ⟨trim text, trimmed_trim text, ?_⟩
  rcases root_cases hr hout htext with
    ⟨hnil, hnone, houtput, hresult⟩ | ⟨hne, n, m, hn, hnonneg, hfloor, houtput, hresult⟩ |
    ⟨hne, n, hn, hneg, houtput, hresult⟩ | ⟨hne, hnone, houtput, hresult⟩ <;>
    change tr.result = _ at hresult <;> change tr.output = _ at houtput <;> rw [hresult, houtput]
  · -- the input has ended
    simp [hnone, hnil, (rejection_ne_missing (trim text)).symm, question]
  · -- an integer that has a root
    refine ⟨⟨fun _ => ⟨n.toInt, hn, hnonneg, n.fits.2⟩, fun _ => ⟨_, rfl⟩⟩, ?_, ?_, ?_, ?_, ?_⟩
    · intro report h
      cases h
      exact ⟨n.toInt, hn, rfl, hfloor.eq_sqrt, by rw [← hfloor.eq_sqrt, question]⟩
    · intro message
      refine ⟨nofun, ?_⟩
      rintro ⟨x, hx, -, hneg, -⟩
      exact absurd hneg (Int.not_lt.2 (hx.unique hn ▸ hnonneg))
    · exact ⟨nofun, fun hnil => absurd hnil hne⟩
    · exact ⟨nofun, fun h => absurd n.fits (h.2 n.toInt hn)⟩
    · exact nofun
  · -- a negative integer
    refine ⟨⟨by rintro ⟨_, ⟨⟩⟩, ?_⟩, by rintro _ ⟨⟩, ?_, ?_, ?_, fun _ _ => rfl⟩
    · rintro ⟨x, hx, hnonneg, -⟩
      exact absurd hneg (Int.not_lt.2 (hn.unique hx ▸ hnonneg))
    · intro message
      constructor
      · intro h
        cases h
        exact ⟨n.toInt, hn, n.fits.1, hneg, rfl⟩
      · rintro ⟨x, hx, -, -, rfl⟩
        rw [hn.unique hx]
    · exact ⟨nofun, fun hnil => absurd hnil hne⟩
    · exact ⟨nofun, fun h => absurd n.fits (h.2 n.toInt hn)⟩
  · -- no integer of the type
    refine ⟨⟨by rintro ⟨_, ⟨⟩⟩, ?_⟩, by rintro _ ⟨⟩, ?_, ?_, ?_, fun _ _ => rfl⟩
    · rintro ⟨x, hx, hnonneg, hle⟩
      exact absurd (fits_int64_iff.2 ⟨by omega, hle⟩) (hnone x hx)
    · intro message
      refine ⟨nofun, ?_⟩
      rintro ⟨x, hx, hle, hneg, -⟩
      exact absurd (fits_int64_iff.2 ⟨hle, by omega⟩) (hnone x hx)
    · refine ⟨fun h => ?_, fun hnil => absurd hnil hne⟩
      rw [Except.error.injEq, Failure.invalidInput.injEq] at h
      exact absurd h (rejection_ne_missing _)
    · exact ⟨fun _ => ⟨hne, hnone⟩, fun _ => rfl⟩

/-- Zero with a minus sign is accepted, between blanks and cut into chunks. -/
theorem root_prompt_answers_minus_zero :
    let r : Reader := [.bytes [32, 45], .fault (.bare .interrupted), .bytes [48, 13, 10, 255]]
    r.Steady ∧ Writer.Unfailing {} ∧ encodeText " -0\r\n" = Reader.firstLine r.unread ∧
      ∃ report, ((root : Dialogue Unit RootReport).run () ⟨r, {}⟩).result = .ok report ∧
        report.number.toInt = 0 ∧ report.root.toInt = 0 := by
  intro r
  have hr : r.Steady := by decide
  have hout : Writer.Unfailing {} := ⟨rfl, rfl⟩
  have htext : encodeText " -0\r\n" = Reader.firstLine r.unread := by decide
  obtain ⟨t, ht, hok, hreport, -⟩ := root_prompt_answers (s := ()) hr hout htext
  have htrim : t.toList = ['-', '0'] := ht.eq_trimBlanks.trans (by decide)
  have hzero : IsNumeral t.toList 0 := by
    rw [htrim]
    exact .minus ⟨List.cons_ne_nil _ _, List.forall_mem_singleton.2 rfl⟩
  obtain ⟨report, hresult⟩ := hok.2 ⟨0, hzero, by decide, by decide⟩
  obtain ⟨x, hx, hnumber, hroot, -⟩ := hreport report hresult
  cases hx.unique hzero
  exact ⟨hr, hout, htext, report, hresult, hnumber, hroot⟩

end Prompt

end PrimesAndRoots

import PrimesAndRoots.Proofs.PrimePrompt
import PrimesAndRoots.Proofs.PrimeStream

/-!
# Prompts that go on with one stream

One stream of primes, shown by prompt after prompt, each at a terminal of its own. A prompt whose
input ends leaves the stream right behind the last prime it has shown, since it pulls nothing that
it does not show; so the next one goes on there. The stream has its failure for the first prompt
that asks for more primes than there are, and nothing for those behind it.
-/

namespace PrimesAndRoots

/-- A terminal without faults, at which every line is text. -/
structure Terminal.Plain (tm : Terminal) : Prop extends tm.Faultless where
  isText : ∀ line ∈ Reader.lines tm.reader.unread, IsText line

namespace Prompt

open Reader Source

variable {t : IntType}

/-- Prompts held one after the other, over what the one before has left of the source. -/
def sittings {σ : Type} [Source σ t] (s : σ) : List Terminal → List (Transcript σ Nat)
  | [] => []
  | tm :: later =>
    let tr := (primes s).run s tm
    tr :: sittings tr.source later

/-! ## One prompt over words that end with a failure -/

variable {s : PrimeStream t} {words : List (Word t)} {failure : Failure} {tm : Terminal}

/-- With more words than lines the prompt shows a word for each line and one more. -/
theorem primes_of_lt (hitems : items s = words.map .ok ++ [.error failure]) (htm : tm.Plain)
    (h : (lines tm.reader.unread).length < words.length) :
    let l := (lines tm.reader.unread).length
    let tr := (primes s).run s tm
    tr.result = .ok (l + 1) ∧
      tr.output = shownBytes (words.take (l + 1)) ++ encodeText "\n" ∧
      items tr.source = (words.drop (l + 1)).map .ok ++ [.error failure] := by
  intro l tr
  have hleaves : tr.Leaves _ _ _ _ := leaves_primes s 0 htm.steady htm.unfailing
  simp only [hitems, ending_append_error, textLines_eq_length_iff.2 htm.isText, if_pos h, if_true,
    Nat.zero_add] at hleaves
  refine ⟨hleaves.result_eq, hleaves.output_eq, ?_⟩
  rw [hleaves.source_eq, PrimeStream.items_afterPulls, hitems, List.drop_append_of_le_length,
    List.map_drop]
  simpa using h

/-- With no more words than lines it shows the words, and the failure ends it. -/
theorem primes_of_le (hitems : items s = words.map .ok ++ [.error failure]) (htm : tm.Plain)
    (h : words.length ≤ (lines tm.reader.unread).length) :
    let tr := (primes s).run s tm
    tr.result = .error failure ∧ tr.output = shownBytes words ∧ tr.source = .exhausted := by
  intro tr
  have hleaves : tr.Leaves _ _ _ _ := leaves_primes s 0 htm.steady htm.unfailing
  simp only [hitems, ending_append_error, textLines_eq_length_iff.2 htm.isText,
    if_neg (Nat.not_lt.2 h)] at hleaves
  refine ⟨hleaves.result_eq, hleaves.output_eq, PrimeStream.items_eq_nil_iff.1 ?_⟩
  rw [hleaves.source_eq, PrimeStream.items_afterPulls, hitems]
  simp

/-- Over a stream at its end a prompt does nothing at all. -/
theorem primes_exhausted (tm : Terminal) :
    (primes (.exhausted : PrimeStream t)).run .exhausted tm = ⟨[], .ok 0, .exhausted, tm⟩ := by
  have hpull : pull (.exhausted : PrimeStream t) = ⟨[], none, .exhausted⟩ :=
    PrimeStream.next_exhausted
  rw [primes_of_none (by rw [hpull]), hpull]
  rfl

theorem sittings_exhausted (terminals : List Terminal) :
    sittings (.exhausted : PrimeStream t) terminals =
      terminals.map fun tm => ⟨[], .ok 0, .exhausted, tm⟩ := by
  induction terminals with
  | nil => rfl
  | cons tm later ih => simp [sittings, primes_exhausted, ih]

/-! ## All prompts -/

/-- How the prompt number `i` goes, of prompts over `words` and a failure behind them. The prompt
number `first` is the first one that asks for more words than are left, and `shown` lists the words
that each prompt shows. -/
structure Sitting (words : List (Word t)) (failure : Failure) (first : Nat)
    (shown : List (List (Word t))) (i : Nat) (tm : Terminal)
    (tr : Transcript (PrimeStream t) Nat) : Prop where
  of_lt : i < first →
    let c := (shown.take i).flatten.length
    let l := (lines tm.reader.unread).length
    c + l + 1 ≤ words.length ∧ shown[i]? = some ((words.drop c).take (l + 1)) ∧
      tr.result = .ok (l + 1) ∧
      tr.output = shownBytes ((words.drop c).take (l + 1)) ++ encodeText "\n"
  of_eq : i = first →
    let c := (shown.take i).flatten.length
    let l := (lines tm.reader.unread).length
    words.length < c + l + 1 ∧ shown[i]? = some (words.drop c) ∧ tr.result = .error failure ∧
      tr.output = shownBytes (words.drop c)
  of_gt : first < i → shown[i]? = some [] ∧ tr = ⟨[], .ok 0, .exhausted, tm⟩

/-- A prompt that shows `k` words puts off what the later ones do. -/
theorem Sitting.succ {first i k : Nat} {shown : List (List (Word t))}
    {tr : Transcript (PrimeStream t) Nat} (hk : k ≤ words.length)
    (h : Sitting (words.drop k) failure first shown i tm tr) :
    Sitting words failure (first + 1) (words.take k :: shown) (i + 1) tm tr := by
  have hc : ((words.take k :: shown).take (i + 1)).flatten.length =
      k + (shown.take i).flatten.length := by simp [hk]
  constructor
  · intro hi
    obtain ⟨hle, hshown, hresult, houtput⟩ := h.of_lt (by omega)
    rw [List.length_drop] at hle
    simp only [hc, ← List.drop_drop]
    exact ⟨by omega, hshown, hresult, houtput⟩
  · intro hi
    obtain ⟨hlt, hshown, hresult, houtput⟩ := h.of_eq (by omega)
    rw [List.length_drop] at hlt
    simp only [hc, ← List.drop_drop]
    exact ⟨by omega, hshown, hresult, houtput⟩
  · intro hi
    exact h.of_gt (by omega)

/-- By induction over the prompts, each of which takes its words off the front. -/
theorem exists_shown (hitems : items s = words.map .ok ++ [.error failure])
    (terminals : List Terminal) (h : ∀ tm ∈ terminals, tm.Plain) :
    ∃ (first : Nat) (shown : List (List (Word t))), shown.length = terminals.length ∧
      shown.flatten <+: words ∧ ∀ i tm, terminals[i]? = some tm →
        ∃ tr, (sittings s terminals)[i]? = some tr ∧
          Sitting words failure first shown i tm tr := by
  induction terminals generalizing s words with
  | nil => exact ⟨0, [], rfl, List.nil_prefix, by simp⟩
  | cons tm later ih =>
    obtain ⟨htm, hlater⟩ := List.forall_mem_cons.1 h
    by_cases hlt : (lines tm.reader.unread).length < words.length
    · obtain ⟨hresult, houtput, hrest⟩ := primes_of_lt hitems htm hlt
      obtain ⟨first, shown, hlength, ⟨rest, hwords⟩, hall⟩ := ih hrest hlater
      refine ⟨first + 1, words.take ((lines tm.reader.unread).length + 1) :: shown,
        congrArg (· + 1) hlength, ⟨rest, ?_⟩, ?_⟩
      · rw [List.flatten_cons, List.append_assoc, hwords, List.take_append_drop]
      · intro i tm' htm'
        cases i with
        | zero =>
          cases htm'
          refine ⟨_, rfl, fun _ => ⟨?_, rfl, hresult, houtput⟩, nofun, nofun⟩
          simpa using hlt
        | succ i =>
          obtain ⟨tr, htr, hsitting⟩ := hall i tm' htm'
          exact ⟨tr, htr, hsitting.succ hlt⟩
    · obtain ⟨hresult, houtput, hsource⟩ := primes_of_le hitems htm (Nat.not_lt.1 hlt)
      refine ⟨0, words :: List.replicate later.length [], by simp, by simp, ?_⟩
      intro i tm' htm'
      cases i with
      | zero =>
        cases htm'
        refine ⟨_, rfl, nofun, fun _ => ⟨?_, rfl, hresult, houtput⟩, nofun⟩
        simpa using Nat.lt_succ_of_le (Nat.not_lt.1 hlt)
      | succ i =>
        rw [List.getElem?_cons_succ] at htm'
        obtain ⟨hi, -⟩ := List.getElem?_eq_some_iff.1 htm'
        refine ⟨⟨[], .ok 0, .exhausted, tm'⟩, ?_, nofun, nofun, fun _ => ⟨?_, rfl⟩⟩
        · simp [sittings, hsource, sittings_exhausted, htm']
        · simp [hi]

/-- Prompts one after the other over one stream of primes, at terminals without faults whose lines
are text. Up to the first prompt that asks for more primes than are left, each shows the next ones,
a prime for every line and one more; that prompt shows those that are left and fails, and each later
one does nothing and counts none. What all prompts show is the beginning of the primes from the
start, each once and in their order. -/
theorem sittings_show_primes_in_order (start : Word t) (terminals : List Terminal)
    (h : ∀ tm ∈ terminals, tm.Plain) :
    ∃ words : List (Word t), words.Pairwise (· < ·) ∧
      (∀ n : Int, n ∈ words.map Word.toInt ↔ max start.toInt 2 ≤ n ∧ n ≤ t.max ∧ IsPrime n) ∧
      ∃ (first : Nat) (shown : List (List (Word t))), shown.length = terminals.length ∧
        shown.flatten <+: words ∧ ∀ i tm, terminals[i]? = some tm →
          ∃ tr, (sittings (PrimeStream.startingFrom start) terminals)[i]? = some tr ∧
            Sitting words (.overflow ("no candidate above " ++ toString t.max ++
              " fits in the counter type")) first shown i tm tr := by
  obtain ⟨words, hsorted, hmem, hitems⟩ := PrimeStream.items_startingFrom start
  exact ⟨words, hsorted, hmem, exists_shown hitems terminals h⟩

/-- From 126 on a signed type of 8 bits has one prime left. The prompt that shows it does not know
that it is the last, so the next one fails and shows nothing. -/
theorem sittings_show_primes_in_order_last_prime :
    let start : Word ⟨true, 8, by decide⟩ := ⟨126, by decide⟩
    let terminals : List Terminal := [⟨[], {}⟩, ⟨[.bytes [120, 10]], {}⟩, ⟨[.bytes [10]], {}⟩]
    (∀ tm ∈ terminals, tm.Plain) ∧
      (sittings (PrimeStream.startingFrom start) terminals).map (·.result) =
        [.ok 1, .error (.overflow "no candidate above 127 fits in the counter type"), .ok 0] := by
  intro start terminals
  have hplain : ∀ tm ∈ terminals, tm.Plain := by
    simp only [terminals, List.forall_mem_cons]
    exact ⟨⟨⟨by decide, rfl, rfl⟩, by decide⟩, ⟨⟨by decide, rfl, rfl⟩, by decide⟩,
      ⟨⟨by decide, rfl, rfl⟩, by decide⟩, by simp⟩
  refine ⟨hplain, ?_⟩
  obtain ⟨words, hsorted, hmem, first, shown, -, -, hall⟩ :=
    sittings_show_primes_in_order start terminals hplain
  have hwords : words.length = 1 := by
    have hmax : (127 : Int) ∈ words.map Word.toInt :=
      (hmem 127).2 ⟨by decide, by decide, by decide⟩
    have honly (w : Word _) (hw : w ∈ words) : w.toInt = 127 := by
      obtain ⟨hge, hle, -, hp⟩ := (hmem w.toInt).1 (List.mem_map_of_mem hw)
      have hge : 126 ≤ w.toInt := hge
      have hle : w.toInt ≤ 127 := hle
      have hodd : ¬2 ∣ w.toInt := hp 2 (by decide) (by omega)
      omega
    match words, hsorted with
    | [], _ => simp at hmax
    | [w], _ => rfl
    | w :: w' :: _, hsorted =>
      have hlt : w.toInt < w'.toInt := List.rel_of_pairwise_cons hsorted (by simp)
      have := honly w (by simp)
      have := honly w' (by simp)
      omega
  obtain ⟨a, ha, hsa⟩ := hall 0 _ rfl
  obtain ⟨b, hb, hsb⟩ := hall 1 _ rfl
  obtain ⟨c, hc, hsc⟩ := hall 2 _ rfl
  have hpos : 0 < first := by
    by_contra hzero
    have hlt : words.length < 0 + 0 + 1 := (hsa.of_eq (by omega)).1
    omega
  have hone : first = 1 := by
    by_contra hne
    have hle : _ + 1 + 1 ≤ words.length := (hsb.of_lt (by omega)).1
    omega
  have hfirst : a.result = .ok 1 := (hsa.of_lt hpos).2.2.1
  have hsecond := (hsb.of_eq hone.symm).2.2.1
  have hthird := (hsc.of_gt (by omega)).2
  have hlist : sittings (PrimeStream.startingFrom start) terminals = [a, b, c] := by
    cases ha
    cases hb
    cases hc
    rfl
  rw [hlist, List.map_cons, List.map_cons, List.map_cons, hfirst, hsecond, hthird]
  rfl

end Prompt

end PrimesAndRoots

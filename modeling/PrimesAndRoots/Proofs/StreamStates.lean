import PrimesAndRoots.Proofs.PrimeStream

/-!
# The states of the stream of primes

A stream has a candidate or not, and is overflowed or not, and its two fields are set one by one.
Of the four combinations one is never met: `WellFormed` says that a stream with a candidate is not
overflowed, and that its candidate is at least two. Each turn of a pull keeps this, and so do pulls.

What a pull leaves behind a prime is the stream that starts right after it, so a stream can be taken
up again from its last item. The states that one pull goes through on its way are told by `Visits`.
-/

namespace PrimesAndRoots.PrimeStream

open Source

variable {t : IntType}

/-- The streams that come from a start by any number of pulls. -/
inductive Reachable : PrimeStream t → Prop where
  | all : Reachable all
  | startingFrom (start : Word t) : Reachable (startingFrom start)
  | next {s : PrimeStream t} : Reachable s → Reachable s.next.rest

/-- A pull of `s` comes through `s'`: it begins there, or gets there once it has stepped past the
candidate of `s` and found that this is no prime. -/
inductive Visits : PrimeStream t → PrimeStream t → Prop where
  | refl (s : PrimeStream t) : Visits s s
  | pass {s s' : PrimeStream t} {c : Word t} : s.candidate = some c → c.verdict ≠ .prime →
      Visits (s.advance c) s' → Visits s s'

/-! ## The fields go together -/

structure WellFormed (s : PrimeStream t) : Prop where
  two_le : ∀ c, s.candidate = some c → 2 ≤ c.toInt
  not_overflowed : ∀ c, s.candidate = some c → s.overflowed = false

namespace WellFormed

variable {s s' : PrimeStream t} {c : Word t}

theorem of_candidate_eq_none (h : s.candidate = none) : s.WellFormed := by
  constructor <;> simp [h]

theorem startingFrom (start : Word t) : (startingFrom start).WellFormed := by
  obtain ⟨c, hstart, hc⟩ := startingFrom_eq start
  rw [hstart]
  constructor <;> grind

/-- A step to the next candidate does not touch the flag, and the step that sets the flag takes the
candidate away. -/
theorem advance (h : s.WellFormed) (hc : s.candidate = some c) : (s.advance c).WellFormed := by
  cases hnext : c.add? 1 with
  | none =>
    rw [advance_of_none s hnext]
    exact of_candidate_eq_none rfl
  | some next =>
    have succ : next.toInt = c.toInt + 1 := Word.add?_eq_some_iff.1 hnext
    have htwo := h.two_le c hc
    have hflag := h.not_overflowed c hc
    rw [advance_of_some s hnext]
    constructor <;> grind

theorem next (h : s.WellFormed) : s.next.rest.WellFormed := by
  fun_induction PrimeStream.next s with
  | case1 s hc | case2 s hc => exact of_candidate_eq_none hc
  | case3 s c hc => exact h.advance hc
  | case4 s c hc _ _ _ ih | case5 s c hc _ ih => exact ih (h.advance hc)

theorem afterPulls (h : s.WellFormed) (k : Nat) : (afterPulls s k).WellFormed := by
  induction k with
  | zero => exact h
  | succ k ih =>
    rw [afterPulls_succ]
    exact ih.next

theorem of_reachable (h : Reachable s) : s.WellFormed := by
  induction h with
  | all => exact .startingFrom 2
  | startingFrom start => exact .startingFrom start
  | next _ ih => exact ih.next

theorem of_visits (hs : s.WellFormed) (h : Visits s s') : s'.WellFormed := by
  induction h with
  | refl => exact hs
  | pass hc _ _ ih => exact ih (hs.advance hc)

/-- Numbers below two are never judged. -/
theorem verdict_ne_neither (h : s.WellFormed) (hc : s.candidate = some c) :
    c.verdict ≠ .neither := by
  intro hv
  have hlt : c.toInt < 2 := Word.verdict_eq_iff.1 hv
  exact absurd (h.two_le c hc) (Int.not_le.2 hlt)

theorem eq_cases (h : s.WellFormed) :
    (∃ c, s = ⟨some c, false⟩ ∧ 2 ≤ c.toInt) ∨ s = ⟨none, true⟩ ∨ s = ⟨none, false⟩ := by
  match s with
  | ⟨some c, overflowed⟩ =>
    obtain rfl : overflowed = false := h.not_overflowed c rfl
    exact .inl ⟨c, rfl, h.two_le c rfl⟩
  | ⟨none, true⟩ => exact .inr (.inl rfl)
  | ⟨none, false⟩ => exact .inr (.inr rfl)

end WellFormed

/-! ## What a pull leaves -/

/-- From each state that a pull comes through it ends as it does. -/
theorem Visits.next_eq {s s' : PrimeStream t} (h : Visits s s') :
    s.next.item = s'.next.item ∧ s.next.rest = s'.next.rest := by
  induction h with
  | refl => exact ⟨rfl, rfl⟩
  | pass hc hv _ ih =>
    have hpasses := next_of_not_prime hc fun hp => hv (Word.verdict_eq_iff.2 hp)
    exact ⟨hpasses.1.trans ih.1, hpasses.2.trans ih.2⟩

/-- A pull that gives a word gives a prime, and leaves the stream past it. The flag is as it was
before the pull, or is set by the last step. -/
theorem rest_of_item_eq_ok {s : PrimeStream t} {p : Word t} (h : s.next.item = some (.ok p)) :
    IsPrime p.toInt ∧ s.next.rest = s.advance p := by
  fun_induction next s with
  | case1 | case2 => cases h
  | case3 s c hc hv =>
    cases h
    exact ⟨Word.verdict_eq_iff.1 hv, rfl⟩
  | case4 s c hc _ _ _ ih | case5 s c hc _ ih =>
    have h : (s.advance c).next.item = some (.ok p) := h
    obtain ⟨hp, hrest⟩ := ih h
    refine ⟨hp, hrest.trans ?_⟩
    cases hnext : c.add? 1 with
    | none => simp [advance_of_none s hnext, next_overflowed] at h
    | some next => rw [advance_of_some s hnext, PrimeStream.advance, PrimeStream.advance]

theorem WellFormed.not_overflowed_of_ok {s : PrimeStream t} {p : Word t} (hs : s.WellFormed)
    (h : s.next.item = some (.ok p)) : s.overflowed = false := by
  rcases hs.eq_cases with ⟨c, rfl, -⟩ | rfl | rfl
  · rfl
  · simp [next_overflowed] at h
  · rfl

/-- Past a word that is at least one, a stream that is not overflowed is the one that starts from
the next word. -/
theorem advance_eq {s : PrimeStream t} {p : Word t} (hs : s.overflowed = false)
    (hp : 1 ≤ p.toInt) :
    (p.toInt < t.max → ∃ q : Word t, q.toInt = p.toInt + 1 ∧ s.advance p = startingFrom q) ∧
      (p.toInt = t.max → s.advance p = ⟨none, true⟩) := by
  refine ⟨fun hlt => ?_, fun hmax => advance_of_none s (Word.add?_one_eq_none_iff.2 hmax)⟩
  cases hnext : p.add? 1 with
  | none =>
    have hmax := Word.add?_one_eq_none_iff.1 hnext
    omega
  | some q =>
    have succ : q.toInt = p.toInt + 1 := Word.add?_eq_some_iff.1 hnext
    obtain ⟨c, hstart, hc⟩ := startingFrom_eq q
    obtain rfl : c = q := Word.ext (by omega)
    exact ⟨c, succ, by rw [hstart, advance_of_some s hnext, hs]⟩

/-- A pull fails where no prime is left, and the failure is still to be given. -/
theorem item_eq_error_iff {s : PrimeStream t} {failure : Failure} :
    s.next.item = some (.error failure) ↔
      failure = overflow t ∧
        (s = ⟨none, true⟩ ∨
          ∃ c, s.candidate = some c ∧ ∀ n, c.toInt ≤ n → n ≤ t.max → ¬IsPrime n) := by
  rw [← pull_eq_next, item_pull]
  match s with
  | ⟨none, false⟩ =>
    have hitems : items (⟨none, false⟩ : PrimeStream t) = [] := items_exhausted
    simp [hitems]
  | ⟨none, true⟩ => simp [items_overflowed, eq_comm]
  | ⟨some c, overflowed⟩ =>
    rw [items_of_candidate rfl]
    cases hprimes : c.primesFrom with
    | nil =>
      have hnone (n : Int) (hle : c.toInt ≤ n) (hmax : n ≤ t.max) : ¬IsPrime n := by
        intro hp
        have hmem := Word.mem_map_primesFrom.2 ⟨hle, hmax, hp⟩
        simp [hprimes] at hmem
      constructor
      · intro h
        exact ⟨by simpa [eq_comm] using h, .inr ⟨c, rfl, hnone⟩⟩
      · rintro ⟨rfl, -⟩
        rfl
    | cons w words =>
      have hw : w.toInt ∈ c.primesFrom.map Word.toInt := by simp [hprimes]
      obtain ⟨hle, hmax, hp⟩ := Word.mem_map_primesFrom.1 hw
      constructor
      · intro h
        simp at h
      · rintro ⟨-, h | ⟨d, hd, hnone⟩⟩
        · cases h
        · cases hd
          exact absurd hp (hnone _ hle hmax)

theorem rest_of_item_eq_error {s : PrimeStream t} {failure : Failure}
    (h : s.next.item = some (.error failure)) : s.next.rest = exhausted := by
  fun_induction next s with
  | case1 s hc =>
    rw [hc]
    rfl
  | case2 | case3 => cases h
  | case4 s c _ _ _ _ ih | case5 s c _ _ ih => exact ih h

theorem item_eq_none_iff {s : PrimeStream t} : s.next.item = none ↔ s = exhausted := by
  rw [← pull_eq_next, item_pull, List.head?_eq_none_iff, items_eq_nil_iff]

/-! ## Reachable streams -/

/-- The texts that show a stream in the three forms it can have. -/
theorem inspect_cases (c : Word t) :
    inspect ⟨some c, false⟩ =
        "Primes \x7b candidate: Some(" ++ toString c.toInt ++ "), overflowed: false \x7d" ∧
      inspect (⟨none, true⟩ : PrimeStream t) =
        "Primes \x7b candidate: None, overflowed: true \x7d" ∧
      inspect (⟨none, false⟩ : PrimeStream t) =
        "Primes \x7b candidate: None, overflowed: false \x7d" := by
  have hbefore : "Primes \x7b candidate: " ++ "Some(" = "Primes \x7b candidate: Some(" := by
    decide
  have hbehind : ")" ++ ", overflowed: " ++ "false" ++ " \x7d" = "), overflowed: false \x7d" := by
    decide
  refine ⟨?_, ?_, ?_⟩
  · rw [← hbefore, ← hbehind, ← numeral_eq_toString]
    unfold inspect
    simp only [Word.text, String.append_assoc, Bool.false_eq_true, if_false]
  all_goals
    unfold inspect
    simp only [Bool.false_eq_true, if_true, if_false]
    decide

/-- Every stream that can be reached has a candidate from two up and is not overflowed, or is
overflowed and has none, or neither; it never has a candidate and is overflowed. A pull that gives a
prime leaves the stream that starts from the next word, or the one that is overflowed. A pull fails
exactly where no prime is left and the failure has not been given, and leaves the stream at its end,
where pulls give nothing and change nothing. All states that a pull comes through on its way are
well-formed too, and no candidate among them is found to be neither prime nor composite. -/
theorem reachable_states {s : PrimeStream t} (h : Reachable s) :
    ((∃ c, s = ⟨some c, false⟩ ∧ 2 ≤ c.toInt ∧ c.toInt ≤ t.max ∧ s.inspect =
          "Primes \x7b candidate: Some(" ++ toString c.toInt ++ "), overflowed: false \x7d") ∨
        (s = ⟨none, true⟩ ∧ s.inspect = "Primes \x7b candidate: None, overflowed: true \x7d") ∨
        (s = ⟨none, false⟩ ∧ s.inspect = "Primes \x7b candidate: None, overflowed: false \x7d")) ∧
      (∀ c, s ≠ ⟨some c, true⟩) ∧
      (∀ p, s.next.item = some (.ok p) →
        (p.toInt < t.max →
          ∃ q : Word t, q.toInt = p.toInt + 1 ∧ s.next.rest = startingFrom q) ∧
        (p.toInt = t.max → s.next.rest = ⟨none, true⟩)) ∧
      (∀ failure, s.next.item = some (.error failure) ↔
        failure = .overflow
            ("no candidate above " ++ toString t.max ++ " fits in the counter type") ∧
          (s = ⟨none, true⟩ ∨
            ∃ c, s.candidate = some c ∧ ∀ n, c.toInt ≤ n → n ≤ t.max → ¬IsPrime n)) ∧
      (∀ failure, s.next.item = some (.error failure) → s.next.rest = ⟨none, false⟩) ∧
      (s.next.item = none ↔ s = ⟨none, false⟩) ∧
      (s = ⟨none, false⟩ → s.next.rest = ⟨none, false⟩) ∧
      ∀ s', Visits s s' → s'.WellFormed ∧ (∀ c, s'.candidate = some c → c.verdict ≠ .neither) ∧
        s.next.item = s'.next.item ∧ s.next.rest = s'.next.rest := by
  have hs : s.WellFormed := .of_reachable h
  refine ⟨?_, ?_, ?_, ?_, fun _ => rest_of_item_eq_error, item_eq_none_iff, ?_, ?_⟩
  · rcases hs.eq_cases with ⟨c, rfl, hc⟩ | rfl | rfl
    · exact .inl ⟨c, rfl, hc, c.fits.2, (inspect_cases c).1⟩
    · exact .inr (.inl ⟨rfl, (inspect_cases 0).2.1⟩)
    · exact .inr (.inr ⟨rfl, (inspect_cases 0).2.2⟩)
  · rintro c rfl
    exact Bool.noConfusion (hs.not_overflowed c rfl)
  · intro p hp
    obtain ⟨hprime, hrest⟩ := rest_of_item_eq_ok hp
    rw [hrest]
    exact advance_eq (hs.not_overflowed_of_ok hp) (by have := hprime.1; omega)
  · intro failure
    rw [item_eq_error_iff, overflow_eq]
  · rintro rfl
    exact congrArg _ next_exhausted
  · intro s' hs'
    have hwell := hs.of_visits hs'
    exact ⟨hwell, fun c => hwell.verdict_ne_neither, hs'.next_eq⟩

/-- In a signed type of 8 bits the pull from 126 passes over one candidate and gives the greatest
value of the type, which is a prime; the failure is left for the next pull. -/
theorem reachable_states_last_prime :
    let start : Word ⟨true, 8, by decide⟩ := ⟨126, by decide⟩
    let top : Word ⟨true, 8, by decide⟩ := ⟨127, by decide⟩
    let s := (startingFrom start).next.rest
    Reachable (startingFrom start) ∧ (startingFrom start).next.item = some (.ok top) ∧
      Reachable s ∧ s = ⟨none, true⟩ ∧
      s.next.item =
        some (.error (.overflow "no candidate above 127 fits in the counter type")) := by
  intro start top s
  have hstart : Reachable (startingFrom start) := .startingFrom start
  have hitem : (startingFrom start).next.item = some (.ok top) := by
    have hpass := next_of_not_prime (s := startingFrom start) (c := start) rfl (by decide)
    have hnext : start.add? 1 = some top := by decide
    have hadvance := advance_of_some (startingFrom start) hnext
    rw [hpass.1, hadvance, next_of_prime rfl (by decide)]
  obtain ⟨-, -, hok, -⟩ := reachable_states hstart
  have hs : s = ⟨none, true⟩ := (hok top hitem).2 (by decide)
  obtain ⟨-, -, -, hfails, -⟩ := reachable_states hstart.next
  exact ⟨hstart, hitem, hstart.next, hs, (hfails _).2 ⟨rfl, .inl hs⟩⟩

end PrimesAndRoots.PrimeStream

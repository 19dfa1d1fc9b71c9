import PrimesAndRoots.Proofs.RootTurns

/-!
# The steps of the search as a certificate

What the logged steps of the search for a root show to a reader who knows nothing else of it. The
search only ever narrows its interval, whichever number of the interval a turn tries. So no number
is tried twice, the best number is always the largest one tried whose square fits, and where the
interval ends up empty, the root below it and the number above it have both been tried.

`Certifies` lists what the steps show, and `Certifies.isFloorRoot` says that it is enough to know
the root.
-/

namespace PrimesAndRoots

/-- The largest of the numbers tried whose square is at most `n`. -/
def largestFit (n : Int) (tried : List Int) : Option Int :=
  (tried.filter fun m => m * m ≤ n).max?

/-- Steps, each the number that was tried and the best one found by then, from which `r` can be told
to be the root of `n`. -/
structure Certifies (n r : Int) (steps : List (Int × Int)) : Prop where
  inside : ∀ step ∈ steps, 1 ≤ step.1 ∧ step.1 ≤ n
  distinct : (steps.map Prod.fst).Nodup
  best_eq : ∀ i step, steps[i]? = some step →
    step.2 = (largestFit n ((steps.take (i + 1)).map Prod.fst)).getD 0
  never_less : (steps.map Prod.snd).Pairwise (· ≤ ·)
  last_eq : steps.getLast?.map Prod.snd = some r
  root_tried : r ∈ steps.map Prod.fst
  succ_tried : 2 ≤ n → r + 1 ∈ steps.map Prod.fst

section

variable {n m : Int} {tried : List Int}

theorem largestFit_cons_of_lt (h : n < m * m) : largestFit n (m :: tried) = largestFit n tried := by
  simp [largestFit, Int.not_le.2 h]

/-- A number that fits counts until a larger one does. -/
theorem largestFit_cons_of_le (h : m * m ≤ n) (hle : ∀ k ∈ tried, m ≤ k) :
    largestFit n (m :: tried) = some ((largestFit n tried).getD m) := by
  simp only [largestFit, List.filter_cons, decide_eq_true h, if_true, List.max?_cons]
  cases hmax : (tried.filter fun m => m * m ≤ n).max? with
  | none => rfl
  | some k =>
    have hmem : k ∈ tried := (List.mem_filter.1 (List.max?_mem hmax)).1
    simp [Int.max_eq_right (hle k hmem)]

theorem mul_self_le_of_largestFit (hn : 0 ≤ n) :
    (largestFit n tried).getD 0 * (largestFit n tried).getD 0 ≤ n := by
  cases hmax : largestFit n tried with
  | none => simpa using hn
  | some k => simpa using (List.mem_filter.1 (List.max?_mem hmax)).2

theorem le_largestFit (hm : m ∈ tried) (h : m * m ≤ n) : m ≤ (largestFit n tried).getD 0 := by
  have hmem : m ∈ tried.filter fun m => m * m ≤ n := List.mem_filter.2 ⟨hm, decide_eq_true h⟩
  cases hmax : largestFit n tried with
  | none => simp [List.max?_eq_none_iff.1 hmax] at hmem
  | some k => exact (List.max?_eq_some_iff.1 hmax).2 m hmem

end

/-- Steps that certify a number show that it is the root: it is the largest one tried that fits, and
the next number was tried as well. -/
theorem Certifies.isFloorRoot {n r : Int} {steps : List (Int × Int)} (h : Certifies n r steps) :
    IsFloorRoot n r := by
  obtain ⟨step, hstep, hr1⟩ := List.mem_map.1 h.root_tried
  obtain ⟨hpos, hle⟩ := h.inside step hstep
  obtain ⟨last, hlast, hr⟩ := Option.map_eq_some_iff.1 h.last_eq
  have hbest : r = (largestFit n (steps.map Prod.fst)).getD 0 := by
    rw [List.getLast?_eq_getElem?] at hlast
    have hlength : 0 < steps.length := List.length_pos_of_mem hstep
    have heq := h.best_eq _ last hlast
    rwa [Nat.sub_add_cancel hlength, List.take_length, hr] at heq
  refine ⟨by omega, hbest ▸ mul_self_le_of_largestFit (by omega), ?_⟩
  rcases Int.lt_or_le n 2 with hsmall | hn
  · have : r = 1 ∧ n = 1 := by omega
    simp [this]
  · by_contra hfits
    have := le_largestFit (h.succ_tried hn) (Int.not_lt.1 hfits)
    omega

/-! ## What the turns of a search show -/

namespace Narrows

variable {n low high best : Int} {turns : List TurnValues}

theorem mid_mem (h : Narrows n low high best turns) :
    ∀ mid ∈ turns.map TurnValues.mid, low ≤ mid ∧ mid ≤ high := by
  induction h with
  | done => simp
  | raise _ hlow hhigh _ _ ih | lower _ hlow hhigh _ _ ih =>
    simp only [List.map_cons, List.forall_mem_cons]
    refine ⟨⟨hlow, hhigh⟩, fun mid hmid => ?_⟩
    have := ih mid hmid
    omega

/-- The interval that a turn leaves does not hold the number it has tried. -/
theorem nodup_mids (h : Narrows n low high best turns) : (turns.map TurnValues.mid).Nodup := by
  induction h with
  | done => simp
  | raise _ _ _ _ hrest ih | lower _ _ _ _ hrest ih =>
    refine List.nodup_cons.2 ⟨fun hmem => ?_, ih⟩
    have := hrest.mid_mem _ hmem
    dsimp only at this
    omega

theorem le_best (h : Narrows n low high best turns) :
    ∀ found ∈ turns.map TurnValues.best, best ≤ found := by
  induction h with
  | done => simp
  | raise hbracket hlow _ _ _ ih =>
    have := hbracket.best_eq
    simp only [List.map_cons, List.forall_mem_cons]
    refine ⟨by omega, fun found hfound => ?_⟩
    have := ih found hfound
    omega
  | lower _ _ _ _ _ ih => exact List.forall_mem_cons.2 ⟨Int.le_refl _, ih⟩

theorem pairwise_best (h : Narrows n low high best turns) :
    (turns.map TurnValues.best).Pairwise (· ≤ ·) := by
  induction h with
  | done => exact .nil
  | raise _ _ _ _ hrest ih | lower _ _ _ _ hrest ih => exact .cons hrest.le_best ih

/-- The best number of each turn is the largest one tried so far that fits. Before there is one, it
is the number that the search began with. -/
theorem best_eq (h : Narrows n low high best turns) (i : Nat) (turn : TurnValues)
    (hturn : turns[i]? = some turn) :
    turn.best = (largestFit n ((turns.take (i + 1)).map TurnValues.mid)).getD best := by
  induction h generalizing i turn with
  | done => simp at hturn
  | @raise low high best mid turns _ hlow hhigh hsq hrest ih =>
    have habove (j : Nat) : ∀ k ∈ (turns.take j).map TurnValues.mid, mid ≤ k := by
      intro k hk
      rw [List.map_take] at hk
      have := hrest.mid_mem k (List.mem_of_mem_take hk)
      omega
    rw [List.take_succ_cons, List.map_cons, largestFit_cons_of_le hsq (habove i)]
    cases i with
    | zero =>
      cases hturn
      rfl
    | succ i => exact ih i turn hturn
  | @lower low high best mid turns _ hlow hhigh hsq hrest ih =>
    rw [List.take_succ_cons, List.map_cons, largestFit_cons_of_lt hsq]
    cases i with
    | zero =>
      cases hturn
      rfl
    | succ i => exact ih i turn hturn

/-- Where the search ends, the best number is one it has tried or the one it began with. -/
theorem lastBest_tried (h : Narrows n low high best turns) :
    lastBest best turns = best ∨ lastBest best turns ∈ turns.map TurnValues.mid := by
  induction h with
  | done => exact .inl rfl
  | raise _ _ _ _ _ ih | lower _ _ _ _ _ ih =>
    rw [lastBest_cons, List.map_cons, List.mem_cons]
    grind

/-- The number after it has been tried too, or is the one above the interval at the beginning. -/
theorem succ_lastBest_tried (h : Narrows n low high best turns) :
    lastBest best turns = high ∨ lastBest best turns + 1 ∈ turns.map TurnValues.mid := by
  induction h with
  | @done low high best hbracket hlt =>
    have := hbracket.low_le
    have := hbracket.best_eq
    exact .inl (show best = high by omega)
  | raise _ _ _ _ _ ih | lower _ _ _ _ _ ih =>
    rw [lastBest_cons, List.map_cons, List.mem_cons]
    -- a turn that goes on below `mid` puts `mid` above the interval that is left
    grind

end Narrows

/-- The number that a turn has tried, and the best one found once it is over. -/
def TurnValues.step (turn : TurnValues) : Int × Int :=
  (turn.mid, turn.best)

/-- The steps of the search for the root of a positive number certify what it ends with. -/
theorem certifies_rootSearch {n : Int} (hn : 1 ≤ n) :
    Certifies n (lastBest 0 (rootSearch n 1 n 0)) ((rootSearch n 1 n 0).map TurnValues.step) := by
  have hwhole : Bracket n 1 n 0 := .whole (by omega)
  have h := hwhole.narrows
  generalize rootSearch n 1 n 0 = turns at h
  have hroot := h.isFloorRoot_lastBest
  have hfst (l : List TurnValues) : (l.map TurnValues.step).map Prod.fst = l.map TurnValues.mid :=
    List.map_map
  have hsnd : (turns.map TurnValues.step).map Prod.snd = turns.map TurnValues.best := List.map_map
  have htried : lastBest 0 turns ∈ turns.map TurnValues.mid := by
    have := hroot.one_le hn
    exact h.lastBest_tried.resolve_left (by omega)
  constructor
  case inside =>
    intro step hstep
    exact h.mid_mem _ (hfst turns ▸ List.mem_map_of_mem hstep)
  case distinct => exact hfst turns ▸ h.nodup_mids
  case best_eq =>
    intro i step hstep
    rw [List.getElem?_map] at hstep
    obtain ⟨turn, hturn, rfl⟩ := Option.map_eq_some_iff.1 hstep
    rw [← List.map_take, hfst]
    exact h.best_eq i turn hturn
  case never_less => exact hsnd ▸ h.pairwise_best
  case last_eq =>
    cases hlast : turns.getLast? with
    | none => simp [List.getLast?_eq_none_iff.1 hlast] at htried
    | some turn => simp [lastBest, hlast, TurnValues.step]
  case root_tried => exact hfst turns ▸ htried
  case succ_tried =>
    intro hn2
    have := hroot.lt_self hn2
    exact hfst turns ▸ h.succ_lastBest_tried.resolve_left (by omega)

namespace Word

variable {t : IntType}

/-- The events of the search for the root of a word from one up certify the root: the numbers tried
are distinct and lie between one and the word, the best one so far is the largest whose square is at
most the word and never gets less, the last best one is the root, and the root and the number after
it have been tried, the latter for all words from two up. -/
theorem rootEvents_certify_root {n : Word t} (hn : 1 ≤ n.toInt) :
    ∃ r steps, n.squareRoot = .ok r ∧
      n.rootEvents = steps.map (fun (mid, best) => .rootTurn mid best) ∧
      n.rootEvents.map Event.record = steps.map (fun (mid, best) =>
        ⟨.trace, "trialroot::math::isqrt", "isqrt step",
          [("mid", toString mid), ("ans", toString best)]⟩) ∧
      Certifies n.toInt r.toInt steps := by
  have hnonneg : ¬n < 0 := by rw [lt_iff, toInt_zero]; omega
  have hevents : n.rootEvents = ((rootSearch n.toInt 1 n.toInt 0).map TurnValues.step).map
      fun (mid, best) => .rootTurn mid best := by
    rw [rootEvents_eq, List.map_map]
    rfl
  refine ⟨_, _, if_neg hnonneg, hevents, ?_, ?_⟩
  · rw [hevents, List.map_map]
    refine List.map_congr_left fun step _ => ?_
    simp only [Function.comp_apply, Event.record, numeral_eq_toString]
  · rw [toInt_lastBest]
    exact certifies_rootSearch hn

/-- The greatest value of a signed type of 8 bits: its root 11 and the 12 behind it are both tried.
-/
theorem rootEvents_certify_root_max :
    let n : Word ⟨true, 8, by decide⟩ := ⟨127, by decide⟩
    1 ≤ n.toInt ∧ ∃ r, n.squareRoot = .ok r ∧ r.toInt = 11 ∧
      (∃ best, .rootTurn 11 best ∈ n.rootEvents) ∧ ∃ best, .rootTurn 12 best ∈ n.rootEvents := by
  intro n
  have hn : 1 ≤ n.toInt := by decide
  obtain ⟨r, steps, hsqrt, hevents, -, hcertifies⟩ := rootEvents_certify_root hn
  have hr : r.toInt = 11 := by
    obtain ⟨hr0, hle, hlt⟩ := hcertifies.isFloorRoot
    have hle : r.toInt * r.toInt ≤ 127 := hle
    have hlt : 127 < (r.toInt + 1) * (r.toInt + 1) := hlt
    apply Int.le_antisymm <;> nlinarith
  have hlogged {mid : Int} (h : mid ∈ steps.map Prod.fst) :
      ∃ best, .rootTurn mid best ∈ n.rootEvents := by
    obtain ⟨step, hstep, rfl⟩ := List.mem_map.1 h
    exact ⟨step.2, hevents ▸ List.mem_map_of_mem hstep⟩
  have hroot := hr ▸ hcertifies.root_tried
  have hsucc := hr ▸ hcertifies.succ_tried (by decide)
  exact ⟨hn, r, hsqrt, hr, hlogged hroot, hlogged hsucc⟩

end Word

end PrimesAndRoots

import PrimesAndRoots.PrimeStream.Batch
import PrimesAndRoots.Proofs.StreamStates

/-!
# Operations one after the other

One stream of primes, read by operations of different appetite: single pulls, pulls that skip,
batches, and those that go through all that is left. Seen through the items that the stream has
left, each of them is an operation on a list: it takes some items off the front, and answers from
these. So whatever the operations are, they share the items of the stream among them, in order.
-/

namespace PrimesAndRoots.PrimeStream

open Source

variable {t : IntType}

inductive Operation where
  | next
  | nth (k : Nat)
  | take (k : Nat)
  | collect
  | count
  | last
deriving DecidableEq

inductive Answer (t : IntType) where
  | item (item : Option (Except Failure (Word t)))
  | items (items : List (Except Failure (Word t)))
  | number (n : Nat)

/-- What an operation answers, the items that its pulls have given, and the stream it leaves. -/
structure Reply (t : IntType) where
  answer : Answer t
  consumed : List (Except Failure (Word t))
  rest : PrimeStream t

def perform (s : PrimeStream t) : Operation → Reply t
  | .next => ⟨.item s.next.item, s.next.item.toList, s.next.rest⟩
  | .nth k => ⟨.item (s.nth k).item, (s.take (k + 1)).items, (s.nth k).rest⟩
  | .take k => ⟨.items (s.take k).items, (s.take k).items, (s.take k).rest⟩
  | .collect => ⟨.items s.drain.items, s.drain.items, s.drain.rest⟩
  | .count => ⟨.number s.count, s.drain.items, s.drain.rest⟩
  | .last => ⟨.item s.last?, s.drain.items, s.drain.rest⟩

/-- Operations one after the other, each on the stream that the one before has left. -/
def performAll (s : PrimeStream t) : List Operation → List (Reply t)
  | [] => []
  | op :: later => s.perform op :: performAll (s.perform op).rest later

/-- The reply that an operation has to give when the items of the stream are `whole`, and `j` of
them are gone. -/
def Operation.Obeys (whole : List (Except Failure (Word t))) (j : Nat) (reply : Reply t) :
    Operation → Prop
  | .next => reply.answer = .item whole[j]? ∧ reply.consumed = (whole.drop j).take 1
  | .nth k =>
    reply.answer = .item whole[j + k]? ∧ reply.consumed = (whole.drop j).take (k + 1) ∧
      (whole.length ≤ j + k → reply.rest = exhausted)
  | .take k =>
    reply.answer = .items ((whole.drop j).take k) ∧ reply.consumed = (whole.drop j).take k
  | .collect =>
    reply.answer = .items (whole.drop j) ∧ reply.consumed = whole.drop j ∧ reply.rest = exhausted
  | .count =>
    reply.answer = .number (whole.length - j) ∧ reply.consumed = whole.drop j ∧
      reply.rest = exhausted
  | .last =>
    reply.answer = .item (if j < whole.length then some (.error (.overflow
        ("no candidate above " ++ toString t.max ++ " fits in the counter type"))) else none) ∧
      reply.consumed = whole.drop j ∧ reply.rest = exhausted

/-! ## Batches -/

/-- Past its last item a stream is at its end, however often it is pulled. -/
theorem afterPulls_of_le {s : PrimeStream t} {k : Nat} (h : (items s).length ≤ k) :
    afterPulls s k = exhausted := by
  rw [← items_eq_nil_iff, items_afterPulls, List.drop_eq_nil_of_le h]

theorem rest_of_item_eq_none {s : PrimeStream t} (h : s.next.item = none) :
    s.next.rest = exhausted := by
  rw [← items_eq_nil_iff, items_next_rest, items_of_none h, List.tail_nil]

theorem toList_item_next (s : PrimeStream t) : s.next.item.toList = (items s).take 1 := by
  rw [List.take_one, ← item_pull, pull_eq_next]

theorem items_take (s : PrimeStream t) (k : Nat) : (s.take k).items = (items s).take k := by
  induction k generalizing s with
  | zero => rfl
  | succ k ih =>
    rw [take]
    cases hitem : s.next.item with
    | none => simp [items_of_none hitem]
    | some item => simp [items_of_some hitem, Batch.cons, ih, pull_eq_next]

theorem rest_take (s : PrimeStream t) (k : Nat) : (s.take k).rest = afterPulls s k := by
  induction k generalizing s with
  | zero => rfl
  | succ k ih =>
    rw [take]
    cases hitem : s.next.item with
    | none =>
      rw [afterPulls_of_le (by simp [items_of_none hitem])]
      exact rest_of_item_eq_none hitem
    | some item => exact ih s.next.rest

/-- To go through all that is left is to take as many items as there are. -/
theorem drain_spec (s : PrimeStream t) : s.drain.items = items s ∧ s.drain.rest = exhausted := by
  fun_induction drain s with
  | case1 s h => exact ⟨(items_of_none h).symm, rest_of_item_eq_none h⟩
  | case2 s item h ih =>
    rw [items_of_some h]
    exact ⟨congrArg _ ih.1, ih.2⟩

/-- The last item of a stream is its failure. -/
theorem getLast?_items (s : PrimeStream t) :
    (items s).getLast? = if items s = [] then none else some (.error (overflow t)) := by
  by_cases h : items s = []
  · simp [h]
  · obtain ⟨words, hitems⟩ := exists_items_eq (mt items_eq_nil_iff.2 h)
    simp [hitems]

/-! ## One operation -/

/-- Whatever the operation, it makes a number of pulls, and consumes what these give. -/
theorem exists_pulls (s : PrimeStream t) (op : Operation) :
    ∃ m, (s.perform op).consumed = (items s).take m ∧ (s.perform op).rest = afterPulls s m := by
  have hdrain := drain_spec s
  have hall : s.drain.items = (items s).take (items s).length ∧
      s.drain.rest = afterPulls s (items s).length := by
    simp [hdrain, afterPulls_of_le]
  cases op with
  | next => exact ⟨1, toList_item_next s, rfl⟩
  | nth k => exact ⟨k + 1, items_take s (k + 1), rest_take s (k + 1)⟩
  | take k => exact ⟨k, items_take s k, rest_take s k⟩
  | collect | count | last => exact ⟨(items s).length, hall⟩

/-- So the items it consumes are the next ones, and the stream it leaves is the one past them. -/
theorem rest_perform (s : PrimeStream t) (op : Operation) :
    (s.perform op).consumed <+: items s ∧
      (s.perform op).rest = afterPulls s (s.perform op).consumed.length := by
  obtain ⟨m, hconsumed, hrest⟩ := exists_pulls s op
  refine ⟨hconsumed ▸ List.take_prefix _ _, ?_⟩
  rw [hrest, hconsumed, List.length_take]
  rcases Nat.le_total m (items s).length with hle | hle
  · rw [Nat.min_eq_left hle]
  · rw [Nat.min_eq_right hle, afterPulls_of_le hle, afterPulls_of_le (Nat.le_refl _)]

theorem obeys_perform (s : PrimeStream t) (j : Nat) (op : Operation) :
    op.Obeys (items s) j ((afterPulls s j).perform op) := by
  have hleft := items_afterPulls s j
  obtain ⟨hitems, hrest⟩ := drain_spec (afterPulls s j)
  rw [hleft] at hitems
  cases op with
  | next => exact ⟨congrArg _ (item_next_afterPulls s j), hleft ▸ toList_item_next _⟩
  | nth k =>
    refine ⟨?_, (items_take _ _).trans (by rw [hleft]), fun hle => ?_⟩
    · simp [perform, nth, items_take, hleft]
    · refine (rest_take _ _).trans (afterPulls_of_le ?_)
      rw [hleft, List.length_drop]
      omega
  | take k => simp [Operation.Obeys, perform, items_take, hleft]
  | collect => simp [Operation.Obeys, perform, hitems, hrest]
  | count => simp [Operation.Obeys, perform, count, hitems, hrest]
  | last =>
    refine ⟨?_, hitems, hrest⟩
    have hlast := getLast?_items (afterPulls s j)
    simp only [hleft, List.drop_eq_nil_iff, ← Nat.not_lt, ite_not] at hlast
    rw [← overflow_eq, ← hlast, ← hitems]
    rfl

/-! ## All operations -/

/-- By induction over the operations, each of which begins where the one before has stopped. -/
theorem performAll_spec (s : PrimeStream t) (j : Nat) (ops : List Operation) :
    let replies := (afterPulls s j).performAll ops
    replies.flatMap Reply.consumed <+: (items s).drop j ∧
      ∀ i op, ops[i]? = some op → ∃ reply, replies[i]? = some reply ∧
        let before := j + ((replies.take i).flatMap Reply.consumed).length
        op.Obeys (items s) before reply ∧
          reply.rest = afterPulls s (before + reply.consumed.length) := by
  induction ops generalizing j with
  | nil => simp [performAll]
  | cons op later ih =>
    obtain ⟨⟨left, hleft⟩, hrest⟩ := rest_perform (afterPulls s j) op
    rw [items_afterPulls] at hleft
    rw [← afterPulls_add] at hrest
    obtain ⟨hbegin, hall⟩ := ih (j + ((afterPulls s j).perform op).consumed.length)
    rw [← hrest] at hbegin hall
    refine ⟨?_, ?_⟩
    · rw [performAll, List.flatMap_cons, ← hleft]
      refine (List.prefix_append_right_inj _).2 ?_
      rwa [← List.drop_drop, ← hleft, List.drop_left] at hbegin
    · intro i op' hop
      cases i with
      | zero =>
        cases hop
        exact ⟨_, rfl, obeys_perform s j op, hrest⟩
      | succ i =>
        obtain ⟨reply, hreply, hobeys⟩ := hall i op' hop
        refine ⟨reply, hreply, ?_⟩
        simpa [performAll, Nat.add_assoc] using hobeys

/-- Operations one after the other on a stream that starts from `start`. The items of the stream are
the primes from there on and a failure behind them. What the operations consume is the beginning of
these items, each once and in their order, and every operation answers from where the one before has
stopped. -/
theorem operations_share_the_items (start : Word t) (ops : List Operation) :
    ∃ words : List (Word t), words.Pairwise (· < ·) ∧
      (∀ n : Int, n ∈ words.map Word.toInt ↔ max start.toInt 2 ≤ n ∧ n ≤ t.max ∧ IsPrime n) ∧
      let whole := words.map Except.ok ++ [.error (.overflow
        ("no candidate above " ++ toString t.max ++ " fits in the counter type"))]
      let replies := (startingFrom start).performAll ops
      (∀ k, (afterPulls (startingFrom start) k).next.item = whole[k]?) ∧
        replies.flatMap Reply.consumed <+: whole ∧
        ∀ i op, ops[i]? = some op → ∃ reply, replies[i]? = some reply ∧
          let j := ((replies.take i).flatMap Reply.consumed).length
          op.Obeys whole j reply ∧
            reply.rest = afterPulls (startingFrom start) (j + reply.consumed.length) := by
  obtain ⟨words, hsorted, hmem, hwhole⟩ := items_startingFrom start
  refine ⟨words, hsorted, hmem, ?_⟩
  intro whole replies
  obtain ⟨hbegin, hall⟩ := performAll_spec (startingFrom start) 0 ops
  simp only [hwhole, Nat.zero_add, List.drop_zero] at hbegin hall
  refine ⟨fun k => ?_, hbegin, hall⟩
  rw [item_next_afterPulls, hwhole]

end PrimesAndRoots.PrimeStream

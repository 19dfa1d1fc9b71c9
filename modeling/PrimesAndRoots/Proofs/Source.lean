import PrimesAndRoots.Source

/-!
# What a source gives

A source seen from outside: the list of the items it gives, one pull after the other, and what is
left of it after some pulls. Proofs about programs that pull speak of the list only.
-/

namespace PrimesAndRoots.Source

variable {σ : Type} {t : IntType} [Source σ t]

def afterPulls (s : σ) : Nat → σ
  | 0 => s
  | k + 1 => afterPulls (pull s).rest k

/-- The items that the source gives before it first gives none. -/
def items (s : σ) : List (Except Failure (Word t)) :=
  match _h : (pull s).item with
  | none => []
  | some item => item :: items (pull s).rest
termination_by size s
decreasing_by exact size_pull_lt s (by simp [_h])

/-- What holds of a source that gives nothing, and of every source whose rest it holds of, holds of
all sources. -/
theorem pull_induction {P : σ → Prop} (nothing : ∀ s, (pull s).item = none → P s)
    (item : ∀ s item, (pull s).item = some item → P (pull s).rest → P s) (s : σ) : P s := by
  generalize hsize : size s = k
  induction k using Nat.strongRecOn generalizing s with
  | ind k ih =>
    cases hs : (pull s).item with
    | none => exact nothing s hs
    | some i => exact item s i hs (ih _ (hsize ▸ size_pull_lt s (by simp [hs])) _ rfl)

theorem items_of_none {s : σ} (h : (pull s).item = none) : items s = [] := by
  rw [items]
  split
  · rfl
  · simp_all

theorem items_of_some {s : σ} {item : Except Failure (Word t)} (h : (pull s).item = some item) :
    items s = item :: items (pull s).rest := by
  rw [items]
  split
  · simp_all
  · simp_all

theorem item_pull (s : σ) : (pull s).item = (items s).head? := by
  cases h : (pull s).item with
  | none => rw [items_of_none h, List.head?_nil]
  | some item => rw [items_of_some h, List.head?_cons]

/-- Sources whose next pulls agree give the same items. -/
theorem items_congr {s s' : σ} (hitem : (pull s).item = (pull s').item)
    (hrest : (pull s).rest = (pull s').rest) : items s = items s' := by
  cases h : (pull s').item with
  | none => rw [items_of_none h, items_of_none (hitem.trans h)]
  | some item => rw [items_of_some h, items_of_some (hitem.trans h), hrest]

theorem afterPulls_succ (s : σ) (k : Nat) :
    afterPulls s (k + 1) = (pull (afterPulls s k)).rest := by
  induction k generalizing s with
  | zero => rfl
  | succ k ih => exact ih (pull s).rest

theorem afterPulls_add (s : σ) (j k : Nat) :
    afterPulls s (j + k) = afterPulls (afterPulls s j) k := by
  induction k with
  | zero => rfl
  | succ k ih => rw [← Nat.add_assoc, afterPulls_succ, ih, afterPulls_succ]

section List

variable (l : List (Except Failure (Word t)))

@[simp] theorem items_list : items l = l := by
  induction l with
  | nil => exact items_of_none rfl
  | cons item l ih => rw [items_of_some rfl]; exact congrArg _ ih

@[simp] theorem afterPulls_list (k : Nat) : afterPulls l k = l.drop k := by
  induction k generalizing l with
  | zero => rfl
  | succ k ih =>
    cases l with
    | nil => exact (ih []).trans (by rw [List.drop_nil, List.drop_nil])
    | cons item l => exact ih l

end List

end PrimesAndRoots.Source

import Mathlib.Data.List.InsertIdx
import IosChrome.Lib.SortedSet
import IosChrome.Lib.ListEdit

/-!
# Binary search

The search of a sorted array, by an interval that is halved as long as it is not empty.
`indexOfObject` is the search with a comparator and its two uses: where the first equal
element is, and where an element is to be inserted. On a set that is sorted by the
comparator's key the first finds what is there (`firstEqual_eq_none_iff`), and the
insertion where nothing equal is keeps the order (`sorted_insertIdx`).
-/

namespace IosChrome.Lib.BinarySearch

variable {α κ : Type}

/-- The first index from `lo` to `hi` whose element does not satisfy `p`. -/
def lowerBoundFrom (p : α → Bool) (l : List α) : Nat → Nat → Nat → Nat
  | 0, lo, _ => lo
  | fuel + 1, lo, hi =>
    if lo < hi then
      if (l[lo + (hi - lo) / 2]?).any p then
        lowerBoundFrom p l fuel (lo + (hi - lo) / 2 + 1) hi
      else lowerBoundFrom p l fuel lo (lo + (hi - lo) / 2)
    else lo

def lowerBound (p : α → Bool) (l : List α) : Nat := lowerBoundFrom p l l.length 0 l.length

/-- What satisfies `p` comes first. -/
def Partitioned (p : α → Bool) (l : List α) : Prop :=
  l.Pairwise fun a b => p b = true → p a = true

/-- Below `r` is what satisfies `p`, from `r` on what does not. -/
structure IsBound (p : α → Bool) (l : List α) (r : Nat) : Prop where
  le : r ≤ l.length
  below : ∀ i a, l[i]? = some a → i < r → p a = true
  above : ∀ i a, l[i]? = some a → r ≤ i → p a = false

theorem Partitioned.of_le {p : α → Bool} {l : List α} (h : Partitioned p l) {i j : Nat} {a b : α}
    (ha : l[i]? = some a) (hb : l[j]? = some b) (hij : i ≤ j) (hp : p b = true) : p a = true := by
  obtain ⟨hi, rfl⟩ := List.getElem?_eq_some_iff.1 ha
  obtain ⟨hj, rfl⟩ := List.getElem?_eq_some_iff.1 hb
  rcases Nat.lt_or_eq_of_le hij with hlt | rfl
  · exact List.pairwise_iff_getElem.1 h i j hi hj hlt hp
  · exact hp

theorem isBound_lowerBoundFrom {p : α → Bool} {l : List α} (h : Partitioned p l) :
    ∀ (fuel lo hi : Nat), hi - lo ≤ fuel → lo ≤ hi → hi ≤ l.length →
      (∀ i a, l[i]? = some a → i < lo → p a = true) →
      (∀ i a, l[i]? = some a → hi ≤ i → p a = false) →
      IsBound p l (lowerBoundFrom p l fuel lo hi)
  | 0, lo, hi, hfuel, hle, hhi, hbelow, habove => by
    obtain rfl : lo = hi := by omega
    exact ⟨hhi, hbelow, habove⟩
  | fuel + 1, lo, hi, hfuel, hle, hhi, hbelow, habove => by
    unfold lowerBoundFrom
    split
    next hlt =>
      have hmid : lo + (hi - lo) / 2 < l.length := by omega
      have hat : l[lo + (hi - lo) / 2]? = some l[lo + (hi - lo) / 2] :=
        List.getElem?_eq_getElem hmid
      split
      next hp =>
        -- the middle and all before it are below the bound
        have hp' : p l[lo + (hi - lo) / 2] = true := by simpa [hat] using hp
        exact isBound_lowerBoundFrom h fuel _ hi (by omega) (by omega) hhi
          (fun i a ha hi => h.of_le ha hat (Nat.le_of_lt_succ hi) hp') habove
      next hp =>
        have hp' : ¬ p l[lo + (hi - lo) / 2] = true := by simpa [hat] using hp
        refine isBound_lowerBoundFrom h fuel lo _ (by omega) (by omega) (by omega) hbelow ?_
        intro i a ha hi
        by_contra hpa
        exact hp' (h.of_le hat ha hi (Bool.not_eq_false _ ▸ hpa))
    next hlt =>
      obtain rfl : lo = hi := by omega
      exact ⟨hhi, hbelow, habove⟩

theorem isBound_lowerBound {p : α → Bool} {l : List α} (h : Partitioned p l) :
    IsBound p l (lowerBound p l) := by
  refine isBound_lowerBoundFrom h l.length 0 l.length (by omega) (by omega) (Nat.le_refl _) ?_ ?_
  · intro i a _ hi
    omega
  · intro i a ha hi
    have hlt := (List.getElem?_eq_some_iff.1 ha).1
    omega

/-- What is below the bound is what satisfies `p`. -/
theorem IsBound.take_map {β : Type} {p : α → Bool} {f : β → α} {l : List β} {r : Nat}
    (h : IsBound p (l.map f) r) : l.take r = l.filter fun b => p (f b) := by
  have hbelow : ∀ b ∈ l.take r, p (f b) = true := by
    intro b hb
    obtain ⟨i, hi⟩ := List.mem_iff_getElem?.1 hb
    rw [List.getElem?_take] at hi
    split at hi
    next hlt => exact h.below i (f b) (by rw [List.getElem?_map, hi]; rfl) hlt
    next => cases hi
  have habove : ∀ b ∈ l.drop r, ¬ p (f b) = true := by
    intro b hb
    obtain ⟨i, hi⟩ := List.mem_iff_getElem?.1 hb
    rw [List.getElem?_drop] at hi
    have hfalse := h.above _ (f b) (by rw [List.getElem?_map, hi]; rfl) (Nat.le_add_right r i)
    simp [hfalse]
  conv_rhs => rw [← List.take_append_drop r l]
  rw [List.filter_append, List.filter_eq_self.2 hbelow, List.filter_eq_nil_iff.2 habove,
    List.append_nil]

theorem IsBound.drop_map {β : Type} {p : α → Bool} {f : β → α} {l : List β} {r : Nat}
    (h : IsBound p (l.map f) r) : l.drop r = l.filter fun b => !p (f b) := by
  have hbelow : ∀ b ∈ l.take r, ¬ (!p (f b)) = true := by
    intro b hb
    rw [h.take_map] at hb
    simp [(List.mem_filter.1 hb).2]
  have habove : ∀ b ∈ l.drop r, (!p (f b)) = true := by
    intro b hb
    obtain ⟨i, hi⟩ := List.mem_iff_getElem?.1 hb
    rw [List.getElem?_drop] at hi
    have hfalse := h.above _ (f b) (by rw [List.getElem?_map, hi]; rfl) (Nat.le_add_right r i)
    simp [hfalse]
  conv_rhs => rw [← List.take_append_drop r l]
  rw [List.filter_append, List.filter_eq_nil_iff.2 hbelow, List.filter_eq_self.2 habove,
    List.nil_append]

/-! ## The search with a comparator -/

inductive Options where
  | firstEqual
  | insertionIndex
  deriving DecidableEq, Repr

/-- `indexOfObject:inSortedRange:options:usingComparator:`, over all of an array. -/
def indexOfObject (comparator : α → α → Ordering) (items : List α) (obj : α) :
    Options → Option Nat
  | .insertionIndex => some (lowerBound (fun a => comparator a obj = .lt) items)
  | .firstEqual =>
    let index := lowerBound (fun a => comparator a obj = .lt) items
    if (items[index]?).any fun a => comparator a obj = .eq then some index else none

/-- The comparator compares keys. -/
structure Compares [LinearOrder κ] (comparator : α → α → Ordering) (key : α → κ) : Prop where
  lt_iff : ∀ a b, comparator a b = .lt ↔ key a < key b
  eq_iff : ∀ a b, comparator a b = .eq ↔ key a = key b

variable [LinearOrder κ] {comparator : α → α → Ordering} {key : α → κ} {items : List α}

theorem isBound_of_sorted (h : Compares comparator key) (hs : SortedSet.Sorted key items)
    (obj : α) : IsBound (fun a => comparator a obj = .lt) items
      (lowerBound (fun a => comparator a obj = .lt) items) := by
  refine isBound_lowerBound (hs.imp ?_)
  intro a b hab hb
  have hbobj : key b < key obj := (h.lt_iff b obj).1 (of_decide_eq_true hb)
  exact decide_eq_true ((h.lt_iff a obj).2 (lt_trans hab hbobj))

/-- **The search for an equal element finds one if there is one.** -/
theorem firstEqual_eq_none_iff (h : Compares comparator key) (hs : SortedSet.Sorted key items)
    (obj : α) : indexOfObject comparator items obj .firstEqual = none ↔
      ∀ a ∈ items, key a ≠ key obj := by
  have hbound := isBound_of_sorted h hs obj
  unfold indexOfObject
  dsimp only
  constructor
  · intro hnone a ha heq
    obtain ⟨i, hi⟩ := List.mem_iff_getElem?.1 ha
    -- nothing from the bound on is smaller, so that the first of it is `a`
    have hnot : ¬ comparator a obj = .lt := fun hlt =>
      absurd heq (ne_of_lt ((h.lt_iff a obj).1 hlt))
    have hge : lowerBound (fun a => comparator a obj = .lt) items ≤ i := by
      by_contra hlt
      exact hnot (of_decide_eq_true (hbound.below i a hi (Nat.lt_of_not_le hlt)))
    obtain ⟨hilt, rfl⟩ := List.getElem?_eq_some_iff.1 hi
    have hblt : lowerBound (fun a => comparator a obj = .lt) items < items.length := by omega
    have hb := List.getElem?_eq_getElem hblt
    have hbound_not := of_decide_eq_false (hbound.above _ _ hb (Nat.le_refl _))
    rw [h.lt_iff, heq.symm] at hbound_not
    have hsame : lowerBound (fun a => comparator a obj = .lt) items = i := by
      by_contra hne
      exact hbound_not (List.pairwise_iff_getElem.1 hs _ i hblt hilt (by omega))
    rw [if_pos] at hnone
    · cases hnone
    · rw [hsame, hi]
      simpa using (h.eq_iff _ obj).2 heq
  · intro hne
    rw [if_neg]
    intro hany
    obtain ⟨a, ha, heq⟩ := (Option.any_eq_true _ _).1 hany
    exact hne a (List.mem_of_getElem? ha) ((h.eq_iff a obj).1 (of_decide_eq_true heq))

/-- **An insertion where nothing equal is keeps the order.** -/
theorem sorted_insertIdx (h : Compares comparator key) (hs : SortedSet.Sorted key items)
    {obj : α} (hne : ∀ a ∈ items, key a ≠ key obj) {index : Nat}
    (hindex : indexOfObject comparator items obj .insertionIndex = some index) :
    index ≤ items.length ∧ SortedSet.Sorted key (items.insertIdx index obj) := by
  obtain rfl := Option.some.inj hindex
  have hbound := isBound_of_sorted h hs obj
  refine ⟨hbound.le, ?_⟩
  rw [insertIdx_eq_take_append obj items _ hbound.le]
  have hbelow : ∀ a ∈ items.take (lowerBound (fun a => comparator a obj = .lt) items),
      key a < key obj := by
    intro a ha
    obtain ⟨i, hi⟩ := List.mem_iff_getElem?.1 ha
    rw [List.getElem?_take] at hi
    split at hi
    next hlt => exact (h.lt_iff a obj).1 (of_decide_eq_true (hbound.below i a hi hlt))
    next => cases hi
  have habove : ∀ a ∈ items.drop (lowerBound (fun a => comparator a obj = .lt) items),
      key obj < key a := by
    intro a ha
    obtain ⟨i, hi⟩ := List.mem_iff_getElem?.1 ha
    rw [List.getElem?_drop] at hi
    have hnot := of_decide_eq_false (hbound.above _ a hi (Nat.le_add_right _ i))
    rw [h.lt_iff, not_lt] at hnot
    exact lt_of_le_of_ne hnot (hne a (List.mem_of_getElem? hi)).symm
  refine List.pairwise_append.2 ⟨hs.sublist (List.take_sublist _ _),
    List.pairwise_cons.2 ⟨habove, hs.sublist (List.drop_sublist _ _)⟩, ?_⟩
  intro a ha b hb
  rcases List.mem_cons.1 hb with rfl | hb
  · exact hbelow a ha
  · exact lt_trans (hbelow a ha) (habove b hb)

end IosChrome.Lib.BinarySearch

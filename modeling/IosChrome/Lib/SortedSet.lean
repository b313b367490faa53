import Mathlib.Data.List.Basic
import Mathlib.Data.List.Induction
import Mathlib.Order.Lattice

/-!
# Sets as sorted lists

A set ordered by a comparison `lt` that only looks at a key: an element is not
inserted when the set has one of its key. `Sorted` says that a list is such a
set.
-/

namespace IosChrome.Lib.SortedSet

variable {α κ : Type} (lt : α → α → Bool)

/-- An insertion, which leaves an equivalent element in its place. -/
def insert (a : α) : List α → List α
  | [] => [a]
  | b :: rest =>
    if lt a b then a :: b :: rest
    else if lt b a then b :: insert a rest
    else b :: rest

section

variable [LinearOrder κ] (key : α → κ)

/-- The keys go up. -/
def Sorted (items : List α) : Prop := items.Pairwise fun a b => key a < key b

/-- The comparison is that of the keys. -/
def Compares : Prop := ∀ a b, lt a b = true ↔ key a < key b

variable {lt key}

theorem Sorted.eq_of_key {items : List α} (h : Sorted key items) : ∀ {a b : α}, a ∈ items →
    b ∈ items → key a = key b → a = b := by
  induction items with
  | nil =>
    intro a b ha
    cases ha
  | cons first rest ih =>
    obtain ⟨hfirst, hrest⟩ := List.pairwise_cons.1 h
    intro a b ha hb hkey
    rcases List.mem_cons.1 ha with ha | ha
    · rcases List.mem_cons.1 hb with hb | hb
      · rw [ha, hb]
      · rw [ha] at hkey
        exact absurd hkey (ne_of_lt (hfirst b hb))
    · rcases List.mem_cons.1 hb with hb | hb
      · rw [hb] at hkey
        exact absurd hkey.symm (ne_of_lt (hfirst a ha))
      · exact ih hrest ha hb hkey

/-- An element whose key is new is added. -/
theorem perm_insert (hlt : Compares lt key) {a : α} : ∀ {items : List α},
    (∀ b ∈ items, key b ≠ key a) → (SortedSet.insert lt a items).Perm (a :: items) := by
  intro items
  induction items with
  | nil =>
    intro _
    exact List.Perm.refl _
  | cons c rest ih =>
    intro hnew
    unfold SortedSet.insert
    split_ifs with hac hca
    · exact List.Perm.refl _
    · have hrest : (SortedSet.insert lt a rest).Perm (a :: rest) :=
        ih fun b hb => hnew b (List.mem_cons_of_mem c hb)
      exact (hrest.cons c).trans (List.Perm.swap a c rest)
    · have hle : key c ≤ key a := not_lt.1 fun h => hac ((hlt a c).2 h)
      have hge : key a ≤ key c := not_lt.1 fun h => hca ((hlt c a).2 h)
      exact absurd (le_antisymm hle hge) (hnew c List.mem_cons_self)

/-- **An element is put where it belongs exactly when its index is the number of those before
it.** -/
theorem sorted_insertIdx_iff {a : α} : ∀ {items : List α} {i : Nat}, Sorted key items →
    (∀ b ∈ items, key b ≠ key a) → i ≤ items.length →
    (Sorted key (items.insertIdx i a) ↔ i = items.countP (fun b => key b < key a))
  | [], i, _, _, hi => by
    have hzero : i = 0 := Nat.le_zero.1 hi
    subst hzero
    simp [Sorted]
  | b :: items, 0, h, hne, _ => by
    rw [List.insertIdx_zero, Sorted, List.pairwise_cons, eq_comm, List.countP_eq_zero]
    refine ⟨fun hs c hc => ?_, fun hs => ⟨fun c hc => ?_, h⟩⟩
    · simpa using le_of_lt (hs.1 c hc)
    · exact lt_of_le_of_ne (by simpa using hs c hc) (hne c hc).symm
  | b :: items, i + 1, h, hne, hi => by
    obtain ⟨hlt, hrest⟩ := List.pairwise_cons.1 h
    have hi' : i ≤ items.length := Nat.le_of_succ_le_succ hi
    have ih := sorted_insertIdx_iff (i := i) hrest (fun c hc => hne c (List.mem_cons_of_mem b hc))
      hi'
    rw [List.insertIdx_succ_cons, Sorted, List.pairwise_cons]
    rcases lt_or_gt_of_ne (hne b List.mem_cons_self) with hb | hb
    · rw [List.countP_cons_of_pos (by simpa using hb), Nat.succ_inj, ← ih]
      refine ⟨fun hs => hs.2, fun hs => ⟨fun c hc => ?_, hs⟩⟩
      rcases (List.mem_insertIdx hi').1 hc with rfl | hc
      · exact hb
      · exact hlt c hc
    · -- It would come behind an element it should be before.
      have hnone : (b :: items).countP (fun c => key c < key a) = 0 := by
        rw [List.countP_eq_zero]
        intro c hc
        rcases List.mem_cons.1 hc with rfl | hc
        · simpa using le_of_lt hb
        · simpa using le_of_lt (lt_trans hb (hlt c hc))
      rw [hnone]
      refine ⟨fun hs => ?_, fun hs => absurd hs (Nat.succ_ne_zero i)⟩
      exact absurd (hs.1 a ((List.mem_insertIdx hi').2 (Or.inl rfl))) (lt_asymm hb)

/-- In a sorted list, what comes before an element is what has a smaller key. -/
theorem Sorted.mem_takeWhile_iff [DecidableEq α] {items : List α} (h : Sorted key items) {a b : α}
    (ha : a ∈ items) : b ∈ items.takeWhile (· ≠ a) ↔ b ∈ items ∧ key b < key a := by
  obtain ⟨front, rest, rfl⟩ := List.append_of_mem ha
  obtain ⟨_, hback, hfront⟩ := List.pairwise_append.1 h
  have hne : ∀ c ∈ front, decide (c ≠ a) = true := fun c hc =>
    decide_eq_true fun heq => lt_irrefl _ (heq ▸ hfront c hc a List.mem_cons_self)
  rw [List.takeWhile_append_of_pos hne, List.takeWhile_cons_of_neg (by simp), List.append_nil]
  refine ⟨fun hb => ⟨List.mem_append_left _ hb, hfront b hb a List.mem_cons_self⟩, fun hb => ?_⟩
  rcases List.mem_append.1 hb.1 with hmem | hmem
  · exact hmem
  · rcases List.mem_cons.1 hmem with rfl | hmem
    · exact absurd hb.2 (lt_irrefl _)
    · exact absurd hb.2 (lt_asymm ((List.pairwise_cons.1 hback).1 b hmem))

end

end IosChrome.Lib.SortedSet

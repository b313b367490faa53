import Mathlib.Data.List.Nodup
import Mathlib.Data.List.Perm.Basic
import Mathlib.Tactic.SplitIfs

/-!
# Editing lists at an index

A list is edited in place: an element is inserted at an index, changed there,
removed. Next to the list stands a current index, negative when there is no
current element, that has to follow its element through the edits. `current`
reads the element off, and `current_insertIdx`, `current_move` and
`current_eraseIdx` say which adjustment of the index keeps it.
-/

namespace IosChrome.Lib

variable {α : Type*}

/-- Changing the element just inserted is inserting the changed element. -/
theorem modify_insertIdx_self (f : α → α) (x : α) : ∀ (l : List α) (i : Nat),
    i ≤ l.length → (l.insertIdx i x).modify i f = l.insertIdx i (f x)
  | l, 0, _ => by
    rw [List.insertIdx_zero, List.insertIdx_zero, List.modify_zero_cons]
  | [], i + 1, h => absurd h (Nat.not_succ_le_zero i)
  | a :: l, i + 1, h => by
    rw [List.insertIdx_succ_cons, List.insertIdx_succ_cons, List.modify_succ_cons,
      modify_insertIdx_self f x l i (Nat.le_of_succ_le_succ h)]

theorem insertIdx_eq_take_append (x : α) : ∀ (l : List α) (i : Nat), i ≤ l.length →
    l.insertIdx i x = l.take i ++ x :: l.drop i
  | l, 0, _ => by simp
  | [], i + 1, h => absurd h (Nat.not_succ_le_zero i)
  | a :: l, i + 1, h => by
    rw [List.insertIdx_succ_cons, insertIdx_eq_take_append x l i (Nat.le_of_succ_le_succ h)]
    rfl

/-! Edits behind the first `n` elements. -/

theorem drop_insertIdx_add (x : α) (i : Nat) : ∀ (l : List α) (n : Nat), n ≤ l.length →
    (l.insertIdx (n + i) x).drop n = (l.drop n).insertIdx i x
  | l, 0, _ => by simp
  | [], n + 1, h => absurd h (Nat.not_succ_le_zero n)
  | a :: l, n + 1, h => by
    have ih := drop_insertIdx_add x i l n (Nat.le_of_succ_le_succ h)
    rw [Nat.succ_add, List.insertIdx_succ_cons]
    exact ih

theorem take_insertIdx_add (x : α) (i : Nat) : ∀ (l : List α) (n : Nat), n ≤ l.length →
    (l.insertIdx (n + i) x).take n = l.take n
  | l, 0, _ => by simp
  | [], n + 1, h => absurd h (Nat.not_succ_le_zero n)
  | a :: l, n + 1, h => by
    have ih := take_insertIdx_add x i l n (Nat.le_of_succ_le_succ h)
    rw [Nat.succ_add, List.insertIdx_succ_cons, List.take_succ_cons, List.take_succ_cons, ih]

theorem drop_eraseIdx_add (i : Nat) : ∀ (l : List α) (n : Nat),
    (l.eraseIdx (n + i)).drop n = (l.drop n).eraseIdx i
  | l, 0 => by simp
  | [], n + 1 => by simp
  | a :: l, n + 1 => by
    rw [Nat.succ_add, List.eraseIdx_cons_succ]
    exact drop_eraseIdx_add i l n

theorem drop_set_add (x : α) (i : Nat) : ∀ (l : List α) (n : Nat),
    (l.set (n + i) x).drop n = (l.drop n).set i x
  | l, 0 => by simp
  | [], n + 1 => by simp
  | a :: l, n + 1 => by
    rw [Nat.succ_add, List.set_cons_succ]
    exact drop_set_add x i l n

theorem modify_eq_set_of_getElem? (f : α → α) {a : α} : ∀ {l : List α} {i : Nat},
    l[i]? = some a → l.modify i f = l.set i (f a)
  | c :: l, 0, h => by
    obtain rfl : c = a := Option.some.inj h
    rfl
  | c :: l, i + 1, h => congrArg (List.cons c) (modify_eq_set_of_getElem? f h)

/-- An element that is set to one that looks the same. -/
theorem map_set_of_eq {β : Type*} (f : α → β) {a : α} (b : α) : ∀ {l : List α} {i : Nat},
    l[i]? = some a → f b = f a → (l.set i b).map f = l.map f
  | c :: l, 0, h, hf => by
    obtain rfl : c = a := Option.some.inj h
    simp [hf]
  | c :: l, i + 1, h, hf => by
    rw [List.set_cons_succ, List.map_cons, List.map_cons]
    exact congrArg (List.cons (f c)) (map_set_of_eq f b h hf)

/-! Edits of two lists side by side. -/

theorem zip_insertIdx {β : Type*} (a : α) (b : β) : ∀ (l : List α) (m : List β) (i : Nat),
    l.length = m.length → (l.insertIdx i a).zip (m.insertIdx i b) = (l.zip m).insertIdx i (a, b)
  | l, m, 0, _ => by simp
  | [], [], i + 1, _ => rfl
  | c :: l, d :: m, i + 1, h => by
    rw [List.insertIdx_succ_cons, List.insertIdx_succ_cons, List.zip_cons_cons,
      zip_insertIdx a b l m i (Nat.succ.inj h)]
    rfl

theorem zip_eraseIdx {β : Type*} : ∀ (l : List α) (m : List β) (i : Nat),
    (l.eraseIdx i).zip (m.eraseIdx i) = (l.zip m).eraseIdx i
  | [], m, i => by simp
  | c :: l, [], i => by simp
  | c :: l, d :: m, 0 => rfl
  | c :: l, d :: m, i + 1 => congrArg (List.cons (c, d)) (zip_eraseIdx l m i)

theorem zip_set_right {β : Type*} {a : α} (b : β) : ∀ {l : List α} (m : List β) {i : Nat},
    l[i]? = some a → l.zip (m.set i b) = (l.zip m).set i (a, b)
  | c :: l, [], i, _ => by simp
  | c :: l, d :: m, 0, h => by
    obtain rfl : c = a := Option.some.inj h
    rfl
  | c :: l, d :: m, i + 1, h => congrArg (List.cons (c, d)) (zip_set_right b m h)

/-- A filter that rejects the inserted element does not see the insertion. -/
theorem filter_insertIdx_of_not {p : α → Bool} {x : α} (hx : p x = false) :
    ∀ (l : List α) (i : Nat), (l.insertIdx i x).filter p = l.filter p
  | l, 0 => by
    rw [List.insertIdx_zero, List.filter_cons_of_neg (by rw [hx]; exact Bool.false_ne_true)]
  | [], i + 1 => rfl
  | a :: l, i + 1 => by
    rw [List.insertIdx_succ_cons, List.filter_cons, List.filter_cons,
      filter_insertIdx_of_not hx l i]

/-- An element inserted behind all the others that a filter accepts comes last. -/
theorem filter_insertIdx_last {p : α → Bool} {x : α} (hx : p x = true) :
    ∀ (l : List α) (i : Nat), i ≤ l.length → (∀ k a, i ≤ k → l[k]? = some a → p a = false) →
      (l.insertIdx i x).filter p = l.filter p ++ [x]
  | l, 0, _, hrest => by
    have hnone : l.filter p = [] := by
      rw [List.filter_eq_nil_iff]
      intro a ha
      obtain ⟨k, hk⟩ := List.getElem?_of_mem ha
      rw [hrest k a (Nat.zero_le k) hk]
      exact Bool.false_ne_true
    rw [List.insertIdx_zero, List.filter_cons_of_pos hx, hnone]
    rfl
  | [], i + 1, h, _ => absurd h (Nat.not_succ_le_zero i)
  | a :: l, i + 1, h, hrest => by
    have ih := filter_insertIdx_last hx l i (Nat.le_of_succ_le_succ h) fun k b hk hb =>
      hrest (k + 1) b (Nat.succ_le_succ hk) hb
    rw [List.insertIdx_succ_cons, List.filter_cons, List.filter_cons, ih]
    split <;> rfl

variable {l : List α}

/-- What stands in a list after one of its elements has been changed. -/
theorem getElem?_modify_cases {f : α → α} {i j : Nat} {b : α} (h : (l.modify i f)[j]? = some b) :
    ∃ a, l[j]? = some a ∧ ((j = i ∧ b = f a) ∨ (j ≠ i ∧ b = a)) := by
  rw [List.getElem?_modify] at h
  obtain ⟨a, ha, hb⟩ := Option.map_eq_some_iff.1 h
  by_cases hij : i = j
  · rw [if_pos hij] at hb
    exact ⟨a, ha, .inl ⟨hij.symm, hb.symm⟩⟩
  · rw [if_neg hij] at hb
    exact ⟨a, ha, .inr ⟨Ne.symm hij, hb.symm⟩⟩

/-- A change that a function does not see. -/
theorem map_modify_of_forall {β : Type*} {f : α → α} {g : α → β} (h : ∀ a, g (f a) = g a) :
    ∀ (l : List α) (i : Nat), (l.modify i f).map g = l.map g
  | [], i => by rw [List.modify_nil]
  | a :: l, 0 => by rw [List.modify_zero_cons, List.map_cons, List.map_cons, h]
  | a :: l, i + 1 => by
    rw [List.modify_succ_cons, List.map_cons, List.map_cons, map_modify_of_forall h l i]

theorem getElem_not_mem_eraseIdx (h : l.Nodup) {i : Nat} (hi : i < l.length) :
    l[i] ∉ l.eraseIdx i := by
  intro hmem
  obtain ⟨j, hne, hj⟩ := List.mem_eraseIdx_iff_getElem?.1 hmem
  obtain ⟨hj, heq⟩ := List.getElem?_eq_some_iff.1 hj
  exact hne (h.getElem_inj_iff.1 heq)

/-- An element replaced by one that was not in the list is gone. -/
theorem getElem_not_mem_set (h : l.Nodup) {i : Nat} (hi : i < l.length) {x : α} (hx : x ∉ l) :
    l[i] ∉ l.set i x := by
  have hnodup : (l[i] :: l.eraseIdx i).Nodup :=
    (List.getElem_cons_eraseIdx_perm hi).nodup_iff.2 h
  rw [(List.set_perm_cons_eraseIdx hi x).mem_iff, List.mem_cons]
  rintro (he | hmem)
  · exact hx (he ▸ List.getElem_mem hi)
  · exact (List.nodup_cons.1 hnodup).1 hmem

/-- What is left when the element at an index goes. -/
theorem mem_eraseIdx_iff (h : l.Nodup) {i : Nat} {a : α} (ha : l[i]? = some a) {x : α} :
    x ∈ l.eraseIdx i ↔ x ≠ a ∧ x ∈ l := by
  obtain ⟨hi, rfl⟩ := List.getElem?_eq_some_iff.1 ha
  constructor
  · intro hmem
    refine ⟨?_, List.mem_of_mem_eraseIdx hmem⟩
    rintro rfl
    exact getElem_not_mem_eraseIdx h hi hmem
  · rintro ⟨hne, hmem⟩
    rw [← (List.getElem_cons_eraseIdx_perm hi).mem_iff, List.mem_cons] at hmem
    exact hmem.resolve_left hne

/-- What is there when the element at an index is replaced. -/
theorem mem_set_iff (h : l.Nodup) {i : Nat} {a b : α} (ha : l[i]? = some a) {x : α} :
    x ∈ l.set i b ↔ x = b ∨ (x ≠ a ∧ x ∈ l) := by
  obtain ⟨hi, _⟩ := List.getElem?_eq_some_iff.1 ha
  rw [(List.set_perm_cons_eraseIdx hi b).mem_iff, List.mem_cons, mem_eraseIdx_iff h ha]

/-- A move leaves the same elements. -/
theorem move_perm {i j : Nat} {a : α} (ha : l[i]? = some a) (hj : j < l.length) :
    ((l.eraseIdx i).insertIdx j a).Perm l := by
  obtain ⟨hi, rfl⟩ := List.getElem?_eq_some_iff.1 ha
  have hle : j ≤ (l.eraseIdx i).length := by
    rw [List.length_eraseIdx_of_lt hi]
    omega
  exact (List.perm_insertIdx _ _ hle).trans (List.getElem_cons_eraseIdx_perm hi)

/-- Removing the first elements one by one drops them. -/
theorem foldl_erase_take [BEq α] [LawfulBEq α] : ∀ (l : List α) (k : Nat),
    (l.take k).foldl List.erase l = l.drop k
  | _, 0 => rfl
  | [], _ + 1 => rfl
  | a :: l, k + 1 => by
    rw [List.take_succ_cons, List.foldl_cons, List.erase_cons_head, foldl_erase_take l k]
    rfl

/-- In a list without duplicates an element is dropped when it stands among the first ones. -/
theorem mem_drop_iff_le (h : l.Nodup) {i k : Nat} {a : α} (ha : l[i]? = some a) :
    a ∈ l.drop k ↔ k ≤ i := by
  obtain ⟨hi, rfl⟩ := List.getElem?_eq_some_iff.1 ha
  rw [List.mem_drop_iff_getElem]
  constructor
  · rintro ⟨j, hj, heq⟩
    have hij : k + j = i := h.getElem_inj_iff.1 heq
    omega
  · intro hki
    refine ⟨i - k, by omega, ?_⟩
    simp only [Nat.add_sub_cancel' hki]

/-- **Which elements a filter may accept to be a drop**: those behind the first ones. -/
theorem drop_eq_filter_iff (h : l.Nodup) {p : α → Bool} {k : Nat} :
    l.drop k = l.filter p ↔ ∀ (i : Nat) a, l[i]? = some a → (p a = true ↔ k ≤ i) := by
  constructor
  · intro heq i a ha
    rw [← mem_drop_iff_le h ha, heq, List.mem_filter]
    exact (and_iff_right (List.mem_of_getElem? ha)).symm
  · intro hp
    induction l generalizing k with
    | nil => rw [List.drop_nil, List.filter_nil]
    | cons x l ih =>
      cases k with
      | zero =>
        have hall : ∀ a ∈ x :: l, p a = true := by
          intro a ha
          obtain ⟨i, hi⟩ := List.getElem?_of_mem ha
          exact (hp i a hi).2 (Nat.zero_le i)
        rw [List.drop_zero, List.filter_eq_self.2 hall]
      | succ k =>
        have hx : ¬ p x = true := fun htrue => absurd ((hp 0 x rfl).1 htrue) (by omega)
        rw [List.drop_succ_cons, List.filter_cons_of_neg hx]
        refine ih (List.nodup_cons.1 h).2 fun i a ha => ?_
        rw [hp (i + 1) a ha]
        omega

/-- The element at a current index; a negative index is no element. -/
def current (l : List α) (index : Int) : Option α :=
  if index < 0 then none else l[index.toNat]?

theorem current_natCast (l : List α) (i : Nat) : current l i = l[i]? := by
  unfold current
  rw [if_neg (by omega), Int.toNat_natCast]

theorem current_of_neg (l : List α) {index : Int} (h : index < 0) : current l index = none :=
  if_pos h

theorem mem_of_current {index : Int} {x : α} (h : current l index = some x) :
    x ∈ l := by
  unfold current at h
  split at h
  · exact absurd h (by simp)
  · exact List.mem_of_getElem? h

/-- In a list without duplicates the current element determines the index. -/
theorem eq_of_current (h : l.Nodup) {index : Int} {i : Nat} (hi : i < l.length)
    (he : current l index = some l[i]) : index = i := by
  unfold current at he
  split at he
  · exact absurd he (by simp)
  · obtain ⟨hlt, hget⟩ := List.getElem?_eq_some_iff.1 he
    have := h.getElem_inj_iff.1 hget
    omega

/-- An insertion pushes the current index up when it is not below it. -/
theorem current_insertIdx (l : List α) {i : Nat} (x : α) {index : Int} :
    current (l.insertIdx i x) (if index ≥ i then index + 1 else index) = current l index := by
  by_cases hneg : index < 0
  · rw [if_neg (by omega), current_of_neg _ hneg, current_of_neg _ hneg]
  · obtain ⟨k, rfl⟩ : ∃ k : Nat, index = k := ⟨index.toNat, by omega⟩
    rw [current_natCast]
    split
    next hge =>
      rw [show ((k : Int) + 1) = ((k + 1 : Nat) : Int) from rfl, current_natCast,
        List.getElem?_insertIdx_of_gt (by omega)]
      rfl
    next hlt => rw [current_natCast, List.getElem?_insertIdx_of_lt (by omega)]

/-- A removal elsewhere pulls the current index down when it is above. -/
theorem current_eraseIdx (l : List α) {i : Nat} {index : Int} (hne : index ≠ i) :
    current (l.eraseIdx i) (if index < i then index else index - 1) = current l index := by
  by_cases hneg : index < 0
  · rw [if_pos (by omega), current_of_neg _ hneg, current_of_neg _ hneg]
  · obtain ⟨k, rfl⟩ : ∃ k : Nat, index = k := ⟨index.toNat, by omega⟩
    rw [current_natCast]
    split
    next hlt => rw [current_natCast, List.getElem?_eraseIdx_of_lt (by omega)]
    next hge =>
      obtain ⟨k', rfl⟩ : ∃ k' : Nat, k = k' + 1 := ⟨k - 1, by omega⟩
      rw [show (((k' + 1 : Nat) : Int) - 1) = (k' : Nat) by omega, current_natCast,
        List.getElem?_eraseIdx_of_ge (by omega)]

/-- A replacement elsewhere leaves the current element. -/
theorem current_set_ne (l : List α) {i : Nat} (x : α) {index : Int} (hne : index ≠ i) :
    current (l.set i x) index = current l index := by
  by_cases hneg : index < 0
  · rw [current_of_neg _ hneg, current_of_neg _ hneg]
  · obtain ⟨k, rfl⟩ : ∃ k : Nat, index = k := ⟨index.toNat, by omega⟩
    rw [current_natCast, current_natCast, List.getElem?_set_ne (by omega)]

/-- Where the current index goes when the element at `i` is moved to `j`. -/
def movedIndex (i j : Nat) (index : Int) : Int :=
  if index = i then j
  else
    if min (i : Int) j ≤ index ∧ index ≤ max (i : Int) j then
      index + (if (i : Int) < j then -1 else 1)
    else index

/-- A move is a removal and an insertion, also for the current index, as long
as it is not the moved element itself that is current. -/
theorem movedIndex_eq (i j : Nat) {index : Int} (hne : index ≠ i) :
    movedIndex i j index =
      if (if index < i then index else index - 1) ≥ (j : Int) then
        (if index < i then index else index - 1) + 1
      else if index < i then index else index - 1 := by
  unfold movedIndex
  split_ifs <;> omega

/-- …and the moved element keeps the current index with it. -/
theorem current_move (l : List α) {i j : Nat} {index : Int} (hi : i < l.length)
    (hj : j < l.length) :
    current ((l.eraseIdx i).insertIdx j l[i]) (movedIndex i j index) = current l index := by
  have hlen : (l.eraseIdx i).length = l.length - 1 := List.length_eraseIdx_of_lt hi
  by_cases hself : index = i
  · rw [movedIndex, if_pos hself, hself, current_natCast, current_natCast,
      List.getElem?_insertIdx_self, if_pos (by omega), List.getElem?_eq_getElem hi]
  · rw [movedIndex_eq i j hself, current_insertIdx, current_eraseIdx l hself]

end IosChrome.Lib

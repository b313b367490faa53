import Mathlib.Data.List.Nodup
import Mathlib.Data.List.Perm.Basic

/-!
# Lists with at most one element for each key

A store that identifies its elements by a key, and says nothing about their
order: `put` takes the place of what had the key, `remove` drops it, `lookup`
finds it. `Unique` is the invariant, and under it `lookup` is membership
(`lookup_eq_some`) and a removal takes exactly one element (`perm_remove`).
-/

namespace IosChrome.Lib.Keyed

variable {α κ : Type} [DecidableEq κ] (key : α → κ)

def lookup (items : List α) (k : κ) : Option α := items.find? fun a => key a = k

def remove (items : List α) (k : κ) : List α := items.filter fun a => key a ≠ k

def put (items : List α) (a : α) : List α := remove key items (key a) ++ [a]

/-- No two elements have one key. -/
def Unique (items : List α) : Prop := (items.map key).Nodup

variable {key} {items : List α}

theorem mem_remove {k : κ} {a : α} :
    a ∈ remove key items k ↔ a ∈ items ∧ key a ≠ k := by
  simp [remove]

theorem mem_put {a b : α} :
    b ∈ put key items a ↔ (b ∈ items ∧ key b ≠ key a) ∨ b = a := by
  simp [put, mem_remove]

theorem Unique.remove (h : Unique key items) (k : κ) :
    Unique key (remove key items k) :=
  List.Nodup.sublist (List.Sublist.map key List.filter_sublist) h

theorem Unique.put (h : Unique key items) (a : α) :
    Unique key (put key items a) := by
  unfold Unique Keyed.put
  rw [List.map_append, List.nodup_append]
  refine ⟨h.remove (key a), List.nodup_singleton _, ?_⟩
  intro k hk k' hk' hkk'
  obtain ⟨b, hb, rfl⟩ := List.mem_map.1 hk
  obtain rfl : k' = key a := by simpa using hk'
  exact (mem_remove.1 hb).2 hkk'

omit [DecidableEq κ] in
theorem Unique.perm {items items' : List α} (h : Unique key items) (hp : items'.Perm items) :
    Unique key items' :=
  (hp.map key).nodup_iff.2 h

omit [DecidableEq κ] in
theorem Unique.eq_of_mem (h : Unique key items) {a b : α} (ha : a ∈ items) (hb : b ∈ items)
    (hk : key a = key b) : a = b :=
  List.inj_on_of_nodup_map h ha hb hk

omit [DecidableEq κ] in
/-- One place for each key. -/
theorem Unique.index_eq (h : Unique key items) {i j : Nat} {a b : α} (ha : items[i]? = some a)
    (hb : items[j]? = some b) (hk : key a = key b) : i = j := by
  have hi : i < (items.map key).length := by
    rw [List.length_map]
    exact (List.getElem?_eq_some_iff.1 ha).1
  refine (List.getElem?_inj hi h).1 ?_
  rw [List.getElem?_map, List.getElem?_map, ha, hb]
  exact congrArg some hk

omit [DecidableEq κ] in
theorem Unique.set (h : Unique key items) {i : Nat} {a b : α} (ha : items[i]? = some a)
    (hk : key b = key a) : Unique key (items.set i b) := by
  have hkeys : (items.set i b).map key = items.map key := by
    rw [List.map_set, hk]
    refine List.ext_getElem? fun j => ?_
    by_cases hj : i = j
    · subst hj
      rw [List.getElem?_set_self', List.getElem?_map, ha]
      rfl
    · rw [List.getElem?_set_ne hj]
  unfold Unique
  rw [hkeys]
  exact h

theorem key_of_lookup {k : κ} {a : α} (h : lookup key items k = some a) :
    key a = k := by
  simpa using List.find?_some h

theorem mem_of_lookup {k : κ} {a : α} (h : lookup key items k = some a) :
    a ∈ items :=
  List.mem_of_find?_eq_some h

/-- **Looking a key up is being in the list**, as no two elements have it. -/
theorem lookup_eq_some (h : Unique key items) {k : κ} {a : α} :
    lookup key items k = some a ↔ a ∈ items ∧ key a = k := by
  constructor
  · intro hl
    exact ⟨mem_of_lookup hl, key_of_lookup hl⟩
  · rintro ⟨ha, rfl⟩
    cases hl : lookup key items (key a) with
    | none => simpa [lookup] using List.find?_eq_none.1 hl a ha
    | some b => rw [h.eq_of_mem (mem_of_lookup hl) ha (key_of_lookup hl)]

theorem lookup_eq_none {k : κ} :
    lookup key items k = none ↔ ∀ a ∈ items, key a ≠ k := by
  simp [lookup]

theorem lookup_remove_same (items : List α) (k : κ) :
    lookup key (remove key items k) k = none :=
  lookup_eq_none.2 fun _ ha => (mem_remove.1 ha).2

theorem lookup_remove_of_ne (items : List α) {k k' : κ} (hne : k' ≠ k) :
    lookup key (remove key items k) k' = lookup key items k' := by
  unfold lookup remove
  rw [List.find?_filter]
  congr 1
  funext a
  by_cases ha : key a = k'
  · simp [ha, hne]
  · simp [ha]

theorem lookup_put_same (items : List α) (a : α) : lookup key (put key items a) (key a) = some a := by
  unfold put
  rw [lookup, List.find?_append]
  have hnone : (remove key items (key a)).find? (fun b => key b = key a) = none :=
    lookup_remove_same items (key a)
  simp [hnone]

theorem lookup_put_of_ne (items : List α) {a : α} {k : κ} (hne : k ≠ key a) :
    lookup key (put key items a) k = lookup key items k := by
  unfold put
  rw [lookup, List.find?_append]
  have hsame : (remove key items (key a)).find? (fun b => key b = k) = lookup key items k :=
    lookup_remove_of_ne items hne
  simp [hsame, Ne.symm hne]

/-- **What a removal takes, it takes once.** -/
theorem perm_remove (h : Unique key items) {a : α} (ha : a ∈ items) :
    items.Perm (a :: remove key items (key a)) := by
  induction items with
  | nil => simp at ha
  | cons b items ih =>
    have hb : key b ∉ items.map key := (List.nodup_cons.1 h).1
    have hrest : Unique key items := (List.nodup_cons.1 h).2
    rcases List.mem_cons.1 ha with rfl | ha
    · -- the head goes, and nothing behind it has its key
      have hsame : remove key items (key a) = items :=
        List.filter_eq_self.2 fun c hc => by
          have hne : key c ≠ key a := fun he => hb (he ▸ List.mem_map_of_mem hc)
          simpa using hne
      have hstep : remove key (a :: items) (key a) = remove key items (key a) := by
        simp [remove]
      rw [hstep, hsame]
    · have hne : key b ≠ key a := fun he => hb (he ▸ List.mem_map_of_mem ha)
      have hstep : remove key (b :: items) (key a) = b :: remove key items (key a) := by
        simp [remove, hne]
      rw [hstep]
      exact ((ih hrest ha).cons b).trans (List.Perm.swap a b _)

theorem length_remove (h : Unique key items) {a : α} (ha : a ∈ items) :
    (remove key items (key a)).length + 1 = items.length :=
  (perm_remove h ha).length_eq.symm

theorem remove_of_lookup_none {k : κ} (h : lookup key items k = none) :
    remove key items k = items :=
  List.filter_eq_self.2 fun a ha => by simpa using lookup_eq_none.1 h a ha

/-- The element that has the key is the only one to go. -/
theorem remove_middle {front rest : List α} {a : α} (h : Unique key (front ++ a :: rest)) :
    remove key (front ++ a :: rest) (key a) = front ++ rest := by
  have hother : ∀ b ∈ front ++ rest, key b ≠ key a := by
    have hperm : (a :: (front ++ rest)).Perm (front ++ a :: rest) := List.perm_middle.symm
    have hnodup := List.nodup_cons.1 (h.perm hperm)
    exact fun b hb heq => hnodup.1 (heq ▸ List.mem_map_of_mem hb)
  have hsame : ∀ items, (∀ b ∈ items, b ∈ front ++ rest) → remove key items (key a) = items :=
    fun items hitems => List.filter_eq_self.2 fun b hb => by
      simpa using hother b (hitems b hb)
  have hsplit : remove key (front ++ a :: rest) (key a) =
      remove key front (key a) ++ remove key rest (key a) := by
    simp [remove]
  rw [hsplit, hsame front fun b hb => List.mem_append_left _ hb,
    hsame rest fun b hb => List.mem_append_right _ hb]

/-! ## Elements at an index -/

theorem lookup_getElem? (h : Unique key items) {i : Nat} {a : α} (ha : items[i]? = some a) :
    lookup key items (key a) = some a :=
  (lookup_eq_some h).2 ⟨List.mem_of_getElem? ha, rfl⟩

theorem lookup_perm {items items' : List α} (h : Unique key items) (hp : items'.Perm items)
    (k : κ) : lookup key items' k = lookup key items k := by
  refine Option.ext fun a => ?_
  rw [lookup_eq_some (h.perm hp), lookup_eq_some h, hp.mem_iff]

theorem lookup_cons (items : List α) (a : α) (k : κ) :
    lookup key (a :: items) k = if key a = k then some a else lookup key items k := by
  unfold lookup
  by_cases hk : key a = k
  · simp [hk]
  · simp [hk]

/-- What does not touch the keys looks up the same elements, changed. -/
theorem lookup_map {g : α → α} (hg : ∀ a, key (g a) = key a) (items : List α) (k : κ) :
    lookup key (items.map g) k = (lookup key items k).map g := by
  have hsame : ((fun a => decide (key a = k)) ∘ g) = fun a => decide (key a = k) :=
    funext fun a => by simp [hg a]
  unfold lookup
  rw [List.find?_map, hsame]

/-- Changing the element that has a key is setting it where it is. -/
theorem map_update_eq_set (h : Unique key items) {i : Nat} {a : α} (ha : items[i]? = some a)
    (f : α → α) :
    (items.map fun b => if key b = key a then f b else b) = items.set i (f a) := by
  refine List.ext_getElem? fun j => ?_
  rw [List.getElem?_map, List.getElem?_set]
  by_cases hj : i = j
  · subst hj
    have hlt : i < items.length := (List.getElem?_eq_some_iff.1 ha).1
    rw [ha, if_pos rfl, if_pos hlt]
    simp
  · rw [if_neg hj]
    cases hb : items[j]? with
    | none => rfl
    | some b =>
      have hne : key b ≠ key a := fun heq => hj (h.index_eq ha hb heq.symm)
      simp [hne]

/-- Taking out what has a key is taking out the element where it is. -/
theorem remove_eq_eraseIdx (h : Unique key items) {i : Nat} {a : α} (ha : items[i]? = some a) :
    remove key items (key a) = items.eraseIdx i := by
  have hlt : i < items.length := (List.getElem?_eq_some_iff.1 ha).1
  have hsplit : items = items.take i ++ a :: items.drop (i + 1) := by
    have hget : items[i] = a := (List.getElem?_eq_some_iff.1 ha).2
    rw [← hget, List.getElem_cons_drop, List.take_append_drop]
  rw [List.eraseIdx_eq_take_drop_succ]
  conv_lhs => rw [hsplit]
  exact remove_middle (hsplit ▸ h)

/-- The index of what has a key. -/
theorem findIdx?_key (h : Unique key items) {i : Nat} {a : α} (ha : items[i]? = some a) :
    items.findIdx? (fun b => key b = key a) = some i := by
  obtain ⟨hlt, hget⟩ := List.getElem?_eq_some_iff.1 ha
  refine List.findIdx?_eq_some_iff_getElem.2 ⟨hlt, by simp [hget], ?_⟩
  intro j hj
  have hb : items[j]? = some items[j] := List.getElem?_eq_getElem _
  have hne : key items[j] ≠ key a := fun heq => absurd (h.index_eq hb ha heq) (Nat.ne_of_lt hj)
  simpa using hne

end IosChrome.Lib.Keyed

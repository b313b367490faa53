import IosChrome.Lib.Keyed
import Mathlib.Data.List.Dedup
import Mathlib.Data.List.Induction

/-!
# A cache of the most recently used

Entries in the order of their last use, at most `maxSize` of them: reading and
writing bring an entry to the front, and a new entry at full size drops the
one at the back. A size of 0 is no limit. `peek` reads without using, and says
what each operation does: what was not written or erased is there as it was, or
dropped.

A cache that was cleared and then written has the keys that were written last
(`ordering_foldl_put`).
-/

namespace IosChrome.Lib

structure MRUCache (κ α : Type) where
  maxSize : Nat
  ordering : List (κ × α)
  deriving DecidableEq

namespace MRUCache

variable {κ α : Type} [DecidableEq κ]

def peek (cache : MRUCache κ α) (k : κ) : Option α :=
  (Keyed.lookup Prod.fst cache.ordering k).map Prod.snd

/-- The value of a key, which is then the most recently used. -/
def get (cache : MRUCache κ α) (k : κ) : Option α × MRUCache κ α :=
  match cache.peek k with
  | none => (none, cache)
  | some a =>
    (some a, { cache with ordering := (k, a) :: Keyed.remove Prod.fst cache.ordering k })

def put (cache : MRUCache κ α) (k : κ) (a : α) : MRUCache κ α :=
  { cache with
    ordering := (k, a) ::
      if (cache.peek k).isSome then Keyed.remove Prod.fst cache.ordering k
      else if cache.maxSize = 0 then cache.ordering
      else cache.ordering.take (cache.maxSize - 1) }

def erase (cache : MRUCache κ α) (k : κ) : MRUCache κ α :=
  { cache with ordering := Keyed.remove Prod.fst cache.ordering k }

def clear (cache : MRUCache κ α) : MRUCache κ α := { cache with ordering := [] }

variable (cache : MRUCache κ α)

theorem lookup_cons_same (k : κ) (a : α) (entries : List (κ × α)) :
    Keyed.lookup Prod.fst ((k, a) :: entries) k = some (k, a) := by
  simp [Keyed.lookup]

theorem lookup_cons_of_ne {k k' : κ} (a : α) (entries : List (κ × α)) (hne : k' ≠ k) :
    Keyed.lookup Prod.fst ((k, a) :: entries) k' = Keyed.lookup Prod.fst entries k' := by
  simp [Keyed.lookup, Ne.symm hne]

/-- What is found in a first part of a list is found in the list. -/
theorem lookup_take {entries : List (κ × α)} {n : Nat} {k : κ} {e : κ × α}
    (h : Keyed.lookup Prod.fst (entries.take n) k = some e) :
    Keyed.lookup Prod.fst entries k = some e := by
  unfold Keyed.lookup at h ⊢
  rw [← List.take_append_drop n entries, List.find?_append, h]
  rfl

theorem get_fst (k : κ) : (cache.get k).1 = cache.peek k := by
  unfold get
  cases cache.peek k <;> rfl

/-- **Using an entry changes no value.** -/
theorem peek_get (k k' : κ) : (cache.get k).2.peek k' = cache.peek k' := by
  unfold get
  cases hpeek : cache.peek k with
  | none => rfl
  | some a =>
    by_cases hk : k' = k
    · subst hk
      rw [hpeek]
      show (Keyed.lookup Prod.fst ((k', a) :: _) k').map Prod.snd = some a
      rw [lookup_cons_same]
      rfl
    · show (Keyed.lookup Prod.fst ((k, a) :: _) k').map Prod.snd = cache.peek k'
      rw [lookup_cons_of_ne _ _ hk, Keyed.lookup_remove_of_ne _ hk]
      rfl

theorem peek_put_same (k : κ) (a : α) : (cache.put k a).peek k = some a := by
  show (Keyed.lookup Prod.fst ((k, a) :: _) k).map Prod.snd = some a
  rw [lookup_cons_same]
  rfl

variable {cache}

/-- **What a write leaves of another key is what was there.** -/
theorem peek_of_peek_put {k k' : κ} {a a' : α} (hne : k' ≠ k)
    (h : (cache.put k a).peek k' = some a') : cache.peek k' = some a' := by
  change (Keyed.lookup Prod.fst ((k, a) :: _) k').map Prod.snd = some a' at h
  rw [lookup_cons_of_ne _ _ hne] at h
  by_cases hpresent : (cache.peek k).isSome = true
  · rw [if_pos hpresent, Keyed.lookup_remove_of_ne _ hne] at h
    exact h
  · rw [if_neg hpresent] at h
    by_cases hsize : cache.maxSize = 0
    · rw [if_pos hsize] at h
      exact h
    · rw [if_neg hsize] at h
      obtain ⟨e, he, rfl⟩ := Option.map_eq_some_iff.1 h
      unfold peek
      rw [lookup_take he]
      rfl

theorem peek_erase_same (k : κ) : (cache.erase k).peek k = none := by
  show (Keyed.lookup Prod.fst (Keyed.remove Prod.fst cache.ordering k) k).map Prod.snd = none
  rw [Keyed.lookup_remove_same]
  rfl

theorem peek_erase_of_ne {k k' : κ} (hne : k' ≠ k) : (cache.erase k).peek k' = cache.peek k' := by
  show (Keyed.lookup Prod.fst (Keyed.remove Prod.fst cache.ordering k) k').map Prod.snd = _
  rw [Keyed.lookup_remove_of_ne _ hne]
  rfl

/-! ## A cache written anew -/

/-- As many of the first elements as a maximum size allows. -/
def upTo {β : Type} (maxSize : Nat) (l : List β) : List β :=
  if maxSize = 0 then l else l.take maxSize

omit [DecidableEq κ] in
theorem upTo_sublist (maxSize : Nat) (l : List κ) : (upTo maxSize l).Sublist l := by
  unfold upTo
  split
  · exact List.Sublist.refl l
  · exact List.take_sublist _ _

/-- The key written last is the last of the distinct ones. -/
theorem dedup_concat (ids : List κ) (k : κ) :
    (ids ++ [k]).dedup = ids.dedup.filter (· ≠ k) ++ [k] := by
  induction ids with
  | nil => rfl
  | cons id ids ih =>
    rw [List.cons_append]
    by_cases hmem : id ∈ ids
    · rw [List.dedup_cons_of_mem (List.mem_append_left _ hmem), List.dedup_cons_of_mem hmem, ih]
    · rw [List.dedup_cons_of_notMem hmem]
      by_cases hk : id = k
      · subst hk
        rw [List.dedup_cons_of_mem (List.mem_append_right _ (List.mem_singleton_self id)), ih,
          List.filter_cons_of_neg (by simp)]
      · have hnew : id ∉ ids ++ [k] := fun hin =>
          (List.mem_append.1 hin).elim hmem fun hlast => hk (List.mem_singleton.1 hlast)
        rw [List.dedup_cons_of_notMem hnew, ih, List.filter_cons_of_pos (by simpa using hk),
          List.cons_append]

theorem take_filter_of_mem {k : κ} : ∀ {l : List κ} {m : Nat}, l.Nodup → k ∈ l.take m →
    (l.filter (· ≠ k)).take (m - 1) = (l.take m).filter (· ≠ k)
  | [], m, _, _ => by simp
  | a :: l, 0, _, hk => absurd hk (by simp)
  | a :: l, m + 1, hnodup, hk => by
    obtain ⟨ha, hrest⟩ := List.nodup_cons.1 hnodup
    rw [List.take_succ_cons, Nat.add_sub_cancel]
    by_cases hak : a = k
    · subst hak
      have hself : l.filter (· ≠ a) = l :=
        List.filter_eq_self.2 fun b hb => by
          have hne : b ≠ a := fun heq => ha (heq ▸ hb)
          simpa using hne
      have hself' : (l.take m).filter (· ≠ a) = l.take m :=
        List.filter_eq_self.2 fun b hb => by
          have hne : b ≠ a := fun heq => ha (heq ▸ List.mem_of_mem_take hb)
          simpa using hne
      rw [List.filter_cons_of_neg (by simp), List.filter_cons_of_neg (by simp), hself, hself']
    · rw [List.take_succ_cons] at hk
      have hk' : k ∈ l.take m := (List.mem_cons.1 hk).resolve_left (Ne.symm hak)
      cases m with
      | zero => exact absurd hk' (by simp)
      | succ m =>
        rw [List.filter_cons_of_pos (by simpa using hak),
          List.filter_cons_of_pos (by simpa using hak), List.take_succ_cons,
          ← take_filter_of_mem hrest hk']
        rfl

theorem take_filter_of_notMem {k : κ} : ∀ {l : List κ} {m : Nat}, k ∉ l.take m →
    (l.filter (· ≠ k)).take (m - 1) = (l.take m).take (m - 1)
  | [], m, _ => by simp
  | a :: l, 0, _ => by simp
  | a :: l, m + 1, hk => by
    rw [List.take_succ_cons] at hk ⊢
    obtain ⟨hka, hkl⟩ := not_or.1 (fun hor => hk (List.mem_cons.2 hor))
    rw [List.filter_cons_of_pos (by simpa using Ne.symm hka), Nat.add_sub_cancel]
    cases m with
    | zero => rfl
    | succ m =>
      have ih := take_filter_of_notMem hkl
      rw [Nat.add_sub_cancel] at ih
      rw [List.take_succ_cons, List.take_succ_cons, ih]

theorem isSome_peek_map (maxSize : Nat) (keys : List κ) (f : κ → α) (k : κ) :
    ((MRUCache.mk maxSize (keys.map fun k => (k, f k))).peek k).isSome = true ↔ k ∈ keys := by
  unfold peek
  rw [Option.isSome_map, Option.isSome_iff_ne_none, ne_eq, Keyed.lookup_eq_none]
  constructor
  · intro hsome
    by_contra hnot
    refine hsome fun entry hentry hkey => hnot ?_
    obtain ⟨k', hk', rfl⟩ := List.mem_map.1 hentry
    exact hkey ▸ hk'
  · intro hk hnone
    exact hnone (k, f k) (List.mem_map.2 ⟨k, hk, rfl⟩) rfl

/-- **A cleared cache has the keys that were written last**, the last one first. -/
theorem ordering_foldl_put (cache : MRUCache κ α) (f : κ → α) (ids : List κ) :
    ids.foldl (fun cache k => cache.put k (f k)) cache.clear =
      ⟨cache.maxSize, (upTo cache.maxSize ids.dedup.reverse).map fun k => (k, f k)⟩ := by
  induction ids using List.reverseRecOn with
  | nil =>
    unfold upTo clear
    simp
  | append_singleton ids k ih =>
    have hnodup : ids.dedup.reverse.Nodup := List.nodup_reverse.2 (List.nodup_dedup ids)
    rw [List.foldl_append, List.foldl_cons, List.foldl_nil, ih]
    unfold put
    simp only [isSome_peek_map, dedup_concat, List.reverse_append, List.reverse_singleton,
      List.singleton_append, ← List.filter_reverse]
    congr 1
    generalize ids.dedup.reverse = keys at hnodup
    have hremove : Keyed.remove Prod.fst ((upTo cache.maxSize keys).map fun k => (k, f k)) k =
        ((upTo cache.maxSize keys).filter (· ≠ k)).map fun k => (k, f k) := by
      unfold Keyed.remove
      rw [List.filter_map]
      rfl
    rw [hremove]
    unfold upTo
    by_cases hsize : cache.maxSize = 0
    · simp only [hsize, if_true, List.map_cons]
      congr 1
      split
      next => rfl
      next hk =>
        rw [List.filter_eq_self.2 fun b hb => by
          have hne : b ≠ k := fun heq => hk (heq ▸ hb)
          simpa using hne]
    · simp only [hsize, if_false]
      obtain ⟨m, hm⟩ : ∃ m, cache.maxSize = m + 1 := ⟨cache.maxSize - 1, by omega⟩
      rw [hm, List.take_succ_cons, List.map_cons]
      congr 1
      split
      next hk => rw [← take_filter_of_mem hnodup hk]; rfl
      next hk =>
        rw [← List.map_take, Nat.add_sub_cancel]
        exact congrArg (List.map fun k => (k, f k)) (take_filter_of_notMem hk).symm

end MRUCache

end IosChrome.Lib

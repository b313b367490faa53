import IosChrome.Lib.Keyed

/-!
# Dictionaries

A dictionary is a list of keys with values, at most one for each key. Which
order the keys come in is nobody's concern but an enumeration's.
-/

namespace IosChrome.Lib

variable {κ α : Type} [DecidableEq κ]

abbrev Dictionary (κ α : Type) := List (κ × α)

namespace Dictionary

def objectForKey (d : Dictionary κ α) (k : κ) : Option α :=
  (Keyed.lookup Prod.fst d k).map Prod.snd

def setObject (d : Dictionary κ α) (k : κ) (a : α) : Dictionary κ α :=
  Keyed.put Prod.fst d (k, a)

def removeObjectForKey (d : Dictionary κ α) (k : κ) : Dictionary κ α :=
  Keyed.remove Prod.fst d k

omit [DecidableEq κ] in
def allKeysForObject [DecidableEq α] (d : Dictionary κ α) (a : α) : List κ :=
  (d.filter fun entry => entry.2 = a).map Prod.fst

@[simp] theorem objectForKey_setObject_same (d : Dictionary κ α) (k : κ) (a : α) :
    (d.setObject k a).objectForKey k = some a := by
  have hput := @Keyed.lookup_put_same _ _ _ Prod.fst d (k, a)
  unfold objectForKey setObject
  rw [hput]
  rfl

theorem objectForKey_setObject_of_ne (d : Dictionary κ α) {k k' : κ} (a : α) (hne : k' ≠ k) :
    (d.setObject k a).objectForKey k' = d.objectForKey k' := by
  unfold objectForKey setObject
  rw [@Keyed.lookup_put_of_ne _ _ _ Prod.fst d (k, a) k' hne]

@[simp] theorem objectForKey_removeObjectForKey_same (d : Dictionary κ α) (k : κ) :
    (d.removeObjectForKey k).objectForKey k = none := by
  unfold objectForKey removeObjectForKey
  rw [Keyed.lookup_remove_same]
  rfl

theorem objectForKey_removeObjectForKey_of_ne (d : Dictionary κ α) {k k' : κ} (hne : k' ≠ k) :
    (d.removeObjectForKey k).objectForKey k' = d.objectForKey k' := by
  unfold objectForKey removeObjectForKey
  rw [Keyed.lookup_remove_of_ne d hne]

theorem removeObjectForKey_of_none {d : Dictionary κ α} {k : κ} (h : d.objectForKey k = none) :
    d.removeObjectForKey k = d :=
  Keyed.remove_of_lookup_none (Option.map_eq_none_iff.1 h)

theorem objectForKey_eq_some {d : Dictionary κ α} (h : Keyed.Unique Prod.fst d) {k : κ} {a : α} :
    d.objectForKey k = some a ↔ (k, a) ∈ d := by
  unfold objectForKey
  rw [Option.map_eq_some_iff]
  constructor
  · rintro ⟨entry, hlookup, rfl⟩
    obtain ⟨hmem, rfl⟩ := (Keyed.lookup_eq_some h).1 hlookup
    exact hmem
  · intro hmem
    exact ⟨(k, a), (Keyed.lookup_eq_some h).2 ⟨hmem, rfl⟩, rfl⟩

theorem objectForKey_eq_none {d : Dictionary κ α} {k : κ} :
    d.objectForKey k = none ↔ ∀ a, (k, a) ∉ d := by
  unfold objectForKey
  rw [Option.map_eq_none_iff, Keyed.lookup_eq_none]
  exact ⟨fun h a hmem => h _ hmem rfl, fun h entry hmem heq => h entry.2 (heq ▸ hmem)⟩

omit [DecidableEq κ] in
theorem mem_allKeysForObject [DecidableEq α] {d : Dictionary κ α} {a : α} {k : κ} :
    k ∈ d.allKeysForObject a ↔ (k, a) ∈ d := by
  unfold allKeysForObject
  rw [List.mem_map]
  constructor
  · rintro ⟨entry, hmem, rfl⟩
    obtain ⟨hin, heq⟩ := List.mem_filter.1 hmem
    rw [← of_decide_eq_true heq]
    exact hin
  · intro hmem
    exact ⟨(k, a), List.mem_filter.2 ⟨hmem, decide_eq_true rfl⟩, rfl⟩

theorem mem_foldl_removeObjectForKey {keys : List κ} {entry : κ × α} :
    ∀ {d : Dictionary κ α}, entry ∈ keys.foldl removeObjectForKey d ↔
      entry ∈ d ∧ entry.1 ∉ keys := by
  induction keys with
  | nil => simp
  | cons k keys ih =>
    intro d
    rw [List.foldl_cons, ih, removeObjectForKey, Keyed.mem_remove, List.mem_cons, not_or,
      and_assoc]

theorem unique_foldl_removeObjectForKey {keys : List κ} : ∀ {d : Dictionary κ α},
    Keyed.Unique Prod.fst d → Keyed.Unique Prod.fst (keys.foldl removeObjectForKey d) := by
  induction keys with
  | nil => exact id
  | cons k keys ih => exact fun h => ih (h.remove k)

end Dictionary

end IosChrome.Lib

import Mathlib.Data.List.Basic

/-!
# Session history

A list of entries with a position in it, kept as what lies before and after
the current entry. `pushState` drops what lies after; `go` only moves the
position, and does nothing where it would leave the list.

`entries` and `position` determine a history, and each operation is described
by what it does to them.
-/

namespace IosChrome.Lib

universe u

/-- A session history; `back` starts with the oldest entry. -/
structure History (α : Type u) where
  back : List α
  current : α
  forward : List α
  deriving DecidableEq, Repr

namespace History

variable {α : Type u}

def entries (h : History α) : List α := h.back ++ h.current :: h.forward

def position (h : History α) : Nat := h.back.length

def replaceState (h : History α) (entry : α) : History α := { h with current := entry }

def pushState (h : History α) (entry : α) : History α :=
  ⟨h.back ++ [h.current], entry, []⟩

/-- The history with the current entry at `index` of `entries`, if there is
one. -/
def atIndex (entries : List α) (index : Nat) : Option (History α) :=
  match entries[index]? with
  | some entry => some ⟨entries.take index, entry, entries.drop (index + 1)⟩
  | none => none

def go (h : History α) (delta : Int) : History α :=
  if 0 ≤ h.position + delta then
    (atIndex h.entries (h.position + delta).toNat).getD h
  else h

/-- Rewrites the entry at an index of `entries`. -/
def modify (h : History α) (index : Nat) (f : α → α) : History α :=
  if index < h.back.length then { h with back := h.back.modify index f }
  else if index = h.back.length then { h with current := f h.current }
  else { h with forward := h.forward.modify (index - h.back.length - 1) f }

theorem atIndex_entries {entries : List α} {index : Nat} {h : History α}
    (hat : atIndex entries index = some h) : h.entries = entries := by
  unfold atIndex at hat
  split at hat
  · next entry hget =>
    obtain ⟨hlt, hentry⟩ := List.getElem?_eq_some_iff.1 hget
    cases hat
    show entries.take index ++ entry :: entries.drop (index + 1) = entries
    rw [← hentry, List.getElem_cons_drop, List.take_append_drop]
  · cases hat

theorem position_lt (h : History α) : h.position < h.entries.length := by
  unfold position entries
  rw [List.length_append, List.length_cons]
  omega

@[simp] theorem entries_replaceState (h : History α) (entry : α) :
    (h.replaceState entry).entries = h.back ++ entry :: h.forward := rfl

@[simp] theorem entries_pushState (h : History α) (entry : α) :
    (h.pushState entry).entries = h.back ++ [h.current, entry] := by
  show (h.back ++ [h.current]) ++ [entry] = _
  rw [List.append_assoc]
  rfl

theorem modify_append_of_lt (f : α → α) (l₁ l₂ : List α) :
    ∀ i, i < l₁.length → (l₁ ++ l₂).modify i f = l₁.modify i f ++ l₂ := by
  induction l₁ with
  | nil =>
    intro i h
    exact absurd h (Nat.not_lt_zero i)
  | cons a l₁ ih =>
    intro i h
    cases i with
    | zero => rfl
    | succ i =>
      rw [List.cons_append, List.modify_succ_cons, ih i (Nat.lt_of_succ_lt_succ h)]
      rfl

theorem modify_append_add (f : α → α) : ∀ (l₁ l₂ : List α) (i : Nat),
    (l₁ ++ l₂).modify (l₁.length + i) f = l₁ ++ l₂.modify i f
  | [], l₂, i => by rw [List.length_nil, Nat.zero_add, List.nil_append, List.nil_append]
  | a :: l₁, l₂, i => by
    rw [List.cons_append, List.length_cons, Nat.succ_add, List.modify_succ_cons,
      modify_append_add f l₁ l₂ i, List.cons_append]

@[simp] theorem entries_modify (h : History α) (index : Nat) (f : α → α) :
    (h.modify index f).entries = h.entries.modify index f := by
  unfold modify entries
  by_cases hback : index < h.back.length
  · rw [if_pos hback, modify_append_of_lt f _ _ _ hback]
  · obtain ⟨k, rfl⟩ := Nat.exists_eq_add_of_le (Nat.le_of_not_lt hback)
    rw [if_neg hback, modify_append_add]
    cases k with
    | zero => rw [if_pos (Nat.add_zero _), List.modify_zero_cons]
    | succ k =>
      rw [if_neg (by omega), List.modify_succ_cons]
      have hk : h.back.length + (k + 1) - h.back.length - 1 = k := by omega
      rw [hk]

/-- **`go` leaves the entries as they are.** -/
@[simp] theorem entries_go (h : History α) (delta : Int) : (h.go delta).entries = h.entries := by
  unfold go
  split
  · cases hat : atIndex h.entries (h.position + delta).toNat with
    | none => rfl
    | some moved => exact atIndex_entries hat
  · rfl

/-- **`go` moves the position by `delta`**, within the list. -/
theorem go_eq {h : History α} {delta : Int} {index : Nat} (hindex : h.position + delta = index)
    (hlt : index < h.entries.length) :
    h.go delta = ⟨h.entries.take index, h.entries[index], h.entries.drop (index + 1)⟩ := by
  unfold go
  rw [hindex, if_pos (Int.natCast_nonneg index), Int.toNat_natCast]
  unfold atIndex
  rw [List.getElem?_eq_getElem hlt]
  rfl

/-- Pushing entries one after another, onto a history with nothing ahead. -/
theorem foldl_pushState (pushed : List α) :
    ∀ {h : History α}, h.forward = [] →
      (pushed.foldl pushState h).entries = h.entries ++ pushed ∧
      (pushed.foldl pushState h).position = h.position + pushed.length ∧
      (pushed.foldl pushState h).forward = [] := by
  induction pushed with
  | nil =>
    intro h hforward
    exact ⟨(List.append_nil _).symm, rfl, hforward⟩
  | cons entry pushed ih =>
    intro h hforward
    obtain ⟨hentries, hposition, hend⟩ := ih (h := h.pushState entry) rfl
    refine ⟨?_, ?_, hend⟩
    · show (pushed.foldl pushState (h.pushState entry)).entries = _
      rw [hentries, entries_pushState, entries, hforward]
      simp
    · show (pushed.foldl pushState (h.pushState entry)).position = _
      rw [hposition]
      show (h.back ++ [h.current]).length + _ = h.back.length + (pushed.length + 1)
      rw [List.length_append, List.length_singleton]
      omega

end History

end IosChrome.Lib

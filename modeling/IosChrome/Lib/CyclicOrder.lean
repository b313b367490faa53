import Mathlib.Data.List.Nodup
import Mathlib.Data.List.Induction

/-!
# Going round a list

A list of distinct elements as a circle: behind its last element comes its first.
`next` and `previous` are one step, and `previous` is `next` in the reversed list
(`previous_eq_next_reverse`). `search` steps until it finds something, at least
once; it comes back to where it started only if nothing else is found before. So
it finds the first in the list cut open behind its start (`search_next`).
-/

namespace IosChrome.Lib.CyclicOrder

variable {α : Type} [DecidableEq α]

/-- The element behind `a`; the first one behind the last. -/
def next (l : List α) (a : α) : Option α :=
  if l.getLast? = some a then l.head? else (l.drop (l.idxOf a + 1)).head?

/-- The element before `a`; the last one before the first. -/
def previous (l : List α) (a : α) : Option α :=
  if l.head? = some a then l.getLast? else l[l.idxOf a - 1]?

/-- `do { a = step(a) } while (!found(a))`, at most so many times. -/
def search {α : Type} (step : α → Option α) (found : α → Bool) : Nat → α → Option α
  | 0, _ => none
  | fuel + 1, a =>
    match step a with
    | none => none
    | some b => if found b then some b else search step found fuel b

theorem next_append {pre post : List α} {a : α} (h : (pre ++ a :: post).Nodup) :
    next (pre ++ a :: post) a = (post ++ pre ++ [a]).head? := by
  have hpre : a ∉ pre := fun hmem =>
    List.disjoint_of_nodup_append h hmem List.mem_cons_self
  have hpost : a ∉ post :=
    (List.nodup_cons.1 (List.nodup_append.1 h).2.1).1
  unfold next
  rw [List.idxOf_append_of_notMem hpre, List.idxOf_cons_self, Nat.add_zero]
  cases post with
  | nil =>
    rw [if_pos (by simp)]
    rfl
  | cons b post =>
    have hlast : (pre ++ a :: b :: post).getLast? ≠ some a := by
      intro hlast
      have hmem : a ∈ b :: post := by
        refine List.mem_of_getLast? (?_ : (b :: post).getLast? = some a)
        simpa [List.getLast?_append, List.getLast?_cons_cons] using hlast
      exact hpost hmem
    rw [if_neg hlast, ← List.drop_drop, List.drop_left]
    rfl

theorem previous_append {pre post : List α} {a : α} (h : (pre ++ a :: post).Nodup) :
    previous (pre ++ a :: post) a = (pre.reverse ++ post.reverse ++ [a]).head? := by
  have hpre : a ∉ pre := fun hmem =>
    List.disjoint_of_nodup_append h hmem List.mem_cons_self
  unfold previous
  rw [List.idxOf_append_of_notMem hpre, List.idxOf_cons_self, Nat.add_zero]
  cases pre using List.reverseRecOn with
  | nil =>
    rw [List.nil_append, List.head?_cons, if_pos rfl]
    cases post using List.reverseRecOn with
    | nil => rfl
    | append_singleton post b =>
      rw [← List.cons_append, List.getLast?_concat]
      simp
  | append_singleton pre b =>
    have hhead : (pre ++ [b] ++ a :: post).head? ≠ some a := by
      intro hhead
      have hmem : a ∈ pre ++ [b] := by
        refine List.mem_of_head? (?_ : (pre ++ [b]).head? = some a)
        cases pre with
        | nil => exact hhead
        | cons c pre => exact hhead
      exact hpre hmem
    rw [if_neg hhead]
    simp

/-- **Going back is going on in the reversed list.** -/
theorem previous_eq_next_reverse {l : List α} (h : l.Nodup) {a : α} (ha : a ∈ l) :
    previous l a = next l.reverse a := by
  obtain ⟨pre, post, rfl⟩ := List.append_of_mem ha
  have hreverse : (pre ++ a :: post).reverse = post.reverse ++ a :: pre.reverse := by simp
  have hnodup : (post.reverse ++ a :: pre.reverse).Nodup := hreverse ▸ List.nodup_reverse.2 h
  rw [previous_append h, hreverse, next_append hnodup]

/-- From where the search starts, up to the first that is found. -/
theorem search_next_of_split {found : α → Bool} : ∀ {zs pre post ws : List α} {a b : α} {fuel : Nat},
    (pre ++ a :: post).Nodup → post ++ pre ++ [a] = zs ++ b :: ws → (∀ z ∈ zs, found z = false) →
      found b = true → zs.length < fuel →
        search (next (pre ++ a :: post)) found fuel a = some b
  | _, _, _, _, _, _, 0, _, _, _, _, hfuel => absurd hfuel (Nat.not_lt_zero _)
  | [], pre, post, ws, a, b, fuel + 1, hnodup, hsplit, _, hb, _ => by
    unfold search
    rw [next_append hnodup, hsplit]
    simp only [List.nil_append, List.head?_cons, hb, if_true]
  | z :: zs, pre, post, ws, a, b, fuel + 1, hnodup, hsplit, hzs, hb, hfuel => by
    have hz : found z = false := hzs z List.mem_cons_self
    have hrest : ∀ y ∈ zs, found y = false := fun y hy => hzs y (List.mem_cons_of_mem _ hy)
    have hlength : zs.length < fuel := Nat.lt_of_succ_lt_succ hfuel
    have hnext : next (pre ++ a :: post) a = some z := by
      rw [next_append hnodup, hsplit]
      rfl
    unfold search
    simp only [hnext, hz]
    -- the list cut open behind `z`
    cases post with
    | cons y post =>
      obtain ⟨rfl, htail⟩ := List.cons.inj hsplit
      have hlist : pre ++ a :: y :: post = (pre ++ [a]) ++ y :: post := by simp
      rw [hlist] at hnodup ⊢
      have hsplit' : post ++ (pre ++ [a]) ++ [y] = zs ++ b :: (ws ++ [y]) := by
        simpa using congrArg (· ++ [y]) htail
      exact search_next_of_split hnodup hsplit' hrest hb hlength
    | nil =>
      cases pre with
      | nil =>
        obtain ⟨rfl, htail⟩ := List.cons.inj hsplit
        exact absurd htail.symm (by simp)
      | cons y pre =>
        obtain ⟨rfl, htail⟩ := List.cons.inj hsplit
        have hnodup' : ([] ++ y :: (pre ++ [a])).Nodup := hnodup
        have hsplit' : pre ++ [a] ++ [] ++ [y] = zs ++ b :: (ws ++ [y]) := by
          simpa using congrArg (· ++ [y]) htail
        exact search_next_of_split hnodup' hsplit' hrest hb hlength

omit [DecidableEq α] in
/-- Where an element of the list cut open behind `a` is in the list: behind `a`, or,
past the end, before it or `a` itself. -/
theorem split_of_cut {pre post zs ws : List α} {a b : α}
    (h : post ++ (pre ++ [a]) = zs ++ b :: ws) :
    (∃ mid, post = zs ++ b :: mid) ∨
      ∃ zs' mid, zs = post ++ zs' ∧ pre ++ a :: post = zs' ++ b :: mid := by
  have hlist : pre ++ a :: post = pre ++ [a] ++ post := by simp
  rcases List.append_eq_append_iff.1 h with ⟨zs', rfl, htail⟩ | ⟨mid, rfl, htail⟩
  · refine .inr ⟨zs', ws ++ post, rfl, ?_⟩
    rw [hlist, htail]
    simp
  · cases mid with
    | nil =>
      have hcut : pre ++ [a] = b :: ws := htail.symm
      refine .inr ⟨[], ws ++ zs, by simp, ?_⟩
      rw [List.append_nil] at hlist ⊢
      rw [hlist, hcut]
      rfl
    | cons first mid =>
      obtain ⟨rfl, -⟩ := List.cons.inj htail
      exact .inl ⟨mid, rfl⟩

/-- **The search finds the next behind its start, or the first of all** where there is
none behind it, within as many steps as the list is long. -/
theorem search_next {found : α → Bool} {pre post : List α} {a : α} {fuel : Nat}
    (hnodup : (pre ++ a :: post).Nodup) (hfound : ∃ b ∈ pre ++ a :: post, found b = true)
    (hfuel : (pre ++ a :: post).length ≤ fuel) :
    ∃ zs b mid, search (next (pre ++ a :: post)) found fuel a = some b ∧ found b = true ∧
      (∀ z ∈ zs, found z = false) ∧
      (post = zs ++ b :: mid ∨
        pre ++ a :: post = zs ++ b :: mid ∧ ∀ z ∈ post, found z = false) := by
  obtain ⟨c, hc, hfc⟩ := hfound
  have hmem : c ∈ post ++ pre ++ [a] := by
    simp only [List.mem_append, List.mem_cons, List.not_mem_nil, or_false] at hc ⊢
    tauto
  cases hfind : (post ++ pre ++ [a]).find? found with
  | none => exact absurd hfc (by simpa using List.find?_eq_none.1 hfind c hmem)
  | some b =>
    obtain ⟨hb, zs, ws, hsplit, hzs⟩ := List.find?_eq_some_iff_append.1 hfind
    have hnone : ∀ z ∈ zs, found z = false := fun z hz => by simpa using hzs z hz
    have hlength := congrArg List.length hsplit
    simp only [List.length_append, List.length_cons, List.length_nil] at hlength hfuel
    have hsteps : zs.length < fuel := by omega
    have hsearch := search_next_of_split hnodup hsplit hnone hb hsteps
    rcases split_of_cut (List.append_assoc .. ▸ hsplit) with ⟨mid, hpost⟩ | ⟨zs', mid, rfl, hlist⟩
    · exact ⟨zs, b, mid, hsearch, hb, hnone, .inl hpost⟩
    · exact ⟨zs', b, mid, hsearch, hb, fun z hz => hnone z (List.mem_append_right _ hz),
        .inr ⟨hlist, fun z hz => hnone z (List.mem_append_left _ hz)⟩⟩

theorem mem_of_next {l : List α} {a b : α} (h : next l a = some b) : b ∈ l := by
  unfold next at h
  split at h
  · exact List.mem_of_head? h
  · exact List.mem_of_mem_drop (List.mem_of_head? h)

theorem search_previous_eq {found : α → Bool} {l : List α} (hnodup : l.Nodup) :
    ∀ (fuel : Nat) {a : α}, a ∈ l →
      search (previous l) found fuel a = search (next l.reverse) found fuel a
  | 0, _, _ => rfl
  | fuel + 1, a, ha => by
    unfold search
    rw [previous_eq_next_reverse hnodup ha]
    cases hnext : next l.reverse a with
    | none => rfl
    | some b =>
      have hb : b ∈ l := List.mem_reverse.1 (mem_of_next hnext)
      simp only [search_previous_eq hnodup fuel hb]

/-- **The search backwards finds the one before its start, or the last of all** where
there is none before it. -/
theorem search_previous {found : α → Bool} {pre post : List α} {a : α} {fuel : Nat}
    (hnodup : (pre ++ a :: post).Nodup) (hfound : ∃ b ∈ pre ++ a :: post, found b = true)
    (hfuel : (pre ++ a :: post).length ≤ fuel) :
    ∃ mid b zs, search (previous (pre ++ a :: post)) found fuel a = some b ∧ found b = true ∧
      (∀ z ∈ zs, found z = false) ∧
      (pre = mid ++ b :: zs ∨
        pre ++ a :: post = mid ++ b :: zs ∧ ∀ z ∈ pre, found z = false) := by
  have hreverse : (pre ++ a :: post).reverse = post.reverse ++ a :: pre.reverse := by simp
  have hnodup' : (post.reverse ++ a :: pre.reverse).Nodup := hreverse ▸ List.nodup_reverse.2 hnodup
  have hfound' : ∃ b ∈ post.reverse ++ a :: pre.reverse, found b = true := by
    obtain ⟨b, hb, hfb⟩ := hfound
    exact ⟨b, hreverse ▸ List.mem_reverse.2 hb, hfb⟩
  have hfuel' : (post.reverse ++ a :: pre.reverse).length ≤ fuel := by
    rw [← hreverse, List.length_reverse]
    exact hfuel
  obtain ⟨zs, b, mid, hsearch, hb, hzs, hwhere⟩ := search_next hnodup' hfound' hfuel'
  have ha : a ∈ pre ++ a :: post := List.mem_append_right pre List.mem_cons_self
  refine ⟨mid.reverse, b, zs.reverse, ?_, hb, fun z hz => hzs z (List.mem_reverse.1 hz), ?_⟩
  · rw [search_previous_eq hnodup fuel ha, hreverse]
    exact hsearch
  · rcases hwhere with hpre | ⟨hlist, hpre⟩
    · refine .inl ?_
      have hback := congrArg List.reverse hpre
      simpa using hback
    · refine .inr ⟨?_, fun z hz => hpre z (List.mem_reverse.2 hz)⟩
      have hback := congrArg List.reverse hlist
      simpa using hback

end IosChrome.Lib.CyclicOrder

import Mathlib.Data.List.Basic

/-!
# Which nodes of a vector are missing in another

`IsSubvectorOfNodes` looks each node of the first vector up in what is left of the second one, and
takes the first place that has it. `MissingNodesIndices` goes through the second vector instead. Both
match as early as they can, which is never wrong: a vector that can be found at all can be found so
(`isSubvectorOfNodes_cons_cons`). A node is anything that can be compared, as the pointers are.
-/

namespace IosChrome.Bookmarks

variable {N : Type} [DecidableEq N]

/-- `IsSubvectorOfNodes`. The iterator is what is left of `vector2` from it on, and `std::find`
drops what does not match. -/
def isSubvectorOfNodes : List N → List N → Bool
  | [], _ => true
  | node :: vector1, it =>
    match it.dropWhile (· ≠ node) with
    | [] => false
    | _ :: it => isSubvectorOfNodes vector1 it

/-- The loop of `MissingNodesIndices` from `i2` on, with what is left of both vectors. -/
def missingNodesIndicesFrom (i2 : Nat) : List N → List N → List Nat
  | _, [] => []
  | [], _ :: vector2 => i2 :: missingNodesIndicesFrom (i2 + 1) [] vector2
  | it1 :: vector1, node :: vector2 =>
    if node ≠ it1 then
      i2 :: missingNodesIndicesFrom (i2 + 1) (it1 :: vector1) vector2
    else
      missingNodesIndicesFrom (i2 + 1) vector1 vector2

/-- `MissingNodesIndices`. None is a failed `DCHECK`. -/
def missingNodesIndices (vector1 vector2 : List N) : Option (List Nat) :=
  if isSubvectorOfNodes vector1 vector2 then
    some (missingNodesIndicesFrom 0 vector1 vector2)
  else none

/-- What is left of a vector whose first index is `i2` without the nodes at the indices. -/
def removeIndicesFrom (indices : List Nat) (i2 : Nat) : List N → List N
  | [] => []
  | node :: vector =>
    if i2 ∈ indices then removeIndicesFrom indices (i2 + 1) vector
    else node :: removeIndicesFrom indices (i2 + 1) vector

/-- Without the nodes at the indices. -/
def removeIndices (indices : List Nat) (vector : List N) : List N :=
  removeIndicesFrom indices 0 vector

/-- The first node is matched as soon as it comes. -/
theorem isSubvectorOfNodes_cons_cons (node node' : N) (vector1 vector2 : List N) :
    isSubvectorOfNodes (node :: vector1) (node' :: vector2) =
      if node = node' then isSubvectorOfNodes vector1 vector2
      else isSubvectorOfNodes (node :: vector1) vector2 := by
  rw [isSubvectorOfNodes, List.dropWhile_cons]
  by_cases h : node = node'
  · subst h
    simp
  · rw [if_neg h, isSubvectorOfNodes, if_pos]
    exact decide_eq_true (Ne.symm h)

/-- `IsSubvectorOfNodes` finds the subsequences. The induction is on the second vector: where its
first node matches, the rest can be found in what follows if it can be found at all. -/
theorem isSubvectorOfNodes_iff : ∀ vector1 vector2 : List N,
    isSubvectorOfNodes vector1 vector2 = true ↔ vector1.Sublist vector2
  | [], vector2 => by simp [isSubvectorOfNodes]
  | node :: vector1, [] => by simp [isSubvectorOfNodes]
  | node :: vector1, node' :: vector2 => by
    rw [isSubvectorOfNodes_cons_cons]
    split
    · rename_i h
      subst h
      rw [isSubvectorOfNodes_iff vector1 vector2, List.cons_sublist_cons]
    · rename_i h
      rw [isSubvectorOfNodes_iff (node :: vector1) vector2]
      constructor
      · exact List.Sublist.cons node'
      · intro hsub
        cases hsub with
        | cons _ hsub => exact hsub
        | cons_cons _ _ => exact absurd rfl h

/-- The indices are in order, from `i2` on and within the second vector. -/
theorem missingNodesIndicesFrom_sorted : ∀ (i2 : Nat) (vector1 vector2 : List N),
    (missingNodesIndicesFrom i2 vector1 vector2).Pairwise (· < ·) ∧
      ∀ i ∈ missingNodesIndicesFrom i2 vector1 vector2, i2 ≤ i ∧ i < i2 + vector2.length := by
  intro i2 vector1 vector2
  induction i2, vector1, vector2 using missingNodesIndicesFrom.induct with
  | case1 i2 vector1 => simp [missingNodesIndicesFrom]
  | case2 i2 node vector2 ih =>
    rw [missingNodesIndicesFrom, List.pairwise_cons]
    refine ⟨⟨fun i hi => (ih.2 i hi).1, ih.1⟩, ?_⟩
    intro i hi
    rw [List.length_cons]
    rcases List.mem_cons.1 hi with rfl | hi
    · omega
    · have hrest := ih.2 i hi
      omega
  | case3 i2 it1 vector1 node vector2 hne ih =>
    rw [missingNodesIndicesFrom, if_pos hne, List.pairwise_cons]
    refine ⟨⟨fun i hi => (ih.2 i hi).1, ih.1⟩, ?_⟩
    intro i hi
    rw [List.length_cons]
    rcases List.mem_cons.1 hi with rfl | hi
    · omega
    · have hrest := ih.2 i hi
      omega
  | case4 i2 it1 vector1 node vector2 heq ih =>
    rw [missingNodesIndicesFrom, if_neg heq]
    refine ⟨ih.1, ?_⟩
    intro i hi
    have hrest := ih.2 i hi
    rw [List.length_cons]
    omega

omit [DecidableEq N] in
/-- An index from before the vector removes nothing from it. -/
theorem removeIndicesFrom_cons_of_lt {i : Nat} (indices : List Nat) : ∀ {i2 : Nat}, i < i2 →
    ∀ vector : List N, removeIndicesFrom (i :: indices) i2 vector =
      removeIndicesFrom indices i2 vector
  | _, _, [] => rfl
  | i2, hi, node :: vector => by
    have hrest := removeIndicesFrom_cons_of_lt indices (Nat.lt_succ_of_lt hi) vector
    have hmem : i2 ∈ i :: indices ↔ i2 ∈ indices := by
      rw [List.mem_cons, or_iff_right (Nat.ne_of_gt hi)]
    simp only [removeIndicesFrom, hmem, hrest]

/-- Without the missing nodes, what is left of a vector is its subvector. -/
theorem removeIndicesFrom_missing : ∀ (i2 : Nat) (vector1 vector2 : List N),
    vector1.Sublist vector2 →
    removeIndicesFrom (missingNodesIndicesFrom i2 vector1 vector2) i2 vector2 = vector1 := by
  intro i2 vector1 vector2
  induction i2, vector1, vector2 using missingNodesIndicesFrom.induct with
  | case1 i2 vector1 =>
    intro hsub
    exact (List.sublist_nil.1 hsub).symm
  | case2 i2 node vector2 ih =>
    intro _
    rw [missingNodesIndicesFrom, removeIndicesFrom, if_pos List.mem_cons_self,
      removeIndicesFrom_cons_of_lt _ (Nat.lt_succ_self i2)]
    exact ih (List.nil_sublist vector2)
  | case3 i2 it1 vector1 node vector2 hne ih =>
    intro hsub
    rw [missingNodesIndicesFrom, if_pos hne, removeIndicesFrom, if_pos List.mem_cons_self,
      removeIndicesFrom_cons_of_lt _ (Nat.lt_succ_self i2)]
    cases hsub with
    | cons _ hsub => exact ih hsub
    | cons_cons _ _ => exact absurd rfl hne
  | case4 i2 it1 vector1 node vector2 heq ih =>
    intro hsub
    have hnode : node = it1 := not_not.1 heq
    subst hnode
    -- The index is not among those of the rest, which come behind it.
    have hnotMem : i2 ∉ missingNodesIndicesFrom (i2 + 1) vector1 vector2 := fun hmem =>
      Nat.not_succ_le_self i2 ((missingNodesIndicesFrom_sorted _ _ _).2 i2 hmem).1
    rw [missingNodesIndicesFrom, if_neg heq, removeIndicesFrom, if_neg hnotMem,
      ih (List.cons_sublist_cons.1 hsub)]

omit [DecidableEq N] in
theorem mem_of_mem_removeIndicesFrom {node : N} {indices : List Nat} :
    ∀ {i2 : Nat} {vector : List N}, node ∈ removeIndicesFrom indices i2 vector → node ∈ vector
  | _, [], h => h
  | i2, node' :: vector, h => by
    rw [removeIndicesFrom] at h
    split at h
    · exact List.mem_cons_of_mem node' (mem_of_mem_removeIndicesFrom h)
    · rcases List.mem_cons.1 h with rfl | h
      · exact List.mem_cons_self
      · exact List.mem_cons_of_mem node' (mem_of_mem_removeIndicesFrom h)

/-- In order, and from `i2` on. -/
def IndicesFrom (i2 : Nat) (indices : List Nat) : Prop :=
  indices.Pairwise (· < ·) ∧ ∀ i ∈ indices, i2 ≤ i

/-- `i2` is the first index or none of them. -/
theorem IndicesFrom.cases {i2 : Nat} {indices : List Nat} (h : IndicesFrom i2 indices) :
    (∃ rest, indices = i2 :: rest ∧ IndicesFrom (i2 + 1) rest) ∨
      (i2 ∉ indices ∧ IndicesFrom (i2 + 1) indices) := by
  by_cases hmem : i2 ∈ indices
  · cases indices with
    | nil => exact absurd hmem List.not_mem_nil
    | cons i rest =>
      obtain ⟨hlt, hrest⟩ := List.pairwise_cons.1 h.1
      rcases List.mem_cons.1 hmem with rfl | hmem
      · exact Or.inl ⟨rest, rfl, hrest, hlt⟩
      · have hle := h.2 i List.mem_cons_self
        have hlt := hlt i2 hmem
        omega
  · refine Or.inr ⟨hmem, h.1, ?_⟩
    intro i hi
    have hne : i2 ≠ i := fun heq => hmem (heq ▸ hi)
    have hle := h.2 i hi
    omega

omit [DecidableEq N] in
/-- Where no node is repeated, what is left says which indices were removed. -/
theorem eq_of_removeIndicesFrom_eq : ∀ {vector : List N} {i2 : Nat} {indices others : List Nat},
    vector.Nodup → IndicesFrom i2 indices → IndicesFrom i2 others →
    (∀ i ∈ indices, i < i2 + vector.length) → (∀ i ∈ others, i < i2 + vector.length) →
    removeIndicesFrom indices i2 vector = removeIndicesFrom others i2 vector → indices = others
  | [], i2, indices, others, _, hindices, hothers, hlt, hlt', _ => by
    have hnil : ∀ {l : List Nat}, IndicesFrom i2 l → (∀ i ∈ l, i < i2 + 0) → l = [] := by
      intro l hl hlt
      refine List.eq_nil_iff_forall_not_mem.2 fun i hi => ?_
      have hle := hl.2 i hi
      have hlt := hlt i hi
      omega
    rw [hnil hindices hlt, hnil hothers hlt']
  | node :: vector, i2, indices, others, hnodup, hindices, hothers, hlt, hlt', heq => by
    obtain ⟨hnotMem, hnodup⟩ := List.nodup_cons.1 hnodup
    have hleft : ∀ {l : List Nat} {i : Nat}, node ∉ removeIndicesFrom l i vector :=
      fun h => hnotMem (mem_of_mem_removeIndicesFrom h)
    have hlen : i2 + (node :: vector).length = i2 + 1 + vector.length := by
      rw [List.length_cons]
      omega
    rw [hlen] at hlt hlt'
    rw [removeIndicesFrom, removeIndicesFrom] at heq
    rcases hindices.cases with ⟨rest, rfl, hrest⟩ | ⟨hout, hindices⟩ <;>
      rcases hothers.cases with ⟨rest', rfl, hrest'⟩ | ⟨hout', hothers⟩
    · rw [if_pos List.mem_cons_self, if_pos List.mem_cons_self,
        removeIndicesFrom_cons_of_lt _ (Nat.lt_succ_self i2),
        removeIndicesFrom_cons_of_lt _ (Nat.lt_succ_self i2)] at heq
      rw [eq_of_removeIndicesFrom_eq hnodup hrest hrest'
        (fun i hi => hlt i (List.mem_cons_of_mem _ hi))
        (fun i hi => hlt' i (List.mem_cons_of_mem _ hi)) heq]
    · -- The node is left on one side only.
      rw [if_pos List.mem_cons_self, if_neg hout'] at heq
      exact absurd (heq ▸ List.mem_cons_self) hleft
    · rw [if_neg hout, if_pos List.mem_cons_self] at heq
      exact absurd (heq ▸ List.mem_cons_self) hleft
    · rw [if_neg hout, if_neg hout'] at heq
      exact eq_of_removeIndicesFrom_eq hnodup hindices hothers hlt hlt' (List.cons.inj heq).2

/-- **`IsSubvectorOfNodes` holds of exactly the subsequences, and `MissingNodesIndices` returns
their missing indices**, in order and each once: without the nodes there, `vector2` is `vector1`.
Where no node of `vector2` is repeated, there are no other such indices. -/
theorem missingNodesIndices_complete (vector1 vector2 : List N) :
    (isSubvectorOfNodes vector1 vector2 = true ↔ vector1.Sublist vector2) ∧
      (vector1.Sublist vector2 → ∃ indices, missingNodesIndices vector1 vector2 = some indices ∧
        indices.Pairwise (· < ·) ∧ (∀ i ∈ indices, i < vector2.length) ∧
        removeIndices indices vector2 = vector1 ∧
        (vector2.Nodup → ∀ others : List Nat, others.Pairwise (· < ·) →
          (∀ i ∈ others, i < vector2.length) → removeIndices others vector2 = vector1 →
          others = indices)) := by
  refine ⟨isSubvectorOfNodes_iff vector1 vector2, ?_⟩
  intro hsub
  obtain ⟨hsorted, hbounds⟩ := missingNodesIndicesFrom_sorted 0 vector1 vector2
  have hlt : ∀ i ∈ missingNodesIndicesFrom 0 vector1 vector2, i < 0 + vector2.length :=
    fun i hi => (hbounds i hi).2
  have hleft := removeIndicesFrom_missing 0 vector1 vector2 hsub
  refine ⟨_, if_pos ((isSubvectorOfNodes_iff vector1 vector2).2 hsub), hsorted, ?_, hleft, ?_⟩
  · rwa [Nat.zero_add] at hlt
  · intro hnodup others hothers hothersLt hothersLeft
    rw [← Nat.zero_add vector2.length] at hothersLt
    exact eq_of_removeIndicesFrom_eq hnodup ⟨hothers, fun i _ => Nat.zero_le i⟩
      ⟨hsorted, fun i _ => Nat.zero_le i⟩ hothersLt hlt (hothersLeft.trans hleft.symm)

/-- Of two places where a node could be, the first one counts as its own. -/
theorem missingNodesIndices_complete_repeatedNode :
    missingNodesIndices [1] [1, 2, 1] = some [1, 2] ∧
      ∃ indices, missingNodesIndices [1] [1, 2, 1] = some indices ∧
        indices.Pairwise (· < ·) ∧ (∀ i ∈ indices, i < 3) ∧ removeIndices indices [1, 2, 1] = [1] :=
  have ⟨indices, hindices, hsorted, hlt, hleft, _⟩ :=
    (missingNodesIndices_complete [1] [1, 2, 1]).2 (by decide)
  ⟨by decide, indices, hindices, hsorted, hlt, hleft⟩

end IosChrome.Bookmarks

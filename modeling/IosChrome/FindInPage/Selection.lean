import IosChrome.FindInPage.SearchInvariant

/-!
# Counting and selecting matches

What `countVisibleMatches_` counts without a timer, which match
`selectAndScrollToVisibleMatch` selects, and the invariant of what is selected:
the nodes with the highlight of a selected match are that match's, and which of
the matches are visible has been recorded since they were found.
-/

namespace IosChrome.FindInPage

open IosChrome.Lib

namespace Script

/-! ## Counting -/

/-- Without a timer all matches are counted, up to one more than the most. -/
theorem countFrom_none (visible : NodeId → Bool) : ∀ (ms : List Match) (index count : Nat),
    count ≤ maxVisibleElements + 1 →
      countFrom visible ms index count none =
        .inl (min (count + ms.countP (isVisible visible)) (maxVisibleElements + 1)) := by
  intro ms
  induction ms with
  | nil =>
    intro index count hcount
    rw [List.countP_nil, Nat.add_zero, Nat.min_eq_left hcount]
    rfl
  | cons m ms ih =>
    intro index count hcount
    unfold countFrom
    simp only [Timer.overtime]
    by_cases hmax : count > maxVisibleElements
    · rw [if_pos hmax, ih _ _ hcount, List.countP_cons]
      congr 1
      omega
    · rw [if_neg hmax]
      cases hvisible : isVisible visible m with
      | true =>
        rw [if_pos rfl, ih _ _ (by omega), List.countP_cons_of_pos hvisible]
        congr 1
        omega
      | false =>
        rw [if_neg Bool.false_ne_true, ih _ _ hcount,
          List.countP_cons_of_neg (by rw [hvisible]; exact Bool.false_ne_true)]

/-- How many matches are counted. -/
def visibleCount (visible : NodeId → Bool) (s : Script) : Nat :=
  min (s.foundMatches.countP (isVisible visible)) (maxVisibleElements + 1)

theorem countVisibleMatches_none (visible : NodeId → Bool) {s : Script}
    (hiterator : s.visibleMatchesCountIndexIterator = 0) :
    s.countVisibleMatches visible none =
      ({ s with
        visibleMatchCount := s.visibleCount visible
        visibleMatchesCountIndexIterator := 0
        lastCounted := s.foundMatches.map (isVisible visible) }, some (s.visibleCount visible)) := by
  unfold countVisibleMatches visibleCount
  simp only [hiterator, List.drop_zero]
  rw [countFrom_none visible s.foundMatches 0 0 (Nat.zero_le _), Nat.zero_add]

/-! ## The visible match at an index -/

theorem visibleMatchAt_spec (visible : NodeId → Bool) : ∀ (ms : List Match) (k : Nat),
    k < ms.countP (isVisible visible) →
      ∃ m, ms[visibleMatchAt visible ms k]? = some m ∧ isVisible visible m = true ∧
        (ms.take (visibleMatchAt visible ms k)).countP (isVisible visible) = k ∧
        (ms.filter (isVisible visible))[k]? = some m := by
  intro ms
  induction ms with
  | nil =>
    intro k hk
    rw [List.countP_nil] at hk
    exact absurd hk (Nat.not_lt_zero k)
  | cons m ms ih =>
    intro k hk
    unfold visibleMatchAt
    cases hvisible : isVisible visible m with
    | true =>
      rw [List.countP_cons_of_pos hvisible] at hk
      rw [if_pos rfl, List.filter_cons_of_pos hvisible]
      cases k with
      | zero => exact ⟨m, rfl, hvisible, rfl, rfl⟩
      | succ k =>
        obtain ⟨m', hat, hvisible', hbefore, hfilter⟩ := ih k (Nat.lt_of_succ_lt_succ hk)
        refine ⟨m', hat, hvisible', ?_, hfilter⟩
        rw [List.take_succ_cons, List.countP_cons_of_pos hvisible, hbefore]
    | false =>
      have hnot : ¬ isVisible visible m = true := by
        rw [hvisible]
        exact Bool.false_ne_true
      rw [List.countP_cons_of_neg hnot] at hk
      rw [if_neg Bool.false_ne_true, List.filter_cons_of_neg hnot]
      obtain ⟨m', hat, hvisible', hbefore, hfilter⟩ := ih k hk
      refine ⟨m', hat, hvisible', ?_, hfilter⟩
      rw [List.take_succ_cons, List.countP_cons_of_neg hnot, hbefore]

theorem wrapIndex_lt (s : Script) {count : Nat} (hcount : 0 < count) {index : Int}
    (hindex : 0 ≤ index) : s.wrapIndex count index < count := by
  unfold wrapIndex
  split
  · split <;> omega
  · omega

/-! ## Classes -/

theorem modifyNodes_of_not_mem (f : NodeData → NodeData) {n : NodeId} : ∀ (m : Match) (s : Script),
    n ∉ m → (m.foldl (fun s node => s.modifyNode node f) s).dom.data n = s.dom.data n := by
  intro m
  induction m with
  | nil =>
    intro s _
    rfl
  | cons c m ih =>
    intro s hn
    rw [List.mem_cons, not_or] at hn
    rw [List.foldl_cons, ih _ hn.2]
    exact Function.update_of_ne hn.1 ..

/-- What `f` makes true of a node is true of the nodes it has changed, and still
of those it was true of. -/
theorem modifyNodes_of_mem {f : NodeData → NodeData} {P : NodeData → Prop} (hf : ∀ d, P (f d))
    {n : NodeId} : ∀ (m : Match) (s : Script), n ∈ m ∨ P (s.dom.data n) →
      P ((m.foldl (fun s node => s.modifyNode node f) s).dom.data n) := by
  intro m
  induction m with
  | nil =>
    intro s h
    exact h.resolve_left List.not_mem_nil
  | cons c m ih =>
    intro s h
    rw [List.foldl_cons]
    apply ih
    by_cases hc : n = c
    · subst hc
      right
      show P (Function.update s.dom.data n _ n)
      rw [Function.update_self]
      exact hf _
    · rcases h with h | h
      · exact .inl ((List.mem_cons.1 h).resolve_left hc)
      · right
        show P (Function.update s.dom.data c _ n)
        rw [Function.update_of_ne hc]
        exact h

theorem not_mem_removeClass (className : String) (d : NodeData) :
    className ∉ (removeClass className d).classList := by
  unfold removeClass
  intro hmem
  have hne := (List.mem_filter.1 hmem).2
  exact of_decide_eq_true hne rfl

theorem mem_addClass (className : String) (d : NodeData) :
    className ∈ (addClass className d).classList := by
  unfold addClass
  split
  · next hmem => exact hmem
  · exact List.mem_append_right _ (List.mem_singleton_self _)

/-- The classes of nodes change nothing else. -/
theorem modifyNodes_frame (f : NodeData → NodeData) : ∀ (m : Match) (s : Script),
    ∃ dom, m.foldl (fun s n => s.modifyNode n f) s = { s with dom := dom } := by
  intro m
  induction m with
  | nil =>
    intro s
    exact ⟨s.dom, rfl⟩
  | cons n m ih =>
    intro s
    rw [List.foldl_cons]
    obtain ⟨dom, hrest⟩ := ih (s.modifyNode n f)
    exact ⟨dom, hrest⟩

theorem removeSelection_frame (s : Script) :
    ∃ dom, s.removeSelection = { s with dom := dom } := by
  unfold removeSelection
  split
  · exact modifyNodes_frame _ _ _
  · exact ⟨s.dom, rfl⟩

/-! ## The invariant -/

/-- What is selected. While a search is in progress nothing is. -/
structure SelectionInv (s : Script) : Prop where
  uncounted : s.searchInProgress = true → s.visibleMatchCount = 0 ∧
    s.selectedMatchIndex = -1 ∧ s.selectedVisibleMatchIndex = -1
  iterator : s.visibleMatchCount ≠ 0 → s.visibleMatchesCountIndexIterator = 0
  unselected : s.selectedMatchIndex < 0 → s.selectedMatchIndex = -1
  selected : ∀ k : Nat, s.selectedMatchIndex = k →
    k < s.foundMatches.length ∧ s.lastCounted.length = s.foundMatches.length
  highlighted : ∀ n ∈ s.foundMatches.flatten, cssClassNameSelect ∈ (s.dom.data n).classList →
    ∃ m, s.getCurrentSelectedMatch = some m ∧ n ∈ m

namespace SelectionInv

variable {s : Script}

theorem of_unselected (hbare : s.Bare)
    (hindex : s.selectedMatchIndex = -1 ∧ s.selectedVisibleMatchIndex = -1)
    (hcount : s.searchInProgress = true → s.visibleMatchCount = 0)
    (hiterator : s.visibleMatchCount ≠ 0 → s.visibleMatchesCountIndexIterator = 0) :
    s.SelectionInv where
  uncounted hprogress := ⟨hcount hprogress, hindex⟩
  iterator := hiterator
  unselected _ := hindex.1
  selected k hk := by
    rw [hindex.1] at hk
    omega
  highlighted n hn hclass := absurd hclass (hbare n hn)

theorem bare (h : s.SelectionInv) (hindex : s.selectedMatchIndex = -1) : s.Bare := by
  intro n hn hclass
  obtain ⟨m, hm, -⟩ := h.highlighted n hn hclass
  unfold getCurrentSelectedMatch at hm
  rw [hindex, if_pos (by decide)] at hm
  cases hm

/-- Without its selection no match is highlighted. -/
theorem bare_removeSelection (h : s.SelectionInv) : s.removeSelection.Bare := by
  obtain ⟨dom, hframe⟩ := s.removeSelection_frame
  intro n hn hclass
  have hfound : n ∈ s.foundMatches.flatten := by
    rw [hframe] at hn
    exact hn
  unfold removeSelection at hclass
  cases hm : s.getCurrentSelectedMatch with
  | none =>
    rw [hm] at hclass
    obtain ⟨m, hm', -⟩ := h.highlighted n hfound hclass
    rw [hm] at hm'
    cases hm'
  | some m =>
    rw [hm] at hclass
    simp only at hclass
    by_cases hin : n ∈ m
    · exact modifyNodes_of_mem (P := fun d => cssClassNameSelect ∉ d.classList)
        (not_mem_removeClass cssClassNameSelect) m s (.inl hin) hclass
    · unfold removeSelectHighlight at hclass
      rw [modifyNodes_of_not_mem _ m s hin] at hclass
      obtain ⟨m', hm', hin'⟩ := h.highlighted n hfound hclass
      rw [hm] at hm'
      cases hm'
      exact hin hin'

end SelectionInv

/-! ## Selecting -/

/-- The state without its selection, and counted again. -/
def recounted (visible : NodeId → Bool) (s : Script) : Script :=
  { s.removeSelection with
    visibleMatchCount := s.visibleCount visible
    visibleMatchesCountIndexIterator := 0
    lastCounted := s.foundMatches.map (isVisible visible) }

/-- The state with this match selected. -/
def withSelection (visible : NodeId → Bool) (s : Script) (total k : Nat) (m : Match) : Script :=
  addSelectHighlight
    { s.recounted visible with selectedMatchIndex := total, selectedVisibleMatchIndex := k } m

theorem selectMatch_cases (visible : NodeId → Bool) (count index : Nat) {s : Script} {m : Match}
    {total : Nat} (htotal : visibleMatchAt visible s.foundMatches index = total)
    (hat : s.foundMatches[total]? = some m) :
    (s.selectMatch visible count index).1 =
        { s with
          selectedMatchIndex := total, selectedVisibleMatchIndex := index }.addSelectHighlight m ∧
      (m = [] → (s.selectMatch visible count index).2 = .threw) ∧
      (m ≠ [] → ∃ context,
        (s.selectMatch visible count index).2 = .returned ⟨count, index, context⟩) := by
  have hselected : getCurrentSelectedMatch { s with
      selectedMatchIndex := total, selectedVisibleMatchIndex := index } = some m := by
    unfold getCurrentSelectedMatch
    dsimp only
    rw [if_neg (by omega), Int.toNat_natCast]
    exact hat
  unfold selectMatch
  simp only
  rw [htotal, hselected]
  cases m with
  | nil => exact ⟨rfl, fun _ => rfl, fun hne => absurd rfl hne⟩
  | cons n m => exact ⟨rfl, nofun, fun _ => ⟨_, rfl⟩⟩

/-- What a valid index selects: the visible match it stands for, or none where
none is visible. -/
theorem select_cases (visible : NodeId → Bool) {s : Script} (h : s.SelectionInv) {index : Int}
    (hvalid : ¬ (index ≥ s.visibleMatchCount ∨ index < 0)) :
    (s.foundMatches.countP (isVisible visible) = 0 ∧
      s.selectAndScrollToVisibleMatch visible index =
        ({ s.recounted visible with selectedMatchIndex := -1, selectedVisibleMatchIndex := -1 },
          .returned ⟨0, -1, none⟩)) ∨
    ∃ (total k : Nat) (m : Match), k = s.wrapIndex (s.visibleCount visible) index ∧
      k < s.visibleCount visible ∧ s.foundMatches[total]? = some m ∧ isVisible visible m = true ∧
      (s.foundMatches.take total).countP (isVisible visible) = k ∧
      (s.foundMatches.filter (isVisible visible))[k]? = some m ∧
      (s.selectAndScrollToVisibleMatch visible index).1 = s.withSelection visible total k m ∧
      (m = [] → (s.selectAndScrollToVisibleMatch visible index).2 = .threw) ∧
      (m ≠ [] → ∃ context, (s.selectAndScrollToVisibleMatch visible index).2 =
        .returned ⟨s.visibleCount visible, k, context⟩) := by
  have hfound : s.removeSelection.foundMatches = s.foundMatches := by
    obtain ⟨dom, hframe⟩ := s.removeSelection_frame
    rw [hframe]
  have hiterator : s.removeSelection.visibleMatchesCountIndexIterator = 0 := by
    obtain ⟨dom, hframe⟩ := s.removeSelection_frame
    rw [hframe]
    exact h.iterator (by omega)
  have hwrap : (s.recounted visible).wrapIndex (s.visibleCount visible) index =
      s.wrapIndex (s.visibleCount visible) index := by
    obtain ⟨dom, hframe⟩ := s.removeSelection_frame
    unfold recounted
    rw [hframe]
    rfl
  have hcounted : s.removeSelection.countVisibleMatches visible none =
      (s.recounted visible, some (s.visibleCount visible)) := by
    rw [countVisibleMatches_none visible hiterator]
    unfold recounted visibleCount
    dsimp only
    rw [hfound]
  have hmatches : (s.recounted visible).foundMatches = s.foundMatches := hfound
  unfold selectAndScrollToVisibleMatch
  rw [if_neg hvalid, hcounted]
  simp only
  by_cases hzero : s.visibleCount visible = 0
  · rw [if_pos hzero]
    unfold visibleCount at hzero
    exact .inl ⟨by omega, rfl⟩
  · right
    rw [if_neg hzero, hwrap]
    have hnonneg : 0 ≤ index := by omega
    have hlt := s.wrapIndex_lt (Nat.pos_of_ne_zero hzero) hnonneg
    generalize s.wrapIndex (s.visibleCount visible) index = k at hlt
    have hle : s.visibleCount visible ≤ s.foundMatches.countP (isVisible visible) :=
      Nat.min_le_left _ _
    obtain ⟨m, hat, hvisible, hbefore, hfilter⟩ :=
      visibleMatchAt_spec visible s.foundMatches k (Nat.lt_of_lt_of_le hlt hle)
    refine ⟨visibleMatchAt visible s.foundMatches k, k, m, rfl, hlt, hat, hvisible, hbefore, hfilter,
      ?_⟩
    refine selectMatch_cases visible (s.visibleCount visible) k ?_ ?_
    · rw [hmatches]
    · rw [hmatches]
      exact hat

/-- Recounting and selecting change the classes, the counts and the indices. -/
theorem recounted_frame (visible : NodeId → Bool) (s : Script) :
    ∃ dom, s.recounted visible =
      { s with
        dom := dom
        visibleMatchCount := s.visibleCount visible
        visibleMatchesCountIndexIterator := 0
        lastCounted := s.foundMatches.map (isVisible visible) } := by
  obtain ⟨dom, hframe⟩ := s.removeSelection_frame
  unfold recounted
  rw [hframe]
  exact ⟨dom, rfl⟩

theorem withSelection_frame (visible : NodeId → Bool) (s : Script) (total k : Nat) (m : Match) :
    ∃ dom, s.withSelection visible total k m =
      { s with
        dom := dom
        visibleMatchCount := s.visibleCount visible
        visibleMatchesCountIndexIterator := 0
        lastCounted := s.foundMatches.map (isVisible visible)
        selectedMatchIndex := total
        selectedVisibleMatchIndex := k } := by
  unfold withSelection addSelectHighlight
  obtain ⟨dom, hframe⟩ := s.recounted_frame visible
  rw [hframe]
  exact modifyNodes_frame _ _ _

namespace SelectionInv

variable {s : Script}

theorem bare_recounted (h : s.SelectionInv) (visible : NodeId → Bool) :
    (s.recounted visible).Bare := by
  intro n hn
  exact h.bare_removeSelection n hn

/-- Selecting a match leaves the nodes of the others without the highlight. -/
theorem not_highlighted (h : s.SelectionInv) (visible : NodeId → Bool) (total k : Nat) {m : Match}
    {n : NodeId} (hn : n ∈ s.foundMatches.flatten) (hnot : n ∉ m) :
    cssClassNameSelect ∉ ((s.withSelection visible total k m).dom.data n).classList := by
  have hfound : n ∈ (s.recounted visible).foundMatches.flatten := by
    obtain ⟨dom, hframe⟩ := s.recounted_frame visible
    rw [hframe]
    exact hn
  unfold withSelection addSelectHighlight
  rw [modifyNodes_of_not_mem _ m _ hnot]
  exact h.bare_recounted visible n hfound

theorem highlighted_withSelection (s : Script) (visible : NodeId → Bool) (total k : Nat)
    {m : Match} {n : NodeId} (hn : n ∈ m) :
    cssClassNameSelect ∈ ((s.withSelection visible total k m).dom.data n).classList :=
  modifyNodes_of_mem (P := fun d => cssClassNameSelect ∈ d.classList)
    (mem_addClass cssClassNameSelect) m _ (.inl hn)

/-- A count has been made, so no search is in progress. -/
theorem searchInProgress_of_valid (h : s.SelectionInv) {index : Int}
    (hvalid : ¬ (index ≥ s.visibleMatchCount ∨ index < 0)) : s.searchInProgress = false := by
  by_contra htrue
  have hzero := (h.uncounted (Bool.not_eq_false _ ▸ htrue)).1
  omega

theorem select (h : s.SelectionInv) (visible : NodeId → Bool) (index : Int) :
    (s.selectAndScrollToVisibleMatch visible index).1.SelectionInv := by
  by_cases hinvalid : index ≥ s.visibleMatchCount ∨ index < 0
  · unfold selectAndScrollToVisibleMatch
    rw [if_pos hinvalid]
    exact h
  · have hprogress := h.searchInProgress_of_valid hinvalid
    have hnotInProgress : s.searchInProgress = true → False := by
      intro htrue
      exact Bool.false_ne_true (hprogress.symm.trans htrue)
    rcases select_cases visible h hinvalid with ⟨-, hselect⟩ |
      ⟨total, k, m, -, -, hat, -, -, -, hselect, -, -⟩
    · have hbare := h.bare_recounted visible
      obtain ⟨dom, hframe⟩ := s.recounted_frame visible
      rw [hframe] at hbare
      rw [hselect, hframe]
      exact .of_unselected hbare ⟨rfl, rfl⟩ (fun htrue => (hnotInProgress htrue).elim)
        fun _ => rfl
    · have hnot := fun n => h.not_highlighted visible total k (m := m) (n := n)
      obtain ⟨dom, hframe⟩ := s.withSelection_frame visible total k m
      rw [hframe] at hnot
      rw [hselect, hframe]
      refine ⟨fun htrue => (hnotInProgress htrue).elim, fun _ => rfl, ?_, ?_, ?_⟩
      · intro hneg
        dsimp only at hneg
        omega
      · intro k' hk'
        have hk' : total = k' := Int.ofNat.inj hk'
        obtain ⟨hlt, -⟩ := List.getElem?_eq_some_iff.1 hat
        exact ⟨hk' ▸ hlt, List.length_map _⟩
      · intro n hn hclass
        refine ⟨m, ?_, ?_⟩
        · unfold getCurrentSelectedMatch
          dsimp only
          rw [if_neg (by omega), Int.toNat_natCast]
          exact hat
        · by_contra hin
          exact hnot n hn hin hclass

end SelectionInv

end Script

end IosChrome.FindInPage

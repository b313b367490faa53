import IosChrome.FindInPage.SearchRuns

/-!
# The index reported for a selection

`selectAndScrollToVisibleMatch` numbers matches in two ways: among all of them
(`selectedMatchIndex_`) and among those visible (`selectedVisibleMatchIndex_`).
Its callers know the second numbering only. A valid index is answered in it;
an invalid one is answered with `selectedMatchIndex_`. The two agree as long as
no match before the selected one is hidden.
-/

namespace IosChrome.FindInPage

open IosChrome.Lib

/-- The position of the selected match among the matches that were visible when
last counted, or -1. -/
def Script.selectedPosition (s : Script) : Int :=
  if s.selectedMatchIndex < 0 then -1
  else ((s.lastCounted.take s.selectedMatchIndex.toNat).count true : Nat)

/-- The match has the highlight of a selected one. -/
def Script.Highlighted (s : Script) (m : Match) : Prop :=
  m ≠ [] ∧ ∀ n ∈ m, cssClassNameSelect ∈ (s.dom.data n).classList

def Script.NotHighlighted (s : Script) (m : Match) : Prop :=
  ∀ n ∈ m, cssClassNameSelect ∉ (s.dom.data n).classList

/-- There is no visible match at the index, as far as matches are counted. -/
def Script.Invalid (s : Script) (index : Int) : Prop :=
  index ≥ s.visibleMatchCount ∨ index < 0

/-- The match at the index among the visible ones is highlighted, and no other. -/
def Script.HighlightedAlone (visible : NodeId → Bool) (s : Script) (index : Int) : Prop :=
  ∃ (k : Nat) (m : Match), s.foundMatches[k]? = some m ∧ Script.isVisible visible m = true ∧
    (((s.foundMatches.take k).countP (Script.isVisible visible) : Nat) : Int) = index ∧
    s.Highlighted m ∧ ∀ j m', j ≠ k → s.foundMatches[j]? = some m' → s.NotHighlighted m'

/-- What a call reports is the current selection, numbered among the visible
matches; and what it selects is highlighted. -/
def SelectionReported (visible : NodeId → Bool) (index : Int) (s : Script) : Prop :=
  ∃ result, (s.selectAndScrollToVisibleMatch visible index).2 = .returned result ∧
    result.index = (s.selectAndScrollToVisibleMatch visible index).1.selectedPosition ∧
    (s.Invalid index → (s.selectAndScrollToVisibleMatch visible index).1 = s) ∧
    (¬ s.Invalid index → (∃ m ∈ s.foundMatches, Script.isVisible visible m = true) →
      0 ≤ result.index ∧ result.index < result.matchCount ∧
        (s.selectAndScrollToVisibleMatch visible index).1.HighlightedAlone visible result.index)

/-- The visible match a valid index stands for. -/
def Script.requestedMatch (visible : NodeId → Bool) (s : Script) (index : Int) : Option Match :=
  (s.foundMatches.filter (Script.isVisible visible))[s.wrapIndex (s.visibleCount visible) index]?

/-! ## Invalid indices -/

theorem Script.selectedPosition_eq_iff {s : Script} (h : s.SelectionInv) :
    s.selectedMatchIndex = s.selectedPosition ↔
      ∀ counted ∈ s.lastCounted.take s.selectedMatchIndex.toNat, counted = true := by
  unfold selectedPosition
  by_cases hneg : s.selectedMatchIndex < 0
  · rw [if_pos hneg, h.unselected hneg]
    exact ⟨fun _ => nofun, fun _ => rfl⟩
  · rw [if_neg hneg]
    obtain ⟨k, hk⟩ := Int.eq_ofNat_of_zero_le (Int.not_lt.1 hneg)
    obtain ⟨hlt, hlength⟩ := h.selected k hk
    have htake : (s.lastCounted.take k).length = k := by
      rw [List.length_take, hlength]
      omega
    rw [hk, Int.toNat_natCast]
    constructor
    · intro heq
      have hcount : (s.lastCounted.take k).count true = (s.lastCounted.take k).length := by
        rw [htake]
        exact (Int.ofNat.inj heq).symm
      intro counted hcounted
      exact (List.count_eq_length.1 hcount counted hcounted).symm
    · intro hall
      have hcount := List.count_eq_length.2 fun counted hcounted => (hall counted hcounted).symm
      rw [hcount, htake]

theorem selectionReported_of_invalid {s : Script} (h : s.SelectionInv) (visible : NodeId → Bool)
    {index : Int} (hinvalid : s.Invalid index) :
    SelectionReported visible index s ↔
      ∀ counted ∈ s.lastCounted.take s.selectedMatchIndex.toNat, counted = true := by
  have hselect : s.selectAndScrollToVisibleMatch visible index =
      (s, .returned ⟨s.visibleMatchCount, s.selectedMatchIndex, none⟩) := by
    unfold Script.selectAndScrollToVisibleMatch
    exact if_pos hinvalid
  unfold SelectionReported
  rw [hselect, ← Script.selectedPosition_eq_iff h]
  constructor
  · rintro ⟨result, hresult, hindex, -⟩
    cases hresult
    exact hindex
  · intro heq
    exact ⟨_, rfl, heq, fun _ => rfl, fun hvalid => absurd hinvalid hvalid⟩

/-! ## Valid indices -/

/-- Different matches have different nodes. -/
theorem not_mem_of_ne {ms : List Match} (hnodup : ms.flatten.Nodup) {j k : Nat} {m m' : Match}
    (hj : ms[j]? = some m') (hk : ms[k]? = some m) (hne : j ≠ k) {n : NodeId} (hn : n ∈ m') :
    n ∉ m := by
  have hdisjoint := List.pairwise_iff_getElem.1 (List.nodup_flatten.1 hnodup).2
  obtain ⟨hjlt, rfl⟩ := List.getElem?_eq_some_iff.1 hj
  obtain ⟨hklt, rfl⟩ := List.getElem?_eq_some_iff.1 hk
  rcases Nat.lt_or_gt_of_ne hne with hlt | hlt
  · exact hdisjoint j k hjlt hklt hlt hn
  · exact fun hn' => hdisjoint k j hklt hjlt hlt hn' hn

theorem highlightedAlone_withSelection {page : Page} {s : Script} (h : ScriptInv page s)
    (visible : NodeId → Bool) {total k : Nat} {m : Match} (hat : s.foundMatches[total]? = some m)
    (hvisible : Script.isVisible visible m = true)
    (hbefore : (s.foundMatches.take total).countP (Script.isVisible visible) = k) (hm : m ≠ []) :
    (s.withSelection visible total k m).HighlightedAlone visible k := by
  obtain ⟨bound, hinv, -⟩ := h.inv
  have hfound : (s.withSelection visible total k m).foundMatches = s.foundMatches := by
    obtain ⟨dom, hframe⟩ := s.withSelection_frame visible total k m
    rw [hframe]
  unfold Script.HighlightedAlone
  rw [hfound]
  refine ⟨total, m, hat, hvisible, congrArg Nat.cast hbefore, ⟨hm, ?_⟩, ?_⟩
  · intro n hn
    exact Script.SelectionInv.highlighted_withSelection s visible total k hn
  · intro j m' hne hj n hn
    exact h.selection.not_highlighted visible total k
      (List.mem_flatten.2 ⟨m', List.mem_of_getElem? hj, hn⟩)
      (not_mem_of_ne hinv.matches_nodup hj hat hne hn)

theorem selectionReported_of_valid {page : Page} {s : Script} (h : ScriptInv page s)
    (visible : NodeId → Bool) {index : Int} (hvalid : ¬ s.Invalid index) :
    SelectionReported visible index s ↔
      ∀ m, s.requestedMatch visible index = some m → m ≠ [] := by
  unfold SelectionReported Script.requestedMatch
  rcases Script.select_cases visible h.selection hvalid with ⟨hnone, hselect⟩ |
    ⟨total, k, m, hk, hlt, hat, hvisible, hbefore, hfilter, hselect, hthrew, hreturned⟩
  · -- No match is visible.
    have hnil : s.foundMatches.filter (Script.isVisible visible) = [] := by
      rw [← List.length_eq_zero_iff, ← List.countP_eq_length_filter]
      exact hnone
    rw [hselect, hnil]
    constructor
    · intro _
      exact nofun
    · intro _
      refine ⟨_, rfl, rfl, fun hinvalid => absurd hinvalid hvalid, ?_⟩
      rintro - ⟨m, hm, hvisible⟩
      exact absurd hvisible (List.countP_eq_zero.1 hnone m hm)
  · rw [← hk, hfilter]
    constructor
    · rintro ⟨result, hresult, -⟩ m' ⟨⟩ rfl
      rw [hthrew rfl] at hresult
      cases hresult
    · intro hall
      have hm := hall m rfl
      obtain ⟨context, hresult⟩ := hreturned hm
      refine ⟨_, hresult, ?_, fun hinvalid => absurd hinvalid hvalid, ?_⟩
      · rw [hselect]
        obtain ⟨dom, hframe⟩ := s.withSelection_frame visible total k m
        rw [hframe]
        unfold Script.selectedPosition
        dsimp only
        rw [if_neg (by omega), Int.toNat_natCast, ← List.map_take, List.count_eq_countP,
          List.countP_map, ← hbefore]
        congr 1
        apply List.countP_congr
        intro m' _
        simp
      · intro _ _
        refine ⟨Int.natCast_nonneg k, by dsimp only; omega, ?_⟩
        rw [hselect]
        exact highlightedAlone_withSelection h visible hat hvisible hbefore hm

/-- **When a call reports the selection** in the numbering of the visible
matches: with a valid index where the match it stands for has a node to scroll
to, with an invalid one where no match before the selected one was hidden when
they were last counted. -/
theorem selectionReported_iff (page : Page) (mapping : CaseMapping) (calls : List ScriptCall)
    (visible : NodeId → Bool) (index : Int) :
    SelectionReported visible index ((scriptMachine mapping page).exec page.start calls) ↔
      (((scriptMachine mapping page).exec page.start calls).Invalid index →
        ∀ counted ∈ ((scriptMachine mapping page).exec page.start calls).lastCounted.take
          ((scriptMachine mapping page).exec page.start calls).selectedMatchIndex.toNat,
          counted = true) ∧
      (¬ ((scriptMachine mapping page).exec page.start calls).Invalid index →
        ∀ m, ((scriptMachine mapping page).exec page.start calls).requestedMatch visible index =
          some m → m ≠ []) := by
  have h := ScriptInv.exec page mapping calls
  generalize (scriptMachine mapping page).exec page.start calls = s at h ⊢
  by_cases hinvalid : s.Invalid index
  · rw [selectionReported_of_invalid h.selection visible hinvalid]
    exact ⟨fun hall => ⟨fun _ => hall, fun hvalid => absurd hinvalid hvalid⟩, fun hor => hor.1 hinvalid⟩
  · rw [selectionReported_of_valid h visible hinvalid]
    exact ⟨fun hall => ⟨fun hvalid => absurd hvalid hinvalid, fun _ => hall⟩, fun hor => hor.2 hinvalid⟩

/-- The first of two matches is hidden, and the second selected. -/
private def secondSelected : List ScriptCall :=
  [.findString [unit 'x'] none fun n => n ≠ 6,
    .selectAndScrollToVisibleMatch 0 fun n => n ≠ 6]

private def twoTexts : Page :=
  .ofLeaves [⟨3, "#text", "", [unit 'x'], [], none⟩, ⟨3, "#text", "", [unit 'x'], [], none⟩]

/-- The index 5 is answered with the second of all matches. -/
theorem not_selectionReported_twoTexts :
    ¬ SelectionReported (fun n => n ≠ 6) 5
      ((scriptMachine ⟨id, id, fun _ => Nat.le_refl _⟩ twoTexts).exec twoTexts.start
        secondSelected) := by
  rw [selectionReported_of_invalid]
  · decide +kernel
  · exact (ScriptInv.exec twoTexts _ _).selection
  · left
    decide +kernel

end IosChrome.FindInPage

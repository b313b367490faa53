import IosChrome.Tabs.Observer

/-!
# Which tab becomes active when one is detached

`DetermineNewActiveIndex` works on indices of the list before the removal. It
searches for a child of the removed tab, then for a sibling, with a modular
scan that starts behind the removed tab and may wrap around to the front, and
`GetValidIndex` shifts what was found into the list without the tab.

`successor` says the same without indices: the tabs in the order of the scan
(`scanAfter`), the first one of them opened by the removed tab, else the first
one with its opener, and so on. `determineNewActiveIndex_successor` is the
refinement, in two steps: the search finds what `find?` finds in the scan
(`getIndexOfNextWebStateOpenedBy_find`), and a shifted index points at the
element it pointed at before (`current_getValidIndex`).
-/

namespace IosChrome.Tabs

namespace WebStateList

variable {W : Type}

/-- The other tabs, scanned cyclically from the one after index `i`. -/
def scanAfter (l : WebStateList W) (i : Nat) : List (WebStateWrapper W) :=
  l.webStateWrappers.drop (i + 1) ++ l.webStateWrappers.take i

/-- The neighbour that follows index `i`, or precedes it at the end of the list. -/
def neighbour (l : WebStateList W) (i : Nat) : Option W :=
  if i + 1 < l.webStates.length then l.webStates[i + 1]? else l.webStates[i - 1]?

variable [DecidableEq W]

/-- The first tab in the order of the scan that `opener` opened. -/
def firstOpenedBy (l : WebStateList W) (opener : W) (i : Nat) : Option (WebStateWrapper W) :=
  (l.scanAfter i).find? fun wrapper => wrapper.opener.opener = some opener

/-- The tab that takes over from the active tab at index `i`. -/
def successor (l : WebStateList W) (i : Nat) (removed : WebStateWrapper W) : Option W :=
  match l.firstOpenedBy removed.webState i with
  | some child => some child.webState
  | none =>
    match removed.opener.opener with
    | none => l.neighbour i
    | some opener =>
      match l.firstOpenedBy opener i with
      | some sibling => some sibling.webState
      | none => some opener

/-! ## The scan -/

/-- The loop that asks for the first opened tab is a search. -/
theorem nthOpenedLoop_one (opened : Nat → Bool) (indices : List Nat) (found : Int) :
    nthOpenedLoop opened indices 1 found =
      match indices.find? opened with
      | none => found
      | some index => index := by
  induction indices with
  | nil => rfl
  | cons index indices ih =>
    rw [nthOpenedLoop, List.find?_cons]
    cases hopened : opened index with
    | true => rfl
    | false =>
      rw [if_neg Bool.false_ne_true]
      exact ih

omit [DecidableEq W] in
/-- What the scan finds at each of the indices it visits. Behind the removed tab the index is
the place in the scan plus `i + 1`; once the scan has passed the end of the list, the modulus
takes the length off. -/
theorem scanAfter_map (l : WebStateList W) {i : Nat} (hi : i < l.webStateWrappers.length) :
    (cyclicIndices i l.webStateWrappers.length).map (l.webStateWrappers[·]?) =
      (l.scanAfter i).map some := by
  unfold cyclicIndices scanAfter
  rw [List.map_map]
  refine List.ext_getElem? fun k => ?_
  rw [List.getElem?_map, List.getElem?_map, List.getElem?_append, List.length_drop,
    List.getElem?_drop, List.getElem?_take]
  by_cases hk : k < l.webStateWrappers.length - 1
  · rw [List.getElem?_range' hk, Option.map_some]
    show some l.webStateWrappers[(i + (1 + 1 * k)) % l.webStateWrappers.length]? = _
    by_cases hend : k < l.webStateWrappers.length - (i + 1)
    · have hmod : (i + (1 + 1 * k)) % l.webStateWrappers.length = i + 1 + k := by
        rw [Nat.mod_eq_of_lt (by omega)]
        omega
      rw [if_pos hend, hmod, List.getElem?_eq_getElem (by omega)]
      rfl
    · have hmod : (i + (1 + 1 * k)) % l.webStateWrappers.length =
          k - (l.webStateWrappers.length - (i + 1)) := by
        rw [Nat.mod_eq_sub_mod (by omega), Nat.mod_eq_of_lt (by omega)]
        omega
      rw [if_neg hend, if_pos (by omega), hmod, List.getElem?_eq_getElem (by omega)]
      rfl
  · rw [List.getElem?_eq_none (by rw [List.length_range']; omega), if_neg (by omega),
      if_neg (by omega)]
    rfl

omit [DecidableEq W] in
theorem scanAfter_eq (l : WebStateList W) {i : Nat} (hi : i < l.webStateWrappers.length) :
    l.scanAfter i =
      (cyclicIndices i l.webStateWrappers.length).filterMap (l.webStateWrappers[·]?) := by
  calc l.scanAfter i
    _ = ((l.scanAfter i).map some).filterMap id := by
      rw [List.filterMap_map, Function.id_comp, List.filterMap_some]
    _ = ((cyclicIndices i l.webStateWrappers.length).map (l.webStateWrappers[·]?)).filterMap id :=
      by rw [scanAfter_map l hi]
    _ = _ := by rw [List.filterMap_map, Function.id_comp]

theorem openedAt_eq (l : WebStateList W) (opener : W) (index : Nat) :
    l.openedAt opener none index =
      l.webStateWrappers[index]?.any fun wrapper => wrapper.opener.opener = some opener := by
  unfold openedAt
  cases l.webStateWrappers[index]? with
  | none => rfl
  | some wrapper =>
    show wrapper.wasOpenedBy opener none = decide (wrapper.opener.opener = some opener)
    unfold WebStateWrapper.wasOpenedBy
    by_cases hopened : wrapper.opener.opener = some opener
    · rw [if_neg (not_not.2 hopened), decide_eq_true hopened]
    · rw [if_pos hopened, decide_eq_false hopened]

/-- **The search finds the first tab of the scan that `opener` opened**, and gives its index in
the list. -/
theorem getIndexOfNextWebStateOpenedBy_find (l : WebStateList W) (opener : W) {i : Nat}
    (hi : i < l.webStateWrappers.length) :
    match l.firstOpenedBy opener i with
    | none => l.getIndexOfNextWebStateOpenedBy (some opener) i none = kInvalidIndex
    | some wrapper =>
      ∃ j : Nat, l.getIndexOfNextWebStateOpenedBy (some opener) i none = j ∧ j ≠ i ∧
        l.webStateWrappers[j]? = some wrapper := by
  have hsearch : l.getIndexOfNextWebStateOpenedBy (some opener) i none =
      match (cyclicIndices i l.webStateWrappers.length).find? (l.openedAt opener none) with
      | none => kInvalidIndex
      | some index => index := by
    have hc : l.ContainsIndex i := containsIndex_natCast.2 hi
    rw [getIndexOfNextWebStateOpenedBy, getIndexOfNthWebStateOpenedBy, if_pos hc,
      Int.toNat_natCast, nthOpenedLoop_one]
  have hopened : l.openedAt opener none = fun index =>
      l.webStateWrappers[index]?.any fun wrapper => wrapper.opener.opener = some opener :=
    funext fun index => l.openedAt_eq opener index
  rw [hsearch, firstOpenedBy, scanAfter_eq l hi, List.find?_filterMap, ← hopened]
  cases hfind : (cyclicIndices i l.webStateWrappers.length).find? (l.openedAt opener none) with
  | none => rfl
  | some j =>
    obtain ⟨hlt, hne⟩ := mem_cyclicIndices hi (List.mem_of_find?_eq_some hfind)
    have hj : l.webStateWrappers[j]? = some l.webStateWrappers[j] := List.getElem?_eq_getElem hlt
    show match l.webStateWrappers[j]? with | none => _ | some _ => _
    rw [hj]
    exact ⟨j, rfl, hne, hj⟩

/-! ## The shift -/

omit [DecidableEq W] in
/-- `GetValidIndex` points at the same element in the shorter list. -/
theorem current_getValidIndex (tabs : List W) {i j : Nat} (hne : j ≠ i) :
    Lib.current (tabs.eraseIdx i) (getValidIndex j i) = tabs[j]? := by
  rw [← Lib.current_natCast tabs j]
  exact Lib.current_eraseIdx tabs (by omega)

omit [DecidableEq W] in
/-- The next index after the removed one now holds the element that followed it, and the one
before it the element that preceded it. -/
theorem current_neighbour (l : WebStateList W) {i : Nat} (hi : i < l.webStates.length)
    (hmore : 1 < l.webStates.length) :
    Lib.current (l.webStates.eraseIdx i) (if (i : Int) = l.count - 1 then i - 1 else i) =
      l.neighbour i := by
  unfold neighbour count
  rw [← length_webStates]
  by_cases hlast : (i : Int) = l.webStates.length - 1
  · rw [if_pos hlast, if_neg (by omega), show ((i : Int) - 1) = ((i - 1 : Nat) : Int) by omega,
      Lib.current_natCast, List.getElem?_eraseIdx_of_lt (by omega)]
  · rw [if_neg hlast, if_pos (by omega), Lib.current_natCast,
      List.getElem?_eraseIdx_of_ge (by omega)]

/-- **The index chosen by the order controller is the successor's.** -/
theorem determineNewActiveIndex_successor {l : WebStateList W} (h : ListInv l) {i : Nat}
    {removed : WebStateWrapper W} (hi : l.webStateWrappers[i]? = some removed)
    (hactive : l.activeIndex = i) (hmore : 1 < l.count) :
    Lib.current (l.webStates.eraseIdx i) (l.determineNewActiveIndex l.activeIndex i) =
      l.successor i removed := by
  obtain ⟨hlt, hget⟩ := List.getElem?_eq_some_iff.1 hi
  have hlt' : i < l.webStates.length := by rwa [length_webStates]
  have hmore' : 1 < l.webStates.length := by
    unfold count at hmore
    rw [length_webStates]
    omega
  have htab : l.getWebStateAt i = some removed.webState := by
    rw [getWebStateAt, getWebStateWrapperAt_natCast, hi]
    rfl
  have hopener : l.getOpenerOfWebStateAt i = removed.opener := by
    rw [getOpenerOfWebStateAt, getWebStateWrapperAt_natCast, hi]
  -- what either search finds is a tab that has an index of its own in the shorter list
  have hshift : ∀ (wrapper : WebStateWrapper W) (j : Nat), j ≠ i →
      l.webStateWrappers[j]? = some wrapper →
      Lib.current (l.webStates.eraseIdx i) (getValidIndex j i) = some wrapper.webState := by
    intro wrapper j hne hj
    rw [current_getValidIndex l.webStates hne, webStates, List.getElem?_map, hj]
    rfl
  unfold determineNewActiveIndex successor
  rw [hactive, if_neg (by unfold kInvalidIndex; omega), if_neg (by omega),
    if_neg (not_not.2 rfl), htab, hopener]
  have hchild := l.getIndexOfNextWebStateOpenedBy_find removed.webState hlt
  cases hfirst : l.firstOpenedBy removed.webState i with
  | some child =>
    rw [hfirst] at hchild
    obtain ⟨j, hj, hne, hwrapper⟩ := hchild
    rw [hj]
    exact (congrArg _ (if_pos (by unfold kInvalidIndex; omega))).trans (hshift child j hne hwrapper)
  | none =>
    rw [hfirst] at hchild
    rw [hchild]
    refine (congrArg _ (if_neg (not_not.2 rfl))).trans ?_
    cases hremoved : removed.opener.opener with
    | none =>
      simp only [hremoved]
      exact l.current_neighbour hlt' hmore'
    | some opener =>
      have hsibling := l.getIndexOfNextWebStateOpenedBy_find opener hlt
      simp only [hremoved]
      cases hnext : l.firstOpenedBy opener i with
      | some sibling =>
        rw [hnext] at hsibling
        obtain ⟨j, hj, hne, hwrapper⟩ := hsibling
        rw [hj, if_pos (by unfold kInvalidIndex; omega)]
        exact hshift sibling j hne hwrapper
      | none =>
        rw [hnext] at hsibling
        rw [hsibling, if_neg (not_not.2 rfl)]
        -- the opener is another tab of the list
        obtain ⟨hmem, hother⟩ := (h.wrappers removed (List.mem_of_getElem? hi)).opener opener
          hremoved
        obtain ⟨j, hj, hjtab⟩ := getIndexOfWebState_of_mem hmem
        have hne : j ≠ i := by
          rintro rfl
          rw [webStates, List.getElem?_map, hi] at hjtab
          exact hother (Option.some.inj hjtab).symm
        rw [hj, current_getValidIndex l.webStates hne, hjtab]

end WebStateList

/-! ## Detaching -/

variable {W : Type} [DecidableEq W]

/-- The list after a detachment. -/
theorem step_detachWebStateAt {l : WebStateList W} {i : Nat} {removed : WebStateWrapper W}
    (hi : l.webStateWrappers[i]? = some removed) :
    (webStateListMachine W).step l (.detachWebStateAt i) = l.removeWrapperAt i := by
  have hat : l.getWebStateAt i = some removed.webState := by
    rw [WebStateList.getWebStateAt, WebStateList.getWebStateWrapperAt_natCast, hi]
    rfl
  exact Mutation.detachWebStateAtImpl_webStateList { webStateList := l } hat

/-- After a detachment no tab is active only if none was or no tab is left. -/
theorem removeWrapperAt_active_none_iff {l : WebStateList W} (h : ListInv l) {i : Nat}
    (hi : i < l.webStateWrappers.length) :
    (l.removeWrapperAt i).getActiveWebState = none ↔
      l.getActiveWebState = none ∨ (l.removeWrapperAt i).webStates = [] := by
  have hafter := (removeWrapperAt_inv h hi).active
  have hlength : (l.removeWrapperAt i).webStates.length = l.webStateWrappers.length - 1 := by
    rw [WebStateList.removeWrapperAt_webStates, Int.toNat_natCast,
      List.length_eraseIdx_of_lt (by rwa [WebStateList.length_webStates]),
      WebStateList.length_webStates]
  constructor
  · intro hnone
    by_cases hactive : l.activeIndex = kInvalidIndex
    · left
      rw [WebStateList.getActiveWebState_eq, hactive]
      exact Lib.current_of_neg _ (by unfold kInvalidIndex; omega)
    · right
      rw [← List.length_eq_zero_iff, hlength]
      by_contra hleft
      have hcount : l.count ≠ 1 := by
        unfold WebStateList.count
        omega
      obtain ⟨hlow, hhigh⟩ := determineNewActiveIndex_contains h hi hactive hcount
      rw [WebStateList.getActiveWebState_eq, WebStateList.removeWrapperAt_activeIndex,
        Lib.current, if_neg (by omega), List.getElem?_eq_none_iff, hlength] at hnone
      unfold WebStateList.count at hhigh
      omega
  · rintro (hnone | hempty)
    · have hactive : l.activeIndex = kInvalidIndex := by
        refine h.active.resolve_right fun hcontains => ?_
        obtain ⟨j, w, hj, _, hget, _⟩ := hcontains.getWebStateAt
        rw [WebStateList.getActiveWebState_eq, hj, Lib.current_natCast, hget] at hnone
        exact Option.some_ne_none w hnone
      rw [WebStateList.getActiveWebState_eq, WebStateList.removeWrapperAt_activeIndex, hactive,
        WebStateList.determineNewActiveIndex, if_pos rfl]
      exact Lib.current_of_neg _ (by decide)
    · rw [WebStateList.getActiveWebState_eq, hempty]
      unfold Lib.current
      split <;> rfl

/-- **`DetachWebStateAt` in every reachable list and at every index**: the other tabs stay in
order; another active tab stays active; the active tab hands over to its successor, which
exists while tabs remain. -/
theorem detachWebStateAt_selects {l : WebStateList W} (h : (webStateListMachine W).Reachable l)
    {i : Nat} {removed : WebStateWrapper W} (hi : l.webStateWrappers[i]? = some removed) :
    let l' := (webStateListMachine W).step l (.detachWebStateAt i)
    l'.webStates = l.webStates.eraseIdx i ∧
    (∀ active, l.getActiveWebState = some active → active ≠ removed.webState →
      l'.getActiveWebState = some active) ∧
    (l.getActiveWebState = some removed.webState → l'.webStates ≠ [] →
      l'.getActiveWebState = l.successor i removed ∧ (l.successor i removed).isSome) ∧
    (l'.getActiveWebState = none ↔ l.getActiveWebState = none ∨ l'.webStates = []) := by
  have hinv := reachable_inv h
  obtain ⟨hlt, hget⟩ := List.getElem?_eq_some_iff.1 hi
  have htab : l.webStates[i]? = some removed.webState := by
    rw [WebStateList.webStates, List.getElem?_map, hi]
    rfl
  have htabs := WebStateList.removeWrapperAt_webStates l i
  rw [Int.toNat_natCast] at htabs
  have hnone := removeWrapperAt_active_none_iff hinv hlt
  rw [step_detachWebStateAt hi]
  refine ⟨htabs, fun active hactive hne => ?_, fun hactive hmore => ?_, hnone⟩
  · rw [removeWrapperAt_getActiveWebState hinv hlt, hactive]
    intro hindex
    rw [WebStateList.getActiveWebState_eq, hindex, Lib.current_natCast, htab] at hactive
    exact hne (Option.some.inj hactive).symm
  · have hindex : l.activeIndex = i := by
      obtain ⟨hlt', hget'⟩ := List.getElem?_eq_some_iff.1 htab
      rw [WebStateList.getActiveWebState_eq, ← hget'] at hactive
      exact Lib.eq_of_current hinv.nodup hlt' hactive
    have hcount : 1 < l.count := by
      have hpos := List.length_pos_iff.2 hmore
      rw [htabs, List.length_eraseIdx_of_lt (by rwa [WebStateList.length_webStates]),
        WebStateList.length_webStates] at hpos
      unfold WebStateList.count
      omega
    have hsuccessor : (l.removeWrapperAt i).getActiveWebState = l.successor i removed := by
      rw [WebStateList.getActiveWebState_eq, WebStateList.removeWrapperAt_activeIndex, htabs]
      exact WebStateList.determineNewActiveIndex_successor hinv hi hindex hcount
    refine ⟨hsuccessor, Option.isSome_iff_ne_none.2 fun hgone => ?_⟩
    rw [← hsuccessor, hnone, hactive] at hgone
    exact hgone.elim (Option.some_ne_none _) hmore

/-- Tab 2 was opened by tab 1 and moved in front of it; tab 1, last and active, is detached, and
the scan wraps around to tab 2. -/
theorem detachWebStateAt_selects_wrapped :
    let l := (webStateListMachine Nat).exec {}
      [.insertWebState (fun _ => 0) 0 1 insertActivate .null,
        .insertWebState (fun _ => 0) 0 2 0 ⟨some 1, 0⟩, .moveWebStateAt 0 1]
    let l' := (webStateListMachine Nat).step l (.detachWebStateAt (1 : Nat))
    l'.webStates = l.webStates.eraseIdx 1 ∧
    (∀ active, l.getActiveWebState = some active → active ≠ 1 →
      l'.getActiveWebState = some active) ∧
    (l.getActiveWebState = some 1 → l'.webStates ≠ [] →
      l'.getActiveWebState = l.successor 1 { webState := 1 } ∧
        (l.successor 1 { webState := 1 }).isSome) ∧
    (l'.getActiveWebState = none ↔ l.getActiveWebState = none ∨ l'.webStates = []) :=
  have hlast : ((webStateListMachine Nat).exec {}
      [.insertWebState (fun _ => 0) 0 1 insertActivate .null,
        .insertWebState (fun _ => 0) 0 2 0 ⟨some 1, 0⟩,
        .moveWebStateAt 0 1]).webStateWrappers[1]? = some { webState := 1 } := by decide
  detachWebStateAt_selects ⟨{}, _, rfl, by decide, rfl⟩ hlast

end IosChrome.Tabs

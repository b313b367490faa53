import IosChrome.Tabs.Observer

/-!
# What insertions and moves leave alone

`InsertWebStateImpl` and `MoveWebStateAtImpl` adjust the active index by hand:
an insertion pushes it up when it is not below the new tab, a move shifts it by
one, in a direction that depends on the move, when it lies between the two
positions. `insertMove_frame` says what these adjustments are for. The tabs
change by one list edit, the active tab stays the active one, and no other
tab's opener changes, except that an insertion that inherits its opener breaks
the links of all the others first.
-/

namespace IosChrome.Tabs

namespace WebStateList

variable {W : Type}

/-- The tabs with the tabs that opened them. -/
def openers (l : WebStateList W) : List (W × WebStateOpener W) :=
  l.webStateWrappers.map fun wrapper => (wrapper.webState, wrapper.opener)

theorem map_openers (l : WebStateList W) : l.openers.map (·.1) = l.webStates := by
  unfold openers webStates
  rw [List.map_map]
  rfl

variable {l : WebStateList W}

theorem mem_webStates_of_openers {tab : W × WebStateOpener W} (h : tab ∈ l.openers) :
    tab.1 ∈ l.webStates := by
  rw [← map_openers]
  exact List.mem_map_of_mem h

theorem mem_openers_iff {tab : W × WebStateOpener W} :
    tab ∈ l.openers ↔
      ∃ wrapper ∈ l.webStateWrappers, (wrapper.webState, wrapper.opener) = tab :=
  List.mem_map

theorem length_openers (l : WebStateList W) : l.openers.length = l.webStates.length := by
  rw [← map_openers, List.length_map]

/-- What an insertion with these flags leaves of the opener of another tab. -/
def keptOpener (insertionFlags : Int32) (opener : WebStateOpener W) : WebStateOpener W :=
  if isInsertionFlagSet insertionFlags insertInheritOpener then .null else opener

theorem insertionBase_openers (l : WebStateList W) (insertionFlags : Int32) :
    (l.insertionBase insertionFlags).openers =
      l.openers.map fun tab => (tab.1, keptOpener insertionFlags tab.2) := by
  unfold insertionBase openers keptOpener
  rw [List.map_map]
  split
  · unfold clearAllOpeners
    rw [List.map_map]
    rfl
  · rfl

theorem insertionBase_getActiveWebState (l : WebStateList W) (insertionFlags : Int32) :
    (l.insertionBase insertionFlags).getActiveWebState = l.getActiveWebState := by
  rw [getActiveWebState_eq, getActiveWebState_eq, insertionBase_webStates,
    insertionBase_activeIndex]

/-- An activation writes no opener that is not already gone. -/
theorem setActiveIndex_openers (h : ListInv l) (index : Int) :
    (l.setActiveIndex index).openers = l.openers := by
  unfold setActiveIndex
  split
  next => rfl
  next =>
    show (l.modifyWrapperAt l.activeIndex _).openers = l.openers
    unfold modifyWrapperAt
    split
    next => rfl
    next =>
      unfold openers
      refine List.ext_getElem? fun j => ?_
      rw [List.getElem?_map, List.getElem?_map, List.getElem?_modify]
      cases hj : l.webStateWrappers[j]? with
      | none => rfl
      | some wrapper =>
        have hwrapper := h.wrappers wrapper (List.mem_of_getElem? hj)
        have hreset : ∀ after, after =
            (if wrapper.shouldResetOpener then wrapper.setOpener .null else wrapper) →
            (after.webState, after.opener) = (wrapper.webState, wrapper.opener) := by
          rintro _ rfl
          split
          next hflag => rw [hwrapper.reset hflag]; rfl
          next => rfl
        split
        · exact congrArg some (hreset _ rfl)
        · rfl

/-- An opener that is stored is the one the insertion was given. -/
@[simp] theorem insertedWrapper_opener (webState : W) (insertionFlags : Int32)
    (opener : WebStateOpener W) :
    (insertedWrapper webState insertionFlags opener).opener.opener = opener.opener := by
  unfold insertedWrapper
  split
  · rfl
  · next hnone => exact (Option.not_isSome_iff_eq_none.1 hnone).symm

theorem moveWrapper_webStateWrappers (l : WebStateList W) {i : Nat} (j : Nat)
    {wrapper : WebStateWrapper W} (hi : l.webStateWrappers[i]? = some wrapper) :
    (l.moveWrapper i j).webStateWrappers = (l.webStateWrappers.eraseIdx i).insertIdx j wrapper := by
  unfold moveWrapper
  rw [getWebStateWrapperAt_natCast, hi]
  rfl

end WebStateList

variable {W : Type} [DecidableEq W] {l : WebStateList W}

/-- The list an insertion leaves when it does not activate the new tab. -/
theorem insertWebStateImpl_inactive {nav : W → Int32} {index : Int} {webState : W}
    {insertionFlags : Int32} {opener : WebStateOpener W}
    (hv : (Operation.insertWebState nav index webState insertionFlags opener).Valid l)
    (hactivate : isInsertionFlagSet insertionFlags insertActivate = false) :
    let result := Mutation.insertWebStateImpl { webStateList := l } nav index webState
      insertionFlags opener
    ∃ (i : Nat) (opener' : WebStateOpener W),
      i ≤ (l.insertionBase insertionFlags).webStateWrappers.length ∧ result.1 = i ∧
      result.2.webStateList =
        (((l.insertionBase insertionFlags).insertWrapperAt i webState).markInserted i
          insertionFlags).setInsertedOpener i opener' := by
  intro result
  obtain ⟨i, hindex, hi⟩ := exists_insertionIndex hv
    ((l.insertionBase insertionFlags).insertionOpener nav insertionFlags opener)
  have hresult := Mutation.insertWebStateImpl_eq { webStateList := l } nav index webState
    insertionFlags opener rfl rfl hindex
  simp only [hactivate, Bool.false_eq_true, if_false] at hresult
  refine ⟨i, (l.insertionBase insertionFlags).insertionOpener nav insertionFlags opener, hi, ?_, ?_⟩
  · exact congrArg Prod.fst hresult
  · exact congrArg (fun after => after.2.webStateList) hresult

/-- The openers after an insertion, activating or not. -/
theorem insertWebStateImpl_openers (h : ListInv l) {nav : W → Int32}
    {index : Int} {webState : W} {insertionFlags : Int32} {opener opener' : WebStateOpener W}
    (hv : (Operation.insertWebState nav index webState insertionFlags opener).Valid l)
    (hopener : (l.insertionBase insertionFlags).insertionOpener nav insertionFlags opener =
      opener') :
    ∃ i : Nat,
      (l.insertionBase insertionFlags).insertionIndex nav index insertionFlags opener' = i ∧
      i ≤ l.openers.length ∧
      (Mutation.insertWebStateImpl { webStateList := l } nav index webState insertionFlags
        opener).2.webStateList.openers =
        (l.openers.map fun tab => (tab.1, WebStateList.keptOpener insertionFlags tab.2)).insertIdx i
          (webState, (WebStateList.insertedWrapper webState insertionFlags opener').opener) := by
  obtain ⟨i, hindex, hi⟩ := exists_insertionIndex hv opener'
  have hbefore := inserted_inv (insertionBase_inv h insertionFlags) insertionFlags hi
    (by rw [WebStateList.insertionBase_webStates]; exact hv.1)
    (hopener ▸ insertionOpener_mem nav hv.2.1)
  have hopeners : ((((l.insertionBase insertionFlags).insertWrapperAt i webState).markInserted i
      insertionFlags).setInsertedOpener i opener').openers =
      (l.openers.map fun tab => (tab.1, WebStateList.keptOpener insertionFlags tab.2)).insertIdx i
        (webState, (WebStateList.insertedWrapper webState insertionFlags opener').opener) := by
    rw [WebStateList.insertWrapperAt_setInsertedOpener _ _ _ _ hi, WebStateList.openers,
      List.map_insertIdx, ← l.insertionBase_openers insertionFlags]
    unfold WebStateList.insertedWrapper
    split <;> rfl
  refine ⟨i, hindex, ?_, ?_⟩
  · have hlength := congrArg List.length (l.insertionBase_openers insertionFlags)
    rw [List.length_map, WebStateList.openers, List.length_map] at hlength
    exact hlength ▸ hi
  · rw [Mutation.insertWebStateImpl_eq { webStateList := l } nav index webState insertionFlags opener
      rfl hopener.symm hindex]
    simp only
    split
    · rw [Mutation.activateWebStateAtImpl_webStateList,
        WebStateList.setActiveIndex_openers hbefore, hopeners]
    · exact hopeners

/-- An insertion that does not activate the new tab. -/
theorem insertWebState_inactive {nav : W → Int32} {index : Int} {webState : W}
    {insertionFlags : Int32} {opener : WebStateOpener W}
    (hv : (Operation.insertWebState nav index webState insertionFlags opener).Valid l)
    (hactivate : isInsertionFlagSet insertionFlags insertActivate = false) :
    let result := Mutation.insertWebStateImpl { webStateList := l } nav index webState
      insertionFlags opener
    ∃ i : Nat, result.1 = i ∧ i ≤ l.webStates.length ∧
      result.2.webStateList.webStates = l.webStates.insertIdx i webState ∧
      result.2.webStateList.getActiveWebState = l.getActiveWebState ∧
      result.2.webStateList.openers.eraseIdx i =
        l.openers.map fun tab => (tab.1, WebStateList.keptOpener insertionFlags tab.2) := by
  intro result
  obtain ⟨i, opener', hi, hreturned, hlist⟩ := insertWebStateImpl_inactive hv hactivate
  have hlist : result.2.webStateList =
      (((l.insertionBase insertionFlags).insertWrapperAt i webState).markInserted i
        insertionFlags).setInsertedOpener i opener' := hlist
  refine ⟨i, hreturned, ?_, ?_, ?_, ?_⟩
  · rw [← WebStateList.insertionBase_webStates l insertionFlags, WebStateList.length_webStates]
    exact hi
  · rw [hlist, WebStateList.setInsertedOpener_webStates, WebStateList.markInserted_webStates,
      WebStateList.insertWrapperAt_webStates, WebStateList.insertionBase_webStates,
      Int.toNat_natCast]
  · have hactive : viewOf ((((l.insertionBase insertionFlags).insertWrapperAt i
        webState).markInserted i insertionFlags).setInsertedOpener i opener') =
        viewOf ((l.insertionBase insertionFlags).insertWrapperAt i webState) :=
      viewOf_congr (by simp) (by simp)
    rw [hlist, show WebStateList.getActiveWebState _ = _ from congrArg View.active hactive]
    show WebStateList.getActiveWebState _ = _
    rw [insertWrapperAt_getActiveWebState, WebStateList.insertionBase_getActiveWebState]
  · rw [hlist, WebStateList.insertWrapperAt_setInsertedOpener _ _ _ _ hi,
      WebStateList.openers, List.map_insertIdx, List.eraseIdx_insertIdx_self]
    exact l.insertionBase_openers insertionFlags

/-- A move, also of a tab to where it already is. -/
theorem step_moveWebStateAt {i j : Nat} {wrapper : WebStateWrapper W}
    (hi : l.webStateWrappers[i]? = some wrapper) (hj : j < l.webStateWrappers.length) :
    let l' := (webStateListMachine W).step l (.moveWebStateAt i j)
    l'.webStateWrappers = (l.webStateWrappers.eraseIdx i).insertIdx j wrapper ∧
    l'.getActiveWebState = l.getActiveWebState := by
  intro l'
  obtain ⟨hlt, hget⟩ := List.getElem?_eq_some_iff.1 hi
  have htab : l.webStates[i]? = some wrapper.webState := by
    rw [WebStateList.webStates, List.getElem?_map, hi]
    rfl
  have hat : l.getWebStateAt i = some wrapper.webState := by
    rw [WebStateList.getWebStateAt_natCast, htab]
  have hl' : l' = if (i : Int) = j then l else l.moveWrapper i j :=
    Mutation.moveWebStateAtImpl_webStateList { webStateList := l } j hat
  by_cases hij : (i : Int) = j
  · obtain rfl : i = j := by omega
    rw [hl', if_pos hij]
    refine ⟨?_, rfl⟩
    rw [← hget, List.insertIdx_eraseIdx_getElem hlt]
  · rw [hl', if_neg hij]
    exact ⟨l.moveWrapper_webStateWrappers j hi, moveWrapper_getActiveWebState l htab hj⟩

/-- **Insertions without `INSERT_ACTIVATE` and moves, in every list**, reachable or not: the tabs
change by one insertion at the index returned, or by taking one tab out and putting it back, the
active tab stays active, and the other tabs keep their openers unless the insertion inherits
one. -/
theorem insertMove_frame (l : WebStateList W) :
    (∀ (nav : W → Int32) (index : Int) (webState : W) (insertionFlags : Int32)
      (opener : WebStateOpener W),
      (Operation.insertWebState nav index webState insertionFlags opener).Valid l →
      isInsertionFlagSet insertionFlags insertActivate = false →
      let result := Mutation.insertWebStateImpl { webStateList := l } nav index webState
        insertionFlags opener
      ∃ i : Nat, result.1 = i ∧ i ≤ l.webStates.length ∧
        result.2.webStateList.webStates = l.webStates.insertIdx i webState ∧
        result.2.webStateList.getActiveWebState = l.getActiveWebState ∧
        result.2.webStateList.openers.eraseIdx i =
          l.openers.map fun tab => (tab.1, WebStateList.keptOpener insertionFlags tab.2)) ∧
    ∀ (i j : Nat) (webState : W), l.webStates[i]? = some webState → j < l.webStates.length →
      let l' := (webStateListMachine W).step l (.moveWebStateAt i j)
      l'.webStates = (l.webStates.eraseIdx i).insertIdx j webState ∧
      l'.getActiveWebState = l.getActiveWebState ∧
      ∃ opener, l.openers[i]? = some (webState, opener) ∧
        l'.openers = (l.openers.eraseIdx i).insertIdx j (webState, opener) := by
  refine ⟨fun nav index webState insertionFlags opener hv hactivate =>
    insertWebState_inactive hv hactivate, fun i j webState hi hj => ?_⟩
  rw [WebStateList.webStates, List.getElem?_map] at hi
  obtain ⟨wrapper, hwrapper, rfl⟩ := Option.map_eq_some_iff.1 hi
  rw [WebStateList.length_webStates] at hj
  obtain ⟨hwrappers, hactive⟩ := step_moveWebStateAt hwrapper hj
  refine ⟨?_, hactive, wrapper.opener, ?_, ?_⟩
  · rw [WebStateList.webStates, hwrappers, List.map_insertIdx, ← List.eraseIdx_map]
    rfl
  · rw [WebStateList.openers, List.getElem?_map, hwrapper]
    rfl
  · rw [WebStateList.openers, hwrappers, List.map_insertIdx, ← List.eraseIdx_map]
    rfl

/-- Tabs 1 and 2, the first one active: tab 3 goes in front of both, or tab 1 behind tab 2. -/
theorem insertMove_frame_acrossActive :
    let l : WebStateList Nat := { webStateWrappers := [⟨1, .null, false⟩, ⟨2, .null, false⟩]
                                  activeIndex := 0 }
    let result := Mutation.insertWebStateImpl { webStateList := l } (fun _ => 0) 0 3
      insertForceIndex .null
    let l' := (webStateListMachine Nat).step l (.moveWebStateAt (0 : Nat) (1 : Nat))
    (∃ i : Nat, result.1 = i ∧ i ≤ l.webStates.length ∧
      result.2.webStateList.webStates = l.webStates.insertIdx i 3 ∧
      result.2.webStateList.getActiveWebState = l.getActiveWebState ∧
      result.2.webStateList.openers.eraseIdx i =
        l.openers.map fun tab => (tab.1, WebStateList.keptOpener insertForceIndex tab.2)) ∧
    l'.webStates = (l.webStates.eraseIdx 0).insertIdx 1 1 ∧
    l'.getActiveWebState = l.getActiveWebState ∧
    ∃ opener, l.openers[0]? = some (1, opener) ∧
      l'.openers = (l.openers.eraseIdx 0).insertIdx 1 (1, opener) := by
  intro l result l'
  refine ⟨?_, (insertMove_frame l).2 0 1 1 rfl (by decide)⟩
  exact (insertMove_frame l).1 (fun _ => 0) 0 3 insertForceIndex .null (by decide) (by decide)

end IosChrome.Tabs

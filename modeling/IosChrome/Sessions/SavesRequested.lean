import IosChrome.Sessions.SessionRestorationBrowserAgent

/-!
# The operations during which a save is requested

Whether a save is handed to the session service during an operation on the list is a question
about the calls of the operation and the list at each of them (`SavedDuring`). For each
operation the answer depends on whether there is an active tab. Where there is, an operation
whose tabs are idle is saved or changes nothing (`savedDuring_or_unchanged`). Where there is
none, it is not saved unless it makes a tab active (`inactive_stays`,
`savedDuring_of_activates`): with tabs and none of them active the list is in the transitional
state that `CanSaveSession` excludes.
-/

namespace IosChrome.Sessions

open Tabs

variable {W : Type} {l : WebStateList W}

theorem canSaveSession_iff :
    canSaveSession l = true ↔ l.webStates = [] ∨ l.getActiveWebState ≠ none := by
  unfold canSaveSession WebStateList.empty WebStateList.webStates
  rw [Bool.or_eq_true, List.isEmpty_iff, List.map_eq_nil_iff, Option.isSome_iff_ne_none]

namespace SessionRestorationBrowserAgent

/-! ## Notifications that are saved -/

/-- The observer method for the notification goes on to `SaveSession`. -/
def asksToSave (isLoading : W → Bool) (notified : Notified W) : Bool :=
  match notified.call with
  | .webStateActivatedAt _ newWebState _ _ => !newWebState.any isLoading
  | .willDetachWebStateAt _ index => !decide (notified.webStateList.activeIndex = index)
  | .webStateInsertedAt webState _ activating => !(activating || isLoading webState)
  | .webStateReplacedAt _ newWebState _ => !isLoading newWebState
  | .webStateMoved webState _ _ => !isLoading webState
  | _ => false

/-- A save is handed to the session service because of the notification. -/
def Saved (isLoading : W → Bool) (notified : Notified W) : Prop :=
  asksToSave isLoading notified = true ∧ canSaveSession notified.webStateList = true

def SavedDuring (isLoading : W → Bool) (m : Mutation W) : Prop :=
  ∃ notified ∈ m.calls, Saved isLoading notified

variable {isLoading : W → Bool} {m : Mutation W}

theorem savedDuring_append {m' : Mutation W} {notified : Notified W}
    (hcalls : m'.calls = m.calls ++ [notified]) :
    SavedDuring isLoading m' ↔ SavedDuring isLoading m ∨ Saved isLoading notified := by
  unfold SavedDuring
  simp only [hcalls, List.mem_append, List.mem_singleton, or_and_right, exists_or, exists_eq_left]

theorem savedDuring_notify (call : ObserverCall W) :
    SavedDuring isLoading (m.notify call) ↔
      SavedDuring isLoading m ∨ Saved isLoading ⟨m.webStateList, call⟩ :=
  savedDuring_append (Mutation.notify_calls m call)

theorem savedDuring_update (f : WebStateList W → WebStateList W) :
    SavedDuring isLoading (m.update f) ↔ SavedDuring isLoading m := Iff.rfl

theorem not_saved_of_inactive (htabs : l.webStates ≠ []) (hactive : l.getActiveWebState = none)
    (call : ObserverCall W) :
    ¬ Saved isLoading ⟨l, call⟩ :=
  fun hsaved => (canSaveSession_iff.1 hsaved.2).elim htabs fun hne => hne hactive

theorem saved_of_active {call : ObserverCall W} (hasks : asksToSave isLoading ⟨l, call⟩ = true)
    (hactive : l.getActiveWebState ≠ none) :
    Saved isLoading ⟨l, call⟩ :=
  ⟨hasks, canSaveSession_iff.2 (.inr hactive)⟩

/-- A list without an active tab has no active index. -/
theorem activeIndex_of_inactive (h : ListInv l) (hactive : l.getActiveWebState = none) :
    l.activeIndex = kInvalidIndex := by
  refine h.active.resolve_right fun hindex => ?_
  obtain ⟨i, w, hi, -, hw, -⟩ := hindex.getWebStateAt
  rw [WebStateList.getActiveWebState_eq, hi, Lib.current_natCast, hw] at hactive
  cases hactive

theorem ne_nil_of_getElem? {i : Nat} {w : W} (hw : l.webStates[i]? = some w) :
    l.webStates ≠ [] := by
  intro hnil
  rw [hnil] at hw
  cases hw

theorem natCast_ne_kInvalidIndex (i : Nat) : kInvalidIndex ≠ (i : Int) := by
  unfold kInvalidIndex
  omega

/-! ## Single operations -/

variable [DecidableEq W]

theorem savedDuring_notifyIfActiveWebStateChanged (oldWebState : Option W)
    (reason : ActiveWebStateChangeReason) :
    SavedDuring isLoading (m.notifyIfActiveWebStateChanged oldWebState reason) ↔
      SavedDuring isLoading m ∨
        oldWebState ≠ m.webStateList.getActiveWebState ∧
          m.webStateList.getActiveWebState.any isLoading = false ∧
          canSaveSession m.webStateList = true := by
  unfold Mutation.notifyIfActiveWebStateChanged
  dsimp only
  split
  · next heq => simp [heq]
  · next hne =>
    rw [savedDuring_notify]
    simp [Saved, asksToSave, hne]

omit [DecidableEq W] in
theorem setActiveIndex_getActiveWebState {i : Nat} {w : W} (hw : l.webStates[i]? = some w) :
    (l.setActiveIndex i).getActiveWebState = some w := by
  rw [WebStateList.getActiveWebState_eq, WebStateList.setActiveIndex_webStates,
    WebStateList.setActiveIndex_activeIndex, Lib.current_natCast, hw]

theorem savedDuring_activateWebStateAtImpl {i : Nat} {w : W}
    (hw : m.webStateList.webStates[i]? = some w) (reason : ActiveWebStateChangeReason) :
    SavedDuring isLoading (m.activateWebStateAtImpl i reason) ↔
      SavedDuring isLoading m ∨
        m.webStateList.getActiveWebState ≠ some w ∧ isLoading w = false := by
  have hnew := setActiveIndex_getActiveWebState hw
  unfold Mutation.activateWebStateAtImpl
  rw [savedDuring_notifyIfActiveWebStateChanged, savedDuring_update, Mutation.update_webStateList,
    hnew]
  have hsave : canSaveSession (m.webStateList.setActiveIndex i) = true :=
    canSaveSession_iff.2 (.inr (by rw [hnew]; exact Option.some_ne_none w))
  simp [hsave]

/-- While there are tabs their deactivation is not saved. -/
theorem savedDuring_deactivate (reason : ActiveWebStateChangeReason) :
    SavedDuring isLoading (m.activateWebStateAtImpl kInvalidIndex reason) ↔
      SavedDuring isLoading m := by
  have hnew : (m.webStateList.setActiveIndex kInvalidIndex).getActiveWebState = none := rfl
  unfold Mutation.activateWebStateAtImpl
  rw [savedDuring_notifyIfActiveWebStateChanged, savedDuring_update, Mutation.update_webStateList,
    hnew]
  refine or_iff_left ?_
  rintro ⟨hold, -, hsave⟩
  obtain hnil | hactive := canSaveSession_iff.1 hsave
  · rw [WebStateList.setActiveIndex_webStates] at hnil
    obtain ⟨w, hw⟩ := Option.ne_none_iff_exists'.1 hold
    have hmem := mem_of_getActiveWebState hw
    rw [hnil] at hmem
    cases hmem
  · exact hactive hnew

/-- The list that `WebStateInsertedAt` is sent with, and the one that is activated in. -/
theorem insertWebStateImpl_cases {nav : W → Int32} {index : Int} {webState : W}
    {insertionFlags : Int32} {opener : WebStateOpener W}
    (hv : (Operation.insertWebState nav index webState insertionFlags opener).Valid
      m.webStateList) :
    ∃ (i : Nat) (marked : WebStateList W) (m' : Mutation W),
      i ≤ m.webStateList.webStates.length ∧
      viewOf marked = ⟨m.webStateList.webStates.insertIdx i webState,
        m.webStateList.getActiveWebState⟩ ∧
      viewOf m'.webStateList = viewOf marked ∧
      m'.calls = m.calls ++ [⟨marked, .webStateInsertedAt webState i
        (isInsertionFlagSet insertionFlags insertActivate)⟩] ∧
      (m.insertWebStateImpl nav index webState insertionFlags opener).2 =
        if isInsertionFlagSet insertionFlags insertActivate then
          m'.activateWebStateAtImpl i .inserted
        else m' := by
  obtain ⟨i, hindex, hi⟩ := exists_insertionIndex hv _
  rw [m.insertWebStateImpl_eq nav index webState insertionFlags opener rfl rfl hindex]
  rw [← WebStateList.length_webStates, WebStateList.insertionBase_webStates] at hi
  have hview : ∀ l : WebStateList W,
      l.webStates = (m.webStateList.insertWrapperAt i webState).webStates →
      l.activeIndex = (m.webStateList.insertWrapperAt i webState).activeIndex →
      viewOf l = ⟨m.webStateList.webStates.insertIdx i webState,
        m.webStateList.getActiveWebState⟩ := by
    intro l htabs hactive
    rw [viewOf_congr htabs hactive, viewOf, insertWrapperAt_getActiveWebState,
      WebStateList.insertWrapperAt_webStates, Int.toNat_natCast]
  refine ⟨i, _, ⟨_, _⟩, hi, hview _ (by simp) (by simp [WebStateList.insertWrapperAt]),
    ?_, rfl, rfl⟩
  exact viewOf_congr (WebStateList.setInsertedOpener_webStates _ _ _)
    (WebStateList.setInsertedOpener_activeIndex _ _ _)

theorem savedDuring_insertWebStateImpl (isLoading : W → Bool) {nav : W → Int32} {index : Int}
    {webState : W} {insertionFlags : Int32} {opener : WebStateOpener W}
    (hv : (Operation.insertWebState nav index webState insertionFlags opener).Valid
      m.webStateList) :
    (SavedDuring isLoading (m.insertWebStateImpl nav index webState insertionFlags opener).2 ↔
      SavedDuring isLoading m ∨ isLoading webState = false ∧
        (isInsertionFlagSet insertionFlags insertActivate = true ∨
          m.webStateList.getActiveWebState ≠ none)) ∧
    (m.insertWebStateImpl nav index webState insertionFlags opener).2.webStateList.getActiveWebState
      = if isInsertionFlagSet insertionFlags insertActivate then some webState
        else m.webStateList.getActiveWebState := by
  obtain ⟨i, marked, m', hi, hmarked, hlist, hcalls, heq⟩ := insertWebStateImpl_cases hv
  have hlist := hlist.trans hmarked
  have hactive : marked.getActiveWebState = m.webStateList.getActiveWebState :=
    congrArg View.active hmarked
  have hactive' : m'.webStateList.getActiveWebState = m.webStateList.getActiveWebState :=
    congrArg View.active hlist
  have htabs : m'.webStateList.webStates = m.webStateList.webStates.insertIdx i webState :=
    congrArg View.tabs hlist
  have hget : m'.webStateList.webStates[i]? = some webState := by
    rw [htabs, List.getElem?_insertIdx_self]
    exact if_pos hi
  rw [heq]
  cases hactivating : isInsertionFlagSet insertionFlags insertActivate with
  | true =>
    rw [hactivating] at hcalls
    -- the new tab is not the active one, as it was in no list
    have hne : m'.webStateList.getActiveWebState ≠ some webState := by
      rw [hactive']
      exact fun h => hv.1 (mem_of_getActiveWebState h)
    refine ⟨?_, ?_⟩
    · simp only [if_true]
      rw [savedDuring_activateWebStateAtImpl hget, savedDuring_append hcalls]
      simp [Saved, asksToSave, hne]
    · simp only [if_true, Mutation.activateWebStateAtImpl_webStateList]
      exact setActiveIndex_getActiveWebState hget
  | false =>
    rw [hactivating] at hcalls
    have htabs' : marked.webStates ≠ [] := by
      have hmtabs : marked.webStates = m.webStateList.webStates.insertIdx i webState :=
        congrArg View.tabs hmarked
      rw [hmtabs, ← htabs]
      exact ne_nil_of_getElem? hget
    refine ⟨?_, hactive'⟩
    simp only [Bool.false_eq_true, if_false]
    rw [savedDuring_append hcalls]
    simp [Saved, asksToSave, canSaveSession_iff, htabs', hactive]

omit [DecidableEq W] in
theorem savedDuring_moveWebStateAtImpl (isLoading : W → Bool) {i j : Nat} {w : W}
    (hw : m.webStateList.webStates[i]? = some w)
    (hj : j < m.webStateList.webStateWrappers.length) (hne : i ≠ j) :
    (SavedDuring isLoading (m.moveWebStateAtImpl i j) ↔
      SavedDuring isLoading m ∨
        isLoading w = false ∧ m.webStateList.getActiveWebState ≠ none) ∧
    (m.moveWebStateAtImpl i j).webStateList.getActiveWebState =
      m.webStateList.getActiveWebState := by
  have hactive := moveWrapper_getActiveWebState m.webStateList hw hj
  have hget := hw
  rw [← WebStateList.getWebStateAt_natCast] at hget
  have htabs : (m.webStateList.moveWrapper i j).webStates ≠ [] := by
    rw [WebStateList.moveWrapper_webStates _ _ _ hget, Int.toNat_natCast, Int.toNat_natCast]
    intro hnil
    have hlength := congrArg List.length hnil
    rw [← WebStateList.length_webStates] at hj
    rw [List.length_insertIdx, List.length_eraseIdx] at hlength
    grind
  unfold Mutation.moveWebStateAtImpl
  rw [if_neg (by omega), hget]
  dsimp only
  refine ⟨?_, hactive⟩
  rw [savedDuring_notify, savedDuring_update]
  simp [Saved, asksToSave, canSaveSession_iff, htabs, hactive]

/-- The tab that takes the place of another is active if that was. -/
theorem replaceWrapper_inactive_iff {i : Nat} {old : W} (webState : W)
    (hold : l.webStates[i]? = some old) :
    (l.replaceWrapper i webState).getActiveWebState = none ↔ l.getActiveWebState = none := by
  by_cases hindex : l.activeIndex = i
  · obtain ⟨hlt, -⟩ := List.getElem?_eq_some_iff.1 hold
    rw [WebStateList.getActiveWebState_eq, WebStateList.getActiveWebState_eq,
      WebStateList.replaceWrapper_activeIndex, WebStateList.replaceWrapper_webStates, hindex,
      Lib.current_natCast, Lib.current_natCast, hold, List.getElem?_set_self hlt]
    simp
  · rw [replaceWrapper_getActiveWebState l webState hindex]

theorem savedDuring_replaceWebStateAtImpl (isLoading : W → Bool) {i : Nat} {old : W}
    (webState : W) (hold : m.webStateList.webStates[i]? = some old) :
    (m.webStateList.getActiveWebState ≠ none → isLoading webState = false →
      SavedDuring isLoading (m.replaceWebStateAtImpl i webState)) ∧
    (m.webStateList.getActiveWebState = none →
      (SavedDuring isLoading (m.replaceWebStateAtImpl i webState) ↔ SavedDuring isLoading m) ∧
        (m.replaceWebStateAtImpl i webState).webStateList.getActiveWebState = none) := by
  have hinactive := replaceWrapper_inactive_iff webState hold
  have hget := hold
  rw [← WebStateList.getWebStateAt_natCast] at hget
  have htabs : (m.webStateList.replaceWrapper i webState).webStates ≠ [] := by
    rw [WebStateList.replaceWrapper_webStates]
    intro hnil
    exact ne_nil_of_getElem? hold ((List.set_eq_nil_iff i webState).1 hnil)
  have hsaved : SavedDuring isLoading (m.replaceWebStateAtImpl i webState) ↔
      (SavedDuring isLoading m ∨ Saved isLoading ⟨m.webStateList.replaceWrapper i webState,
        .webStateReplacedAt old webState i⟩) ∨
        some old ≠ (m.webStateList.replaceWrapper i webState).getActiveWebState ∧
          (m.webStateList.replaceWrapper i webState).getActiveWebState.any isLoading = false ∧
          canSaveSession (m.webStateList.replaceWrapper i webState) = true := by
    unfold Mutation.replaceWebStateAtImpl
    rw [hget]
    dsimp only
    rw [savedDuring_notifyIfActiveWebStateChanged, savedDuring_notify, savedDuring_update]
    rfl
  rw [hsaved]
  refine ⟨fun hactive hidle => .inl (.inr (saved_of_active ?_ ?_)), fun hactive => ⟨?_, ?_⟩⟩
  · simp [asksToSave, hidle]
  · exact fun hnone => hactive (hinactive.1 hnone)
  · have hnone := hinactive.2 hactive
    have hcan : ¬ canSaveSession (m.webStateList.replaceWrapper i webState) = true :=
      fun hsave => (canSaveSession_iff.1 hsave).elim htabs fun hne => hne hnone
    rw [or_iff_left fun h => hcan h.2.2, or_iff_left (not_saved_of_inactive htabs hnone _)]
  · rw [m.replaceWebStateAtImpl_webStateList webState hget]
    exact hinactive.2 hactive

/-- Once an active tab is detached the list is empty or has an active tab. -/
theorem canSaveSession_removeWrapperAt (h : ListInv l) {i : Nat}
    (hi : i < l.webStateWrappers.length) (hactive : l.activeIndex ≠ kInvalidIndex) :
    canSaveSession (l.removeWrapperAt i) = true := by
  rw [canSaveSession_iff]
  by_cases hcount : l.count = 1
  · left
    have hlength : l.webStates.length = 1 := by
      unfold WebStateList.count at hcount
      rw [WebStateList.length_webStates]
      omega
    rw [WebStateList.removeWrapperAt_webStates]
    refine List.eq_nil_of_length_eq_zero ?_
    rw [← WebStateList.length_webStates] at hi
    rw [Int.toNat_natCast, List.length_eraseIdx_of_lt hi, hlength]
  · right
    obtain ⟨hnonneg, hlt⟩ := determineNewActiveIndex_contains h hi hactive hcount
    obtain ⟨k, hk⟩ := Int.eq_ofNat_of_zero_le hnonneg
    rw [← WebStateList.length_webStates] at hi
    rw [WebStateList.getActiveWebState_eq, WebStateList.removeWrapperAt_activeIndex,
      WebStateList.removeWrapperAt_webStates, hk, Lib.current_natCast, Int.toNat_natCast]
    rw [hk] at hlt
    unfold WebStateList.count at hlt
    rw [← WebStateList.length_webStates] at hlt
    have hlength : k < (l.webStates.eraseIdx i).length := by
      rw [List.length_eraseIdx_of_lt hi]
      omega
    rw [List.getElem?_eq_getElem hlength]
    exact Option.some_ne_none _

/-- A tab is announced before it is detached, unless it is the active one. -/
theorem savedDuring_detachWebStateAtImpl (isLoading : W → Bool) (hinv : ListInv m.webStateList)
    {i : Nat} {w : W} (hw : m.webStateList.webStates[i]? = some w) :
    (m.webStateList.getActiveWebState ≠ none →
      (∀ x ∈ (m.detachWebStateAtImpl i).webStateList.getActiveWebState,
        m.webStateList.getActiveWebState ≠ some x → isLoading x = false) →
      SavedDuring isLoading (m.detachWebStateAtImpl i)) ∧
    (m.webStateList.getActiveWebState = none →
      (SavedDuring isLoading (m.detachWebStateAtImpl i) ↔ SavedDuring isLoading m) ∧
        (m.detachWebStateAtImpl i).webStateList.getActiveWebState = none) := by
  obtain ⟨hlt, hwget⟩ := List.getElem?_eq_some_iff.1 hw
  have hlt' : i < m.webStateList.webStateWrappers.length := by
    rwa [WebStateList.length_webStates] at hlt
  have hget := hw
  rw [← WebStateList.getWebStateAt_natCast] at hget
  rw [m.detachWebStateAtImpl_webStateList hget]
  have hsaved : SavedDuring isLoading (m.detachWebStateAtImpl i) ↔
      (SavedDuring isLoading m ∨
        Saved isLoading ⟨m.webStateList, .willDetachWebStateAt w i⟩) ∨
        (i : Int) = m.webStateList.activeIndex ∧
          some w ≠ (m.webStateList.removeWrapperAt i).getActiveWebState ∧
          (m.webStateList.removeWrapperAt i).getActiveWebState.any isLoading = false ∧
          canSaveSession (m.webStateList.removeWrapperAt i) = true := by
    have hdetached : ¬ Saved isLoading ⟨m.webStateList.removeWrapperAt i,
        .webStateDetachedAt w i⟩ := fun h => nomatch h.1
    unfold Mutation.detachWebStateAtImpl
    rw [hget]
    dsimp only
    split
    · next hindex =>
      rw [savedDuring_notifyIfActiveWebStateChanged, savedDuring_notify, savedDuring_update,
        savedDuring_notify]
      simp only [Mutation.notify_webStateList, Mutation.update_webStateList]
      have hindex : (i : Int) = m.webStateList.activeIndex := eq_of_beq hindex
      rw [or_iff_left hdetached, and_iff_right hindex]
    · next hindex =>
      rw [savedDuring_notify, savedDuring_update, savedDuring_notify]
      simp only [Mutation.notify_webStateList, Mutation.update_webStateList]
      have hindex : (i : Int) ≠ m.webStateList.activeIndex := fun he => hindex (beq_iff_eq.2 he)
      simp only [hdetached, hindex, false_and, or_false]
  rw [hsaved]
  refine ⟨fun hactive hidle => ?_, fun hactive => ?_⟩
  · by_cases hindex : (i : Int) = m.webStateList.activeIndex
    · right
      have hold : m.webStateList.getActiveWebState = some w := by
        rw [WebStateList.getActiveWebState_eq, ← hindex, Lib.current_natCast, hw]
      have hgone : some w ≠ (m.webStateList.removeWrapperAt i).getActiveWebState := by
        intro heq
        have hmem := mem_of_getActiveWebState heq.symm
        rw [WebStateList.removeWrapperAt_webStates, Int.toNat_natCast, ← hwget] at hmem
        exact Lib.getElem_not_mem_eraseIdx hinv.nodup hlt hmem
      refine ⟨hindex, hgone, ?_, canSaveSession_removeWrapperAt hinv hlt' ?_⟩
      · cases hnew : (m.webStateList.removeWrapperAt i).getActiveWebState with
        | none => rfl
        | some x =>
          rw [hnew] at hgone
          exact hidle x hnew (by rw [hold]; exact hgone)
      · rw [← hindex]
        exact (natCast_ne_kInvalidIndex i).symm
    · refine .inl (.inr (saved_of_active ?_ hactive))
      simp [asksToSave, Ne.symm hindex]
  · have hindex := activeIndex_of_inactive hinv hactive
    have hne : m.webStateList.activeIndex ≠ i := by
      rw [hindex]
      exact natCast_ne_kInvalidIndex i
    refine ⟨?_, ?_⟩
    · rw [or_iff_left fun h => hne h.1.symm,
        or_iff_left (not_saved_of_inactive (ne_nil_of_getElem? hw) hactive _)]
    · rw [removeWrapperAt_getActiveWebState hinv hlt' hne]
      exact hactive

theorem savedDuring_closeWebStateAtImpl (isLoading : W → Bool) {i : Nat} {w : W}
    (hw : m.webStateList.webStates[i]? = some w) (closeFlags : Int32) :
    (SavedDuring isLoading (m.closeWebStateAtImpl i closeFlags) ↔
      SavedDuring isLoading (m.detachWebStateAtImpl i)) ∧
    (m.closeWebStateAtImpl i closeFlags).webStateList =
      (m.detachWebStateAtImpl i).webStateList := by
  have hget := hw
  rw [← WebStateList.getWebStateAt_natCast] at hget
  unfold Mutation.closeWebStateAtImpl
  rw [hget]
  refine ⟨?_, rfl⟩
  dsimp only
  rw [savedDuring_notify]
  exact or_iff_left fun h => nomatch h.1

/-! ## One operation of a batch -/

/-- The operation makes a tab active that it does not remove another for. -/
def activates : Operation W → Bool
  | .insertWebState _ _ _ insertionFlags _ => isInsertionFlagSet insertionFlags insertActivate
  | .activateWebStateAt _ => true
  | _ => false

/-- The tab that is inserted, moved or put in replacement. -/
def given (l : WebStateList W) : Operation W → Option W
  | .insertWebState _ _ webState _ _ => some webState
  | .moveWebStateAt fromIndex toIndex =>
    if fromIndex = toIndex then none else l.getWebStateAt fromIndex
  | .replaceWebStateAt _ webState => some webState
  | _ => none

/-- Neither the given tab is loading nor one that is newly made active. -/
def Idle (l : WebStateList W) (operation : ListOperation W) : Prop :=
  (∀ w ∈ given l operation.1, operation.2 w = false) ∧
    ∀ w ∈ ((operationMachine W).step l operation).getActiveWebState,
      l.getActiveWebState ≠ some w → operation.2 w = false

def Unsaved (l : WebStateList W) (operation : ListOperation W) : Prop :=
  ¬ SavedDuring operation.2 (operation.1.perform { webStateList := l })

omit [DecidableEq W] in
theorem not_savedDuring_start (isLoading : W → Bool) (l : WebStateList W) :
    ¬ SavedDuring isLoading { webStateList := l } :=
  fun ⟨_, hmem, _⟩ => nomatch hmem

variable {l : WebStateList W} {operation : ListOperation W}

theorem inactive_stays (hinv : ListInv l) (hv : operation.1.Valid l)
    (hcloseAll : isCloseAll operation.1 = false) (hactivates : activates operation.1 = false)
    (hactive : l.getActiveWebState = none) :
    Unsaved l operation ∧ ((operationMachine W).step l operation).getActiveWebState = none := by
  obtain ⟨op, isLoading⟩ := operation
  have hstart := not_savedDuring_start isLoading l
  cases op with
  | insertWebState nav index webState insertionFlags opener =>
    have hinactivating : isInsertionFlagSet insertionFlags insertActivate = false := hactivates
    obtain ⟨hsaved, hnew⟩ := savedDuring_insertWebStateImpl isLoading
      (m := { webStateList := l }) hv
    rw [hinactivating] at hsaved hnew
    refine ⟨fun h => ?_, hnew.trans hactive⟩
    obtain h | ⟨-, h | h⟩ := hsaved.1 h
    · exact hstart h
    · cases h
    · exact h hactive
  | moveWebStateAt fromIndex toIndex =>
    obtain ⟨i, w, rfl, -, hw, -⟩ := hv.1.getWebStateAt
    obtain ⟨j, rfl, hj⟩ := hv.2.exists_nat
    by_cases hne : i = j
    · subst hne
      have hsame : Mutation.moveWebStateAtImpl { webStateList := l } (i : Int) i =
          { webStateList := l } := if_pos rfl
      refine ⟨fun h => hstart ?_, ?_⟩
      · rwa [show Operation.perform { webStateList := l } (.moveWebStateAt (i : Int) i) =
          { webStateList := l } from hsame] at h
      · exact (congrArg (fun m : Mutation W => m.webStateList.getActiveWebState) hsame).trans
          hactive
    · obtain ⟨hsaved, hnew⟩ := savedDuring_moveWebStateAtImpl isLoading
        (m := { webStateList := l }) hw hj hne
      exact ⟨fun h => (hsaved.1 h).elim hstart fun h => h.2 hactive, hnew.trans hactive⟩
  | replaceWebStateAt index webState =>
    obtain ⟨i, w, rfl, -, hw, -⟩ := hv.1.getWebStateAt
    obtain ⟨hsaved, hnew⟩ := (savedDuring_replaceWebStateAtImpl isLoading
      (m := { webStateList := l }) webState hw).2 hactive
    exact ⟨fun h => hstart (hsaved.1 h), hnew⟩
  | detachWebStateAt index =>
    obtain ⟨i, w, rfl, -, hw, -⟩ := WebStateList.ContainsIndex.getWebStateAt hv
    obtain ⟨hsaved, hnew⟩ := (savedDuring_detachWebStateAtImpl isLoading
      (m := { webStateList := l }) hinv hw).2 hactive
    exact ⟨fun h => hstart (hsaved.1 h), hnew⟩
  | closeWebStateAt index closeFlags =>
    obtain ⟨i, w, rfl, -, hw, -⟩ := WebStateList.ContainsIndex.getWebStateAt hv
    obtain ⟨hsaved, hnew⟩ := (savedDuring_detachWebStateAtImpl isLoading
      (m := { webStateList := l }) hinv hw).2 hactive
    obtain ⟨hclosed, hlist⟩ := savedDuring_closeWebStateAtImpl isLoading
      (m := { webStateList := l }) hw closeFlags
    exact ⟨fun h => hstart (hsaved.1 (hclosed.1 h)),
      (congrArg WebStateList.getActiveWebState hlist).trans hnew⟩
  | closeAllWebStates closeFlags => cases hcloseAll
  | activateWebStateAt index => cases hactivates
  | setOpenerOfWebStateAt index opener =>
    refine ⟨hstart, ?_⟩
    have hview := viewOf_congr (WebStateList.setOpenerOfWebStateAt_webStates l index opener)
      (WebStateList.setOpenerOfWebStateAt_activeIndex l index opener)
    exact (congrArg View.active hview).trans hactive

theorem savedDuring_of_activates (hv : operation.1.Valid l) (hidle : Idle l operation)
    (hactivates : activates operation.1 = true) (hactive : l.getActiveWebState = none) :
    ¬ Unsaved l operation := by
  obtain ⟨op, isLoading⟩ := operation
  refine not_not_intro ?_
  cases op with
  | insertWebState nav index webState insertionFlags opener =>
    have hactivating : isInsertionFlagSet insertionFlags insertActivate = true := hactivates
    exact (savedDuring_insertWebStateImpl _ (m := { webStateList := l }) hv).1.2
      (.inr ⟨hidle.1 webState rfl, .inl hactivating⟩)
  | activateWebStateAt index =>
    obtain ⟨i, w, rfl, -, hw, -⟩ := WebStateList.ContainsIndex.getWebStateAt hv
    have hne : l.getActiveWebState ≠ some w := by
      rw [hactive]
      exact (Option.some_ne_none w).symm
    have hnew : ((operationMachine W).step l (.activateWebStateAt i, isLoading)).getActiveWebState =
        some w := by
      show (Mutation.activateWebStateAtImpl _ _ _).webStateList.getActiveWebState = _
      rw [Mutation.activateWebStateAtImpl_webStateList]
      exact setActiveIndex_getActiveWebState hw
    exact (savedDuring_activateWebStateAtImpl (m := { webStateList := l }) hw .activated).2
      (.inr ⟨hne, hidle.2 w hnew hne⟩)
  | _ => cases hactivates

theorem savedDuring_or_unchanged (hinv : ListInv l) (hv : operation.1.Valid l)
    (hcloseAll : isCloseAll operation.1 = false) (hidle : Idle l operation)
    (hactive : l.getActiveWebState ≠ none) (hunsaved : Unsaved l operation) :
    viewOf ((operationMachine W).step l operation) = viewOf l := by
  obtain ⟨op, isLoading⟩ := operation
  cases op with
  | insertWebState nav index webState insertionFlags opener =>
    exact absurd ((savedDuring_insertWebStateImpl _ (m := { webStateList := l }) hv).1.2
      (.inr ⟨hidle.1 webState rfl, .inr hactive⟩)) hunsaved
  | moveWebStateAt fromIndex toIndex =>
    obtain ⟨i, w, rfl, -, hw, hget⟩ := hv.1.getWebStateAt
    obtain ⟨j, rfl, hj⟩ := hv.2.exists_nat
    by_cases hne : i = j
    · subst hne
      have hsame : Mutation.moveWebStateAtImpl { webStateList := l } (i : Int) i =
          { webStateList := l } := if_pos rfl
      exact congrArg (fun m : Mutation W => viewOf m.webStateList) hsame
    · have hne' : (i : Int) ≠ j := by omega
      have hgiven : given l (.moveWebStateAt (i : Int) j) = some w := (if_neg hne').trans hget
      exact absurd ((savedDuring_moveWebStateAtImpl _ (m := { webStateList := l }) hw hj hne).1.2
        (.inr ⟨hidle.1 w hgiven, hactive⟩)) hunsaved
  | replaceWebStateAt index webState =>
    obtain ⟨i, w, rfl, -, hw, -⟩ := hv.1.getWebStateAt
    exact absurd ((savedDuring_replaceWebStateAtImpl _ (m := { webStateList := l }) webState hw).1
      hactive (hidle.1 webState rfl)) hunsaved
  | detachWebStateAt index =>
    obtain ⟨i, w, rfl, -, hw, -⟩ := WebStateList.ContainsIndex.getWebStateAt hv
    exact absurd ((savedDuring_detachWebStateAtImpl _ (m := { webStateList := l }) hinv hw).1
      hactive hidle.2) hunsaved
  | closeWebStateAt index closeFlags =>
    obtain ⟨i, w, rfl, -, hw, -⟩ := WebStateList.ContainsIndex.getWebStateAt hv
    obtain ⟨hclosed, hlist⟩ := savedDuring_closeWebStateAtImpl isLoading
      (m := { webStateList := l }) hw closeFlags
    refine absurd (hclosed.2 ?_) hunsaved
    refine (savedDuring_detachWebStateAtImpl _ (m := { webStateList := l }) hinv hw).1 hactive ?_
    rw [← hlist]
    exact hidle.2
  | closeAllWebStates closeFlags => cases hcloseAll
  | activateWebStateAt index =>
    obtain ⟨i, w, rfl, -, hw, -⟩ := WebStateList.ContainsIndex.getWebStateAt hv
    have hnew : (l.setActiveIndex i).getActiveWebState = some w :=
      setActiveIndex_getActiveWebState hw
    have hlist : (operationMachine W).step l (.activateWebStateAt i, isLoading) =
        l.setActiveIndex i := Mutation.activateWebStateAtImpl_webStateList _ _ _
    by_cases hsame : l.getActiveWebState = some w
    · rw [hlist, viewOf, viewOf, WebStateList.setActiveIndex_webStates, hnew, hsame]
    · refine absurd ((savedDuring_activateWebStateAtImpl (m := { webStateList := l }) hw
        .activated).2 (.inr ⟨hsame, hidle.2 w ?_ hsame⟩)) hunsaved
      rw [hlist]
      exact hnew
  | setOpenerOfWebStateAt index opener =>
    exact viewOf_congr (WebStateList.setOpenerOfWebStateAt_webStates l index opener)
      (WebStateList.setOpenerOfWebStateAt_activeIndex l index opener)

end SessionRestorationBrowserAgent

end IosChrome.Sessions

import IosChrome.Tabs.Invariant

/-!
# What an observer of `WebStateList` can know

A `WebStateListObserver` that keeps its own copy of the list has nothing but
the notifications to update it from. `View` is such a copy (the tabs in order
and the active tab), `onCall` its update, and `observe` the copy after the
calls of an operation. Two questions:

* is the copy right after every operation? It is: each
  notification describes one edit completely, and every change of the active
  tab is notified.
* does a `WebStateActivatedAt` name the tab that was active as the old one?
  (`ReportsTruthfully`.) Every operation but one does. `ReplaceWebStateAtImpl`
  passes the replaced tab to `NotifyIfActiveWebStateChanged` without asking
  whether it was active, so replacing any other tab sends a
  `WebStateActivatedAt` although the active tab is the same, with an old tab
  that was not active.

`observer_exact` puts both together for runs: the copy is always right, and
all reports of a run are truthful exactly when each of its replacements is of
the active tab.
-/

namespace IosChrome.Tabs

variable {W : Type}

/-! ## The observer -/

/-- An observer's copy of the list. -/
structure View (W : Type) where
  tabs : List W
  active : Option W
  deriving DecidableEq, Repr

/-- What the copy should be. -/
def viewOf (l : WebStateList W) : View W := ⟨l.webStates, l.getActiveWebState⟩

theorem viewOf_congr {l l' : WebStateList W} (htabs : l.webStates = l'.webStates)
    (hactive : l.activeIndex = l'.activeIndex) : viewOf l = viewOf l' := by
  rw [viewOf, viewOf, WebStateList.getActiveWebState_eq, WebStateList.getActiveWebState_eq, htabs,
    hactive]

namespace View

/-- The update from one notification. -/
def onCall (v : View W) : ObserverCall W → View W
  | .webStateInsertedAt webState index _ =>
    { v with tabs := v.tabs.insertIdx index.toNat webState }
  | .webStateMoved webState fromIndex toIndex =>
    { v with tabs := (v.tabs.eraseIdx fromIndex.toNat).insertIdx toIndex.toNat webState }
  | .webStateReplacedAt _ newWebState index =>
    { v with tabs := v.tabs.set index.toNat newWebState }
  | .webStateDetachedAt _ index => { v with tabs := v.tabs.eraseIdx index.toNat }
  | .webStateActivatedAt _ newWebState _ _ => { v with active := newWebState }
  | .willDetachWebStateAt .. => v
  | .willCloseWebStateAt .. => v
  | .willBeginBatchOperation => v
  | .batchOperationEnded => v

/-- The copy after the calls of an operation. -/
def observe (v : View W) (calls : List (Notified W)) : View W :=
  calls.foldl (fun v notified => v.onCall notified.call) v

/-- A `WebStateActivatedAt` names the tab the observer knows to be active as
the old one, and another one as the new one. -/
def Truthful (v : View W) : ObserverCall W → Prop
  | .webStateActivatedAt oldWebState newWebState _ _ =>
    oldWebState = v.active ∧ newWebState ≠ v.active
  | _ => True

/-- All the calls of an operation are truthful when they arrive. -/
def ReportsTruthfully : View W → List (Notified W) → Prop
  | _, [] => True
  | v, notified :: calls =>
    v.Truthful notified.call ∧ (v.onCall notified.call).ReportsTruthfully calls

@[simp] theorem observe_append (v : View W) (calls calls' : List (Notified W)) :
    v.observe (calls ++ calls') = (v.observe calls).observe calls' :=
  List.foldl_append

theorem reportsTruthfully_append : ∀ (v : View W) (calls calls' : List (Notified W)),
    v.ReportsTruthfully (calls ++ calls') ↔
      v.ReportsTruthfully calls ∧ (v.observe calls).ReportsTruthfully calls'
  | _, [], _ => by simp only [List.nil_append, ReportsTruthfully, true_and]; rfl
  | v, notified :: calls, calls' => by
    rw [List.cons_append, ReportsTruthfully, ReportsTruthfully,
      reportsTruthfully_append (v.onCall notified.call) calls calls', and_assoc]
    rfl

@[simp] theorem reportsTruthfully_singleton (v : View W) (notified : Notified W) :
    v.ReportsTruthfully [notified] ↔ v.Truthful notified.call :=
  and_iff_left trivial

end View

/-! ## The active tab after each write -/

theorem insertWrapperAt_getActiveWebState (l : WebStateList W) (i : Nat) (webState : W) :
    (l.insertWrapperAt i webState).getActiveWebState = l.getActiveWebState := by
  rw [WebStateList.getActiveWebState_eq, WebStateList.getActiveWebState_eq,
    WebStateList.insertWrapperAt_webStates, Int.toNat_natCast]
  exact Lib.current_insertIdx _ _

theorem moveWrapper_getActiveWebState (l : WebStateList W) {i j : Nat} {webState : W}
    (hi : l.webStates[i]? = some webState) (hj : j < l.webStateWrappers.length) :
    (l.moveWrapper i j).getActiveWebState = l.getActiveWebState := by
  obtain ⟨hlt, rfl⟩ := List.getElem?_eq_some_iff.1 hi
  have hindex : (l.moveWrapper i j).activeIndex = Lib.movedIndex i j l.activeIndex := by
    have hlt' : i < l.webStateWrappers.length := by rwa [WebStateList.length_webStates] at hlt
    unfold WebStateList.moveWrapper Lib.movedIndex
    rw [WebStateList.getWebStateWrapperAt_natCast, List.getElem?_eq_getElem hlt']
  rw [← WebStateList.getWebStateAt_natCast] at hi
  rw [WebStateList.getActiveWebState_eq, WebStateList.getActiveWebState_eq, hindex,
    WebStateList.moveWrapper_webStates l i j hi]
  exact Lib.current_move _ hlt (by rwa [WebStateList.length_webStates])

/-- An operation in progress that an observer has followed. -/
structure Followed (v : View W) (m : Mutation W) : Prop where
  view : v.observe m.calls = viewOf m.webStateList
  reports : v.ReportsTruthfully m.calls

variable [DecidableEq W]

theorem replaceWrapper_getActiveWebState (l : WebStateList W) {i : Nat} (webState : W)
    (hne : l.activeIndex ≠ i) :
    (l.replaceWrapper i webState).getActiveWebState = l.getActiveWebState := by
  rw [WebStateList.getActiveWebState_eq, WebStateList.getActiveWebState_eq,
    WebStateList.replaceWrapper_activeIndex, WebStateList.replaceWrapper_webStates]
  exact Lib.current_set_ne _ _ hne

theorem removeWrapperAt_getActiveWebState {l : WebStateList W} (h : ListInv l) {i : Nat}
    (hi : i < l.webStateWrappers.length) (hne : l.activeIndex ≠ i) :
    (l.removeWrapperAt i).getActiveWebState = l.getActiveWebState := by
  have hindex : l.determineNewActiveIndex l.activeIndex i =
      if l.activeIndex < i then l.activeIndex else l.activeIndex - 1 := by
    unfold WebStateList.determineNewActiveIndex
    split
    next ha =>
      rw [ha, if_pos (by unfold kInvalidIndex; omega)]
    next ha =>
      have hrange := h.active.resolve_left ha
      unfold WebStateList.ContainsIndex WebStateList.count at hrange
      have hcount : ¬ l.count = 1 := by
        unfold WebStateList.count
        omega
      rw [if_neg hcount]
      rfl
  rw [WebStateList.getActiveWebState_eq, WebStateList.getActiveWebState_eq,
    WebStateList.removeWrapperAt_activeIndex, WebStateList.removeWrapperAt_webStates, hindex,
    Int.toNat_natCast]
  exact Lib.current_eraseIdx _ hne

/-! ## `NotifyIfActiveWebStateChanged` -/

variable {m : Mutation W} {v : View W}

/-- The copy after the notification: the observer that already has the tabs
gets the active one, unless the old tab passed is the active one. -/
theorem notifyIfActiveWebStateChanged_view {a : Option W}
    (hview : v.observe m.calls = ⟨m.webStateList.webStates, a⟩) (oldWebState : Option W)
    (reason : ActiveWebStateChangeReason)
    (hold : oldWebState = m.webStateList.getActiveWebState → a = oldWebState) :
    v.observe (m.notifyIfActiveWebStateChanged oldWebState reason).calls =
      viewOf m.webStateList := by
  unfold Mutation.notifyIfActiveWebStateChanged
  simp only
  split
  next heq => rw [hview, hold heq, heq]; rfl
  next =>
    rw [Mutation.notify_calls, View.observe_append, hview]
    rfl

/-- …and its report is truthful when the old tab passed is the one the observer
knows to be active. -/
theorem notifyIfActiveWebStateChanged_reports {a : Option W}
    (hview : v.observe m.calls = ⟨m.webStateList.webStates, a⟩)
    (hreports : v.ReportsTruthfully m.calls) (reason : ActiveWebStateChangeReason) :
    Followed v (m.notifyIfActiveWebStateChanged a reason) := by
  refine ⟨?_, ?_⟩
  · rw [Mutation.notifyIfActiveWebStateChanged_webStateList]
    exact notifyIfActiveWebStateChanged_view hview a reason fun _ => rfl
  · unfold Mutation.notifyIfActiveWebStateChanged
    simp only
    split
    next => exact hreports
    next hne =>
      rw [Mutation.notify_calls, View.reportsTruthfully_append, hview,
        View.reportsTruthfully_singleton]
      exact ⟨hreports, rfl, fun he => hne he.symm⟩

/-- A replacement, if it is one, is of the active tab. -/
def Operation.ReplacesActive (l : WebStateList W) : Operation W → Prop
  | .replaceWebStateAt index _ => index = l.activeIndex
  | _ => True

/-! ## The operations -/

theorem activateWebStateAtImpl_followed (h : Followed v m) (index : Int)
    (reason : ActiveWebStateChangeReason) :
    Followed v (m.activateWebStateAtImpl index reason) := by
  have hview : v.observe (m.update (·.setActiveIndex index)).calls =
      ⟨(m.update (·.setActiveIndex index)).webStateList.webStates,
        m.webStateList.getActiveWebState⟩ := by
    rw [Mutation.update_calls, h.view, Mutation.update_webStateList,
      WebStateList.setActiveIndex_webStates]
    rfl
  exact notifyIfActiveWebStateChanged_reports hview h.reports reason

omit [DecidableEq W] in
theorem moveWebStateAtImpl_followed (h : Followed v m) {i j : Nat} {webState : W}
    (hi : m.webStateList.webStates[i]? = some webState)
    (hj : j < m.webStateList.webStateWrappers.length) :
    Followed v (m.moveWebStateAtImpl i j) := by
  have hw := hi
  rw [← WebStateList.getWebStateAt_natCast] at hw
  unfold Mutation.moveWebStateAtImpl
  split
  next => exact h
  next =>
    rw [hw]
    refine ⟨?_, ?_⟩
    · rw [Mutation.notify_calls, View.observe_append, Mutation.update_calls, h.view,
        Mutation.notify_webStateList, Mutation.update_webStateList]
      unfold viewOf
      rw [moveWrapper_getActiveWebState _ hi hj, WebStateList.moveWrapper_webStates _ _ _ hw]
      rfl
    · rw [Mutation.notify_calls, View.reportsTruthfully_append]
      exact ⟨h.reports, trivial, trivial⟩

/-- Detaching the active tab notifies after the tab is gone, so the active tab
cannot be the old one. -/
theorem detachWebStateAtImpl_followed (h : Followed v m) (hinv : ListInv m.webStateList) {i : Nat}
    {webState : W} (hi : m.webStateList.webStates[i]? = some webState) :
    Followed v (m.detachWebStateAtImpl i) := by
  obtain ⟨hlt, hget⟩ := List.getElem?_eq_some_iff.1 hi
  rw [WebStateList.length_webStates] at hlt
  have hw := hi
  rw [← WebStateList.getWebStateAt_natCast] at hw
  unfold Mutation.detachWebStateAtImpl
  rw [hw]
  show Followed v (if (i : Int) == m.webStateList.activeIndex then
    Mutation.notifyIfActiveWebStateChanged _ _ _ else _)
  generalize hm' : ((m.notify (.willDetachWebStateAt webState i)).update
    (·.removeWrapperAt i)).notify (.webStateDetachedAt webState i) = m'
  have hlist : m'.webStateList = m.webStateList.removeWrapperAt i := by rw [← hm']; rfl
  have hview : v.observe m'.calls =
      ⟨m'.webStateList.webStates, m.webStateList.getActiveWebState⟩ := by
    rw [hlist, WebStateList.removeWrapperAt_webStates, ← hm', Mutation.notify_calls,
      Mutation.update_calls, Mutation.notify_calls, View.observe_append, View.observe_append,
      h.view]
    rfl
  have hreports : v.ReportsTruthfully m'.calls := by
    rw [← hm', Mutation.notify_calls, Mutation.update_calls, Mutation.notify_calls,
      View.reportsTruthfully_append, View.reportsTruthfully_append]
    exact ⟨⟨h.reports, trivial, trivial⟩, trivial, trivial⟩
  by_cases hactive : ((i : Int) == m.webStateList.activeIndex) = true
  · have hold : m.webStateList.getActiveWebState = some webState := by
      rw [WebStateList.getActiveWebState_eq, ← eq_of_beq hactive, Lib.current_natCast, hi]
    rw [hold] at hview
    rw [if_pos hactive]
    exact notifyIfActiveWebStateChanged_reports hview hreports .closed
  · rw [if_neg hactive]
    refine ⟨?_, hreports⟩
    rw [hview, viewOf, hlist,
      removeWrapperAt_getActiveWebState hinv hlt (fun he => hactive (beq_iff_eq.2 he.symm))]

theorem closeWebStateAtImpl_followed (h : Followed v m) (hinv : ListInv m.webStateList) {i : Nat}
    {webState : W} (hi : m.webStateList.webStates[i]? = some webState) (closeFlags : Int32) :
    Followed v (m.closeWebStateAtImpl i closeFlags) := by
  have hdetach := detachWebStateAtImpl_followed h hinv hi
  unfold Mutation.closeWebStateAtImpl
  rw [WebStateList.getWebStateAt_natCast, hi]
  refine ⟨?_, ?_⟩
  · rw [Mutation.notify_calls, View.observe_append, hdetach.view]
    rfl
  · rw [Mutation.notify_calls, View.reportsTruthfully_append]
    exact ⟨hdetach.reports, trivial, trivial⟩

theorem closeAllLoop_followed (closeFlags : Int32) :
    ∀ (rounds : Nat) (m : Mutation W), Followed v m → ListInv m.webStateList →
      Followed v (Mutation.closeAllLoop closeFlags rounds m)
  | 0, _, h, _ => h
  | rounds + 1, m, h, hinv => by
    unfold Mutation.closeAllLoop
    split
    next => exact h
    next hne =>
      have hlast := WebStateList.containsIndex_last (Bool.eq_false_iff.2 hne)
      obtain ⟨i, w, hi, _, hw, _⟩ := hlast.getWebStateAt
      refine closeAllLoop_followed closeFlags rounds _ ?_
        (closeWebStateAtImpl_inv hinv closeFlags hlast)
      rw [hi]
      exact closeWebStateAtImpl_followed h hinv hw closeFlags

theorem closeAllWebStatesImpl_followed (h : Followed v m) (hinv : ListInv m.webStateList)
    (closeFlags : Int32) :
    Followed v (m.closeAllWebStatesImpl closeFlags) := by
  have hbegin : Followed v (m.notify .willBeginBatchOperation) := by
    refine ⟨?_, ?_⟩
    · rw [Mutation.notify_calls, View.observe_append, h.view]
      rfl
    · rw [Mutation.notify_calls, View.reportsTruthfully_append]
      exact ⟨h.reports, trivial, trivial⟩
  have hclosed := closeAllLoop_followed closeFlags
    ((m.notify .willBeginBatchOperation).activateWebStateAtImpl
      kInvalidIndex .closed).webStateList.webStateWrappers.length _
    (activateWebStateAtImpl_followed hbegin kInvalidIndex .closed)
    (activateWebStateAtImpl_inv (m := m.notify .willBeginBatchOperation) hinv .closed (.inl rfl))
  unfold Mutation.closeAllWebStatesImpl Mutation.performBatchOperation
  refine ⟨?_, ?_⟩
  · rw [Mutation.notify_calls, View.observe_append, hclosed.view]
    rfl
  · rw [Mutation.notify_calls, View.reportsTruthfully_append]
    exact ⟨hclosed.reports, trivial, trivial⟩

/-- An insertion is seen before its opener is set, and neither the openers nor
the reset flag are part of the copy. -/
theorem insertWebStateImpl_followed (h : Followed v m)
    {nav : W → Int32} {index : Int} {webState : W} {insertionFlags : Int32}
    {opener : WebStateOpener W}
    (hv : (Operation.insertWebState nav index webState insertionFlags opener).Valid
      m.webStateList) :
    Followed v (m.insertWebStateImpl nav index webState insertionFlags opener).2 := by
  obtain ⟨i, hindex, _⟩ := exists_insertionIndex hv _
  rw [m.insertWebStateImpl_eq nav index webState insertionFlags opener rfl rfl hindex]
  simp only
  generalize (m.webStateList.insertionBase insertionFlags).insertionOpener nav
    insertionFlags opener = opener'
  have hinserted : Followed v (Mutation.mk
      ((((m.webStateList.insertionBase insertionFlags).insertWrapperAt i webState).markInserted i
        insertionFlags).setInsertedOpener i opener')
      (m.calls ++ [⟨((m.webStateList.insertionBase insertionFlags).insertWrapperAt i
        webState).markInserted i insertionFlags, .webStateInsertedAt webState i
          (isInsertionFlagSet insertionFlags insertActivate)⟩])) := by
    refine ⟨?_, ?_⟩
    · have hlist : viewOf ((((m.webStateList.insertionBase insertionFlags).insertWrapperAt i
          webState).markInserted i insertionFlags).setInsertedOpener i opener') =
          viewOf (m.webStateList.insertWrapperAt i webState) :=
        viewOf_congr (by simp) (by simp [WebStateList.insertWrapperAt])
      rw [View.observe_append, h.view, hlist, viewOf, viewOf, insertWrapperAt_getActiveWebState,
        WebStateList.insertWrapperAt_webStates]
      rfl
    · rw [View.reportsTruthfully_append]
      exact ⟨h.reports, trivial, trivial⟩
  split
  · exact activateWebStateAtImpl_followed hinserted _ _
  · exact hinserted

/-- **A replacement keeps the copy right**, since the old tab is not in the new
list and a notification always follows; it is truthful exactly when the
replaced tab was the active one. -/
theorem replaceWebStateAtImpl_view (h : Followed v m) (hinv : ListInv m.webStateList) {i : Nat}
    {old webState : W} (hi : m.webStateList.webStates[i]? = some old)
    (hnew : webState ∉ m.webStateList.webStates) :
    v.observe (m.replaceWebStateAtImpl i webState).calls =
        viewOf (m.replaceWebStateAtImpl i webState).webStateList ∧
    (v.ReportsTruthfully (m.replaceWebStateAtImpl i webState).calls ↔
      m.webStateList.activeIndex = i) := by
  have hw := hi
  rw [← WebStateList.getWebStateAt_natCast] at hw
  obtain ⟨hlt, hold⟩ := List.getElem?_eq_some_iff.1 hi
  have htabs := WebStateList.replaceWrapper_webStates m.webStateList i webState
  have hgone : some old ≠ (m.webStateList.replaceWrapper i webState).getActiveWebState := by
    intro he
    have hmem := mem_of_getActiveWebState he.symm
    rw [htabs, ← hold] at hmem
    exact Lib.getElem_not_mem_set hinv.nodup hlt hnew hmem
  have hcalls : (m.replaceWebStateAtImpl i webState).calls =
      (m.calls ++ [⟨m.webStateList.replaceWrapper i webState,
        .webStateReplacedAt old webState i⟩]) ++
      [⟨m.webStateList.replaceWrapper i webState, .webStateActivatedAt (some old)
        (m.webStateList.replaceWrapper i webState).getActiveWebState
        (m.webStateList.replaceWrapper i webState).activeIndex .replaced⟩] := by
    unfold Mutation.replaceWebStateAtImpl
    rw [hw]
    exact congrArg Mutation.calls (if_neg hgone)
  have hmid : v.observe (m.calls ++ [⟨m.webStateList.replaceWrapper i webState,
      .webStateReplacedAt old webState i⟩]) =
      ⟨m.webStateList.webStates.set i webState, m.webStateList.getActiveWebState⟩ := by
    rw [View.observe_append, h.view]
    rfl
  refine ⟨?_, ?_⟩
  · rw [hcalls, View.observe_append, hmid, m.replaceWebStateAtImpl_webStateList webState hw, viewOf,
      htabs]
    rfl
  · rw [hcalls, View.reportsTruthfully_append, View.reportsTruthfully_append, hmid,
      View.reportsTruthfully_singleton, View.reportsTruthfully_singleton]
    show (_ ∧ True) ∧ some old = m.webStateList.getActiveWebState ∧ _ ≠ _ ↔ _
    constructor
    · rintro ⟨_, hactive, _⟩
      rw [WebStateList.getActiveWebState_eq, ← hold] at hactive
      exact Lib.eq_of_current hinv.nodup hlt hactive.symm
    · intro hactive
      have hactive' : some old = m.webStateList.getActiveWebState := by
        rw [WebStateList.getActiveWebState_eq, hactive, Lib.current_natCast, hi]
      exact ⟨⟨h.reports, trivial⟩, hactive', fun he => hgone (hactive'.trans he.symm)⟩

/-- **After every operation the copy is right, and its reports were truthful
unless it was a replacement of a tab that was not active.** -/
theorem perform_followed (h : Followed v m) (hinv : ListInv m.webStateList) (op : Operation W)
    (hv : op.Valid m.webStateList) :
    v.observe (op.perform m).calls = viewOf (op.perform m).webStateList ∧
    (v.ReportsTruthfully (op.perform m).calls ↔ op.ReplacesActive m.webStateList) := by
  have hall : ∀ m' : Mutation W, Followed v m' →
      v.observe m'.calls = viewOf m'.webStateList ∧ (v.ReportsTruthfully m'.calls ↔ True) :=
    fun m' hm' => ⟨hm'.view, iff_true_intro hm'.reports⟩
  cases op with
  | insertWebState nav index webState insertionFlags opener =>
    exact hall _ (insertWebStateImpl_followed h hv)
  | moveWebStateAt fromIndex toIndex =>
    obtain ⟨i, w, rfl, _, hw, _⟩ := hv.1.getWebStateAt
    obtain ⟨j, rfl, hj⟩ := hv.2.exists_nat
    exact hall _ (moveWebStateAtImpl_followed h hw hj)
  | replaceWebStateAt index webState =>
    obtain ⟨i, w, rfl, _, hw, _⟩ := hv.1.getWebStateAt
    obtain ⟨hview, hreports⟩ := replaceWebStateAtImpl_view h hinv hw hv.2
    exact ⟨hview, hreports.trans eq_comm⟩
  | detachWebStateAt index =>
    obtain ⟨i, w, rfl, _, hw, _⟩ := WebStateList.ContainsIndex.getWebStateAt hv
    exact hall _ (detachWebStateAtImpl_followed h hinv hw)
  | closeWebStateAt index closeFlags =>
    obtain ⟨i, w, rfl, _, hw, _⟩ := WebStateList.ContainsIndex.getWebStateAt hv
    exact hall _ (closeWebStateAtImpl_followed h hinv hw closeFlags)
  | closeAllWebStates closeFlags => exact hall _ (closeAllWebStatesImpl_followed h hinv closeFlags)
  | activateWebStateAt index => exact hall _ (activateWebStateAtImpl_followed h index .activated)
  | setOpenerOfWebStateAt index opener =>
    refine hall _ ⟨?_, h.reports⟩
    rw [show (Operation.perform m (.setOpenerOfWebStateAt index opener)).calls = m.calls from rfl,
      h.view]
    exact viewOf_congr (WebStateList.setOpenerOfWebStateAt_webStates _ _ _).symm
      (WebStateList.setOpenerOfWebStateAt_activeIndex _ _ _).symm

/-! ## Runs -/

/-- A list and an observer of it. -/
structure Observed (W : Type) where
  webStateList : WebStateList W
  view : View W

/-- The calls an operation sends to the observer. -/
def Observed.calls (s : Observed W) (op : Operation W) : List (Notified W) :=
  (op.perform { webStateList := s.webStateList }).calls

/-- The list under its operations, next to an observer that starts with a right
copy of a reachable list. -/
def observedMachine (W : Type) [DecidableEq W] : Lib.Machine (Observed W) (Operation W) where
  init s := (webStateListMachine W).Reachable s.webStateList ∧ s.view = viewOf s.webStateList
  pre s op := op.Valid s.webStateList
  step s op :=
    { webStateList := (webStateListMachine W).step s.webStateList op
      view := s.view.observe (s.calls op) }

instance (s : Observed W) (op : Operation W) : Decidable ((observedMachine W).pre s op) :=
  inferInstanceAs (Decidable (op.Valid s.webStateList))

/-- The observer's copy is right. -/
def Observed.Synced (s : Observed W) : Prop := s.view = viewOf s.webStateList

theorem observed_step {s : Observed W} (h : ListInv s.webStateList ∧ s.Synced)
    (op : Operation W) (hv : op.Valid s.webStateList) :
    (ListInv ((observedMachine W).step s op).webStateList ∧
      ((observedMachine W).step s op).Synced) ∧
    (s.view.ReportsTruthfully (s.calls op) ↔ op.ReplacesActive s.webStateList) := by
  have hfollowed : Followed s.view { webStateList := s.webStateList } := ⟨h.2, trivial⟩
  have hperform := perform_followed hfollowed h.1 op hv
  exact ⟨⟨perform_inv (m := { webStateList := s.webStateList }) h.1 op hv, hperform.1⟩, hperform.2⟩

/-- **An observer's copy is right after every operation of every run, and the
run's `WebStateActivatedAt` calls all name the tab that was active as the old
one exactly when the run only ever replaces the active tab.** -/
theorem observer_exact {s : Observed W} (hs : (observedMachine W).init s)
    {ops : List (Operation W)} (hr : (observedMachine W).Run s ops) :
    (observedMachine W).Always (fun s op => ((observedMachine W).step s op).Synced) s ops ∧
    ((observedMachine W).Always (fun s op => ((observedMachine W).step s op).Synced ∧
        s.view.ReportsTruthfully (s.calls op)) s ops ↔
      (observedMachine W).Always (fun s op => op.ReplacesActive s.webStateList) s ops) := by
  have hI : ListInv s.webStateList ∧ s.Synced := ⟨reachable_inv hs.1, hs.2⟩
  have hstep : ∀ (s : Observed W) op, ListInv s.webStateList ∧ s.Synced →
      (observedMachine W).pre s op → ListInv ((observedMachine W).step s op).webStateList ∧
        ((observedMachine W).step s op).Synced :=
    fun s op h hv => (observed_step h op hv).1
  refine ⟨Lib.Machine.always_of_invariant hstep (fun s op h hv => (hstep s op h hv).2) hI hr, ?_⟩
  refine Lib.Machine.always_iff_of_invariant (fun s op h hv => ?_)
    (fun s op h hv _ => hstep s op h hv) hI hr
  rw [and_iff_right (hstep s op h hv).2]
  exact (observed_step h op hv).2

/-- A replacement of the active tab: tab 1 is active and tab 3 takes its place. -/
theorem observer_exact_replaceActive :
    let s : Observed Nat := ⟨{}, viewOf {}⟩
    let ops : List (Operation Nat) :=
      [.insertWebState (fun _ => 0) 0 1 insertActivate .null, .replaceWebStateAt 0 3]
    (observedMachine Nat).Always (fun s op => ((observedMachine Nat).step s op).Synced) s ops ∧
    ((observedMachine Nat).Always (fun s op => ((observedMachine Nat).step s op).Synced ∧
        s.view.ReportsTruthfully (s.calls op)) s ops ↔
      (observedMachine Nat).Always (fun s op => op.ReplacesActive s.webStateList) s ops) :=
  observer_exact ⟨⟨{}, [], rfl, trivial, rfl⟩, rfl⟩ (by decide)

/-- A replacement of another tab: with tab 1 active, replacing tab 2 by tab 3
reports that tab 2 stopped being active. -/
theorem replaceInactive_notTruthful :
    ¬ ∀ (s : Observed Nat) (ops : List (Operation Nat)), (observedMachine Nat).init s →
      (observedMachine Nat).Run s ops →
      (observedMachine Nat).Always (fun s op => ((observedMachine Nat).step s op).Synced ∧
        s.view.ReportsTruthfully (s.calls op)) s ops := by
  intro h
  have hrun := h ⟨{}, viewOf {}⟩
    [.insertWebState (fun _ => 0) 0 1 insertActivate .null,
      .insertWebState (fun _ => 0) 1 2 insertForceIndex .null, .replaceWebStateAt 1 3]
    ⟨⟨{}, [], rfl, trivial, rfl⟩, rfl⟩ (by decide)
  have hreport := hrun.2.2.1.2.2.1
  exact absurd hreport.1 (by decide)

end IosChrome.Tabs

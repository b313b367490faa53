import IosChrome.Snapshots.RemovalsRequested
import IosChrome.TabGrid.CloseAllItems
import IosChrome.Tabs.Restored

/-!
# What an undo brings back

The tabs always come back: the saved window is the closed list, serialized, and restoring it puts
its tabs behind those there are (`restoreSessionWindow_eq`). The entries need not go with them.
The mediator takes as many entries from the front as the service grew by, and that drops exactly
the entries of the close-all when they stand at the front and no others do
(`Lib.drop_eq_filter_iff`): not after another tab was closed in between, nor when the service was
full and dropped some of its entries for them. And a discard removes all snapshots, those of the
tabs opened since with the others.

`undoesCloseAll_iff` is the exact condition, for runs.
-/

namespace IosChrome.TabGrid

open Tabs Snapshots
open Sessions (SessionWindow)

/-! ## The service -/

namespace TabRestoreService

variable {service : TabRestoreService}

theorem WellFormed.createHistoricalTab (h : service.WellFormed) (hasNavigations : Bool) :
    (service.createHistoricalTab hasNavigations).WellFormed := by
  unfold TabRestoreService.createHistoricalTab
  split
  · have hnew : service.nextSessionID ∉ service.entries := fun hmem =>
      Nat.lt_irrefl _ (h.fresh _ hmem)
    refine ⟨(List.nodup_cons.2 ⟨hnew, h.nodup⟩).sublist (List.take_sublist _ _), fun id hid => ?_⟩
    refine Nat.lt_succ_of_le ?_
    rcases List.mem_cons.1 (List.mem_of_mem_take hid) with rfl | hold
    · exact Nat.le_refl _
    · exact Nat.le_of_lt (h.fresh id hold)
  · exact h

theorem WellFormed.removeTabEntryById (h : service.WellFormed) (id : SessionID) :
    (service.removeTabEntryById id).WellFormed :=
  ⟨h.nodup.sublist List.erase_sublist, fun id' hid => h.fresh id' (List.mem_of_mem_erase hid)⟩

theorem WellFormed.removeTabEntries (ids : List SessionID) : ∀ {service : TabRestoreService},
    service.WellFormed → (ids.foldl TabRestoreService.removeTabEntryById service).WellFormed := by
  induction ids with
  | nil =>
    intro service h
    exact h
  | cons id ids ih =>
    intro service h
    exact ih (h.removeTabEntryById id)

theorem removeTabEntries_entries (ids : List SessionID) : ∀ service : TabRestoreService,
    (ids.foldl removeTabEntryById service).entries = ids.foldl List.erase service.entries := by
  induction ids with
  | nil =>
    intro service
    rfl
  | cons id ids ih =>
    intro service
    exact ih (service.removeTabEntryById id)

/-- The loop that removes the first entries. -/
theorem removeFirstEntries (service : TabRestoreService) (k : Nat) :
    ((service.entries.take k).foldl removeTabEntryById service).entries =
      service.entries.drop k := by
  rw [removeTabEntries_entries, Lib.foldl_erase_take]

end TabRestoreService

/-! ## The history -/

/-- A service that is there is in order. -/
def ServiceWellFormed (service : Option TabRestoreService) : Prop :=
  ∀ restoreService ∈ service, restoreService.WellFormed

theorem ServiceWellFormed.recordHistoryForWebState {service : Option TabRestoreService}
    (h : ServiceWellFormed service) (navigation : TabNavigation) :
    ServiceWellFormed (recordHistoryForWebState navigation service) := by
  cases service with
  | none => exact h
  | some service =>
    intro restoreService hmem
    have hservice := h service rfl
    rw [← Option.some.inj hmem]
    split
    · exact hservice.createHistoricalTab _
    · split
      · split
        · exact hservice
        · split
          · exact hservice
          · exact hservice.createHistoricalTab _
      · exact hservice.createHistoricalTab _

theorem ServiceWellFormed.map {service : Option TabRestoreService} (h : ServiceWellFormed service)
    {f : TabRestoreService → TabRestoreService}
    (hf : ∀ restoreService : TabRestoreService, restoreService.WellFormed →
      (f restoreService).WellFormed) : ServiceWellFormed (service.map f) := by
  intro restoreService hmem
  obtain ⟨old, hold, rfl⟩ := Option.map_eq_some_iff.1 hmem
  exact hf old (h old hold)

section

variable {W : Type} {navigation : W → TabNavigation} {service : Option TabRestoreService}

theorem ServiceWellFormed.recordHistory (calls : List (Notified W)) :
    ∀ {service : Option TabRestoreService}, ServiceWellFormed service →
      ServiceWellFormed (recordHistory navigation calls service) := by
  induction calls with
  | nil =>
    intro service h
    exact h
  | cons notified calls ih =>
    intro service h
    refine ih (?_ : ServiceWellFormed (recordNotified navigation service notified))
    unfold recordNotified
    split
    · exact h.recordHistoryForWebState _
    · exact h

/-- The history after the calls of an operation so far. -/
theorem recordHistory_notify (m : Mutation W) (call : ObserverCall W) :
    recordHistory navigation (m.notify call).calls service =
      recordNotified navigation (recordHistory navigation m.calls service)
        ⟨m.webStateList, call⟩ := by
  unfold recordHistory
  rw [Mutation.notify_calls, List.foldl_append]
  rfl

variable [DecidableEq W]

theorem recordHistory_notifyIfActiveWebStateChanged (m : Mutation W) (oldWebState : Option W)
    (reason : ActiveWebStateChangeReason) :
    recordHistory navigation (m.notifyIfActiveWebStateChanged oldWebState reason).calls service =
      recordHistory navigation m.calls service := by
  unfold Mutation.notifyIfActiveWebStateChanged
  simp only
  split
  · rfl
  · exact recordHistory_notify ..

theorem recordHistory_activateWebStateAtImpl (m : Mutation W) (index : Int)
    (reason : ActiveWebStateChangeReason) :
    recordHistory navigation (m.activateWebStateAtImpl index reason).calls service =
      recordHistory navigation m.calls service :=
  recordHistory_notifyIfActiveWebStateChanged _ _ _

theorem recordHistory_insertWebStateImpl (m : Mutation W) (nav : W → Int32) (index : Int)
    (webState : W) (insertionFlags : Int32) (opener : WebStateOpener W) :
    recordHistory navigation
        (m.insertWebStateImpl nav index webState insertionFlags opener).2.calls service =
      recordHistory navigation m.calls service := by
  unfold Mutation.insertWebStateImpl
  simp only
  split
  · rw [recordHistory_activateWebStateAtImpl, Mutation.update_calls, recordHistory_notify]
    rfl
  · rw [Mutation.update_calls, recordHistory_notify]
    rfl

theorem recordHistory_insertSessions {R : Type} (nav : W → Int32) (factory : WebStateFactory W R)
    (sessions : List (SessionStorage R)) : ∀ (n : Nat) (m : Mutation W),
      recordHistory navigation (insertSessions nav factory n sessions m).calls service =
        recordHistory navigation m.calls service := by
  induction sessions with
  | nil =>
    intro n m
    rfl
  | cons session sessions ih =>
    intro n m
    exact (ih (n + 1) _).trans (recordHistory_insertWebStateImpl ..)

/-- Restoring tabs records none. -/
theorem recordHistory_deserializeWebStateList {R : Type} (nav : W → Int32)
    (factory : WebStateFactory W R) (m : Mutation W)
    (window : SessionWindow (SessionStorage R)) :
    recordHistory navigation (deserializeWebStateList nav factory m window).calls service =
      recordHistory navigation m.calls service := by
  unfold deserializeWebStateList
  simp only
  split
  · rw [recordHistory_activateWebStateAtImpl, Mutation.update_calls,
      recordHistory_insertSessions]
  · rw [Mutation.update_calls, recordHistory_insertSessions]

/-- A tab is recorded once when it is closed. -/
theorem recordHistory_closeWebStateAtImpl {m : Mutation W} {index : Int} {webState : W}
    (hw : m.webStateList.getWebStateAt index = some webState) (closeFlags : Int32) :
    recordHistory navigation (m.closeWebStateAtImpl index closeFlags).calls service =
      recordHistoryForWebState (navigation webState)
        (recordHistory navigation m.calls service) := by
  have hwill : recordHistory navigation
      (m.notify (.willDetachWebStateAt webState index)).calls service =
        recordHistoryForWebState (navigation webState) (recordHistory navigation m.calls service) :=
    recordHistory_notify ..
  unfold Mutation.closeWebStateAtImpl Mutation.detachWebStateAtImpl
  rw [hw]
  simp only
  split
  · rw [recordHistory_notify, recordHistory_notifyIfActiveWebStateChanged, recordHistory_notify,
      Mutation.update_calls, hwill]
    rfl
  · rw [recordHistory_notify, recordHistory_notify, Mutation.update_calls, hwill]
    rfl

end

/-! ## Restoring a window -/

namespace ClosableGrid

variable {W R Image : Type} [DecidableEq W] {order : AgentOrder} {tabID : W → SnapshotID}
  {s : ClosableGrid W R Image} {navigation : W → TabNavigation} {nav : W → Int32}
  {factory : WebStateFactory W R} {window : SessionWindow (SessionStorage R)}

theorem deserializeWindow_webStateList :
    (s.deserializeWindow order tabID navigation nav factory window).webStateList =
      (deserializeWebStateList nav factory { webStateList := s.webStateList }
        window).webStateList := by
  have hbegin : (s.browser.step order tabID .willBeginBatchOperation).webStateList =
      s.webStateList := by
    show (s.browser.onNotified tabID order ⟨s.webStateList, _⟩).webStateList = _
    rw [BrowserSnapshots.onNotified_willBeginBatchOperation]
    rfl
  unfold deserializeWindow webStateList
  simp only
  show (BrowserSnapshots.onNotified tabID _ order ⟨_, .batchOperationEnded⟩).webStateList = _
  rw [BrowserSnapshots.onNotified_batchOperationEnded, hbegin]
  rfl

theorem deserializeWindow_tabRestoreService :
    (s.deserializeWindow order tabID navigation nav factory window).tabRestoreService =
      s.tabRestoreService :=
  recordHistory_deserializeWebStateList ..

/-- The restored tabs of a close-all. -/
theorem restored_eq (closed : ClosedAll W R) (factory : WebStateFactory W R) :
    closed.restored factory =
      (serializeWebStateList closed.webStateList closed.storageOf).sessions.mapIdx factory.run := by
  unfold ClosedAll.restored serializeWebStateList
  refine List.ext_getElem? fun i => ?_
  rw [List.getElem?_mapIdx, List.getElem?_mapIdx, List.getElem?_map, Option.map_map]
  rfl

omit [DecidableEq W] in
theorem loneNewTabPage_of_singleton {webState : W} (hw : s.webStateList.webStates = [webState]) :
    s.loneNewTabPage navigation =
      if isNewTabPage (navigation webState) then some webState else none := by
  unfold loneNewTabPage
  rw [hw]

omit [DecidableEq W] in
theorem loneNewTabPage_of_length_ne (hlength : s.webStateList.webStates.length ≠ 1) :
    s.loneNewTabPage navigation = none := by
  unfold loneNewTabPage
  split
  next webState hw =>
    rw [hw] at hlength
    exact absurd rfl hlength
  next => rfl

theorem performOperation_closeFirst (order : AgentOrder) (tabID : W → SnapshotID)
    (navigation : W → TabNavigation) {webState : W} (hinv : ListInv s.webStateList)
    (hw : s.webStateList.getWebStateAt 0 = some webState) (closeFlags : Int32) :
    (s.performOperation order tabID navigation
        (.closeWebStateAt 0 closeFlags)).webStateList.webStates =
      s.webStateList.webStates.eraseIdx 0 ∧
    (s.performOperation order tabID navigation (.closeWebStateAt 0 closeFlags)).tabRestoreService =
      recordHistoryForWebState (navigation webState) s.tabRestoreService ∧
    ListInv (s.performOperation order tabID navigation
      (.closeWebStateAt 0 closeFlags)).webStateList := by
  have hlist : (s.performOperation order tabID navigation
      (.closeWebStateAt 0 closeFlags)).webStateList = s.webStateList.removeWrapperAt 0 :=
    Mutation.closeWebStateAtImpl_webStateList _ closeFlags hw
  have hpos : 0 < s.webStateList.webStateWrappers.length := by
    have hget := WebStateList.getWebStateAt_natCast s.webStateList 0
    rw [← WebStateList.length_webStates]
    exact (List.getElem?_eq_some_iff.1 (hget.symm.trans hw)).1
  refine ⟨?_, ?_, ?_⟩
  · rw [hlist, WebStateList.removeWrapperAt_webStates]
    rfl
  · exact recordHistory_closeWebStateAtImpl (m := { webStateList := s.webStateList }) hw closeFlags
  · rw [hlist]
    exact removeWrapperAt_inv hinv hpos

/-- **What `RestoreSessionWindow` does to the tabs and to the service**: the restored tabs come
last, and a lone new tab page is closed, which may leave an entry of its own. -/
theorem restoreSessionWindow_eq (order : AgentOrder) (tabID : W → SnapshotID)
    (navigation : W → TabNavigation) (nav : W → Int32) (hinv : ListInv s.webStateList)
    (hsessions : window.sessions ≠ [])
    (hf : factory.Restores s.webStateList window.sessions)
    (hcount : s.webStateList.count + window.sessions.length ≤ intMax)
    (hselected : window.selectedIndex = Sessions.nsNotFound ∨
      window.selectedIndex < window.sessions.length) :
    (s.restoreSessionWindow order tabID navigation nav factory window).webStateList.webStates =
        (if (s.loneNewTabPage navigation).isSome then [] else s.webStateList.webStates) ++
          window.sessions.mapIdx factory.run ∧
    (s.restoreSessionWindow order tabID navigation nav factory window).tabRestoreService =
        s.serviceAtUndo navigation ∧
    ListInv (s.restoreSessionWindow order tabID navigation nav factory window).webStateList := by
  have htabs : (s.deserializeWindow order tabID navigation nav factory
      window).webStateList.webStates =
        s.webStateList.webStates ++ window.sessions.mapIdx factory.run := by
    rw [deserializeWindow_webStateList, deserializeWebStateList_webStates hinv]
    rfl
  have hrestored : ListInv (s.deserializeWindow order tabID navigation nav factory
      window).webStateList := by
    rw [deserializeWindow_webStateList]
    exact deserializeWebStateList_inv hinv nav hf hcount hselected
  have hservice : (s.deserializeWindow order tabID navigation nav factory
      window).tabRestoreService = s.tabRestoreService := deserializeWindow_tabRestoreService
  unfold restoreSessionWindow serviceAtUndo
  rw [if_neg hsessions]
  simp only
  by_cases hone : s.webStateList.webStates.length = 1
  · obtain ⟨webState, hw⟩ := List.length_eq_one_iff.1 hone
    have hcountOne : s.webStateList.count = 1 := by
      unfold WebStateList.count
      rw [← WebStateList.length_webStates, hone]
      rfl
    have hfirst : (s.deserializeWindow order tabID navigation nav factory
        window).webStateList.getWebStateAt 0 = some webState := by
      have hget := WebStateList.getWebStateAt_natCast (s.deserializeWindow order tabID navigation
        nav factory window).webStateList 0
      rw [htabs, hw] at hget
      exact hget
    rw [if_pos hcountOne, hfirst, loneNewTabPage_of_singleton hw]
    simp only
    by_cases hpage : isNewTabPage (navigation webState) = true
    · -- the lone new tab page is closed
      rw [if_pos hpage, if_pos hpage]
      obtain ⟨hclosed, hrecorded, hlist⟩ := performOperation_closeFirst order tabID
        navigation hrestored hfirst closeUserAction
      refine ⟨?_, ?_, hlist⟩
      · rw [hclosed, htabs, hw]
        rfl
      · rw [hrecorded, hservice]
    · rw [if_neg hpage, if_neg hpage]
      exact ⟨htabs, hservice, hrestored⟩
  · have hcountNe : s.webStateList.count ≠ 1 := by
      unfold WebStateList.count
      rw [← WebStateList.length_webStates]
      omega
    rw [if_neg hcountNe, loneNewTabPage_of_length_ne hone]
    exact ⟨htabs, hservice, hrestored⟩

theorem restoreSessionWindow_syncedClosedTabsCount :
    (s.restoreSessionWindow order tabID navigation nav factory window).syncedClosedTabsCount =
      s.syncedClosedTabsCount := by
  unfold restoreSessionWindow
  simp only
  split
  · rfl
  · split
    · split
      · rfl
      · split <;> rfl
    · rfl

/-! ## What every run keeps -/

/-- The saved window is the list of the last close-all that was not undone or discarded. -/
structure Orderly (s : ClosableGrid W R Image) : Prop where
  list : ListInv s.webStateList
  service : ServiceWellFormed s.tabRestoreService
  pending : ∀ closed ∈ s.closedAll, ListInv closed.webStateList ∧
    closed.webStateList.webStateWrappers ≠ [] ∧
    s.closedSessionWindow = some (serializeWebStateList closed.webStateList closed.storageOf)
  nothing : s.closedAll = none → s.closedSessionWindow = none

theorem Orderly.performOperation (order : AgentOrder) (tabID : W → SnapshotID) (h : s.Orderly)
    {operation : Operation W} (hvalid : operation.Valid s.webStateList)
    (navigation : W → TabNavigation) :
    (s.performOperation order tabID navigation operation).Orderly where
  list := perform_inv (m := { webStateList := s.webStateList }) h.list operation hvalid
  service := h.service.recordHistory _
  pending := h.pending
  nothing := h.nothing

/-- The other calls of a browser leave its list. -/
theorem step_webStateList_of_not_operation {browser : BrowserSnapshots W Image}
    {call : BrowserCall W Image} (hcall : ∀ operation, call ≠ .operation operation) :
    (browser.step order tabID call).webStateList = browser.webStateList := by
  cases call with
  | operation operation => exact absurd rfl (hcall operation)
  | willBeginBatchOperation =>
    show (browser.onNotified tabID order ⟨_, _⟩).webStateList = _
    rw [BrowserSnapshots.onNotified_willBeginBatchOperation]
  | batchOperationEnded =>
    show (browser.onNotified tabID order ⟨_, _⟩).webStateList = _
    rw [BrowserSnapshots.onNotified_batchOperationEnded]
  | updateSnapshotCacheWithImage webState snapshot =>
    show (browser.updateSnapshotCacheWithImage tabID webState snapshot).webStateList = _
    unfold BrowserSnapshots.updateSnapshotCacheWithImage
    split
    · split <;> rfl
    · exact (BrowserSnapshots.removeSnapshot_kept tabID browser webState).2.2
  | runFirstTask => rfl

theorem Orderly.of_list {s' : ClosableGrid W R Image} (h : s.Orderly)
    (hlist : s'.webStateList = s.webStateList) (hservice : ServiceWellFormed s'.tabRestoreService)
    (hclosed : s'.closedAll = s.closedAll)
    (hwindow : s'.closedSessionWindow = s.closedSessionWindow) : s'.Orderly where
  list := hlist ▸ h.list
  service := hservice
  pending := by
    rw [hclosed, hwindow]
    exact h.pending
  nothing := by
    rw [hclosed, hwindow]
    exact h.nothing

/-- Of a pending close-all the window is known, and can be restored. -/
theorem Orderly.restorable (h : s.Orderly) {closed : ClosedAll W R}
    (hclosed : s.closedAll = some closed) :
    s.closedSessionWindow =
        some (serializeWebStateList closed.webStateList closed.storageOf) ∧
      (serializeWebStateList closed.webStateList closed.storageOf).sessions ≠ [] ∧
      ListInv closed.webStateList := by
  obtain ⟨hinv, hne, hwindow⟩ := h.pending closed hclosed
  refine ⟨hwindow, fun hnil => hne ?_, hinv⟩
  exact List.map_eq_nil_iff.1 hnil

/-- **An undo**, in terms of the close-all it undoes. -/
theorem undoCloseAllItems_eq (order : AgentOrder) (tabID : W → SnapshotID) (h : s.Orderly)
    {closed : ClosedAll W R} (hclosed : s.closedAll = some closed)
    (hpre : s.Pre (.undoCloseAllItems navigation nav factory)) :
    (s.undoCloseAllItems order tabID navigation nav factory).webStateList.webStates =
        (if (s.loneNewTabPage navigation).isSome then [] else s.webStateList.webStates) ++
          closed.restored factory ∧
    (s.undoCloseAllItems order tabID navigation nav factory).tabRestoreService =
      (s.serviceAtUndo navigation).map (fun service =>
        (service.entries.take s.syncedClosedTabsCount.toNat).foldl
          TabRestoreService.removeTabEntryById service) ∧
    ListInv (s.undoCloseAllItems order tabID navigation nav factory).webStateList := by
  obtain ⟨hwindow, hsessions, hinv⟩ := h.restorable hclosed
  obtain ⟨hf, hcount⟩ := hpre.2 _ hwindow
  obtain ⟨htabs, hservice, hlist⟩ := restoreSessionWindow_eq order tabID navigation nav h.list
    hsessions hf hcount (selectedIndex_serialized hinv closed.storageOf)
  unfold undoCloseAllItems
  rw [hwindow]
  refine ⟨?_, ?_, hlist⟩
  · rw [restored_eq]
    exact htabs
  · show Option.map _ _ = _
    rw [hservice, restoreSessionWindow_syncedClosedTabsCount]

omit [DecidableEq W] in
theorem ServiceWellFormed.serviceAtUndo (h : ServiceWellFormed s.tabRestoreService)
    (navigation : W → TabNavigation) : ServiceWellFormed (s.serviceAtUndo navigation) := by
  unfold ClosableGrid.serviceAtUndo
  split
  · exact h
  · exact h.recordHistoryForWebState _

theorem Orderly.undoCloseAllItems (h : s.Orderly)
    (hpre : s.Pre (.undoCloseAllItems navigation nav factory)) :
    (s.undoCloseAllItems order tabID navigation nav factory).Orderly := by
  cases hclosed : s.closedAll with
  | none =>
    unfold ClosableGrid.undoCloseAllItems
    rw [h.nothing hclosed]
    exact h
  | some closed =>
    obtain ⟨_, hservice, hlist⟩ := undoCloseAllItems_eq order tabID h hclosed hpre
    obtain ⟨hwindow, _⟩ := h.restorable hclosed
    refine ⟨hlist, ?_, ?_, ?_⟩
    · rw [hservice]
      exact (ServiceWellFormed.serviceAtUndo h.service navigation).map fun service hwell =>
        hwell.removeTabEntries _
    · unfold ClosableGrid.undoCloseAllItems
      rw [hwindow]
      intro closed' hclosed'
      cases hclosed'
    · unfold ClosableGrid.undoCloseAllItems
      rw [hwindow]
      intro _
      rfl

theorem Orderly.step (h : s.Orderly) {call : ClosableGridCall W R Image} (hpre : s.Pre call) :
    (s.step order tabID call).Orderly := by
  cases call with
  | browser navigation call =>
    cases call with
    | operation operation => exact h.performOperation order tabID hpre.1 navigation
    | willBeginBatchOperation =>
      exact h.of_list (step_webStateList_of_not_operation fun _ heq => by cases heq) h.service rfl
        rfl
    | batchOperationEnded =>
      exact h.of_list (step_webStateList_of_not_operation fun _ heq => by cases heq) h.service rfl
        rfl
    | updateSnapshotCacheWithImage webState snapshot =>
      exact h.of_list (step_webStateList_of_not_operation fun _ heq => by cases heq) h.service rfl
        rfl
    | runFirstTask => exact h.of_list rfl h.service rfl rfl
  | closeAllItems navigation =>
    have hvalid : (Operation.closeAllWebStates closeUserAction).Valid s.webStateList := trivial
    exact (h.performOperation order tabID hvalid navigation).of_list rfl
      (h.service.recordHistory _) rfl rfl
  | saveAndCloseAllItems navigation storageOf =>
    show (s.saveAndCloseAllItems order tabID navigation storageOf).Orderly
    unfold ClosableGrid.saveAndCloseAllItems
    split
    · exact h
    next hempty =>
      have hvalid : (Operation.closeAllWebStates closeUserAction).Valid s.webStateList := trivial
      have hclosing := h.performOperation order tabID hvalid navigation
      refine ⟨hclosing.list, hclosing.service, fun closed hclosed => ?_, fun hnone => by cases hnone⟩
      obtain rfl := Option.some.inj hclosed
      refine ⟨h.list, fun hnil => hempty ?_, rfl⟩
      exact List.isEmpty_iff.2 hnil
  | undoCloseAllItems navigation nav factory => exact h.undoCloseAllItems hpre
  | discardSavedClosedItems =>
    show s.discardSavedClosedItems.Orderly
    unfold ClosableGrid.discardSavedClosedItems
    split
    · exact h
    · exact ⟨h.list, h.service, fun closed hclosed => (by cases hclosed), fun _ => rfl⟩
  | tabClosedInOtherWindow navigation =>
    exact h.of_list rfl (h.service.recordHistoryForWebState navigation) rfl rfl
  | removeTabEntryById id =>
    exact h.of_list rfl (h.service.map fun service hwell => hwell.removeTabEntryById id) rfl rfl

/-! ## Undoing and discarding -/

theorem holds_removeAllImages (snapshots : SnapshotSystem Image) (id : SnapshotID) :
    snapshots.removeAllImages.holds id = none := by
  have hdisk : snapshots.removeAllImages.settledDisk =
      snapshots.cache.runTask snapshots.settledDisk .removeAllImages :=
    SnapshotSystem.settledDisk_post (snapshots.setLruCache _) _
  have hmemory : snapshots.removeAllImages.inMemory id = none := rfl
  unfold SnapshotSystem.holds
  rw [hmemory]
  show snapshots.removeAllImages.settledDisk (snapshots.cache.colorPath id) = none
  rw [hdisk]
  exact SnapshotSystem.runTask_removeAll ..

theorem undoesCloseAll_discard_iff (h : s.Orderly) :
    s.UndoesCloseAll order tabID .discardSavedClosedItems ↔
      s.NothingInBetween tabID .discardSavedClosedItems := by
  cases hclosed : s.closedAll with
  | none =>
    have hstep : s.step order tabID .discardSavedClosedItems = s := by
      show s.discardSavedClosedItems = s
      unfold discardSavedClosedItems
      rw [h.nothing hclosed]
    refine iff_of_true (fun webState _ => ?_) fun hpending => absurd hclosed hpending
    rw [hstep]
  | some closed =>
    obtain ⟨hwindow, _⟩ := h.restorable hclosed
    have hstep : (s.step order tabID .discardSavedClosedItems).browser.snapshots =
        s.browser.snapshots.removeAllImages := by
      show s.discardSavedClosedItems.browser.snapshots = _
      unfold discardSavedClosedItems
      rw [hwindow]
      rfl
    have hpending : s.closedAll ≠ none := by
      rw [hclosed]
      exact Option.some_ne_none closed
    unfold UndoesCloseAll NothingInBetween
    simp only [hstep, holds_removeAllImages]
    constructor
    · intro hkept _ webState hw
      exact (hkept webState hw).symm
    · intro hnone webState hw
      exact (hnone hpending webState hw).symm

theorem undoesCloseAll_undo_iff (h : s.Orderly)
    (hpre : s.Pre (.undoCloseAllItems navigation nav factory)) :
    s.UndoesCloseAll order tabID (.undoCloseAllItems navigation nav factory) ↔
      s.NothingInBetween tabID (.undoCloseAllItems navigation nav factory) := by
  unfold UndoesCloseAll NothingInBetween
  refine forall₂_congr fun closed hclosed => ?_
  obtain ⟨htabs, hservice, _⟩ := undoCloseAllItems_eq order tabID h hclosed hpre
  refine (and_iff_right htabs).trans ?_
  show (s.undoCloseAllItems order tabID navigation nav factory).tabRestoreService.map _ = _ ↔ _
  rw [hservice]
  have hwell := ServiceWellFormed.serviceAtUndo h.service navigation
  cases hundo : s.serviceAtUndo navigation with
  | none => exact iff_of_true rfl fun service hmem => nomatch hmem
  | some service =>
    have hnodup := (hwell service hundo).nodup
    rw [Option.map_some, Option.map_some, Option.map_some, Option.some_inj,
      TabRestoreService.removeFirstEntries, Lib.drop_eq_filter_iff hnodup]
    have hbehind : ∀ i : Nat, s.syncedClosedTabsCount.toNat ≤ i ↔
        ¬ (i : Int) < s.syncedClosedTabsCount := fun i => by omega
    constructor
    · intro hdropped service' hservice' i id hid
      obtain rfl := Option.some.inj hservice'
      have hiff := hdropped i id hid
      rw [decide_eq_true_iff, hbehind] at hiff
      exact not_iff_not.1 hiff
    · intro hfront i id hid
      rw [decide_eq_true_iff, hbehind]
      exact not_congr (hfront service rfl i id hid)

theorem undoesCloseAll_step_iff (h : s.Orderly) {call : ClosableGridCall W R Image}
    (hpre : s.Pre call) :
    s.UndoesCloseAll order tabID call ↔ s.NothingInBetween tabID call := by
  cases call with
  | undoCloseAllItems navigation nav factory => exact undoesCloseAll_undo_iff h hpre
  | discardSavedClosedItems => exact undoesCloseAll_discard_iff h
  | browser navigation call => exact Iff.rfl
  | closeAllItems navigation => exact Iff.rfl
  | saveAndCloseAllItems navigation storageOf => exact Iff.rfl
  | tabClosedInOtherWindow navigation => exact Iff.rfl
  | removeTabEntryById id => exact Iff.rfl

theorem Orderly.init (h : (machine W R Image order tabID).init s) : s.Orderly := by
  obtain ⟨⟨hlist, _⟩, hservice, hwindow, _, hclosed⟩ := h
  refine ⟨?_, hservice, fun closed hsome => ?_, fun _ => hwindow⟩
  · unfold webStateList
    rw [hlist]
    exact init_inv
  · rw [hclosed] at hsome
    cases hsome

/-- **Which runs undo their close-alls exactly**: those where, at every undo, the
`syncedClosedTabsCount` newest entries are the ones of the close-all and no others are, and at
every discard no tab of the list has a snapshot. -/
theorem undoesCloseAll_iff {calls : List (ClosableGridCall W R Image)}
    (hinit : (machine W R Image order tabID).init s)
    (hrun : (machine W R Image order tabID).Run s calls) :
    (machine W R Image order tabID).Always (UndoesCloseAll order tabID) s calls ↔
      (machine W R Image order tabID).Always (NothingInBetween tabID) s calls := by
  refine Lib.Machine.always_iff_of_invariant (I := Orderly) ?_ ?_ (Orderly.init hinit) hrun
  · intro s call h hpre
    exact undoesCloseAll_step_iff h hpre
  · intro s call h hpre _
    exact h.step hpre

private def gridTabID : Nat → SnapshotID := fun webState =>
  if webState = 0 then ⟨"1D4C8A52-7E3B-4F96-A0C1-5B2E9D7F8A34", by decide +kernel⟩
  else ⟨"8E6F2B90-3A7D-4C15-B8E2-F04D6A9C1B57", by decide +kernel⟩

/-- A window without tabs, next to a service with these entries. -/
private def newGrid (entries : List SessionID) : ClosableGrid Nat Unit Nat where
  browser := ⟨{}, false, fun _ => false,
    ⟨⟨SnapshotLRUCache.initWithCacheSize kLRUCacheMaxCapacity, [], .IMAGE_SCALE_2X, "Snapshots"⟩,
      fun _ => none, [], [], [], fun _ => none⟩, []⟩
  tabRestoreService := some ⟨25, entries, entries.length⟩
  closedSessionWindow := none
  syncedClosedTabsCount := 0
  closedAll := none

private def pageShown : TabNavigation :=
  ⟨false, 1, some "example.com", false, "https://example.com/", true⟩

private def plainStorage (_ : Nat) : SessionStorage Unit := ⟨fun _ => none, ()⟩

private def openTab (webState : Nat) : ClosableGridCall Nat Unit Nat :=
  .browser (fun _ => pageShown)
    (.operation (.insertWebState (fun _ => 0) 0 webState insertActivate .null))

private def saveAndCloseTabs : ClosableGridCall Nat Unit Nat :=
  .saveAndCloseAllItems (fun _ => pageShown) plainStorage

/-- A single tab is restored, one without an opener. -/
private def singleFactory : WebStateFactory Nat Unit where
  run n _ := 100 + n
  userData _ := UserData.addSerializableData
    (UserData.addSerializableData (fun _ => none) .null kOpenerIndexKey) .null
    kOpenerNavigationIndexKey

private def undoTabs : ClosableGridCall Nat Unit Nat :=
  .undoCloseAllItems (fun _ => pageShown) (fun _ => 0) singleFactory

private def gridMachine :=
  machine Nat Unit Nat .closingWebStateObserverFirst gridTabID

private theorem newGrid_init (entries : List SessionID) (hnodup : entries.Nodup)
    (hfresh : ∀ id ∈ entries, id < entries.length) : gridMachine.init (newGrid entries) :=
  ⟨⟨rfl, rfl, fun _ => rfl⟩, fun _ hservice => Option.some.inj hservice ▸ ⟨hnodup, hfresh⟩, rfl,
    rfl, rfl⟩

private theorem singleFactory_restores {l : WebStateList Nat}
    {sessions : List (SessionStorage Unit)}
    (hsession : ∀ session ∈ sessions, session.userData = singleFactory.userData 0)
    (hfresh : ∀ webState ∈ l.webStates, webState < 100) :
    singleFactory.Restores l sessions where
  userData n session hn := (hsession session (List.mem_of_getElem? hn)).symm
  fresh n _ _ hmem := by
    have hlt : 100 + n < 100 := hfresh (100 + n) hmem
    omega
  distinct n n' _ _ _ _ hne := by
    show 100 + n ≠ 100 + n'
    omega

/-- An undo of the last call of these is legal: a tab without an opener was saved, and the tabs
opened since are others than the restored one. -/
private theorem undoTabs_pre (entries : List SessionID)
    (calls : List (ClosableGridCall Nat Unit Nat))
    (hbatch : (gridMachine.exec (newGrid entries) calls).browser.isBatchInProgress = false)
    (hwindow : ∀ window ∈ (gridMachine.exec (newGrid entries) calls).closedSessionWindow,
      window.sessions.length = 1 ∧
        ∀ session ∈ window.sessions, session.userData = singleFactory.userData 0)
    (hfresh : ∀ webState ∈ (gridMachine.exec (newGrid entries) calls).webStateList.webStates,
      webState < 100)
    (hcount : (gridMachine.exec (newGrid entries) calls).webStateList.count ≤ 100) :
    (gridMachine.exec (newGrid entries) calls).Pre undoTabs := by
  refine ⟨hbatch, fun window hmem => ?_⟩
  obtain ⟨hlength, hsession⟩ := hwindow window hmem
  refine ⟨singleFactory_restores hsession hfresh, ?_⟩
  rw [hlength]
  unfold intMax
  omega

private theorem savedTab_window {window : SessionWindow (SessionStorage Unit)}
    (hw : some window = some (serializeWebStateList
      ((Operation.insertWebState (fun _ => 0) 0 0 insertActivate .null).perform
        { webStateList := {} }).webStateList plainStorage)) :
    window.sessions.length = 1 ∧
      ∀ session ∈ window.sessions, session.userData = singleFactory.userData 0 := by
  obtain rfl := Option.some.inj hw
  refine ⟨rfl, fun session hmem => ?_⟩
  obtain rfl := List.mem_singleton.1 hmem
  rfl

/-- A tab is closed, another one opened, and the first comes back behind it. -/
theorem undoesCloseAll_iff_undone :
    gridMachine.Always (UndoesCloseAll .closingWebStateObserverFirst gridTabID) (newGrid [])
      [openTab 0, saveAndCloseTabs, openTab 1, undoTabs] := by
  refine (undoesCloseAll_iff (newGrid_init [] List.nodup_nil fun _ hid => nomatch hid) ?_).2 ?_
  · refine ⟨⟨by decide, fun hbatch => nomatch hbatch⟩, rfl,
      ⟨by decide +kernel, fun hbatch => nomatch hbatch⟩, ?_, trivial⟩
    exact undoTabs_pre [] [openTab 0, saveAndCloseTabs, openTab 1] rfl
      (fun window hw => savedTab_window hw.symm) (by decide +kernel) (by decide +kernel)
  · refine ⟨trivial, trivial, trivial, ?_, trivial⟩
    intro closed hclosed service hservice i id hid
    obtain rfl : service = ⟨25, [0], 1⟩ := (Option.some.inj hservice).symm
    have hcreated : closed.Created id ↔ 0 ≤ id ∧ id < 1 := by
      obtain rfl := Option.some.inj hclosed
      exact Iff.rfl
    show _ ↔ (i : Int) < 1
    rw [hcreated]
    cases i with
    | zero =>
      obtain rfl : (0 : Nat) = id := Option.some.inj hid
      decide
    | succ i => cases hid

/-- No room is left: the entry of a closed tab takes the place of the oldest. -/
private def fullService : List SessionID := (List.range 25).reverse

private theorem undo_not_exact {entries : List SessionID}
    {calls : List (ClosableGridCall Nat Unit Nat)} {closed : ClosedAll Nat Unit}
    (hclosed : (gridMachine.exec (newGrid entries) calls).closedAll = some closed)
    (hleft : ((gridMachine.exec (newGrid entries) calls).step .closingWebStateObserverFirst
        gridTabID undoTabs).tabRestoreService.map (·.entries) ≠
      ((gridMachine.exec (newGrid entries) calls).serviceAtUndo fun _ => pageShown).map
        fun service => service.entries.filter fun id => ¬ closed.Created id) :
    ¬ gridMachine.Always (UndoesCloseAll .closingWebStateObserverFirst gridTabID) (newGrid entries)
      (calls ++ [undoTabs]) := by
  intro halways
  rw [Lib.Machine.always_append] at halways
  exact hleft (halways.2.1 closed hclosed).2

/-- **Three runs that do not undo exactly**: another window closes a tab in between, and its entry
goes in the place of the right one; the service was full, nothing was counted and no entry goes; a
tab is opened, and its snapshot goes with a discard. -/
theorem undo_takesOtherEntries :
    let inBetween := [openTab 0, saveAndCloseTabs, .tabClosedInOtherWindow pageShown] ++ [undoTabs]
    let full := [openTab 0, saveAndCloseTabs] ++ [undoTabs]
    let discarded := [openTab 0, saveAndCloseTabs, openTab 1,
      .browser (fun _ => pageShown) (.updateSnapshotCacheWithImage 1 (some 7)),
      .discardSavedClosedItems]
    (gridMachine.init (newGrid []) ∧ gridMachine.Run (newGrid []) inBetween ∧
      (gridMachine.exec (newGrid []) inBetween).tabRestoreService.map (·.entries) = some [0] ∧
      ¬ gridMachine.Always (UndoesCloseAll .closingWebStateObserverFirst gridTabID) (newGrid [])
        inBetween) ∧
    (gridMachine.init (newGrid fullService) ∧ gridMachine.Run (newGrid fullService) full ∧
      ¬ gridMachine.Always (UndoesCloseAll .closingWebStateObserverFirst gridTabID)
        (newGrid fullService) full) ∧
    gridMachine.Run (newGrid []) discarded ∧
      ¬ gridMachine.Always (UndoesCloseAll .closingWebStateObserverFirst gridTabID) (newGrid [])
        discarded := by
  intro inBetween full discarded
  have hopen : (newGrid []).Pre (openTab 0) := ⟨by decide, fun hbatch => nomatch hbatch⟩
  refine ⟨⟨newGrid_init [] List.nodup_nil fun _ hid => (nomatch hid), ?_, by decide +kernel, ?_⟩,
    ⟨newGrid_init fullService (by decide +kernel) (by decide +kernel), ?_, ?_⟩, ?_, ?_⟩
  · refine ⟨hopen, rfl, trivial, ?_, trivial⟩
    exact undoTabs_pre []
      [openTab 0, saveAndCloseTabs, .tabClosedInOtherWindow pageShown] rfl
      (fun window hw => savedTab_window hw.symm) (by decide +kernel) (by decide +kernel)
  · exact undo_not_exact rfl (by decide +kernel)
  · refine ⟨hopen, rfl, ?_, trivial⟩
    exact undoTabs_pre fullService [openTab 0, saveAndCloseTabs] rfl
      (fun window hw => savedTab_window hw.symm) (by decide +kernel) (by decide +kernel)
  · exact undo_not_exact rfl (by decide +kernel)
  · exact ⟨hopen, rfl, ⟨by decide +kernel, fun hbatch => nomatch hbatch⟩, trivial, rfl, trivial⟩
  · rintro ⟨_, _, _, _, hkept, _⟩
    have hlost := hkept 1 (by decide +kernel)
    have hnone : (none : Option Nat) = some 7 := hlost
    cases hnone

end ClosableGrid

end IosChrome.TabGrid

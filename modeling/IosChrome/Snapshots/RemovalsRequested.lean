import IosChrome.Snapshots.SnapshotBrowserAgent

/-!
# The snapshots of tabs that go

`SnapshotBrowserAgent` keeps exactly the tabs of the list connected to the cache. But it
disconnects a tab when it is detached, and the other agent is told that the tab will be closed only
afterwards: the snapshot of a tab the user closes is never removed, whichever agent was attached
first. Of a replacement both are told at once, so there the order decides.

`snapshotsFollow_iff` puts it together for runs.
-/

namespace IosChrome.Snapshots

open Tabs

namespace BrowserSnapshots

variable {W Image : Type} [DecidableEq W] {order : AgentOrder} {tabID : W → SnapshotID}
  {s : BrowserSnapshots W Image}

/-! ## Connected tabs -/

variable {webState : W}

theorem setSnapshotCache_of_eq {cache : Bool} (h : s.connected webState = cache) :
    s.setSnapshotCache webState cache = s := by
  have hconnected : (fun w => if w = webState then cache else s.connected w) = s.connected := by
    funext w
    by_cases hw : w = webState
    · rw [if_pos hw, hw, h]
    · rw [if_neg hw]
  unfold setSnapshotCache
  rw [hconnected]

theorem foldl_setSnapshotCache (cache : Bool) (tabs : List W) : ∀ s : BrowserSnapshots W Image,
    tabs.foldl (fun s webState => s.setSnapshotCache webState cache) s =
      { s with connected := fun w => if w ∈ tabs then cache else s.connected w } := by
  induction tabs with
  | nil =>
    intro s
    simp
  | cons webState rest ih =>
    intro s
    rw [List.foldl_cons, ih]
    unfold setSnapshotCache
    congr 1
    funext w
    by_cases hrest : w ∈ rest
    · simp [hrest]
    · by_cases hw : w = webState <;> simp [hrest, hw]

omit [DecidableEq W] in
theorem removeSnapshot_of_disconnected (h : s.connected webState = false) :
    s.removeSnapshot tabID webState = s := by
  unfold removeSnapshot
  rw [h]
  rfl

/-! ## The calls of an operation -/

/-- The browser after the calls of an operation so far. -/
def reaction (order : AgentOrder) (tabID : W → SnapshotID) (s : BrowserSnapshots W Image)
    (m : Mutation W) : BrowserSnapshots W Image :=
  m.calls.foldl (onNotified tabID · order) s

@[simp] theorem reaction_update (m : Mutation W) (f : WebStateList W → WebStateList W) :
    reaction order tabID s (m.update f) = reaction order tabID s m := rfl

theorem reaction_notify (m : Mutation W) (call : ObserverCall W) :
    reaction order tabID s (m.notify call) =
      (reaction order tabID s m).onNotified tabID order ⟨m.webStateList, call⟩ := by
  unfold reaction
  rw [Mutation.notify_calls, List.foldl_append]
  rfl

/-- Neither agent follows the active tab. -/
theorem reaction_notifyIfActiveWebStateChanged (m : Mutation W) (oldWebState : Option W)
    (reason : ActiveWebStateChangeReason) :
    reaction order tabID s (m.notifyIfActiveWebStateChanged oldWebState reason) =
      reaction order tabID s m := by
  unfold Mutation.notifyIfActiveWebStateChanged
  simp only
  split
  · rfl
  · rw [reaction_notify]
    cases order <;> rfl

theorem reaction_activateWebStateAtImpl (m : Mutation W) (index : Int)
    (reason : ActiveWebStateChangeReason) :
    reaction order tabID s (m.activateWebStateAtImpl index reason) = reaction order tabID s m :=
  reaction_notifyIfActiveWebStateChanged _ _ _

theorem reaction_insertWebStateImpl (m : Mutation W) (nav : W → Int32) (index : Int) (webState : W)
    (insertionFlags : Int32) (opener : WebStateOpener W) :
    reaction order tabID s (m.insertWebStateImpl nav index webState insertionFlags opener).2 =
      (reaction order tabID s m).setSnapshotCache webState true := by
  unfold Mutation.insertWebStateImpl
  simp only
  split
  · rw [reaction_activateWebStateAtImpl, reaction_update, reaction_notify]
    cases order <;> rfl
  · rw [reaction_update, reaction_notify]
    cases order <;> rfl

theorem reaction_moveWebStateAtImpl (m : Mutation W) (fromIndex toIndex : Int) :
    reaction order tabID s (m.moveWebStateAtImpl fromIndex toIndex) = reaction order tabID s m := by
  unfold Mutation.moveWebStateAtImpl
  split
  · rfl
  · split
    · rfl
    · rw [reaction_notify]
      cases order <;> rfl

theorem reaction_detachWebStateAtImpl {m : Mutation W} {index : Int}
    (hw : m.webStateList.getWebStateAt index = some webState) :
    reaction order tabID s (m.detachWebStateAtImpl index) =
      (reaction order tabID s m).setSnapshotCache webState false := by
  unfold Mutation.detachWebStateAtImpl
  rw [hw]
  simp only
  split
  · rw [reaction_notifyIfActiveWebStateChanged, reaction_notify, reaction_update, reaction_notify]
    cases order <;> rfl
  · rw [reaction_notify, reaction_update, reaction_notify]
    cases order <;> rfl

/-- **The removal of a closed tab's snapshot is lost**: the tab is detached first. -/
theorem reaction_closeWebStateAtImpl {m : Mutation W} {index : Int}
    (hw : m.webStateList.getWebStateAt index = some webState) (closeFlags : Int32) :
    reaction order tabID s (m.closeWebStateAtImpl index closeFlags) =
      (reaction order tabID s m).setSnapshotCache webState false := by
  unfold Mutation.closeWebStateAtImpl
  rw [hw]
  simp only
  rw [reaction_notify, reaction_detachWebStateAtImpl hw]
  have hlost : ((reaction order tabID s m).setSnapshotCache webState false).removeSnapshot tabID
      webState = (reaction order tabID s m).setSnapshotCache webState false :=
    removeSnapshot_of_disconnected (if_pos rfl)
  cases order <;>
    · show (if isClosingFlagSet closeFlags closeUserAction then _ else _) = _
      split
      · exact hlost
      · rfl

theorem reaction_replaceWebStateAtImpl {m : Mutation W} {index : Int} {old : W}
    (hw : m.webStateList.getWebStateAt index = some old) (webState : W) :
    reaction order tabID s (m.replaceWebStateAtImpl index webState) =
      (reaction order tabID s m).onNotified tabID order
        ⟨m.webStateList.replaceWrapper index webState, .webStateReplacedAt old webState index⟩ := by
  unfold Mutation.replaceWebStateAtImpl
  rw [hw]
  simp only
  rw [reaction_notifyIfActiveWebStateChanged, reaction_notify, reaction_update]
  rfl

/-- In the batch of `CloseAllWebStates` no tab is connected, so its closings change nothing. -/
theorem reaction_closeAllLoop (closeFlags : Int32) (rounds : Nat) : ∀ m : Mutation W,
    ListInv m.webStateList → (∀ w, (reaction order tabID s m).connected w = false) →
      reaction order tabID s (Mutation.closeAllLoop closeFlags rounds m) =
        reaction order tabID s m := by
  induction rounds with
  | zero =>
    intro m _ _
    rfl
  | succ rounds ih =>
    intro m hinv hnone
    unfold Mutation.closeAllLoop
    split
    next => rfl
    next hne =>
      have hlast := WebStateList.containsIndex_last (Bool.eq_false_iff.2 hne)
      obtain ⟨_, w, _, _, _, hw⟩ := hlast.getWebStateAt
      have hsame : reaction order tabID s (m.closeWebStateAtImpl (m.webStateList.count - 1)
          closeFlags) = reaction order tabID s m := by
        rw [reaction_closeWebStateAtImpl hw]
        exact setSnapshotCache_of_eq (hnone w)
      rw [ih _ (closeWebStateAtImpl_inv hinv closeFlags hlast) (by rwa [hsame]), hsame]

/-! ## The tabs of the list are connected -/

theorem onNotified_willBeginBatchOperation (l : WebStateList W) :
    s.onNotified tabID order ⟨l, .willBeginBatchOperation⟩ =
      { s with connected := fun w => if w ∈ l.webStates then false else s.connected w } := by
  rw [← foldl_setSnapshotCache]
  cases order <;> rfl

theorem onNotified_batchOperationEnded (l : WebStateList W) :
    s.onNotified tabID order ⟨l, .batchOperationEnded⟩ =
      { s with connected := fun w => if w ∈ l.webStates then true else s.connected w } := by
  rw [← foldl_setSnapshotCache]
  cases order <;> rfl

/-- Only tabs of the list are connected, and outside batches all of them. -/
structure Tracks (s : BrowserSnapshots W Image) : Prop where
  list : ListInv s.webStateList
  connected : ∀ w, s.connected w = true → w ∈ s.webStateList.webStates
  all : s.isBatchInProgress = false → ∀ w ∈ s.webStateList.webStates, s.connected w = true

omit [DecidableEq W] in
theorem Tracks.connectsList (h : s.Tracks) : s.ConnectsList :=
  fun hbatch w => ⟨h.connected w, h.all hbatch w⟩

variable {s' : BrowserSnapshots W Image}

omit [DecidableEq W] in
/-- What an operation outside the list's own batches leaves of `connected`. -/
theorem Tracks.of_connected (h : s.Tracks)
    (hlist : ListInv s'.webStateList) (hbatch : s'.isBatchInProgress = s.isBatchInProgress)
    (hin : ∀ w, s'.connected w = true → w ∈ s'.webStateList.webStates)
    (hout : ∀ w ∈ s'.webStateList.webStates,
      (w ∈ s.webStateList.webStates → s.connected w = true) → s'.connected w = true) :
    s'.Tracks where
  list := hlist
  connected := hin
  all hb w hw := hout w hw fun hold => h.all (hbatch ▸ hb) w hold

theorem performOperation_eq (operation : Operation W) :
    s.performOperation order tabID operation =
      { reaction order tabID s (operation.perform { webStateList := s.webStateList }) with
        webStateList := (operation.perform { webStateList := s.webStateList }).webStateList } := rfl

theorem performOperation_of_reaction {operation : Operation W}
    (h : reaction order tabID s (operation.perform { webStateList := s.webStateList }) = s') :
    s.performOperation order tabID operation =
      { s' with
        webStateList :=
          (operation.perform { webStateList := s.webStateList }).webStateList } := by
  rw [performOperation_eq, h]

omit [DecidableEq W] in
theorem removeSnapshot_kept (tabID : W → SnapshotID) (s : BrowserSnapshots W Image) (webState : W) :
    (s.removeSnapshot tabID webState).connected = s.connected ∧
    (s.removeSnapshot tabID webState).isBatchInProgress = s.isBatchInProgress ∧
    (s.removeSnapshot tabID webState).webStateList = s.webStateList := by
  unfold removeSnapshot
  split <;> exact ⟨rfl, rfl, rfl⟩

/-- A replacement connects the new tab in the place of the old one, in either order. -/
theorem onNotified_webStateReplacedAt_connected (order : AgentOrder) (tabID : W → SnapshotID)
    (s : BrowserSnapshots W Image) (l : WebStateList W) (old new : W) (index : Int) :
    (s.onNotified tabID order ⟨l, .webStateReplacedAt old new index⟩).connected =
        ((s.setSnapshotCache old false).setSnapshotCache new true).connected ∧
    (s.onNotified tabID order ⟨l, .webStateReplacedAt old new index⟩).isBatchInProgress =
        s.isBatchInProgress := by
  cases order with
  | snapshotBrowserAgentFirst =>
    obtain ⟨hconnected, hbatch, _⟩ := removeSnapshot_kept tabID
      ((s.setSnapshotCache old false).setSnapshotCache new true) old
    exact ⟨hconnected, hbatch⟩
  | closingWebStateObserverFirst =>
    obtain ⟨hconnected, hbatch, _⟩ := removeSnapshot_kept tabID s old
    refine ⟨?_, hbatch⟩
    show (fun w => if w = new then true else if w = old then false else
      (s.removeSnapshot tabID old).connected w) = _
    rw [hconnected]
    rfl

/-- A tab that goes, and is disconnected. -/
theorem Tracks.detached (h : s.Tracks) {i : Nat} (hw : s.webStateList.webStates[i]? = some webState)
    (hlist : ListInv s'.webStateList)
    (htabs : s'.webStateList.webStates = s.webStateList.webStates.eraseIdx i)
    (hbatch : s'.isBatchInProgress = s.isBatchInProgress)
    (hconnected : s'.connected = (s.setSnapshotCache webState false).connected) : s'.Tracks := by
  have hmem : ∀ w, w ∈ s'.webStateList.webStates ↔ w ≠ webState ∧ w ∈ s.webStateList.webStates := by
    intro w
    rw [htabs, Lib.mem_eraseIdx_iff h.list.nodup hw]
  refine h.of_connected hlist hbatch (fun w hcon => ?_) fun w hin hold => ?_
  · rw [hconnected] at hcon
    change (if w = webState then false else s.connected w) = true at hcon
    by_cases heq : w = webState
    · rw [if_pos heq] at hcon
      cases hcon
    · rw [if_neg heq] at hcon
      exact (hmem w).2 ⟨heq, h.connected w hcon⟩
  · obtain ⟨hne, hin⟩ := (hmem w).1 hin
    rw [hconnected]
    show (if w = webState then false else s.connected w) = true
    rw [if_neg hne]
    exact hold hin

theorem Tracks.inserted (h : s.Tracks) {i : Nat} (hi : i ≤ s.webStateList.webStates.length)
    (hlist : ListInv s'.webStateList)
    (htabs : s'.webStateList.webStates = s.webStateList.webStates.insertIdx i webState)
    (hbatch : s'.isBatchInProgress = s.isBatchInProgress)
    (hconnected : s'.connected = (s.setSnapshotCache webState true).connected) : s'.Tracks := by
  have hmem : ∀ w, w ∈ s'.webStateList.webStates ↔ w = webState ∨ w ∈ s.webStateList.webStates := by
    intro w
    rw [htabs, List.mem_insertIdx hi]
  refine h.of_connected hlist hbatch (fun w hcon => ?_) fun w hin hold => ?_
  · rw [hconnected] at hcon
    change (if w = webState then true else s.connected w) = true at hcon
    by_cases heq : w = webState
    · exact (hmem w).2 (.inl heq)
    · rw [if_neg heq] at hcon
      exact (hmem w).2 (.inr (h.connected w hcon))
  · rw [hconnected]
    show (if w = webState then true else s.connected w) = true
    by_cases heq : w = webState
    · rw [if_pos heq]
    · rw [if_neg heq]
      exact hold (((hmem w).1 hin).resolve_left heq)

theorem Tracks.replaced (h : s.Tracks) {i : Nat} {old webState : W}
    (hw : s.webStateList.webStates[i]? = some old) (hlist : ListInv s'.webStateList)
    (htabs : s'.webStateList.webStates = s.webStateList.webStates.set i webState)
    (hbatch : s'.isBatchInProgress = s.isBatchInProgress)
    (hconnected : s'.connected =
      ((s.setSnapshotCache old false).setSnapshotCache webState true).connected) : s'.Tracks := by
  have hmem : ∀ w, w ∈ s'.webStateList.webStates ↔
      w = webState ∨ (w ≠ old ∧ w ∈ s.webStateList.webStates) := by
    intro w
    rw [htabs, Lib.mem_set_iff h.list.nodup hw]
  have hconnected' : ∀ w, s'.connected w =
      if w = webState then true else if w = old then false else s.connected w :=
    fun w => congrFun hconnected w
  refine h.of_connected hlist hbatch (fun w hcon => ?_) fun w hin hold => ?_
  · rw [hconnected'] at hcon
    by_cases heq : w = webState
    · exact (hmem w).2 (.inl heq)
    · rw [if_neg heq] at hcon
      by_cases hold : w = old
      · rw [if_pos hold] at hcon
        cases hcon
      · rw [if_neg hold] at hcon
        exact (hmem w).2 (.inr ⟨hold, h.connected w hcon⟩)
  · rw [hconnected']
    rcases (hmem w).1 hin with heq | ⟨hne, hin⟩
    · rw [if_pos heq]
    · rw [if_neg hne, hold hin, ite_self]

omit [DecidableEq W] in
/-- A write the agents do not hear of. -/
theorem Tracks.kept (h : s.Tracks) (hlist : ListInv s'.webStateList)
    (htabs : ∀ w, w ∈ s'.webStateList.webStates ↔ w ∈ s.webStateList.webStates)
    (hbatch : s'.isBatchInProgress = s.isBatchInProgress) (hconnected : s'.connected = s.connected)
    : s'.Tracks :=
  h.of_connected hlist hbatch (fun w hcon => (htabs w).2 (h.connected w (hconnected ▸ hcon)))
    fun w hin hold => hconnected ▸ hold ((htabs w).1 hin)

/-! ## Operations -/

/-- During the batch no tab is connected, and after it there is none. -/
theorem Tracks.closeAll (h : s.Tracks) (closeFlags : Int32) :
    (s.performOperation order tabID (.closeAllWebStates closeFlags)).Tracks := by
  obtain ⟨m, hm⟩ : ∃ m, m = ((Mutation.mk s.webStateList []).notify
    .willBeginBatchOperation).activateWebStateAtImpl kInvalidIndex .closed := ⟨_, rfl⟩
  obtain ⟨closed, hclosed⟩ : ∃ closed, closed =
    Mutation.closeAllLoop closeFlags m.webStateList.webStateWrappers.length m := ⟨_, rfl⟩
  have hinv : ListInv m.webStateList := by
    rw [hm]
    exact activateWebStateAtImpl_inv
      (m := (Mutation.mk s.webStateList []).notify .willBeginBatchOperation) h.list .closed
      (.inl rfl)
  have hempty : closed.webStateList.webStates = [] := by
    rw [hclosed]
    exact closeAllLoop_empty closeFlags _ _ (Nat.le_refl _)
  have hbegin : ∀ w, (reaction order tabID s m).connected w = false := by
    intro w
    rw [hm, reaction_activateWebStateAtImpl, reaction_notify, onNotified_willBeginBatchOperation]
    show (if w ∈ s.webStateList.webStates then false else s.connected w) = false
    split
    · rfl
    · next hnot => exact Bool.eq_false_iff.2 fun hcon => hnot (h.connected w hcon)
  have hnone : ∀ w, (reaction order tabID s closed).connected w = false := by
    intro w
    rw [hclosed, reaction_closeAllLoop closeFlags _ m hinv hbegin]
    exact hbegin w
  have hperform : Operation.perform (Mutation.mk s.webStateList [])
      (.closeAllWebStates closeFlags) = closed.notify .batchOperationEnded := by
    rw [hclosed, hm]
    rfl
  have hconnected : ∀ w, (s.performOperation order tabID
      (.closeAllWebStates closeFlags)).connected w = false := by
    intro w
    rw [performOperation_eq, hperform, reaction_notify, onNotified_batchOperationEnded, hempty]
    exact hnone w
  have htabs : (s.performOperation order tabID
      (.closeAllWebStates closeFlags)).webStateList.webStates = [] := by
    rw [performOperation_eq, hperform]
    exact hempty
  refine ⟨?_, fun w hcon => ?_, fun _ w hw => ?_⟩
  · exact perform_inv (m := Mutation.mk s.webStateList []) h.list (.closeAllWebStates closeFlags)
      trivial
  · rw [hconnected w] at hcon
    cases hcon
  · rw [htabs] at hw
    cases hw

theorem Tracks.performOperation (h : s.Tracks) {operation : Operation W}
    (hv : operation.Valid s.webStateList) : (s.performOperation order tabID operation).Tracks := by
  have hlist : ListInv (s.performOperation order tabID operation).webStateList :=
    perform_inv (m := Mutation.mk s.webStateList []) h.list operation hv
  cases operation with
  | insertWebState nav index webState insertionFlags opener =>
    obtain ⟨i, hi, htabs⟩ := insertWebStateImpl_webStates (m := Mutation.mk s.webStateList []) hv
    have hperform : s.performOperation order tabID
        (.insertWebState nav index webState insertionFlags opener) = _ :=
      performOperation_of_reaction (reaction_insertWebStateImpl _ nav index webState insertionFlags
        opener)
    rw [hperform] at hlist ⊢
    exact h.inserted hi hlist htabs rfl rfl
  | moveWebStateAt fromIndex toIndex =>
    obtain ⟨i, w, rfl, _, hi, hw⟩ := hv.1.getWebStateAt
    obtain ⟨j, rfl, hj⟩ := hv.2.exists_nat
    have hperform : s.performOperation order tabID (.moveWebStateAt i j) = _ :=
      performOperation_of_reaction (reaction_moveWebStateAtImpl _ i j)
    rw [hperform] at hlist ⊢
    refine h.kept hlist (fun w' => ?_) rfl rfl
    have htabs := (Mutation.mk s.webStateList []).moveWebStateAtImpl_webStateList j hw
    show w' ∈ ((Mutation.mk s.webStateList []).moveWebStateAtImpl i j).webStateList.webStates ↔ _
    rw [htabs]
    split
    · exact Iff.rfl
    · rw [WebStateList.moveWrapper_webStates _ _ _ hw]
      exact (Lib.move_perm hi (by rwa [WebStateList.length_webStates])).mem_iff
  | replaceWebStateAt index webState =>
    obtain ⟨i, old, rfl, _, hi, hw⟩ := hv.1.getWebStateAt
    obtain ⟨hconnected, hbatch⟩ := onNotified_webStateReplacedAt_connected order tabID s
      (s.webStateList.replaceWrapper i webState) old webState i
    have htabs := (Mutation.mk s.webStateList []).replaceWebStateAtImpl_webStateList webState hw
    have hperform : s.performOperation order tabID (.replaceWebStateAt i webState) = _ :=
      performOperation_of_reaction (reaction_replaceWebStateAtImpl hw webState)
    rw [hperform] at hlist ⊢
    refine h.replaced hi hlist ?_ hbatch hconnected
    exact (congrArg WebStateList.webStates htabs).trans
      (WebStateList.replaceWrapper_webStates _ i webState)
  | detachWebStateAt index =>
    obtain ⟨i, w, rfl, _, hi, hw⟩ := WebStateList.ContainsIndex.getWebStateAt hv
    have htabs := (Mutation.mk s.webStateList []).detachWebStateAtImpl_webStateList hw
    have hperform : s.performOperation order tabID (.detachWebStateAt i) = _ :=
      performOperation_of_reaction (reaction_detachWebStateAtImpl hw)
    rw [hperform] at hlist ⊢
    refine h.detached hi hlist ?_ rfl rfl
    exact (congrArg WebStateList.webStates htabs).trans
      (WebStateList.removeWrapperAt_webStates _ i)
  | closeWebStateAt index closeFlags =>
    obtain ⟨i, w, rfl, _, hi, hw⟩ := WebStateList.ContainsIndex.getWebStateAt hv
    have htabs := (Mutation.mk s.webStateList []).closeWebStateAtImpl_webStateList closeFlags hw
    have hperform : s.performOperation order tabID (.closeWebStateAt i closeFlags) = _ :=
      performOperation_of_reaction (reaction_closeWebStateAtImpl hw closeFlags)
    rw [hperform] at hlist ⊢
    refine h.detached hi hlist ?_ rfl rfl
    exact (congrArg WebStateList.webStates htabs).trans
      (WebStateList.removeWrapperAt_webStates _ i)
  | closeAllWebStates closeFlags => exact h.closeAll closeFlags
  | activateWebStateAt index =>
    have hperform : s.performOperation order tabID (.activateWebStateAt index) = _ :=
      performOperation_of_reaction (reaction_activateWebStateAtImpl _ index .activated)
    have htabs := (Mutation.mk s.webStateList []).activateWebStateAtImpl_webStateList index
      .activated
    rw [hperform] at hlist ⊢
    refine h.kept hlist (fun w => ?_) rfl rfl
    have hsame := (congrArg WebStateList.webStates htabs).trans
      (WebStateList.setActiveIndex_webStates s.webStateList index)
    exact Iff.of_eq (congrArg (w ∈ ·) hsame)
  | setOpenerOfWebStateAt index opener =>
    refine h.kept hlist (fun w => ?_) rfl rfl
    exact Iff.of_eq (congrArg (w ∈ ·)
      (WebStateList.setOpenerOfWebStateAt_webStates s.webStateList index opener))

omit [DecidableEq W] in
theorem updateSnapshotCacheWithImage_kept (tabID : W → SnapshotID)
    (s : BrowserSnapshots W Image) (webState : W) (snapshot : Option Image) :
    (s.updateSnapshotCacheWithImage tabID webState snapshot).connected = s.connected ∧
    (s.updateSnapshotCacheWithImage tabID webState snapshot).isBatchInProgress =
      s.isBatchInProgress ∧
    (s.updateSnapshotCacheWithImage tabID webState snapshot).webStateList = s.webStateList := by
  cases snapshot with
  | none => exact removeSnapshot_kept tabID s webState
  | some image =>
    show (if s.connected webState then _ else s : BrowserSnapshots W Image).connected = _ ∧
      (if s.connected webState then _ else s : BrowserSnapshots W Image).isBatchInProgress = _ ∧
      (if s.connected webState then _ else s : BrowserSnapshots W Image).webStateList = _
    split <;> exact ⟨rfl, rfl, rfl⟩

theorem Tracks.step (h : s.Tracks) {call : BrowserCall W Image} (hpre : s.Pre call) :
    (s.step order tabID call).Tracks := by
  cases call with
  | operation operation => exact h.performOperation hpre.1
  | willBeginBatchOperation =>
    refine ⟨?_, fun w hcon => ?_, fun hbatch => ?_⟩
    · show ListInv (s.onNotified tabID order _).webStateList
      rw [onNotified_willBeginBatchOperation]
      exact h.list
    · change (s.onNotified tabID order _).connected w = true at hcon
      show w ∈ (s.onNotified tabID order _).webStateList.webStates
      rw [onNotified_willBeginBatchOperation] at hcon ⊢
      by_cases hin : w ∈ s.webStateList.webStates
      · exact hin
      · exact h.connected w ((if_neg hin).symm.trans hcon)
    · cases hbatch
  | batchOperationEnded =>
    refine ⟨?_, fun w hcon => ?_, fun _ w hin => ?_⟩
    · show ListInv (s.onNotified tabID order _).webStateList
      rw [onNotified_batchOperationEnded]
      exact h.list
    · change (s.onNotified tabID order _).connected w = true at hcon
      show w ∈ (s.onNotified tabID order _).webStateList.webStates
      rw [onNotified_batchOperationEnded] at hcon ⊢
      by_cases hin : w ∈ s.webStateList.webStates
      · exact hin
      · exact h.connected w ((if_neg hin).symm.trans hcon)
    · change w ∈ (s.onNotified tabID order _).webStateList.webStates at hin
      show (s.onNotified tabID order _).connected w = true
      rw [onNotified_batchOperationEnded] at hin ⊢
      exact if_pos hin
  | updateSnapshotCacheWithImage webState snapshot =>
    obtain ⟨hconnected, hbatch, hlist⟩ := updateSnapshotCacheWithImage_kept tabID s webState
      snapshot
    refine ⟨?_, ?_, ?_⟩
    · show ListInv (s.updateSnapshotCacheWithImage tabID webState snapshot).webStateList
      rw [hlist]
      exact h.list
    · show ∀ w, (s.updateSnapshotCacheWithImage tabID webState snapshot).connected w = true → w ∈
        (s.updateSnapshotCacheWithImage tabID webState snapshot).webStateList.webStates
      rw [hconnected, hlist]
      exact h.connected
    · show (s.updateSnapshotCacheWithImage tabID webState snapshot).isBatchInProgress = false →
        ∀ w ∈ (s.updateSnapshotCacheWithImage tabID webState snapshot).webStateList.webStates,
          (s.updateSnapshotCacheWithImage tabID webState snapshot).connected w = true
      rw [hconnected, hbatch, hlist]
      exact h.all
  | runFirstTask => exact ⟨h.list, h.connected, h.all⟩

/-! ## What is removed -/

omit [DecidableEq W] in
/-- A removal that reaches the cache: nothing of the snapshot is left. -/
theorem removeSnapshot_of_connected (tabID : W → SnapshotID) (h : s.connected webState = true) :
    (s.removeSnapshot tabID webState).removals = s.removals ++ [tabID webState] ∧
    (s.removeSnapshot tabID webState).snapshots =
      s.snapshots.removeImageWithSnapshotID (tabID webState) := by
  unfold removeSnapshot
  rw [h]
  exact ⟨rfl, rfl⟩

omit [DecidableEq W] in
theorem gone_removeImageWithSnapshotID (snapshots : SnapshotSystem Image) (id : SnapshotID) :
    (snapshots.removeImageWithSnapshotID id).Gone id := by
  have hdisk : (snapshots.removeImageWithSnapshotID id).settledDisk =
      snapshots.cache.runTask snapshots.settledDisk (.deleteImageWithSnapshotID id) :=
    SnapshotSystem.settledDisk_post (snapshots.setLruCache _) _
  refine ⟨?_, fun imageType himageType => ?_⟩
  · show ((snapshots.cache.lruCache.erase id).peek id).join = none
    rw [Lib.MRUCache.peek_erase_same]
    rfl
  · rw [hdisk]
    exact if_pos ⟨imageType, himageType, rfl⟩

/-- No removal is requested of a tab that is not connected when the agents are told. -/
theorem not_removesDropped {call : BrowserCall W Image} (hdropped : s.dropped call = some webState)
    (hsame : (s.step order tabID call).removals = s.removals) :
    ¬ s.RemovesDropped order tabID call := by
  intro hremoves
  obtain ⟨⟨requests, hrequests, hmem⟩, _⟩ := hremoves webState hdropped
  have hnil : requests = [] := by
    rw [hsame] at hrequests
    exact List.self_eq_append_right.1 hrequests
  rw [hnil] at hmem
  cases hmem

/-- **A closed tab**: the removal is never requested. -/
theorem removesDropped_close_iff {index : Int} {closeFlags : Int32}
    (hpre : s.Pre (.operation (.closeWebStateAt index closeFlags))) :
    s.RemovesDropped order tabID (.operation (.closeWebStateAt index closeFlags)) ↔
      ¬ (isClosingFlagSet closeFlags closeUserAction ∧ s.isBatchInProgress = false) := by
  obtain ⟨i, w, rfl, _, _, hw⟩ := WebStateList.ContainsIndex.getWebStateAt hpre.1
  constructor
  · intro hremoves huser
    have hdropped : s.dropped (.operation (.closeWebStateAt (i : Int) closeFlags) :
        BrowserCall W Image) = some w := (if_pos huser).trans hw
    refine not_removesDropped hdropped ?_ hremoves
    · have hperform : s.performOperation order tabID (.closeWebStateAt i closeFlags) = _ :=
        performOperation_of_reaction (reaction_closeWebStateAtImpl hw closeFlags)
      show (s.performOperation order tabID (.closeWebStateAt i closeFlags)).removals = _
      rw [hperform]
      rfl
  · intro huser w' hw'
    have hnone : s.dropped (.operation (.closeWebStateAt (i : Int) closeFlags) :
        BrowserCall W Image) = none := if_neg huser
    rw [hnone] at hw'
    cases hw'

/-- **A replaced tab**: the closing agent has to be told first, of a tab that is connected. -/
theorem removesDropped_replace_iff {index : Int}
    (hpre : s.Pre (.operation (.replaceWebStateAt index webState))) :
    s.RemovesDropped order tabID (.operation (.replaceWebStateAt index webState)) ↔
      s.ReachesCache order (.operation (.replaceWebStateAt index webState)) := by
  obtain ⟨i, old, rfl, _, hi, hw⟩ := hpre.1.1.getWebStateAt
  have hne : old ≠ webState := fun heq =>
    hpre.1.2 (heq ▸ List.mem_of_getElem? hi)
  have hperform : s.performOperation order tabID (.replaceWebStateAt i webState) = _ :=
    performOperation_of_reaction (reaction_replaceWebStateAtImpl hw webState)
  constructor
  · intro hremoves
    cases order with
    | snapshotBrowserAgentFirst =>
      refine absurd hremoves (not_removesDropped hw ?_)
      show (s.performOperation _ tabID (.replaceWebStateAt i webState)).removals = _
      rw [hperform]
      show (((s.setSnapshotCache old false).setSnapshotCache webState true).removeSnapshot tabID
        old).removals = _
      rw [removeSnapshot_of_disconnected ((if_neg hne).trans (if_pos rfl))]
      rfl
    | closingWebStateObserverFirst =>
      refine ⟨rfl, fun w hw' => ?_⟩
      obtain rfl : old = w := Option.some.inj (hw.symm.trans hw')
      cases hconnected : s.connected old with
      | true => rfl
      | false =>
        refine absurd hremoves (not_removesDropped hw ?_)
        show (s.performOperation _ tabID (.replaceWebStateAt i webState)).removals = _
        rw [hperform]
        show (s.removeSnapshot tabID old).removals = _
        rw [removeSnapshot_of_disconnected hconnected]
  · rintro ⟨rfl, hconnected⟩ w hw'
    obtain rfl : old = w := Option.some.inj (hw.symm.trans hw')
    obtain ⟨hremovals, hsnapshots⟩ := removeSnapshot_of_connected tabID (hconnected old hw)
    have hstep : (s.step .closingWebStateObserverFirst tabID
        (.operation (.replaceWebStateAt i webState))).removals =
          (s.removeSnapshot tabID old).removals ∧
        (s.step .closingWebStateObserverFirst tabID
          (.operation (.replaceWebStateAt i webState))).snapshots =
          (s.removeSnapshot tabID old).snapshots := by
      constructor
      · show (s.performOperation _ tabID (.replaceWebStateAt i webState)).removals = _
        rw [hperform]
        rfl
      · show (s.performOperation _ tabID (.replaceWebStateAt i webState)).snapshots = _
        rw [hperform]
        rfl
    refine ⟨⟨[tabID old], hstep.1.trans hremovals, List.mem_cons_self⟩, ?_⟩
    rw [hstep.2, hsnapshots]
    exact gone_removeImageWithSnapshotID s.snapshots (tabID old)

theorem removesDropped_iff {call : BrowserCall W Image} (hpre : s.Pre call) :
    s.RemovesDropped order tabID call ↔ s.ReachesCache order call := by
  have hnothing : ∀ {call : BrowserCall W Image}, s.dropped call = none →
      s.RemovesDropped order tabID call := by
    intro call hnone w hw
    rw [hnone] at hw
    cases hw
  cases call with
  | operation operation =>
    cases operation with
    | replaceWebStateAt index webState => exact removesDropped_replace_iff hpre
    | closeWebStateAt index closeFlags => exact removesDropped_close_iff hpre
    | insertWebState => exact iff_of_true (hnothing rfl) trivial
    | moveWebStateAt => exact iff_of_true (hnothing rfl) trivial
    | detachWebStateAt => exact iff_of_true (hnothing rfl) trivial
    | closeAllWebStates => exact iff_of_true (hnothing rfl) trivial
    | activateWebStateAt => exact iff_of_true (hnothing rfl) trivial
    | setOpenerOfWebStateAt => exact iff_of_true (hnothing rfl) trivial
  | willBeginBatchOperation => exact iff_of_true (hnothing rfl) trivial
  | batchOperationEnded => exact iff_of_true (hnothing rfl) trivial
  | updateSnapshotCacheWithImage => exact iff_of_true (hnothing rfl) trivial
  | runFirstTask => exact iff_of_true (hnothing rfl) trivial

/-! ## Runs -/

theorem Tracks.init (h : (machine W Image order tabID).init s) : s.Tracks := by
  obtain ⟨hlist, _, hnone⟩ := h
  refine ⟨?_, fun w hcon => ?_, fun _ w hw => ?_⟩
  · rw [hlist]
    exact init_inv
  · rw [hnone w] at hcon
    cases hcon
  · rw [hlist] at hw
    cases hw

/-- **Which runs remove the snapshots of the tabs that go**: the tabs of the list are always the
connected ones, and the removals are all requested exactly in the runs where the user closes no
tab outside a batch, and every replaced tab is still connected when the closing agent is told. -/
theorem snapshotsFollow_iff {calls : List (BrowserCall W Image)}
    (hinit : (machine W Image order tabID).init s)
    (hrun : (machine W Image order tabID).Run s calls) :
    (machine W Image order tabID).Always (SnapshotsFollow order tabID) s calls ↔
      (machine W Image order tabID).Always (ReachesCache order) s calls := by
  refine Lib.Machine.always_iff_of_invariant (I := Tracks) ?_ ?_ (Tracks.init hinit) hrun
  · intro s call h hpre
    have hconnects : (s.step order tabID call).ConnectsList := (h.step hpre).connectsList
    exact (and_iff_right hconnects).trans (removesDropped_iff hpre)
  · intro s call h hpre _
    exact h.step hpre

private def oldTabID : SnapshotID := ⟨"7B1C0E3A-52D4-4F0B-9E1F-6A2D8C4B7E10", by decide +kernel⟩

private def newTabID : SnapshotID := ⟨"C94D7F26-0A8E-4B35-8D61-13E5F7A9B2C8", by decide +kernel⟩

private def tabIDs : Nat → SnapshotID := fun webState => if webState = 0 then oldTabID else newTabID

private def newBrowser : BrowserSnapshots Nat Nat where
  webStateList := {}
  isBatchInProgress := false
  connected := fun _ => false
  snapshots := ⟨⟨SnapshotLRUCache.initWithCacheSize kLRUCacheMaxCapacity, [], .IMAGE_SCALE_2X,
    "Snapshots"⟩, fun _ => none, [], [], [], fun _ => none⟩
  removals := []

private def opened : Operation Nat :=
  .insertWebState (fun _ => 0) 0 0 (insertForceIndex ||| insertActivate) .null

/-- With the agents attached as the browser attaches them, a tab is replaced that has a snapshot. -/
theorem snapshotsFollow_iff_replaced :
    (machine Nat Nat .closingWebStateObserverFirst tabIDs).Always
      (SnapshotsFollow .closingWebStateObserverFirst tabIDs) newBrowser
      [.operation opened, .updateSnapshotCacheWithImage 0 (some 1),
        .operation (.replaceWebStateAt 0 1), .runFirstTask, .runFirstTask] := by
  refine (snapshotsFollow_iff ⟨rfl, rfl, fun _ => rfl⟩ ?_).2 ?_
  · exact ⟨⟨by decide, fun hbatch => nomatch hbatch⟩, trivial,
      ⟨by decide, fun hbatch => nomatch hbatch⟩, trivial, trivial, trivial⟩
  · refine ⟨trivial, trivial, ⟨rfl, fun webState hw => ?_⟩, trivial, trivial, trivial⟩
    obtain rfl : (0 : Nat) = webState := Option.some.inj hw
    rfl

/-- **The snapshot of a closed tab stays**: the user closes a tab with a snapshot, nothing is
requested from the cache, and once all tasks have run the image is in memory and on disk. -/
theorem closedTab_snapshot_stays :
    let calls : List (BrowserCall Nat Nat) :=
      [.operation opened, .updateSnapshotCacheWithImage 0 (some 1),
        .operation (.closeWebStateAt 0 closeUserAction), .runFirstTask]
    let s := (machine Nat Nat .closingWebStateObserverFirst tabIDs).exec newBrowser calls
    s.webStateList.webStates = [] ∧ s.removals = [] ∧ s.snapshots.tasks = [] ∧
    s.snapshots.inMemory oldTabID = some 1 ∧
    s.snapshots.disk (s.snapshots.cache.colorPath oldTabID) = some 1 ∧
    ¬ (machine Nat Nat .closingWebStateObserverFirst tabIDs).Always
      (SnapshotsFollow .closingWebStateObserverFirst tabIDs) newBrowser calls := by
  refine ⟨by decide +kernel, by decide +kernel, rfl, by decide +kernel, by decide +kernel, ?_⟩
  rintro ⟨_, _, ⟨_, hremoves⟩, _⟩
  obtain ⟨⟨requests, hrequests, hmem⟩, _⟩ := hremoves 0 rfl
  have hnil : ([] : List SnapshotID) = requests := hrequests
  rw [← hnil] at hmem
  cases hmem

end BrowserSnapshots

end IosChrome.Snapshots

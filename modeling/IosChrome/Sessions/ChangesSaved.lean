import IosChrome.Sessions.SavesRequested

/-!
# Changes of the list that are left unsaved

An operation or a batch whose tabs are idle, that changes the list and leaves it in a state
that can be saved, should have handed a save to the session service. `saved_iff` says when it
has: always, but in two cases. `CloseAllWebStates` takes the active tab away first, while the
tabs are still there, and closes them after that, so the list is in the transitional state
whenever the agent is notified (`closeAll_unsaved`). And a list without an active tab is
emptied by closing its tabs: each is announced before it is closed, in the transitional state
again, and no change of the active tab follows the last one.

The proof follows a batch operation by operation. Without a save, a list with an active tab
stays what it is, and a list without one stays without one (`batch_unsaved`).
-/

namespace IosChrome.Sessions

open Tabs

namespace SessionRestorationBrowserAgent

variable {W : Type} [DecidableEq W]

/-! ## Batches -/

variable {l : WebStateList W} {operations : List (ListOperation W)}

theorem batch_inactive (hinv : ListInv l) (hrun : (operationMachine W).Run l operations)
    (hcloseAll : ∀ operation ∈ operations, isCloseAll operation.1 = false)
    (hactivates : ∀ operation ∈ operations, activates operation.1 = false)
    (hactive : l.getActiveWebState = none) :
    (operationMachine W).Always Unsaved l operations ∧
      ((operationMachine W).exec l operations).getActiveWebState = none := by
  induction operations generalizing l with
  | nil => exact ⟨trivial, hactive⟩
  | cons operation operations ih =>
    obtain ⟨hv, hrun⟩ := hrun
    obtain ⟨hfirst, hcloseAll⟩ := List.forall_mem_cons.1 hcloseAll
    obtain ⟨hnot, hactivates⟩ := List.forall_mem_cons.1 hactivates
    obtain ⟨hunsaved, hnext⟩ := inactive_stays hinv hv hfirst hnot hactive
    have hinv' := perform_inv (m := { webStateList := l }) hinv operation.1 hv
    obtain ⟨hrest, hlast⟩ := ih hinv' hrun hcloseAll hactivates hnext
    exact ⟨⟨hunsaved, hrest⟩, hlast⟩

theorem batch_unsaved (hinv : ListInv l) (hrun : (operationMachine W).Run l operations)
    (hcloseAll : ∀ operation ∈ operations, isCloseAll operation.1 = false)
    (hidle : (operationMachine W).Always Idle l operations)
    (hunsaved : (operationMachine W).Always Unsaved l operations) :
    (l.getActiveWebState ≠ none →
      viewOf ((operationMachine W).exec l operations) = viewOf l) ∧
    (l.getActiveWebState = none →
      ((operationMachine W).exec l operations).getActiveWebState = none ∧
        ∀ operation ∈ operations, activates operation.1 = false) := by
  induction operations generalizing l with
  | nil => exact ⟨fun _ => rfl, fun hactive => ⟨hactive, fun _ hmem => nomatch hmem⟩⟩
  | cons operation operations ih =>
    obtain ⟨hv, hrun⟩ := hrun
    obtain ⟨hfirst, hcloseAll⟩ := List.forall_mem_cons.1 hcloseAll
    obtain ⟨hidle, hidles⟩ := hidle
    obtain ⟨hunsaved, hunsaveds⟩ := hunsaved
    have hinv' := perform_inv (m := { webStateList := l }) hinv operation.1 hv
    obtain ⟨hactives, hinactives⟩ := ih hinv' hrun hcloseAll hidles hunsaveds
    refine ⟨fun hactive => ?_, fun hactive => ?_⟩
    · have hsame := savedDuring_or_unchanged hinv hv hfirst hidle hactive hunsaved
      have hactive' : ((operationMachine W).step l operation).getActiveWebState =
          l.getActiveWebState := congrArg View.active hsame
      exact (hactives (by rw [← hactive'] at hactive; exact hactive)).trans hsame
    · have hnot : activates operation.1 = false := Bool.eq_false_iff.2 fun hactivates =>
        savedDuring_of_activates hv hidle hactivates hactive hunsaved
      obtain ⟨hlast, hrest⟩ := hinactives (inactive_stays hinv hv hfirst hnot hactive).2
      exact ⟨hlast, List.forall_mem_cons.2 ⟨hnot, hrest⟩⟩

/-! ## Closing everything -/

theorem closeAllLoop_unsaved {isLoading : W → Bool} (closeFlags : Int32) (rounds : Nat)
    {m : Mutation W} (hinv : ListInv m.webStateList)
    (hactive : m.webStateList.getActiveWebState = none) :
    SavedDuring isLoading (Mutation.closeAllLoop closeFlags rounds m) ↔
      SavedDuring isLoading m := by
  induction rounds generalizing m with
  | zero => rfl
  | succ rounds ih =>
    unfold Mutation.closeAllLoop
    split
    · rfl
    · next hne =>
      have hlast := WebStateList.containsIndex_last (Bool.eq_false_iff.2 hne)
      have hinv' := closeWebStateAtImpl_inv hinv closeFlags hlast
      obtain ⟨i, w, hi, -, hw, -⟩ := hlast.getWebStateAt
      rw [hi] at hinv' ⊢
      obtain ⟨hsaved, hactive'⟩ :=
        (savedDuring_detachWebStateAtImpl isLoading hinv hw).2 hactive
      obtain ⟨hclosed, hlist⟩ :=
        savedDuring_closeWebStateAtImpl isLoading hw closeFlags
      rw [ih hinv' (by rw [hlist]; exact hactive'), hclosed, hsaved]

/-- The list is deactivated before it is emptied. -/
theorem closeAll_unsaved (hinv : ListInv l) (closeFlags : Int32) (isLoading : W → Bool) :
    Unsaved l (.closeAllWebStates closeFlags, isLoading) ∧
      ((operationMachine W).step l (.closeAllWebStates closeFlags, isLoading)).webStates = [] := by
  have hstart : ¬ SavedDuring isLoading
      (({ webStateList := l } : Mutation W).notify .willBeginBatchOperation) := by
    have hbegin : ¬ Saved isLoading ⟨l, .willBeginBatchOperation⟩ := fun h => nomatch h.1
    rw [savedDuring_notify, or_iff_left hbegin]
    exact not_savedDuring_start _ l
  refine ⟨?_, closeAllLoop_empty closeFlags _ _ (Nat.le_refl _)⟩
  show ¬ SavedDuring isLoading (Mutation.closeAllWebStatesImpl { webStateList := l } closeFlags)
  unfold Mutation.closeAllWebStatesImpl Mutation.performBatchOperation
  rw [savedDuring_notify]
  rintro (hsaved | hend)
  · refine hstart ((savedDuring_deactivate .closed).1 ((closeAllLoop_unsaved closeFlags _ ?_ ?_).1
      hsaved))
    · exact activateWebStateAtImpl_inv hinv .closed (.inl rfl)
    · rw [Mutation.activateWebStateAtImpl_webStateList]
      rfl
  · cases hend.1

/-! ## The number of tabs -/

def isInsertion : Operation W → Bool
  | .insertWebState .. => true
  | _ => false

def isRemoval : Operation W → Bool
  | .detachWebStateAt _ => true
  | .closeWebStateAt .. => true
  | _ => false

theorem length_step {operation : ListOperation W} (hv : operation.1.Valid l)
    (hcloseAll : isCloseAll operation.1 = false) :
    ((operationMachine W).step l operation).webStates.length +
        (if isRemoval operation.1 then 1 else 0) =
      l.webStates.length + if isInsertion operation.1 then 1 else 0 := by
  obtain ⟨op, isLoading⟩ := operation
  have hremoved : ∀ {i : Nat} {w : W}, l.webStates[i]? = some w →
      (l.removeWrapperAt i).webStates.length + 1 = l.webStates.length := by
    intro i w hw
    obtain ⟨hlt, -⟩ := List.getElem?_eq_some_iff.1 hw
    rw [WebStateList.removeWrapperAt_webStates, Int.toNat_natCast, List.length_eraseIdx_of_lt hlt]
    omega
  cases op with
  | insertWebState nav index webState insertionFlags opener =>
    obtain ⟨i, marked, m', hi, hmarked, hlist, -, heq⟩ :=
      insertWebStateImpl_cases (m := { webStateList := l }) hv
    have htabs : m'.webStateList.webStates = l.webStates.insertIdx i webState :=
      congrArg View.tabs (hlist.trans hmarked)
    have hlength : m'.webStateList.webStates.length = l.webStates.length + 1 := by
      rw [htabs, List.length_insertIdx_of_le_length hi]
    show (Mutation.insertWebStateImpl _ _ _ _ _ _).2.webStateList.webStates.length + 0 =
      l.webStates.length + 1
    rw [heq]
    split
    · rw [Mutation.activateWebStateAtImpl_webStateList, WebStateList.setActiveIndex_webStates]
      exact hlength
    · exact hlength
  | moveWebStateAt fromIndex toIndex =>
    obtain ⟨i, w, rfl, -, hw, hget⟩ := hv.1.getWebStateAt
    obtain ⟨j, rfl, hj⟩ := hv.2.exists_nat
    obtain ⟨hlt, -⟩ := List.getElem?_eq_some_iff.1 hw
    rw [← WebStateList.length_webStates] at hj
    show (Mutation.moveWebStateAtImpl _ _ _).webStateList.webStates.length = _
    rw [Mutation.moveWebStateAtImpl_webStateList _ _ hget]
    split
    · rfl
    · have herased := List.length_eraseIdx_of_lt hlt
      have hle : j ≤ (l.webStates.eraseIdx i).length := by omega
      show (l.moveWrapper i j).webStates.length = l.webStates.length
      rw [WebStateList.moveWrapper_webStates l i j hget, Int.toNat_natCast, Int.toNat_natCast,
        List.length_insertIdx_of_le_length hle, herased]
      omega
  | replaceWebStateAt index webState =>
    obtain ⟨i, w, rfl, -, hw, hget⟩ := hv.1.getWebStateAt
    show (Mutation.replaceWebStateAtImpl _ _ _).webStateList.webStates.length = _
    rw [Mutation.replaceWebStateAtImpl_webStateList _ webState hget]
    show (l.replaceWrapper i webState).webStates.length = l.webStates.length
    rw [WebStateList.replaceWrapper_webStates, List.length_set]
  | detachWebStateAt index =>
    obtain ⟨i, w, rfl, -, hw, hget⟩ := WebStateList.ContainsIndex.getWebStateAt hv
    show (Mutation.detachWebStateAtImpl _ _).webStateList.webStates.length + 1 = _
    rw [Mutation.detachWebStateAtImpl_webStateList _ hget]
    exact hremoved hw
  | closeWebStateAt index closeFlags =>
    obtain ⟨i, w, rfl, -, hw, hget⟩ := WebStateList.ContainsIndex.getWebStateAt hv
    show (Mutation.closeWebStateAtImpl _ _ _).webStateList.webStates.length + 1 = _
    rw [Mutation.closeWebStateAtImpl_webStateList _ closeFlags hget]
    exact hremoved hw
  | closeAllWebStates closeFlags => cases hcloseAll
  | activateWebStateAt index =>
    show (Mutation.activateWebStateAtImpl _ _ _).webStateList.webStates.length = _
    rw [Mutation.activateWebStateAtImpl_webStateList, WebStateList.setActiveIndex_webStates]
    rfl
  | setOpenerOfWebStateAt index opener =>
    exact congrArg List.length (WebStateList.setOpenerOfWebStateAt_webStates l index opener)

theorem length_exec (hinv : ListInv l) (hrun : (operationMachine W).Run l operations)
    (hcloseAll : ∀ operation ∈ operations, isCloseAll operation.1 = false) :
    ((operationMachine W).exec l operations).webStates.length +
        operations.countP (isRemoval ·.1) =
      l.webStates.length + operations.countP (isInsertion ·.1) := by
  induction operations generalizing l with
  | nil => rfl
  | cons operation operations ih =>
    obtain ⟨hv, hrun⟩ := hrun
    obtain ⟨hfirst, hcloseAll⟩ := List.forall_mem_cons.1 hcloseAll
    have hstep := length_step hv hfirst
    have hinv' : ListInv ((operationMachine W).step l operation) :=
      perform_inv (m := { webStateList := l }) hinv operation.1 hv
    have hrest := ih hinv' hrun hcloseAll
    rw [List.countP_cons, List.countP_cons, Lib.Machine.exec_cons]
    omega

/-! ## The session service -/

variable {a a' : SessionRestorationBrowserAgent W}

/-- A save of this window is pending. -/
def Pending (a : SessionRestorationBrowserAgent W) : Prop :=
  a.sessionService.pendingSessions a.sessionPath = some ()

/-- Only saves of this window are pending, and each has its timer. -/
structure ServiceInv (a : SessionRestorationBrowserAgent W) : Prop where
  scheduled : SessionService.NoLostSave a.sessionService
  alone : ∀ path, path ≠ a.sessionPath → a.sessionService.pendingSessions path = none

/-- What delayed saves change. -/
structure SavedDelayed (a a' : SessionRestorationBrowserAgent W) : Prop where
  sessionPath : a'.sessionPath = a.sessionPath
  count : a.saveSessionCallsCount ≤ a'.saveSessionCallsCount
  service : ServiceInv a → ServiceInv a'
  pending : Pending a ∨ a.saveSessionCallsCount < a'.saveSessionCallsCount → Pending a'

omit [DecidableEq W] in
theorem SavedDelayed.refl (a : SessionRestorationBrowserAgent W) : SavedDelayed a a :=
  ⟨rfl, Nat.le_refl _, id, fun h => h.elim id fun hlt => absurd hlt (Nat.lt_irrefl _)⟩

omit [DecidableEq W] in
theorem SavedDelayed.trans {b : SessionRestorationBrowserAgent W} (h : SavedDelayed a a')
    (h' : SavedDelayed a' b) : SavedDelayed a b where
  sessionPath := h'.sessionPath.trans h.sessionPath
  count := Nat.le_trans h.count h'.count
  service := fun hinv => h'.service (h.service hinv)
  pending := by
    have hcount := h'.count
    rintro (hpending | hlt)
    · exact h'.pending (.inl (h.pending (.inl hpending)))
    · by_cases hfirst : a.saveSessionCallsCount < a'.saveSessionCallsCount
      · exact h'.pending (.inl (h.pending (.inr hfirst)))
      · exact h'.pending (.inr (by omega))

omit [DecidableEq W] in
theorem pending_saveSession (l : WebStateList W) :
    (a.sessionService.saveSession (fun _ => sessionForSaving l) () a.sessionIdentifier a.directory
      false).pendingSessions =
        fun path => if path = a.sessionPath then some ()
          else a.sessionService.pendingSessions path := by
  unfold SessionService.saveSession sessionPath
  dsimp only
  rw [if_neg Bool.false_ne_true]
  split <;> rfl

omit [DecidableEq W] in
theorem saveSession_delayed (a : SessionRestorationBrowserAgent W) (l : WebStateList W) :
    SavedDelayed a (a.saveSession l false) := by
  unfold saveSession
  split
  · refine ⟨rfl, Nat.le_succ _, fun hinv => ⟨?_, fun path hne => ?_⟩, fun _ => ?_⟩
    · exact (SessionService.noLostSave_step_iff hinv.scheduled (.saveSession
        (fun _ => sessionForSaving l) () a.sessionIdentifier a.directory false)).2 trivial
    · show (a.sessionService.saveSession _ _ _ _ _).pendingSessions path = none
      rw [pending_saveSession l]
      exact (if_neg hne).trans (hinv.alone path hne)
    · show (a.sessionService.saveSession _ _ _ _ _).pendingSessions a.sessionPath = some ()
      rw [pending_saveSession l]
      exact if_pos rfl
  · exact .refl a

theorem ite_not_guard {α : Type} (guard : Bool) (x y : α) :
    (if guard then x else y) = if !guard then y else x := by
  cases guard <;> rfl

omit [DecidableEq W] in
/-- The five observer methods are the same up to their guards. -/
theorem onNotified_eq (a : SessionRestorationBrowserAgent W) (isLoading : W → Bool)
    (notified : Notified W) :
    a.onNotified isLoading notified =
      if asksToSave isLoading notified then a.saveSession notified.webStateList false else a := by
  obtain ⟨l, call⟩ := notified
  unfold onNotified asksToSave
  cases call with
  | webStateActivatedAt oldWebState newWebState activeIndex reason =>
    exact ite_not_guard _ _ _
  | willDetachWebStateAt webState index =>
    dsimp only [willDetachWebStateAt]
    by_cases hindex : l.activeIndex = index
    · simp [hindex]
    · simp [hindex]
  | webStateInsertedAt webState index activating =>
    exact ite_not_guard _ _ _
  | webStateReplacedAt oldWebState newWebState index =>
    exact ite_not_guard _ _ _
  | webStateMoved webState fromIndex toIndex =>
    exact ite_not_guard _ _ _
  | webStateDetachedAt webState index => rfl
  | willCloseWebStateAt webState index userAction => rfl
  | willBeginBatchOperation => rfl
  | batchOperationEnded => rfl

omit [DecidableEq W] in
theorem onNotified_delayed (a : SessionRestorationBrowserAgent W) (isLoading : W → Bool)
    (notified : Notified W) :
    SavedDelayed a (a.onNotified isLoading notified) ∧
      (a.saveSessionCallsCount < (a.onNotified isLoading notified).saveSessionCallsCount ↔
        Saved isLoading notified) := by
  rw [onNotified_eq]
  unfold Saved
  split
  · next hasks =>
    refine ⟨saveSession_delayed a _, ?_⟩
    unfold saveSession
    split
    · next hsave => exact ⟨fun _ => ⟨hasks, hsave⟩, fun _ => Nat.lt_succ_self _⟩
    · next hsave =>
      exact ⟨fun h => absurd h (Nat.lt_irrefl _), fun h => absurd h.2 hsave⟩
  · next hasks =>
    exact ⟨.refl a, fun h => absurd h (Nat.lt_irrefl _), fun h => absurd h.1 hasks⟩

omit [DecidableEq W] in
theorem foldl_delayed (isLoading : W → Bool) (calls : List (Notified W))
    (a : SessionRestorationBrowserAgent W) :
    let a' := calls.foldl (fun a notified => a.onNotified isLoading notified) a
    SavedDelayed a a' ∧ (a.saveSessionCallsCount < a'.saveSessionCallsCount ↔
      ∃ notified ∈ calls, Saved isLoading notified) := by
  induction calls generalizing a with
  | nil =>
    refine ⟨.refl a, fun h => absurd h (Nat.lt_irrefl _), ?_⟩
    rintro ⟨_, hmem, _⟩
    cases hmem
  | cons notified calls ih =>
    obtain ⟨hfirst, hfirstIff⟩ := onNotified_delayed a isLoading notified
    obtain ⟨hrest, hrestIff⟩ := ih (a.onNotified isLoading notified)
    refine ⟨hfirst.trans hrest, ?_⟩
    have hcount := hfirst.count
    have hcount' := hrest.count
    rw [List.foldl_cons, List.exists_mem_cons_iff, ← hfirstIff, ← hrestIff]
    omega

theorem performOperation_delayed (a : SessionRestorationBrowserAgent W)
    (operation : ListOperation W) :
    SavedDelayed a (a.performOperation operation) ∧
      (a.saveSessionCallsCount < (a.performOperation operation).saveSessionCallsCount ↔
        ¬ Unsaved a.webStateList operation) := by
  obtain ⟨hdelayed, hcount⟩ := foldl_delayed operation.2
    (operation.1.perform { webStateList := a.webStateList }).calls a
  refine ⟨⟨hdelayed.sessionPath, hdelayed.count, fun hinv => ?_, hdelayed.pending⟩, ?_⟩
  · exact ⟨(hdelayed.service hinv).scheduled, (hdelayed.service hinv).alone⟩
  · exact hcount.trans not_not.symm

theorem performBatchOperation_delayed (a : SessionRestorationBrowserAgent W)
    (operations : List (ListOperation W)) :
    SavedDelayed a (a.performBatchOperation operations) ∧
      (a.performBatchOperation operations).webStateList =
        (operationMachine W).exec a.webStateList operations ∧
      (a.saveSessionCallsCount < (a.performBatchOperation operations).saveSessionCallsCount ↔
        ¬ (operationMachine W).Always Unsaved a.webStateList operations) := by
  induction operations generalizing a with
  | nil =>
    exact ⟨.refl a, rfl, fun h => absurd h (Nat.lt_irrefl _), fun h => absurd trivial h⟩
  | cons operation operations ih =>
    obtain ⟨hfirst, hfirstIff⟩ := performOperation_delayed a operation
    obtain ⟨hrest, hlist, hrestIff⟩ := ih (a.performOperation operation)
    refine ⟨hfirst.trans hrest, hlist, ?_⟩
    have hcount := hfirst.count
    have hcount' := hrest.count
    have hsum : a.saveSessionCallsCount <
        ((a.performOperation operation).performBatchOperation operations).saveSessionCallsCount ↔
        a.saveSessionCallsCount < (a.performOperation operation).saveSessionCallsCount ∨
          (a.performOperation operation).saveSessionCallsCount <
            ((a.performOperation operation).performBatchOperation
              operations).saveSessionCallsCount := by
      omega
    rw [Lib.Machine.always_cons, not_and_or]
    exact hsum.trans (or_congr hfirstIff hrestIff)

omit [DecidableEq W] in
theorem ServiceInv.saveSession (h : ServiceInv a) (l : WebStateList W) (immediately : Bool) :
    ServiceInv (a.saveSession l immediately) := by
  cases immediately with
  | false => exact (saveSession_delayed a l).service h
  | true =>
    unfold SessionRestorationBrowserAgent.saveSession
    split
    · refine ⟨(SessionService.noLostSave_step_iff h.scheduled (.saveSession
        (fun _ => sessionForSaving l) () a.sessionIdentifier a.directory true)).2 h.alone, ?_⟩
      intro path hne
      have hne : path ≠ a.sessionPath := hne
      show (if path = a.sessionPath then none else if path = a.sessionPath then some ()
        else a.sessionService.pendingSessions path) = none
      rw [if_neg hne, if_neg hne]
      exact h.alone path hne
    · exact h

omit [DecidableEq W] in
theorem ServiceInv.performSave (h : ServiceInv a) : ServiceInv a.performSave := by
  refine ⟨(SessionService.noLostSave_step_iff h.scheduled
    (.timerFired (fun _ => sessionForSaving a.webStateList) a.sessionPath)).2 trivial, ?_⟩
  intro path hne
  have hne : path ≠ a.sessionPath := hne
  show (if path = a.sessionPath then none else a.sessionService.pendingSessions path) = none
  rw [if_neg hne]
  exact h.alone path hne

omit [DecidableEq W] in
/-- What a delayed save records is the list as it is when the timer fires. -/
theorem savedSession_performSave (hpending : Pending a)
    (hsave : canSaveSession a.webStateList = true) :
    a.performSave.savedSession = some (viewOf a.webStateList) := by
  have hhistory : a.performSave.sessionService.history = a.sessionService.history ++
      [.answer a.sessionPath (some ()) (some (viewOf a.webStateList))] := by
    show a.sessionService.history ++ [.answer a.sessionPath
      (a.sessionService.pendingSessions a.sessionPath)
      ((a.sessionService.pendingSessions a.sessionPath).bind
        fun _ => sessionForSaving a.webStateList)] = _
    unfold sessionForSaving
    rw [show a.sessionService.pendingSessions a.sessionPath = some () from hpending, hsave]
    rfl
  unfold savedSession
  rw [hhistory, List.reverse_append]
  rfl

/-! ## Runs -/

/-- A change that should be saved has been handed to the session service, and the delayed save
will record the list the operations leave. -/
def Saves (a : SessionRestorationBrowserAgent W) (operations : List (ListOperation W)) : Prop :=
  viewOf (a.performBatchOperation operations).webStateList ≠ viewOf a.webStateList →
  (operationMachine W).Always Idle a.webStateList operations →
  canSaveSession (a.performBatchOperation operations).webStateList = true →
  a.saveSessionCallsCount < (a.performBatchOperation operations).saveSessionCallsCount ∧
    (a.performBatchOperation operations).sessionPath ∈
      (a.performBatchOperation operations).sessionService.performRequests ∧
    (a.performBatchOperation operations).performSave.savedSession =
      some (viewOf (a.performBatchOperation operations).webStateList)

def SavesChange (a : SessionRestorationBrowserAgent W) (call : Call W) : Prop :=
  match call with
  | .operation operation => a.Saves [operation]
  | .batchOperation operations => a.Saves operations
  | _ => True

/-- Idle operations that activate nothing take every tab from a list without an active one. -/
def EmptiesInactive (l : WebStateList W) (operations : List (ListOperation W)) : Prop :=
  l.webStates ≠ [] ∧ l.getActiveWebState = none ∧
    (∀ operation ∈ operations, activates operation.1 = false) ∧
    (operationMachine W).Always Idle l operations ∧
    l.webStates.length + operations.countP (isInsertion ·.1) = operations.countP (isRemoval ·.1)

def LeavesUnsaved (a : SessionRestorationBrowserAgent W) (call : Call W) : Prop :=
  match call with
  | .operation operation =>
    if isCloseAll operation.1 then a.webStateList.webStates ≠ []
    else EmptiesInactive a.webStateList [operation]
  | .batchOperation operations => EmptiesInactive a.webStateList operations
  | _ => False

omit [DecidableEq W] in
theorem inactive_of_nil (hnil : l.webStates = []) :
    l.getActiveWebState = none := by
  refine Option.eq_none_iff_forall_ne_some.2 fun w hw => ?_
  have hmem := mem_of_getActiveWebState hw
  rw [hnil] at hmem
  cases hmem

theorem saves_of_handed (hservice : ServiceInv a) (operations : List (ListOperation W))
    (hhanded : ¬ (operationMachine W).Always Unsaved a.webStateList operations) :
    a.Saves operations := by
  intro _ _ hsave
  obtain ⟨hdelayed, -, hcount⟩ := performBatchOperation_delayed a operations
  have hlt := hcount.2 hhanded
  have hpending : Pending (a.performBatchOperation operations) := hdelayed.pending (.inr hlt)
  refine ⟨hlt, (hdelayed.service hservice).scheduled _ ?_, savedSession_performSave hpending hsave⟩
  rw [show (a.performBatchOperation operations).sessionService.pendingSessions
    (a.performBatchOperation operations).sessionPath = some () from hpending]
  rfl

theorem saves_iff (hinv : ListInv a.webStateList) (hservice : ServiceInv a)
    {operations : List (ListOperation W)}
    (hrun : (operationMachine W).Run a.webStateList operations)
    (hcloseAll : ∀ operation ∈ operations, isCloseAll operation.1 = false) :
    a.Saves operations ↔ ¬ EmptiesInactive a.webStateList operations := by
  obtain ⟨-, hlist, hcount⟩ := performBatchOperation_delayed a operations
  have hlength := length_exec hinv hrun hcloseAll
  constructor
  · rintro hsaves ⟨htabs, hactive, hactivates, hidle, hnumber⟩
    obtain ⟨hunsaved, hlast⟩ := batch_inactive hinv hrun hcloseAll hactivates hactive
    have hempty : ((operationMachine W).exec a.webStateList operations).webStates = [] :=
      List.eq_nil_of_length_eq_zero (by omega)
    rw [Saves, hlist] at hsaves
    refine hcount.1 (hsaves ?_ hidle (canSaveSession_iff.2 (.inl hempty))).1 hunsaved
    intro hview
    exact htabs ((congrArg View.tabs hview).symm.trans hempty)
  · intro hnot
    by_cases hunsaved : (operationMachine W).Always Unsaved a.webStateList operations
    · intro hchanged hidle hsave
      exfalso
      rw [hlist] at hchanged hsave
      obtain ⟨hactives, hinactives⟩ := batch_unsaved hinv hrun hcloseAll hidle hunsaved
      cases hactive : a.webStateList.getActiveWebState with
      | some w =>
        exact hchanged (hactives (by rw [hactive]; exact Option.some_ne_none w))
      | none =>
        obtain ⟨hlast, hactivates⟩ := hinactives hactive
        have hempty : ((operationMachine W).exec a.webStateList operations).webStates = [] :=
          (canSaveSession_iff.1 hsave).resolve_right fun hne => hne hlast
        refine hnot ⟨fun hnil => hchanged ?_, hactive, hactivates, hidle, ?_⟩
        · rw [viewOf, viewOf, hempty, hlast, hnil, hactive]
        · rw [hempty, List.length_nil] at hlength
          omega
    · exact saves_of_handed hservice operations hunsaved

theorem closeAll_saves_iff (hinv : ListInv a.webStateList) (closeFlags : Int32)
    (isLoading : W → Bool) :
    a.Saves [(.closeAllWebStates closeFlags, isLoading)] ↔ a.webStateList.webStates = [] := by
  obtain ⟨-, hlist, hcount⟩ :=
    performBatchOperation_delayed a [(.closeAllWebStates closeFlags, isLoading)]
  obtain ⟨hunsaved, hempty⟩ := closeAll_unsaved hinv closeFlags isLoading
  have hinactive := inactive_of_nil hempty
  rw [Saves, hlist]
  constructor
  · intro hsaves
    by_contra htabs
    refine hcount.1 (hsaves (fun hview => ?_) ⟨⟨?_, ?_⟩, trivial⟩ ?_).1 ⟨hunsaved, trivial⟩
    · exact htabs ((congrArg View.tabs hview).symm.trans hempty)
    · exact fun _ hw => nomatch hw
    · intro w hw
      rw [hinactive] at hw
      cases hw
    · exact canSaveSession_iff.2 (.inl hempty)
  · intro hnil hchanged
    refine absurd ?_ hchanged
    show viewOf ((operationMachine W).step a.webStateList _) = _
    rw [viewOf, viewOf, hempty, hinactive, hnil, inactive_of_nil hnil]

structure Inv (a : SessionRestorationBrowserAgent W) : Prop where
  webStateList : ListInv a.webStateList
  service : ServiceInv a

omit [DecidableEq W] in
theorem Inv.init (sessionIdentifier : String) (directory : FilePath) :
    Inv (init sessionIdentifier directory : SessionRestorationBrowserAgent W) where
  webStateList := init_inv
  service := ⟨fun _ h => (nomatch h), fun _ _ => rfl⟩

omit [DecidableEq W] in
theorem saveSession_webStateList (a : SessionRestorationBrowserAgent W) (l : WebStateList W)
    (immediately : Bool) : (a.saveSession l immediately).webStateList = a.webStateList := by
  unfold saveSession
  split <;> rfl

theorem exec_inv (hinv : ListInv l) (hrun : (operationMachine W).Run l operations) :
    ListInv ((operationMachine W).exec l operations) :=
  Lib.Machine.Run.invariant (fun l operation h hv =>
    perform_inv (m := { webStateList := l }) h operation.1 hv) hinv hrun

theorem Inv.batch (hinv : Inv a) {operations : List (ListOperation W)}
    (hrun : (operationMachine W).Run a.webStateList operations) :
    Inv (a.performBatchOperation operations) := by
  obtain ⟨hdelayed, hlist, -⟩ := performBatchOperation_delayed a operations
  refine ⟨?_, hdelayed.service hinv.service⟩
  rw [hlist]
  exact exec_inv hinv.webStateList hrun

theorem Inv.step (hinv : Inv a) {call : Call W} (hpre : a.Pre call) : Inv (a.step call) := by
  cases call with
  | operation operation => exact @Inv.batch W _ a hinv [operation] ⟨hpre, trivial⟩
  | batchOperation operations => exact hinv.batch hpre.1
  | didFinishNavigation =>
    refine ⟨?_, hinv.service.saveSession a.webStateList false⟩
    show ListInv (a.saveSession a.webStateList false).webStateList
    rw [saveSession_webStateList]
    exact hinv.webStateList
  | saveSession immediately =>
    refine ⟨?_, hinv.service.saveSession a.webStateList immediately⟩
    show ListInv (a.saveSession a.webStateList immediately).webStateList
    rw [saveSession_webStateList]
    exact hinv.webStateList
  | timerFired => exact ⟨hinv.webStateList, hinv.service.performSave⟩

theorem Inv.step_iff (hinv : Inv a) {call : Call W} (hpre : a.Pre call) :
    a.SavesChange call ↔ ¬ a.LeavesUnsaved call := by
  cases call with
  | operation operation =>
    obtain ⟨op, isLoading⟩ := operation
    unfold SavesChange LeavesUnsaved
    dsimp only
    cases hcloseAll : isCloseAll op with
    | true =>
      cases op with
      | closeAllWebStates closeFlags =>
        rw [if_pos rfl, not_not]
        exact closeAll_saves_iff hinv.webStateList closeFlags isLoading
      | _ => cases hcloseAll
    | false =>
      rw [if_neg Bool.false_ne_true]
      exact saves_iff hinv.webStateList hinv.service ⟨hpre, trivial⟩
        (List.forall_mem_cons.2 ⟨hcloseAll, fun _ hmem => nomatch hmem⟩)
  | batchOperation operations => exact saves_iff hinv.webStateList hinv.service hpre.1 hpre.2
  | _ => exact ⟨fun _ => id, fun _ => trivial⟩

/-- **Every change is saved in a run exactly as long as no `CloseAllWebStates` finds a tab and
no list without an active tab is emptied.** -/
theorem saved_iff {sessionIdentifier : String} {directory : FilePath} {calls : List (Call W)}
    (hrun : (machine W).Run (init sessionIdentifier directory) calls) :
    (machine W).Always SavesChange (init sessionIdentifier directory) calls ↔
      (machine W).Always (fun a call => ¬ a.LeavesUnsaved call)
        (init sessionIdentifier directory) calls :=
  Lib.Machine.always_iff_of_invariant (I := Inv) (fun _ _ hinv hpre => hinv.step_iff hpre)
    (fun _ _ hinv hpre _ => hinv.step hpre) (Inv.init sessionIdentifier directory) hrun

/-- A tab is opened, the timer of its save fires, and all tabs are closed. -/
def closedAll : List (Call Nat) :=
  [.operation (.insertWebState (fun _ => 0) 0 1 insertActivate .null, fun _ => false), .timerFired,
    .operation (.closeAllWebStates closeUserAction, fun _ => false)]

theorem saved_iff_closedAll :
    (machine Nat).Always SavesChange (init "window" []) closedAll ↔
      (machine Nat).Always (fun a call => ¬ a.LeavesUnsaved call) (init "window" []) closedAll :=
  saved_iff (by decide)

/-- The closed tab is in the saved session and nothing is under way that would replace it. -/
theorem closedAll_unsaved :
    (machine Nat).Run (init "window" []) closedAll ∧
      ((machine Nat).exec (init "window" []) closedAll).webStateList = {} ∧
      ((machine Nat).exec (init "window" []) closedAll).savedSession = some ⟨[1], some 1⟩ ∧
      ((machine Nat).exec (init "window" []) closedAll).sessionService.performRequests = [] ∧
      ¬ (machine Nat).Always SavesChange (init "window" []) closedAll := by
  refine ⟨by decide, by decide, by decide, by decide, fun hsaves => ?_⟩
  have hclosed := hsaves.2.2.1 (by decide) ⟨⟨fun _ hw => (nomatch hw), fun _ hw => (nomatch hw)⟩,
    trivial⟩ (by decide)
  exact absurd hclosed.1 (by decide)

end SessionRestorationBrowserAgent

end IosChrome.Sessions

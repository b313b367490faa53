import IosChrome.Tabs.Observer

/-!
# The edits an observer of `WebStateList` is told of

An observer that reacts to the notifications (a presenter that shows the
overlays of the active tab, say) does not care which public operation sent
them. It sees one edit after another: a tab inserted, moved, replaced,
detached, another tab active. `Edit` is such a change, with the calls it comes
with, what it does to the observer's copy of the list (`View`) and what holds
of the list when it happens (`Legal`).

`perform_told` says that the calls of every operation are those of a sequence
of legal edits, and that the edits lead from the tabs before the operation to
the tabs after it. A component that is right along every run of legal edits is
therefore right along every run of the list's operations.

Detaching the active tab is one edit: the tab is announced, removed, and only
then the next tab is made active. So is a replacement, which notifies a change
of the active tab even when that tab stays the same (see `Observer.lean`).
-/

namespace IosChrome.Tabs

variable {W : Type}

/-- A change of the tabs. -/
inductive Edit (W : Type) where
  | insert (webState : W) (index : Nat) (activating : Bool)
  | move (webState : W) (fromIndex toIndex : Nat)
  | replace (oldWebState newWebState : W) (index : Nat) (activeIndex : Int)
  | detach (webState : W) (index : Nat)
  | detachActive (webState : W) (index : Nat) (newActive : Option W) (activeIndex : Int)
  | close (webState : W) (index : Nat) (userAction : Bool)
  | activate (newActive : Option W) (activeIndex : Int) (reason : ActiveWebStateChangeReason)
  | beginBatch
  | endBatch
  deriving DecidableEq, Repr

/-- No tab twice, and the active tab is one of them. -/
structure View.WellFormed (v : View W) : Prop where
  nodup : v.tabs.Nodup
  active : ∀ w ∈ v.active, w ∈ v.tabs

namespace Edit

variable [DecidableEq W]

/-- The tabs after the edit. -/
def apply (v : View W) : Edit W → View W
  | insert webState index _ => { v with tabs := v.tabs.insertIdx index webState }
  | move webState fromIndex toIndex =>
    { v with tabs := (v.tabs.eraseIdx fromIndex).insertIdx toIndex webState }
  | replace oldWebState newWebState index _ =>
    { tabs := v.tabs.set index newWebState
      active := if v.active = some oldWebState then some newWebState else v.active }
  | detach _ index => { v with tabs := v.tabs.eraseIdx index }
  | detachActive _ index newActive _ => { tabs := v.tabs.eraseIdx index, active := newActive }
  | activate newActive _ _ => { v with active := newActive }
  | close .. => v
  | beginBatch => v
  | endBatch => v

/-- The calls the observer gets. -/
def calls (v : View W) : Edit W → List (ObserverCall W)
  | insert webState index activating => [.webStateInsertedAt webState index activating]
  | move webState fromIndex toIndex => [.webStateMoved webState fromIndex toIndex]
  | replace oldWebState newWebState index activeIndex =>
    [.webStateReplacedAt oldWebState newWebState index,
      .webStateActivatedAt (some oldWebState)
        (if v.active = some oldWebState then some newWebState else v.active) activeIndex .replaced]
  | detach webState index =>
    [.willDetachWebStateAt webState index, .webStateDetachedAt webState index]
  | detachActive webState index newActive activeIndex =>
    [.willDetachWebStateAt webState index, .webStateDetachedAt webState index,
      .webStateActivatedAt (some webState) newActive activeIndex .closed]
  | close webState index userAction => [.willCloseWebStateAt webState index userAction]
  | activate newActive activeIndex reason =>
    [.webStateActivatedAt v.active newActive activeIndex reason]
  | beginBatch => [.willBeginBatchOperation]
  | endBatch => [.batchOperationEnded]

/-- What holds of the tabs when the edit happens. -/
def Legal (v : View W) : Edit W → Prop
  | insert webState index _ => webState ∉ v.tabs ∧ index ≤ v.tabs.length
  | move webState fromIndex toIndex =>
    v.tabs[fromIndex]? = some webState ∧ toIndex < v.tabs.length
  | replace oldWebState newWebState index _ =>
    v.tabs[index]? = some oldWebState ∧ newWebState ∉ v.tabs
  | detach webState index => v.tabs[index]? = some webState ∧ v.active ≠ some webState
  | detachActive webState index newActive _ =>
    v.tabs[index]? = some webState ∧ v.active = some webState ∧
      ∀ w ∈ newActive, w ∈ v.tabs.eraseIdx index
  | close webState _ _ => webState ∉ v.tabs
  | activate newActive _ reason =>
    newActive ≠ v.active ∧ reason ≠ .replaced ∧ ∀ w ∈ newActive, w ∈ v.tabs
  | beginBatch => True
  | endBatch => True

instance (v : View W) : (e : Edit W) → Decidable (e.Legal v)
  | insert .. => inferInstanceAs (Decidable (_ ∧ _))
  | move .. => inferInstanceAs (Decidable (_ ∧ _))
  | replace .. => inferInstanceAs (Decidable (_ ∧ _))
  | detach .. => inferInstanceAs (Decidable (_ ∧ _))
  | detachActive _ index newActive _ =>
    inferInstanceAs (Decidable (_ ∧ _ ∧ ∀ w ∈ newActive, w ∈ v.tabs.eraseIdx index))
  | close webState _ _ => inferInstanceAs (Decidable (webState ∉ v.tabs))
  | activate newActive _ _ =>
    inferInstanceAs (Decidable (_ ∧ _ ∧ ∀ w ∈ newActive, w ∈ v.tabs))
  | beginBatch => isTrue trivial
  | endBatch => isTrue trivial

variable {v : View W}

/-- A legal edit leaves the tabs distinct and the active one among them. -/
theorem wellFormed_apply (h : v.WellFormed) {e : Edit W} (hlegal : e.Legal v) :
    (e.apply v).WellFormed := by
  cases e with
  | insert webState index activating =>
    obtain ⟨hnew, hindex⟩ := hlegal
    refine ⟨?_, fun w hw => ?_⟩
    · exact (List.perm_insertIdx _ _ hindex).nodup_iff.2 (List.nodup_cons.2 ⟨hnew, h.nodup⟩)
    · exact (List.mem_insertIdx hindex).2 (.inr (h.active w hw))
  | move webState fromIndex toIndex =>
    obtain ⟨hget, hto⟩ := hlegal
    obtain ⟨hlt, hw⟩ := List.getElem?_eq_some_iff.1 hget
    have hlength : toIndex ≤ (v.tabs.eraseIdx fromIndex).length := by
      rw [List.length_eraseIdx, if_pos hlt]
      omega
    have hperm : ((v.tabs.eraseIdx fromIndex).insertIdx toIndex webState).Perm v.tabs := by
      refine (List.perm_insertIdx _ _ hlength).trans ?_
      rw [← hw]
      exact List.getElem_cons_eraseIdx_perm hlt
    exact ⟨hperm.nodup_iff.2 h.nodup, fun w hw => hperm.mem_iff.2 (h.active w hw)⟩
  | replace oldWebState newWebState index activeIndex =>
    obtain ⟨hget, hnew⟩ := hlegal
    obtain ⟨hlt, hold⟩ := List.getElem?_eq_some_iff.1 hget
    refine ⟨h.nodup.set hnew, fun w hw => ?_⟩
    change w ∈ (if v.active = some oldWebState then some newWebState else v.active) at hw
    show w ∈ v.tabs.set index newWebState
    split at hw
    · cases hw
      exact List.mem_set hlt _
    · next hne =>
      obtain ⟨i, hi, hget'⟩ := List.getElem_of_mem (h.active w hw)
      have hindex : index ≠ i := by
        intro heq
        subst heq
        apply hne
        rw [hw, ← hold, hget']
      exact List.mem_iff_getElem.2 ⟨i, by simpa using hi, by rw [List.getElem_set_ne hindex]; exact hget'⟩
  | detach webState index =>
    obtain ⟨hget, hne⟩ := hlegal
    obtain ⟨hlt, hw⟩ := List.getElem?_eq_some_iff.1 hget
    refine ⟨h.nodup.sublist (List.eraseIdx_sublist _ _), fun w hactive => ?_⟩
    change v.active = some w at hactive
    show w ∈ v.tabs.eraseIdx index
    rw [List.mem_eraseIdx_iff_getElem?]
    obtain ⟨i, hi, hget'⟩ := List.getElem_of_mem (h.active w hactive)
    refine ⟨i, ?_, List.getElem?_eq_some_iff.2 ⟨hi, hget'⟩⟩
    intro heq
    subst heq
    apply hne
    rw [hactive, ← hw, hget']
  | detachActive webState index newActive activeIndex =>
    obtain ⟨_, _, hnew⟩ := hlegal
    exact ⟨h.nodup.sublist (List.eraseIdx_sublist _ _), hnew⟩
  | close webState index userAction => exact h
  | activate newActive activeIndex reason => exact ⟨h.nodup, hlegal.2.2⟩
  | beginBatch => exact h
  | endBatch => exact h

end Edit

/-! ## The calls of an operation are those of edits -/

variable [DecidableEq W]

/-- Calls that tell an observer with the copy `v` of edits, up to the copy they
lead to. -/
inductive Told (v : View W) : List (ObserverCall W) → View W → Prop where
  | refl : Told v [] v
  | edit {calls : List (ObserverCall W)} {v' : View W} (e : Edit W) :
      Told v calls v' → e.Legal v' → Told v (calls ++ e.calls v') (e.apply v')

/-- An operation in progress whose calls so far are those of edits. -/
def Mutation.ToldFrom (v : View W) (m : Mutation W) : Prop :=
  Told v (m.calls.map (·.call)) (viewOf m.webStateList)

variable {v : View W}

theorem Mutation.ToldFrom.edit {m m' : Mutation W} (h : m.ToldFrom v) (e : Edit W)
    (hlegal : e.Legal (viewOf m.webStateList))
    (hcalls : m'.calls.map (·.call) = m.calls.map (·.call) ++ e.calls (viewOf m.webStateList))
    (hview : viewOf m'.webStateList = e.apply (viewOf m.webStateList)) : m'.ToldFrom v := by
  unfold Mutation.ToldFrom
  rw [hcalls, hview]
  exact .edit e h hlegal

theorem Mutation.ToldFrom.congr {m m' : Mutation W} (h : m.ToldFrom v) (hcalls : m'.calls = m.calls)
    (hview : viewOf m'.webStateList = viewOf m.webStateList) :
    m'.ToldFrom v := by
  unfold Mutation.ToldFrom
  rw [hcalls, hview]
  exact h

omit [DecidableEq W] in
/-- The active tab of a list in order is one of its tabs. -/
theorem viewOf_wellFormed {l : WebStateList W} (h : ListInv l) : (viewOf l).WellFormed :=
  ⟨h.nodup, fun _ hw => mem_of_getActiveWebState hw⟩

variable {m : Mutation W}

/-- `NotifyIfActiveWebStateChanged` after a write that left the tabs alone. -/
theorem activateWebStateAtImpl_told (h : m.ToldFrom v) (index : Int)
    {reason : ActiveWebStateChangeReason} (hreason : reason ≠ .replaced) :
    (m.activateWebStateAtImpl index reason).ToldFrom v := by
  have htabs : (m.webStateList.setActiveIndex index).webStates = m.webStateList.webStates :=
    WebStateList.setActiveIndex_webStates _ _
  by_cases heq : m.webStateList.getActiveWebState =
      (m.webStateList.setActiveIndex index).getActiveWebState
  · refine h.congr ?_ ?_
    · unfold Mutation.activateWebStateAtImpl Mutation.notifyIfActiveWebStateChanged
      refine (congrArg Mutation.calls (if_pos heq)).trans ?_
      rfl
    · rw [Mutation.activateWebStateAtImpl_webStateList, viewOf, viewOf, htabs, heq]
  · refine h.edit (.activate (m.webStateList.setActiveIndex index).getActiveWebState
      (m.webStateList.setActiveIndex index).activeIndex reason)
      ⟨fun he => heq he.symm, hreason, fun w hw => ?_⟩ ?_ ?_
    · have hmem := mem_of_getActiveWebState hw
      rwa [htabs] at hmem
    · unfold Mutation.activateWebStateAtImpl Mutation.notifyIfActiveWebStateChanged
      refine (congrArg (fun m' : Mutation W => m'.calls.map (·.call)) (if_neg heq)).trans ?_
      rw [Mutation.notify_calls, List.map_append]
      rfl
    · rw [Mutation.activateWebStateAtImpl_webStateList, viewOf, htabs]
      rfl

theorem moveWebStateAtImpl_told (h : m.ToldFrom v) {i j : Nat} {webState : W}
    (hi : m.webStateList.webStates[i]? = some webState)
    (hj : j < m.webStateList.webStateWrappers.length) : (m.moveWebStateAtImpl i j).ToldFrom v := by
  have hw := hi
  rw [← WebStateList.getWebStateAt_natCast] at hw
  unfold Mutation.moveWebStateAtImpl
  split
  next => exact h
  next =>
    rw [hw]
    refine h.edit (.move webState i j) ⟨hi, ?_⟩ ?_ ?_
    · exact (WebStateList.length_webStates m.webStateList).symm ▸ hj
    · rw [Mutation.notify_calls, List.map_append]
      rfl
    · rw [Mutation.notify_webStateList, Mutation.update_webStateList, viewOf,
        moveWrapper_getActiveWebState _ hi hj, WebStateList.moveWrapper_webStates _ _ _ hw]
      rfl

/-- The two edits of a detachment, told apart by the active index. -/
theorem detachWebStateAtImpl_told (h : m.ToldFrom v) (hinv : ListInv m.webStateList) {i : Nat}
    {webState : W} (hi : m.webStateList.webStates[i]? = some webState) :
    (m.detachWebStateAtImpl i).ToldFrom v := by
  obtain ⟨hlt, hget⟩ := List.getElem?_eq_some_iff.1 hi
  have hlt' : i < m.webStateList.webStateWrappers.length := by
    rwa [WebStateList.length_webStates] at hlt
  have hw := hi
  rw [← WebStateList.getWebStateAt_natCast] at hw
  have hlist := m.detachWebStateAtImpl_webStateList hw
  have htabs := WebStateList.removeWrapperAt_webStates m.webStateList i
  rw [Int.toNat_natCast] at htabs
  by_cases hactive : (i : Int) = m.webStateList.activeIndex
  · have hold : m.webStateList.getActiveWebState = some webState := by
      rw [WebStateList.getActiveWebState_eq, ← hactive, Lib.current_natCast, hi]
    have hmem : ∀ w ∈ (m.webStateList.removeWrapperAt i).getActiveWebState,
        w ∈ m.webStateList.webStates.eraseIdx i := by
      intro w hw
      have hmem := mem_of_getActiveWebState hw
      rwa [htabs] at hmem
    have hgone : some webState ≠ (m.webStateList.removeWrapperAt i).getActiveWebState := by
      intro he
      have hin := hmem webState he.symm
      rw [← hget] at hin
      obtain ⟨j, hne, hj⟩ := List.mem_eraseIdx_iff_getElem?.1 hin
      obtain ⟨hjlt, hjget⟩ := List.getElem?_eq_some_iff.1 hj
      exact hne (hinv.nodup.getElem_inj_iff.1 hjget)
    refine h.edit (.detachActive webState i (m.webStateList.removeWrapperAt i).getActiveWebState
      (m.webStateList.removeWrapperAt i).activeIndex) ⟨hi, hold, hmem⟩ ?_ ?_
    · unfold Mutation.detachWebStateAtImpl
      rw [hw]
      simp only [Mutation.notify_webStateList, hactive, beq_self_eq_true, if_true]
      unfold Mutation.notifyIfActiveWebStateChanged
      rw [← hactive]
      refine (congrArg (fun m' : Mutation W => m'.calls.map (·.call)) (if_neg hgone)).trans ?_
      simp only [Mutation.notify_calls, Mutation.update_calls, List.map_append, List.append_assoc]
      rfl
    · rw [hlist, viewOf, htabs]
      rfl
  · have hne : (viewOf m.webStateList).active ≠ some webState := by
      intro he
      have he' : m.webStateList.getActiveWebState = some webState := he
      rw [WebStateList.getActiveWebState_eq, ← hget] at he'
      exact hactive (Lib.eq_of_current hinv.nodup hlt he').symm
    refine h.edit (.detach webState i) ⟨hi, hne⟩ ?_ ?_
    · unfold Mutation.detachWebStateAtImpl
      rw [hw]
      simp only [Mutation.notify_webStateList, beq_eq_false_iff_ne.2 hactive, Bool.false_eq_true,
        if_false]
      simp only [Mutation.notify_calls, Mutation.update_calls, List.map_append, List.append_assoc]
      rfl
    · rw [hlist, viewOf, htabs,
        removeWrapperAt_getActiveWebState hinv hlt' (fun he => hactive he.symm)]
      rfl

theorem closeWebStateAtImpl_told (h : m.ToldFrom v) (hinv : ListInv m.webStateList) {i : Nat}
    {webState : W} (hi : m.webStateList.webStates[i]? = some webState) (closeFlags : Int32) :
    (m.closeWebStateAtImpl i closeFlags).ToldFrom v := by
  have hw := hi
  rw [← WebStateList.getWebStateAt_natCast] at hw
  obtain ⟨hlt, hget⟩ := List.getElem?_eq_some_iff.1 hi
  have hdetach := detachWebStateAtImpl_told h hinv hi
  have hlist := m.detachWebStateAtImpl_webStateList hw
  unfold Mutation.closeWebStateAtImpl
  rw [hw]
  refine hdetach.edit (.close webState i (isClosingFlagSet closeFlags closeUserAction)) ?_ ?_ ?_
  · show webState ∉ (m.detachWebStateAtImpl i).webStateList.webStates
    rw [hlist, WebStateList.removeWrapperAt_webStates, Int.toNat_natCast, ← hget]
    intro hin
    obtain ⟨j, hne, hj⟩ := List.mem_eraseIdx_iff_getElem?.1 hin
    obtain ⟨hjlt, hjget⟩ := List.getElem?_eq_some_iff.1 hj
    exact hne (hinv.nodup.getElem_inj_iff.1 hjget)
  · rw [Mutation.notify_calls, List.map_append]
    rfl
  · rfl

theorem closeAllLoop_told (closeFlags : Int32) :
    ∀ (rounds : Nat) (m : Mutation W), m.ToldFrom v → ListInv m.webStateList →
      (Mutation.closeAllLoop closeFlags rounds m).ToldFrom v := by
  intro rounds
  induction rounds with
  | zero =>
    intro m h _
    exact h
  | succ rounds ih =>
    intro m h hinv
    unfold Mutation.closeAllLoop
    split
    next => exact h
    next hne =>
      have hlast := WebStateList.containsIndex_last (Bool.eq_false_iff.2 hne)
      obtain ⟨i, w, hi, _, hw, _⟩ := hlast.getWebStateAt
      refine ih _ ?_ (closeWebStateAtImpl_inv hinv closeFlags hlast)
      rw [hi]
      exact closeWebStateAtImpl_told h hinv hw closeFlags

theorem closeAllWebStatesImpl_told (h : m.ToldFrom v) (hinv : ListInv m.webStateList)
    (closeFlags : Int32) :
    (m.closeAllWebStatesImpl closeFlags).ToldFrom v := by
  have hbegin : (m.notify .willBeginBatchOperation).ToldFrom v :=
    h.edit .beginBatch trivial (by rw [Mutation.notify_calls, List.map_append]; rfl) rfl
  have hreason : ActiveWebStateChangeReason.closed ≠ .replaced := by decide
  have hoff := activateWebStateAtImpl_told hbegin kInvalidIndex hreason
  have hclosed := closeAllLoop_told closeFlags
    ((m.notify .willBeginBatchOperation).activateWebStateAtImpl
      kInvalidIndex .closed).webStateList.webStateWrappers.length _ hoff
    (activateWebStateAtImpl_inv (m := m.notify .willBeginBatchOperation) hinv .closed (.inl rfl))
  exact hclosed.edit .endBatch trivial
    (by
      unfold Mutation.closeAllWebStatesImpl Mutation.performBatchOperation
      rw [Mutation.notify_calls, List.map_append]
      rfl) rfl

theorem insertWebStateImpl_told (h : m.ToldFrom v) {nav : W → Int32}
    {index : Int} {webState : W} {insertionFlags : Int32} {opener : WebStateOpener W}
    (hv : (Operation.insertWebState nav index webState insertionFlags opener).Valid
      m.webStateList) :
    (m.insertWebStateImpl nav index webState insertionFlags opener).2.ToldFrom v := by
  obtain ⟨i, hindex, hle⟩ := exists_insertionIndex hv _
  rw [m.insertWebStateImpl_eq nav index webState insertionFlags opener rfl rfl hindex]
  simp only
  generalize (m.webStateList.insertionBase insertionFlags).insertionOpener nav
    insertionFlags opener = opener'
  have hinserted : (Mutation.mk
      ((((m.webStateList.insertionBase insertionFlags).insertWrapperAt i webState).markInserted i
        insertionFlags).setInsertedOpener i opener')
      (m.calls ++ [⟨((m.webStateList.insertionBase insertionFlags).insertWrapperAt i
        webState).markInserted i insertionFlags, .webStateInsertedAt webState i
          (isInsertionFlagSet insertionFlags insertActivate)⟩])).ToldFrom v := by
    refine h.edit (.insert webState i (isInsertionFlagSet insertionFlags insertActivate))
      ⟨hv.1, ?_⟩ ?_ ?_
    · show i ≤ m.webStateList.webStates.length
      rw [← WebStateList.insertionBase_webStates m.webStateList insertionFlags,
        WebStateList.length_webStates]
      exact hle
    · rw [List.map_append]
      rfl
    · have hlist : viewOf ((((m.webStateList.insertionBase insertionFlags).insertWrapperAt i
          webState).markInserted i insertionFlags).setInsertedOpener i opener') =
          viewOf (m.webStateList.insertWrapperAt i webState) :=
        viewOf_congr (by simp) (by simp [WebStateList.insertWrapperAt])
      rw [hlist, viewOf, insertWrapperAt_getActiveWebState,
        WebStateList.insertWrapperAt_webStates, Int.toNat_natCast]
      rfl
  split
  · exact activateWebStateAtImpl_told hinserted _ (by decide)
  · exact hinserted

theorem replaceWebStateAtImpl_told (h : m.ToldFrom v) (hinv : ListInv m.webStateList) {i : Nat}
    {old webState : W} (hi : m.webStateList.webStates[i]? = some old)
    (hnew : webState ∉ m.webStateList.webStates) :
    (m.replaceWebStateAtImpl i webState).ToldFrom v := by
  have hw := hi
  rw [← WebStateList.getWebStateAt_natCast] at hw
  obtain ⟨hlt, hold⟩ := List.getElem?_eq_some_iff.1 hi
  have htabs := WebStateList.replaceWrapper_webStates m.webStateList i webState
  have hactive : (m.webStateList.replaceWrapper i webState).getActiveWebState =
      if m.webStateList.getActiveWebState = some old then some webState
      else m.webStateList.getActiveWebState := by
    by_cases hidx : m.webStateList.activeIndex = i
    · rw [WebStateList.getActiveWebState_eq, WebStateList.getActiveWebState_eq,
        WebStateList.replaceWrapper_activeIndex, htabs, hidx, Lib.current_natCast,
        Lib.current_natCast, hi, if_pos rfl, List.getElem?_set_self hlt]
    · rw [replaceWrapper_getActiveWebState _ _ hidx, if_neg]
      intro he
      rw [WebStateList.getActiveWebState_eq, ← hold] at he
      exact hidx (Lib.eq_of_current hinv.nodup hlt he)
  have hgone : some old ≠ (m.webStateList.replaceWrapper i webState).getActiveWebState := by
    intro he
    have hmem := mem_of_getActiveWebState he.symm
    rw [htabs, ← hold] at hmem
    exact Lib.getElem_not_mem_set hinv.nodup hlt hnew hmem
  refine h.edit (.replace old webState i (m.webStateList.replaceWrapper i webState).activeIndex)
    ⟨hi, hnew⟩ ?_ ?_
  · unfold Mutation.replaceWebStateAtImpl
    rw [hw]
    refine (congrArg (fun m' : Mutation W => m'.calls.map (·.call)) (if_neg hgone)).trans ?_
    show List.map (·.call) ((m.calls ++ [_]) ++ [_]) = _
    rw [List.map_append, List.map_append, List.append_assoc]
    refine congrArg (List.map (·.call) m.calls ++ ·) ?_
    show [_, ObserverCall.webStateActivatedAt (some old)
      (m.webStateList.replaceWrapper i webState).getActiveWebState _ _] = _
    rw [hactive]
    rfl
  · rw [m.replaceWebStateAtImpl_webStateList webState hw, viewOf, htabs, hactive]
    rfl

/-- **Every operation tells its observers of legal edits**, from the tabs
before it to the tabs after it. -/
theorem perform_told {l : WebStateList W} (hinv : ListInv l) (op : Operation W)
    (hv : op.Valid l) :
    Told (viewOf l) ((op.perform { webStateList := l }).calls.map (·.call))
      (viewOf (op.perform { webStateList := l }).webStateList) := by
  have h : (Mutation.mk l []).ToldFrom (viewOf l) := .refl
  show (op.perform { webStateList := l }).ToldFrom (viewOf l)
  cases op with
  | insertWebState nav index webState insertionFlags opener => exact insertWebStateImpl_told h hv
  | moveWebStateAt fromIndex toIndex =>
    obtain ⟨i, w, rfl, _, hw, _⟩ := hv.1.getWebStateAt
    obtain ⟨j, rfl, hj⟩ := hv.2.exists_nat
    exact moveWebStateAtImpl_told h hw hj
  | replaceWebStateAt index webState =>
    obtain ⟨i, w, rfl, _, hw, _⟩ := hv.1.getWebStateAt
    exact replaceWebStateAtImpl_told h hinv hw hv.2
  | detachWebStateAt index =>
    obtain ⟨i, w, rfl, _, hw, _⟩ := WebStateList.ContainsIndex.getWebStateAt hv
    exact detachWebStateAtImpl_told h hinv hw
  | closeWebStateAt index closeFlags =>
    obtain ⟨i, w, rfl, _, hw, _⟩ := WebStateList.ContainsIndex.getWebStateAt hv
    exact closeWebStateAtImpl_told h hinv hw closeFlags
  | closeAllWebStates closeFlags => exact closeAllWebStatesImpl_told h hinv closeFlags
  | activateWebStateAt index => exact activateWebStateAtImpl_told h index (by decide)
  | setOpenerOfWebStateAt index opener =>
    exact h.congr rfl (viewOf_congr (WebStateList.setOpenerOfWebStateAt_webStates _ _ _)
      (WebStateList.setOpenerOfWebStateAt_activeIndex _ _ _))

/-! ## Runs -/

theorem Told.trans {v v' v'' : View W} {calls calls' : List (ObserverCall W)}
    (h : Told v calls v') (h' : Told v' calls' v'') : Told v (calls ++ calls') v'' := by
  induction h' with
  | refl => rwa [List.append_nil]
  | edit e _ hlegal ih =>
    rw [← List.append_assoc]
    exact ih.edit e hlegal

/-- The calls of the operations of a run. -/
def runCalls (l : WebStateList W) : List (Operation W) → List (ObserverCall W)
  | [] => []
  | op :: ops => (op.perform { webStateList := l }).calls.map (·.call) ++
      runCalls ((webStateListMachine W).step l op) ops

/-- **A run of the list is a run of legal edits to its observers**: they are told of
edits only, each legal where it comes, that lead to the tabs at the end. -/
theorem run_told {l : WebStateList W} (hl : (webStateListMachine W).Reachable l)
    {ops : List (Operation W)} (hrun : (webStateListMachine W).Run l ops) :
    Told (viewOf l) (runCalls l ops) (viewOf ((webStateListMachine W).exec l ops)) ∧
      (viewOf ((webStateListMachine W).exec l ops)).WellFormed := by
  refine ⟨?_, viewOf_wellFormed (reachable_inv (hl.exec hrun))⟩
  induction ops generalizing l with
  | nil => exact .refl
  | cons op ops ih =>
    have hnext := hl.exec (show (webStateListMachine W).Run l [op] from ⟨hrun.1, trivial⟩)
    exact (perform_told (reachable_inv hl) op hrun.1).trans (ih hnext hrun.2)

theorem run_told_replaceActive :
    let ops : List (Operation Nat) :=
      [.insertWebState (fun _ => 0) 0 1 insertActivate .null, .replaceWebStateAt 0 3]
    Told (viewOf {}) (runCalls {} ops) (viewOf ((webStateListMachine Nat).exec {} ops)) ∧
      (viewOf ((webStateListMachine Nat).exec {} ops)).WellFormed :=
  run_told ⟨{}, [], rfl, trivial, rfl⟩ (by decide)

end IosChrome.Tabs

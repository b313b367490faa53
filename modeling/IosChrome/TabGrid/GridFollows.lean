import IosChrome.TabGrid.TabGridMediator

/-!
# The grid follows the list

Every notification outside a batch edits the grid as the list was edited (`Shows.inserted` and
its siblings). During a batch the mediator ignores them (`reaction_notify_batch`), and what it
populates at the end is in step whatever the grid was before (`batchOperationEnded_follows`).

`Follows` is what holds between two operations; of a replacement it holds up to the items
selected for editing, which are not edited with the others (`editsItems_replaceItemID`).
-/

namespace IosChrome.TabGrid

open Tabs

/-! ## Items of the grid -/

namespace GridViewController

variable {I : Type} [DecidableEq I]

/-- What is selected for editing is in the grid. -/
def EditsItems (g : GridViewController I) : Prop :=
  ∀ itemID ∈ g.selectedEditingItemIDs, itemID ∈ g.items

theorem indexOfItemWithID_eq {g : GridViewController I} (h : g.items.Nodup) {i : Nat} {itemID : I}
    (hi : g.items[i]? = some itemID) : g.indexOfItemWithID itemID = some i := by
  obtain ⟨hlt, hget⟩ := List.getElem?_eq_some_iff.1 hi
  refine List.findIdx?_eq_some_iff_getElem.2 ⟨hlt, decide_eq_true hget, fun j hj hsame => ?_⟩
  have hji : j = i := h.getElem_inj_iff.1 ((of_decide_eq_true hsame).trans hget.symm)
  omega

theorem editsItems_removeItemWithID {g : GridViewController I} (hedits : g.EditsItems)
    {i : Nat} {itemID : I} (hi : g.items[i]? = some itemID) :
    ∀ other ∈ g.selectedEditingItemIDs.erase itemID, other ∈ g.items.eraseIdx i := by
  intro other hother
  obtain ⟨hne, hin⟩ := Finset.mem_erase.1 hother
  obtain ⟨k, hk⟩ := List.getElem?_of_mem (hedits other hin)
  refine List.mem_eraseIdx_iff_getElem?.2 ⟨k, ?_, hk⟩
  rintro rfl
  exact hne (Option.some.inj (hk.symm.trans hi))

/-- **A replacement keeps the items selected for editing among the items exactly if the
replaced one was not selected, or keeps its id.** -/
theorem editsItems_replaceItemID {g : GridViewController I} (hedits : g.EditsItems)
    (hnodup : g.items.Nodup) {i : Nat} {itemID : I} (hi : g.items[i]? = some itemID) (item : I) :
    (g.replaceItemID itemID item).EditsItems ↔
      (itemID ∈ g.selectedEditingItemIDs → item = itemID) := by
  obtain ⟨hlt, hget⟩ := List.getElem?_eq_some_iff.1 hi
  unfold replaceItemID EditsItems
  rw [indexOfItemWithID_eq hnodup hi]
  show (∀ other ∈ g.selectedEditingItemIDs, other ∈ g.items.set i item) ↔ _
  constructor
  · intro hall hselected
    obtain ⟨k, hk⟩ := List.getElem?_of_mem (hall itemID hselected)
    rw [List.getElem?_set] at hk
    by_cases hik : i = k
    · rw [if_pos hik, if_pos hlt] at hk
      exact Option.some.inj hk
    · rw [if_neg hik] at hk
      obtain ⟨hklt, hkget⟩ := List.getElem?_eq_some_iff.1 hk
      exact absurd (hnodup.getElem_inj_iff.1 (hget.trans hkget.symm)) hik
  · intro hsame other hother
    obtain ⟨k, hk⟩ := List.getElem?_of_mem (hedits other hother)
    refine List.mem_of_getElem? (i := k) ?_
    rw [List.getElem?_set]
    by_cases hik : i = k
    · subst hik
      have hold : other = itemID := Option.some.inj (hk.symm.trans hi)
      rw [if_pos rfl, if_pos hlt, hold, hsame (hold ▸ hother)]
    · rw [if_neg hik, hk]

end GridViewController

/-! ## What the grid shows -/

variable {W I : Type} [DecidableEq W] [DecidableEq I] {tabID : W → I}

namespace TabGridMediator

/-- The grid has an item for each of the tabs, in order, and each of them is observed once. -/
structure Shows (tabID : W → I) (s : TabGridMediator W I) (tabs : List W) : Prop where
  batch : s.isBatchInProgress = false
  items : s.consumer.items = tabs.map tabID
  observed : s.scopedWebStateObservation.Perm tabs

variable {s : TabGridMediator W I} {webState : W} {tabs : List W}

omit [DecidableEq W] [DecidableEq I] in
theorem Shows.getElem? (h : s.Shows tabID tabs) {i : Nat} (hi : tabs[i]? = some webState) :
    s.consumer.items[i]? = some (tabID webState) := by
  rw [h.items, List.getElem?_map, hi]
  rfl

omit [DecidableEq W] in
theorem Shows.index (h : s.Shows tabID tabs) (hnodup : (tabs.map tabID).Nodup) {i : Nat}
    (hi : tabs[i]? = some webState) :
    s.consumer.indexOfItemWithID (tabID webState) = some i :=
  GridViewController.indexOfItemWithID_eq (by rwa [h.items]) (h.getElem? hi)

/-! ### One notification -/

omit [DecidableEq W] [DecidableEq I] in
theorem Shows.inserted (h : s.Shows tabID tabs) (l : WebStateList W) {i : Nat} (webState : W)
    (hi : i ≤ tabs.length) :
    (s.didInsertWebState tabID l webState i).Shows tabID (tabs.insertIdx i webState) where
  batch := h.batch
  items := by
    show s.consumer.items.insertIdx (i : Int).toNat (tabID webState) = _
    rw [Int.toNat_natCast, h.items, List.map_insertIdx]
  observed := by
    refine (List.perm_append_singleton webState s.scopedWebStateObservation).trans ?_
    exact (h.observed.cons webState).trans (List.perm_insertIdx _ _ hi).symm

omit [DecidableEq W] in
theorem Shows.moved (h : s.Shows tabID tabs) (hnodup : (tabs.map tabID).Nodup) {i j : Nat}
    (hi : tabs[i]? = some webState) (hj : j < tabs.length) (hne : i ≠ j) :
    (s.didMoveWebState tabID webState j).Shows tabID ((tabs.eraseIdx i).insertIdx j webState) ∧
    (s.consumer.EditsItems → (s.didMoveWebState tabID webState j).consumer.EditsItems) ∧
    (s.didMoveWebState tabID webState j).consumer.selectedItemID = s.consumer.selectedItemID := by
  obtain ⟨hlt, hget⟩ := List.getElem?_eq_some_iff.1 hi
  have hperm : ((tabs.eraseIdx i).insertIdx j webState).Perm tabs := by
    rw [← hget]
    exact (List.perm_insertIdx _ _ (by rw [List.length_eraseIdx_of_lt hlt]; omega)).trans
      (List.getElem_cons_eraseIdx_perm hlt)
  have hconsumer : (s.didMoveWebState tabID webState j).consumer =
      { s.consumer with
        items := (s.consumer.items.eraseIdx i).insertIdx j (tabID webState)
        updating := true } := by
    unfold didMoveWebState GridViewController.moveItemWithID
    rw [h.index hnodup hi, Int.toNat_natCast]
    exact if_neg hne
  have hitems : (s.didMoveWebState tabID webState j).consumer.items =
      ((tabs.eraseIdx i).insertIdx j webState).map tabID := by
    rw [hconsumer, List.map_insertIdx, ← List.eraseIdx_map, h.items]
  refine ⟨⟨h.batch, hitems, h.observed.trans hperm.symm⟩, fun hedits itemID hselected => ?_, ?_⟩
  · rw [hconsumer] at hselected
    have hin := hedits itemID hselected
    rw [h.items] at hin
    rw [hitems]
    exact (hperm.map tabID).mem_iff.2 hin
  · rw [hconsumer]

theorem Shows.replaced (h : s.Shows tabID tabs) (hnodup : (tabs.map tabID).Nodup) {i : Nat}
    {old : W} (hi : tabs[i]? = some old) (new : W) :
    (s.didReplaceWebState tabID old new).Shows tabID (tabs.set i new) where
  batch := h.batch
  items := by
    unfold didReplaceWebState GridViewController.replaceItemID
    rw [h.index hnodup hi]
    show s.consumer.items.set i (tabID new) = _
    rw [h.items, List.map_set]
  observed := by
    obtain ⟨hlt, hget⟩ := List.getElem?_eq_some_iff.1 hi
    have hother : (s.scopedWebStateObservation.erase old).Perm (tabs.eraseIdx i) := by
      have hold := (h.observed.trans (List.getElem_cons_eraseIdx_perm hlt).symm).erase old
      rwa [hget, List.erase_cons_head] at hold
    refine (List.perm_append_singleton new _).trans ?_
    exact (hother.cons new).trans (List.set_perm_cons_eraseIdx hlt new).symm

theorem Shows.detached (h : s.Shows tabID tabs) (hnodup : (tabs.map tabID).Nodup)
    (l : WebStateList W) {i : Nat} (hi : tabs[i]? = some webState) :
    (s.didDetachWebState tabID l webState).Shows tabID (tabs.eraseIdx i) ∧
    (s.consumer.EditsItems → (s.didDetachWebState tabID l webState).consumer.EditsItems) ∧
    (s.didDetachWebState tabID l webState).consumer.selectedItemID = getActiveTabId tabID l := by
  obtain ⟨hlt, hget⟩ := List.getElem?_eq_some_iff.1 hi
  have hconsumer : (s.didDetachWebState tabID l webState).consumer =
      { s.consumer with
        items := s.consumer.items.eraseIdx i
        selectedItemID := getActiveTabId tabID l
        selectedEditingItemIDs := s.consumer.selectedEditingItemIDs.erase (tabID webState)
        updating := true } := by
    unfold didDetachWebState GridViewController.removeItemWithID
    rw [h.index hnodup hi]
  refine ⟨⟨h.batch, ?_, ?_⟩, fun hedits => ?_, ?_⟩
  · rw [hconsumer, ← List.eraseIdx_map, h.items]
  · have hother := (h.observed.trans (List.getElem_cons_eraseIdx_perm hlt).symm).erase webState
    rwa [hget, List.erase_cons_head] at hother
  · rw [hconsumer]
    exact GridViewController.editsItems_removeItemWithID hedits (h.getElem? hi)
  · rw [hconsumer]

/-! ### One operation -/

/-- The mediator after the calls of an operation so far. -/
def reaction (tabID : W → I) (s : TabGridMediator W I) (m : Mutation W) : TabGridMediator W I :=
  m.calls.foldl (onNotified tabID) s

@[simp] theorem reaction_update (s : TabGridMediator W I) (m : Mutation W)
    (f : WebStateList W → WebStateList W) :
    reaction tabID s (m.update f) = reaction tabID s m := rfl

theorem reaction_notify (s : TabGridMediator W I) (m : Mutation W) (call : ObserverCall W) :
    reaction tabID s (m.notify call) =
      (reaction tabID s m).onNotified tabID ⟨m.webStateList, call⟩ := by
  unfold reaction
  rw [Mutation.notify_calls, List.foldl_append]
  rfl

/-- The grid follows the list: it shows its tabs, and the active one is selected. -/
structure Follows (tabID : W → I) (s : TabGridMediator W I) (l : WebStateList W) : Prop where
  shows : s.Shows tabID l.webStates
  edits : s.consumer.EditsItems
  selected : s.consumer.selectedItemID = getActiveTabId tabID l

omit [DecidableEq W] [DecidableEq I] in
/-- A write that the grid does not show. -/
theorem Follows.congr {l l' : WebStateList W} (h : s.Follows tabID l) (hview : viewOf l' = viewOf l) :
    s.Follows tabID l' where
  shows := by
    rw [show l'.webStates = l.webStates from congrArg View.tabs hview]
    exact h.shows
  edits := h.edits
  selected := by
    rw [h.selected, getActiveTabId, getActiveTabId,
      show l'.getActiveWebState = l.getActiveWebState from congrArg View.active hview]

variable {l : WebStateList W}

omit [DecidableEq W] in
/-- A tab is active when the active index is not `kInvalidIndex`. -/
theorem getActiveWebState_of_invalid (h : l.activeIndex = kInvalidIndex) :
    l.getActiveWebState = none := by
  rw [WebStateList.getActiveWebState_eq, h]
  exact Lib.current_of_neg _ (by decide)

variable {m : Mutation W}

/-- `NotifyIfActiveWebStateChanged`: the active tab becomes the selected item, or already is. -/
theorem notifyIfActiveWebStateChanged_follows
    (h : (reaction tabID s m).Shows tabID m.webStateList.webStates)
    (hedits : (reaction tabID s m).consumer.EditsItems) (oldWebState : Option W)
    (reason : ActiveWebStateChangeReason)
    (hold : oldWebState = m.webStateList.getActiveWebState →
      (reaction tabID s m).consumer.selectedItemID = getActiveTabId tabID m.webStateList) :
    (reaction tabID s (m.notifyIfActiveWebStateChanged oldWebState reason)).Follows tabID
      m.webStateList := by
  unfold Mutation.notifyIfActiveWebStateChanged
  simp only
  split
  next heq => exact ⟨h, hedits, hold heq⟩
  next =>
    have hselect : (reaction tabID s (m.notify (.webStateActivatedAt oldWebState
        m.webStateList.getActiveWebState m.webStateList.activeIndex reason))) =
        { reaction tabID s m with
          consumer := (reaction tabID s m).consumer.selectItemWithID
            (getActiveTabId tabID m.webStateList) } := by
      rw [reaction_notify]
      show (if (reaction tabID s m).isBatchInProgress then _ else _) = _
      rw [h.batch, if_neg Bool.false_ne_true]
      unfold didChangeActiveWebState getActiveTabId
      split
      next hinvalid => rw [getActiveWebState_of_invalid hinvalid]; rfl
      next => rfl
    rw [hselect]
    exact ⟨⟨h.batch, h.items, h.observed⟩, hedits, rfl⟩

theorem activateWebStateAtImpl_follows (h : (reaction tabID s m).Follows tabID m.webStateList)
    (index : Int) (reason : ActiveWebStateChangeReason) :
    (reaction tabID s (m.activateWebStateAtImpl index reason)).Follows tabID
      (m.webStateList.setActiveIndex index) := by
  refine notifyIfActiveWebStateChanged_follows (m := m.update (·.setActiveIndex index)) ?_ h.edits _
    reason fun heq => ?_
  · rw [Mutation.update_webStateList, WebStateList.setActiveIndex_webStates]
    exact h.shows
  · rw [reaction_update, h.selected, getActiveTabId, heq]
    rfl

/-- An insertion: the item is selected as the list is before the activation. -/
theorem insertWebStateImpl_follows (h : s.Follows tabID l) {nav : W → Int32} {index : Int}
    {insertionFlags : Int32} {opener : WebStateOpener W}
    (hv : (Operation.insertWebState nav index webState insertionFlags opener).Valid l) :
    let m := ((Mutation.mk l []).insertWebStateImpl nav index webState insertionFlags opener).2
    (reaction tabID s m).Follows tabID m.webStateList := by
  intro m
  obtain ⟨i, hindex, hi⟩ := exists_insertionIndex hv
    ((l.insertionBase insertionFlags).insertionOpener nav insertionFlags opener)
  have hm : m = _ := congrArg Prod.snd (Mutation.insertWebStateImpl_eq (Mutation.mk l []) nav index
    webState insertionFlags opener rfl rfl hindex)
  generalize (l.insertionBase insertionFlags).insertionOpener nav insertionFlags opener = opener'
    at hm
  generalize hmarked : ((l.insertionBase insertionFlags).insertWrapperAt i webState).markInserted i
    insertionFlags = marked at hm
  simp only at hm
  have htabs : marked.webStates = l.webStates.insertIdx i webState := by
    rw [← hmarked, WebStateList.markInserted_webStates, WebStateList.insertWrapperAt_webStates,
      WebStateList.insertionBase_webStates, Int.toNat_natCast]
  have hi' : i ≤ l.webStates.length := by
    rw [← WebStateList.insertionBase_webStates l insertionFlags, WebStateList.length_webStates]
    exact hi
  have hinserted : (reaction tabID s (Mutation.mk (marked.setInsertedOpener i opener')
      [⟨marked, .webStateInsertedAt webState i
        (isInsertionFlagSet insertionFlags insertActivate)⟩])).Follows tabID
      (marked.setInsertedOpener i opener') := by
    refine Follows.congr (l := marked) ?_ (viewOf_congr (by simp) (by simp))
    have hreaction : reaction tabID s (Mutation.mk (marked.setInsertedOpener i opener')
        [⟨marked, .webStateInsertedAt webState i
          (isInsertionFlagSet insertionFlags insertActivate)⟩]) =
        s.didInsertWebState tabID marked webState i := by
      show (if s.isBatchInProgress then _ else _) = _
      rw [h.shows.batch, if_neg Bool.false_ne_true]
    rw [hreaction]
    refine ⟨?_, fun itemID hselected => ?_, rfl⟩
    · rw [htabs]
      exact h.shows.inserted marked webState hi'
    · exact List.subset_insertIdx _ _ _ (h.edits itemID hselected)
  rw [hm]
  split
  · rw [Mutation.activateWebStateAtImpl_webStateList]
    exact activateWebStateAtImpl_follows hinserted i .inserted
  · exact hinserted

theorem moveWebStateAtImpl_follows (h : s.Follows tabID l) (hnodup : (l.webStates.map tabID).Nodup)
    {i j : Nat} (hi : l.webStates[i]? = some webState) (hj : j < l.webStateWrappers.length) :
    let m := (Mutation.mk l []).moveWebStateAtImpl i j
    (reaction tabID s m).Follows tabID m.webStateList := by
  intro m
  have hw := hi
  rw [← WebStateList.getWebStateAt_natCast] at hw
  have hm : m = if (i : Int) = j then Mutation.mk l []
      else (Mutation.mk (l.moveWrapper i j) []).notify (.webStateMoved webState i j) := by
    show (Mutation.mk l []).moveWebStateAtImpl i j = _
    unfold Mutation.moveWebStateAtImpl
    rw [hw]
    rfl
  by_cases hij : (i : Int) = j
  · rw [hm, if_pos hij]
    exact h
  · rw [hm, if_neg hij]
    have hreaction : reaction tabID s ((Mutation.mk (l.moveWrapper i j) []).notify
        (.webStateMoved webState i j)) = s.didMoveWebState tabID webState j := by
      show (if s.isBatchInProgress then _ else _) = _
      rw [h.shows.batch, if_neg Bool.false_ne_true]
    obtain ⟨hshows, hedits, hselected⟩ := h.shows.moved hnodup hi
      (by rwa [WebStateList.length_webStates]) (fun heq => hij (by rw [heq]))
    rw [hreaction, Mutation.notify_webStateList]
    refine ⟨?_, hedits h.edits, ?_⟩
    · rw [WebStateList.moveWrapper_webStates l i j hw, Int.toNat_natCast, Int.toNat_natCast]
      exact hshows
    · rw [hselected, h.selected, getActiveTabId, getActiveTabId, moveWrapper_getActiveWebState l hi hj]

/-- A replacement: everything but the editing selection is in step. -/
theorem replaceWebStateAtImpl_shows (h : s.Follows tabID l) (hinv : ListInv l)
    (hnodup : (l.webStates.map tabID).Nodup) {i : Nat} {old new : W}
    (hi : l.webStates[i]? = some old) (hnew : new ∉ l.webStates) :
    let m := (Mutation.mk l []).replaceWebStateAtImpl i new
    (reaction tabID s m).Shows tabID m.webStateList.webStates ∧
    (reaction tabID s m).consumer.selectedItemID = getActiveTabId tabID m.webStateList ∧
    ((reaction tabID s m).consumer.EditsItems ↔
      (tabID old ∈ s.consumer.selectedEditingItemIDs → tabID new = tabID old)) := by
  intro m
  have hw := hi
  rw [← WebStateList.getWebStateAt_natCast] at hw
  obtain ⟨hlt, hold⟩ := List.getElem?_eq_some_iff.1 hi
  have htabs := WebStateList.replaceWrapper_webStates l i new
  have hgone : some old ≠ (l.replaceWrapper i new).getActiveWebState := by
    intro he
    have hmem := mem_of_getActiveWebState he.symm
    rw [htabs, ← hold] at hmem
    exact Lib.getElem_not_mem_set hinv.nodup hlt hnew hmem
  have hlist : m.webStateList = l.replaceWrapper i new :=
    Mutation.replaceWebStateAtImpl_webStateList (Mutation.mk l []) new hw
  have hreaction : reaction tabID s m =
      (s.didReplaceWebState tabID old new).didChangeActiveWebState tabID
        (l.replaceWrapper i new).getActiveWebState (l.replaceWrapper i new).activeIndex := by
    show reaction tabID s ((Mutation.mk l []).replaceWebStateAtImpl i new) = _
    unfold Mutation.replaceWebStateAtImpl
    rw [hw]
    refine (congrArg (reaction tabID s) (if_neg hgone)).trans ?_
    have hreplaced : reaction tabID s ((Mutation.mk (l.replaceWrapper i new) []).notify
        (.webStateReplacedAt old new i)) = s.didReplaceWebState tabID old new := by
      show (if s.isBatchInProgress then _ else _) = _
      rw [h.shows.batch, if_neg Bool.false_ne_true]
    have hbatch : (s.didReplaceWebState tabID old new).isBatchInProgress = false := h.shows.batch
    show (reaction tabID s ((Mutation.mk (l.replaceWrapper i new) []).notify
      (.webStateReplacedAt old new i))).onNotified tabID ⟨l.replaceWrapper i new, .webStateActivatedAt (some old)
        (l.replaceWrapper i new).getActiveWebState (l.replaceWrapper i new).activeIndex .replaced⟩ = _
    rw [hreplaced]
    show (if (s.didReplaceWebState tabID old new).isBatchInProgress then _ else _) = _
    rw [hbatch, if_neg Bool.false_ne_true]
  have hshows := h.shows.replaced hnodup hi new
  have hedits := GridViewController.editsItems_replaceItemID h.edits
    (by rw [h.shows.items]; exact hnodup) (h.shows.getElem? hi) (tabID new)
  rw [hreaction, hlist, htabs]
  unfold didChangeActiveWebState
  refine ⟨⟨hshows.batch, ?_, hshows.observed⟩, ?_, ?_⟩
  · rw [← hshows.items]
    show (if _ then _ else _ : GridViewController I).items = _
    split <;> rfl
  · show (if _ then _ else _ : GridViewController I).selectedItemID = _
    unfold getActiveTabId
    split
    next hinvalid => rw [getActiveWebState_of_invalid hinvalid]; rfl
    next => rfl
  · rw [← hedits]
    show GridViewController.EditsItems (if _ then _ else _) ↔ _
    split <;> exact Iff.rfl

theorem detachWebStateAtImpl_follows (h : s.Follows tabID l)
    (hnodup : (l.webStates.map tabID).Nodup) {i : Nat} (hi : l.webStates[i]? = some webState) :
    let m := (Mutation.mk l []).detachWebStateAtImpl i
    (reaction tabID s m).Follows tabID m.webStateList := by
  intro m
  obtain ⟨hlt, hget⟩ := List.getElem?_eq_some_iff.1 hi
  have hw := hi
  rw [← WebStateList.getWebStateAt_natCast] at hw
  have htabs := WebStateList.removeWrapperAt_webStates l i
  rw [Int.toNat_natCast] at htabs
  have hlist : m.webStateList = l.removeWrapperAt i :=
    Mutation.detachWebStateAtImpl_webStateList (Mutation.mk l []) hw
  obtain ⟨hshows, hedits, hselected⟩ := h.shows.detached hnodup (l.removeWrapperAt i) hi
  let detached := (((Mutation.mk l []).notify (.willDetachWebStateAt webState i)).update
    (·.removeWrapperAt i)).notify (.webStateDetachedAt webState i)
  have hreaction : reaction tabID s detached =
      s.didDetachWebState tabID (l.removeWrapperAt i) webState := by
    show (if s.isBatchInProgress then _ else _) = _
    rw [h.shows.batch, if_neg Bool.false_ne_true]
    rfl
  have hdetached : (reaction tabID s detached).Follows tabID (l.removeWrapperAt i) := by
    rw [hreaction]
    exact ⟨htabs ▸ hshows, hedits h.edits, hselected⟩
  rw [hlist]
  show (reaction tabID s ((Mutation.mk l []).detachWebStateAtImpl i)).Follows tabID _
  unfold Mutation.detachWebStateAtImpl
  rw [hw]
  simp only
  split
  · exact notifyIfActiveWebStateChanged_follows (m := detached) hdetached.shows hdetached.edits _ _
      fun _ => hdetached.selected
  · exact hdetached

/-! ### Batches -/

/-- The calls that begin and end a batch. -/
def IsBatchCall : ObserverCall W → Prop
  | .willBeginBatchOperation | .batchOperationEnded => True
  | _ => False

/-- During a batch the mediator ignores the rest. -/
theorem reaction_notify_batch (h : (reaction tabID s m).isBatchInProgress = true)
    {call : ObserverCall W} (hcall : ¬ IsBatchCall call) :
    reaction tabID s (m.notify call) = reaction tabID s m := by
  rw [reaction_notify]
  cases call with
  | willBeginBatchOperation => exact absurd trivial hcall
  | batchOperationEnded => exact absurd trivial hcall
  | willDetachWebStateAt => rfl
  | willCloseWebStateAt => rfl
  | webStateInsertedAt | webStateMoved | webStateReplacedAt | webStateDetachedAt
  | webStateActivatedAt => exact if_pos h

theorem notifyIfActiveWebStateChanged_batch (h : (reaction tabID s m).isBatchInProgress = true)
    (oldWebState : Option W) (reason : ActiveWebStateChangeReason) :
    reaction tabID s (m.notifyIfActiveWebStateChanged oldWebState reason) = reaction tabID s m := by
  unfold Mutation.notifyIfActiveWebStateChanged
  simp only
  split
  · rfl
  · exact reaction_notify_batch h id

theorem activateWebStateAtImpl_batch (h : (reaction tabID s m).isBatchInProgress = true)
    (index : Int) (reason : ActiveWebStateChangeReason) :
    reaction tabID s (m.activateWebStateAtImpl index reason) = reaction tabID s m :=
  notifyIfActiveWebStateChanged_batch (m := m.update (·.setActiveIndex index)) h _ reason

theorem detachWebStateAtImpl_batch (h : (reaction tabID s m).isBatchInProgress = true) (index : Int)
    :
    reaction tabID s (m.detachWebStateAtImpl index) = reaction tabID s m := by
  unfold Mutation.detachWebStateAtImpl
  split
  · rfl
  · next webState _ =>
    have hwill : reaction tabID s (m.notify (.willDetachWebStateAt webState index)) =
        reaction tabID s m := reaction_notify_batch h id
    have hdetached : reaction tabID s (((m.notify (.willDetachWebStateAt webState index)).update
        (·.removeWrapperAt index)).notify (.webStateDetachedAt webState index)) =
        reaction tabID s m := by
      rw [reaction_notify_batch (by rw [reaction_update, hwill]; exact h) id, reaction_update,
        hwill]
    simp only
    split
    · rw [notifyIfActiveWebStateChanged_batch (by rw [hdetached]; exact h), hdetached]
    · exact hdetached

theorem closeWebStateAtImpl_batch (h : (reaction tabID s m).isBatchInProgress = true) (index : Int)
    (closeFlags : Int32) :
    reaction tabID s (m.closeWebStateAtImpl index closeFlags) = reaction tabID s m := by
  have hdetach := detachWebStateAtImpl_batch h index
  unfold Mutation.closeWebStateAtImpl
  split
  · rfl
  · rw [reaction_notify_batch (by rw [hdetach]; exact h) id, hdetach]

theorem closeAllLoop_batch (closeFlags : Int32) : ∀ (rounds : Nat) (m : Mutation W),
    (reaction tabID s m).isBatchInProgress = true →
    reaction tabID s (Mutation.closeAllLoop closeFlags rounds m) = reaction tabID s m := by
  intro rounds
  induction rounds with
  | zero => intro m _; rfl
  | succ rounds ih =>
    intro m h
    unfold Mutation.closeAllLoop
    split
    · rfl
    · have hclose := closeWebStateAtImpl_batch h (m.webStateList.count - 1) closeFlags
      rw [ih _ (by rw [hclose]; exact h), hclose]

/-- **An operation inside a batch changes nothing in the grid.** -/
theorem perform_batch (h : (reaction tabID s m).isBatchInProgress = true) {operation : Operation W}
    (hoperation : isCloseAll operation = false) :
    reaction tabID s (operation.perform m) = reaction tabID s m := by
  cases operation with
  | insertWebState nav index webState insertionFlags opener =>
    have hinserted : ∀ (m' : Mutation W) (call : ObserverCall W)
        (f : WebStateList W → WebStateList W) (i : Int) (activating : Bool),
        reaction tabID s m' = reaction tabID s m → ¬ IsBatchCall call →
        reaction tabID s (if activating then
          ((m'.notify call).update f).activateWebStateAtImpl i .inserted
          else (m'.notify call).update f) = reaction tabID s m := by
      intro m' call f i activating hm hcall
      have hnotify : reaction tabID s ((m'.notify call).update f) = reaction tabID s m := by
        rw [reaction_update, reaction_notify_batch (by rw [hm]; exact h) hcall, hm]
      split
      · rw [activateWebStateAtImpl_batch (by rw [hnotify]; exact h), hnotify]
      · exact hnotify
    exact hinserted _ (.webStateInsertedAt webState _ _) _ _ _ rfl id
  | moveWebStateAt fromIndex toIndex =>
    show reaction tabID s (m.moveWebStateAtImpl fromIndex toIndex) = _
    unfold Mutation.moveWebStateAtImpl
    split
    · rfl
    · split
      · rfl
      · exact reaction_notify_batch (m := m.update (·.moveWrapper fromIndex toIndex)) h id
  | replaceWebStateAt index webState =>
    show reaction tabID s (m.replaceWebStateAtImpl index webState) = _
    unfold Mutation.replaceWebStateAtImpl
    split
    · rfl
    · next old _ =>
      have hreplaced : reaction tabID s ((m.update (·.replaceWrapper index webState)).notify
          (.webStateReplacedAt old webState index)) = reaction tabID s m :=
        reaction_notify_batch (m := m.update (·.replaceWrapper index webState)) h id
      simp only
      rw [notifyIfActiveWebStateChanged_batch (by rw [hreplaced]; exact h), hreplaced]
  | detachWebStateAt index => exact detachWebStateAtImpl_batch h index
  | closeWebStateAt index closeFlags => exact closeWebStateAtImpl_batch h index closeFlags
  | closeAllWebStates closeFlags => exact absurd hoperation (by simp [isCloseAll])
  | activateWebStateAt index => exact activateWebStateAtImpl_batch h index .activated
  | setOpenerOfWebStateAt index opener => rfl

omit [DecidableEq W] [DecidableEq I] in
/-- The end of a batch populates everything. -/
theorem batchOperationEnded_follows (hobserved : s.scopedWebStateObservation = [])
    (l : WebStateList W) : (s.batchOperationEnded tabID l).Follows tabID l where
  shows := ⟨rfl, rfl, by
    show (s.scopedWebStateObservation ++ l.webStates).Perm l.webStates
    rw [hobserved, List.nil_append]⟩
  edits _ h := absurd h (Finset.notMem_empty _)
  selected := rfl

theorem closeAllWebStatesImpl_follows (s : TabGridMediator W I) (l : WebStateList W)
    (closeFlags : Int32) :
    let m := (Mutation.mk l []).closeAllWebStatesImpl closeFlags
    (reaction tabID s m).Follows tabID m.webStateList := by
  intro m
  let begun := (Mutation.mk l []).notify .willBeginBatchOperation
  let deactivated := begun.activateWebStateAtImpl kInvalidIndex .closed
  have hbegun : reaction tabID s begun = s.willBeginBatchOperation := rfl
  have hdeactivated : reaction tabID s deactivated = reaction tabID s begun :=
    activateWebStateAtImpl_batch rfl kInvalidIndex .closed
  have hclosed : reaction tabID s (Mutation.closeAllLoop closeFlags
      deactivated.webStateList.webStateWrappers.length deactivated) = reaction tabID s deactivated :=
    closeAllLoop_batch closeFlags _ _ (by rw [hdeactivated]; rfl)
  have hreaction : reaction tabID s m =
      s.willBeginBatchOperation.batchOperationEnded tabID m.webStateList := by
    show reaction tabID s (Mutation.notify _ .batchOperationEnded) = _
    rw [reaction_notify]
    show (reaction tabID s (Mutation.closeAllLoop closeFlags
      deactivated.webStateList.webStateWrappers.length deactivated)).batchOperationEnded tabID _ = _
    rw [hclosed, hdeactivated, hbegun]
    rfl
  rw [hreaction]
  exact batchOperationEnded_follows rfl m.webStateList

/-- The operations of a batch only change the list. -/
theorem foldl_performOperation_batch : ∀ {operations : List (Operation W)} {s : TabGridMediator W I}
    {l : WebStateList W}, s.isBatchInProgress = true → s.webStateList = some l →
    (∀ operation ∈ operations, isCloseAll operation = false) →
    operations.foldl (performOperation tabID) s =
      { s with webStateList := some ((webStateListMachine W).exec l operations) } := by
  intro operations
  induction operations with
  | nil =>
    intro s l _ hlist _
    show s = _
    rw [Lib.Machine.exec_nil, ← hlist]
  | cons operation operations ih =>
    intro s l hbatch hlist hall
    have hquiet : reaction tabID s (operation.perform (Mutation.mk l [])) = s :=
      perform_batch (m := Mutation.mk l []) hbatch (hall operation List.mem_cons_self)
    have hstep : s.performOperation tabID operation =
        { s with webStateList := some ((webStateListMachine W).step l operation) } := by
      unfold performOperation
      rw [hlist]
      show { reaction tabID s (operation.perform (Mutation.mk l [])) with
        webStateList := some ((webStateListMachine W).step l operation) } = _
      rw [hquiet]
    rw [List.foldl_cons, hstep]
    exact ih (s := { s with webStateList := some ((webStateListMachine W).step l operation) })
      (l := (webStateListMachine W).step l operation) hbatch rfl fun other hmem =>
      hall other (List.mem_cons_of_mem _ hmem)

end TabGridMediator

end IosChrome.TabGrid

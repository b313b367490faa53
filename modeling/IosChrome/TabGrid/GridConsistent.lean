import IosChrome.TabGrid.GridFollows

/-!
# Does the grid show the tabs?

`Consistent` is what the grid is for: its items are the tabs in order, the selected item is the
active tab, what is selected for editing is in the grid, and every tab is observed exactly once.
Two things get it out of step:

* replacing a tab that is selected for editing by one with another id: the old id stays
  selected;
* giving the mediator a browser without tabs, or none: nothing is populated, and the items of
  the browser before stay.

`Inv.step_iff` says of one call that there is nothing else, `grid_consistent_iff` of a run.
-/

namespace IosChrome.TabGrid

open Tabs

variable {W I : Type} [DecidableEq W] [DecidableEq I] {tabID : W → I}

namespace TabGridMediator

variable {s : TabGridMediator W I}

/-! ## The property -/

def tabs (s : TabGridMediator W I) : List W :=
  match s.webStateList with
  | none => []
  | some l => l.webStates

def activeWebState (s : TabGridMediator W I) : Option W :=
  s.webStateList.bind (·.getActiveWebState)

/-- The grid is in step with the tabs of the current browser. -/
structure Consistent (tabID : W → I) (s : TabGridMediator W I) : Prop where
  items : s.consumer.items = s.tabs.map tabID
  selected : s.consumer.selectedItemID = s.activeWebState.map tabID
  edits : s.consumer.EditsItems
  observed : s.scopedWebStateObservation.Perm s.tabs

structure Inv (tabID : W → I) (s : TabGridMediator W I) : Prop where
  consistent : s.Consistent tabID
  batch : s.isBatchInProgress = false
  list : ∀ l, s.webStateList = some l → HasTabs tabID l

omit [DecidableEq W] [DecidableEq I] in
theorem consistent_iff_follows {l : WebStateList W} (hlist : s.webStateList = some l)
    (hbatch : s.isBatchInProgress = false) : s.Consistent tabID ↔ s.Follows tabID l := by
  have htabs : s.tabs = l.webStates := by
    unfold tabs
    rw [hlist]
  have hactive : s.activeWebState = l.getActiveWebState := by
    unfold activeWebState
    rw [hlist]
    rfl
  constructor
  · intro h
    have hitems := h.items
    have hselected := h.selected
    have hobserved := h.observed
    rw [htabs] at hitems hobserved
    rw [hactive] at hselected
    exact ⟨⟨hbatch, hitems, hobserved⟩, h.edits, hselected⟩
  · intro h
    refine ⟨?_, ?_, h.edits, ?_⟩
    · rw [htabs]
      exact h.shows.items
    · rw [hactive]
      exact h.selected
    · rw [htabs]
      exact h.shows.observed

/-- When the call keeps the grid in step: a tab that is replaced by one with another id is not
selected for editing, and the grid is empty when a browser without tabs, or none, is set. -/
def KeepsConsistent (tabID : W → I) (s : TabGridMediator W I) : Call W I → Prop
  | .operation (.replaceWebStateAt index new) =>
    ∀ l old, s.webStateList = some l → l.getWebStateAt index = some old →
      tabID old ∈ s.consumer.selectedEditingItemIDs → tabID new = tabID old
  | .setBrowser webStateList =>
    (∀ l, webStateList = some l → l.webStates = []) → s.consumer.items = []
  | _ => True

/-! ## Steps -/

omit [DecidableEq W] [DecidableEq I] in
theorem Inv.hasTabs {l : WebStateList W} (h : s.Inv tabID) (hlist : s.webStateList = some l) :
    HasTabs tabID l ∧ s.Follows tabID l :=
  ⟨h.list l hlist, (consistent_iff_follows hlist h.batch).1 h.consistent⟩

theorem performOperation_eq {l : WebStateList W} (hlist : s.webStateList = some l)
    (operation : Operation W) :
    s.performOperation tabID operation =
      { reaction tabID s (operation.perform { webStateList := l }) with
        webStateList := some ((webStateListMachine W).step l operation) } := by
  unfold performOperation
  rw [hlist]
  rfl

/-- An operation that is no replacement. -/
theorem perform_follows {l : WebStateList W} (h : s.Follows tabID l) (htabs : HasTabs tabID l)
    {operation : Operation W} (hv : operation.Valid l)
    (hreplace : ∀ index new, operation ≠ .replaceWebStateAt index new) :
    (reaction tabID s (operation.perform { webStateList := l })).Follows tabID
      ((webStateListMachine W).step l operation) := by
  cases operation with
  | insertWebState nav index webState insertionFlags opener => exact insertWebStateImpl_follows h hv
  | moveWebStateAt fromIndex toIndex =>
    obtain ⟨i, w, rfl, _, hi, _⟩ := hv.1.getWebStateAt
    obtain ⟨j, rfl, hj⟩ := hv.2.exists_nat
    exact moveWebStateAtImpl_follows h htabs.2 hi hj
  | replaceWebStateAt index new => exact absurd rfl (hreplace index new)
  | detachWebStateAt index =>
    obtain ⟨i, w, rfl, _, hi, _⟩ := WebStateList.ContainsIndex.getWebStateAt hv
    exact detachWebStateAtImpl_follows h htabs.2 hi
  | closeWebStateAt index closeFlags =>
    obtain ⟨i, w, rfl, _, hi, hat⟩ := WebStateList.ContainsIndex.getWebStateAt hv
    have hdetach := detachWebStateAtImpl_follows h htabs.2 hi
    show (reaction tabID s ((Mutation.mk l []).closeWebStateAtImpl i closeFlags)).Follows tabID
      ((Mutation.mk l []).closeWebStateAtImpl i closeFlags).webStateList
    unfold Mutation.closeWebStateAtImpl
    rw [hat]
    simp only
    rw [reaction_notify]
    exact hdetach
  | closeAllWebStates closeFlags => exact closeAllWebStatesImpl_follows s l closeFlags
  | activateWebStateAt index =>
    have hactivate := activateWebStateAtImpl_follows (m := Mutation.mk l []) h index .activated
    rwa [show (webStateListMachine W).step l (.activateWebStateAt index) = l.setActiveIndex index
      from Mutation.activateWebStateAtImpl_webStateList _ _ _]
  | setOpenerOfWebStateAt index opener =>
    exact h.congr (viewOf_congr (WebStateList.setOpenerOfWebStateAt_webStates _ _ _)
      (WebStateList.setOpenerOfWebStateAt_activeIndex _ _ _))

omit [DecidableEq W] [DecidableEq I] in
/-- Selecting items for editing, and editing no more. -/
theorem Consistent.withConsumer (h : s.Consistent tabID) {g : GridViewController I}
    (hitems : g.items = s.consumer.items) (hselected : g.selectedItemID = s.consumer.selectedItemID)
    (hedits : g.EditsItems) : Consistent tabID { s with consumer := g } where
  items := hitems.trans h.items
  selected := hselected.trans h.selected
  edits := hedits
  observed := h.observed

/-- An item replaced by one with the same id. -/
theorem replaceItemID_self (g : GridViewController I) (itemID : I) :
    g.replaceItemID itemID itemID = g := by
  unfold GridViewController.replaceItemID
  cases hindex : g.indexOfItemWithID itemID with
  | none => rfl
  | some i =>
    obtain ⟨hi, hsame, _⟩ := List.findIdx?_eq_some_iff_getElem.1 hindex
    have hitems : g.items.set i itemID = g.items := by
      rw [← of_decide_eq_true hsame, List.set_getElem_self]
    simp only [hitems]

theorem editsItems_tapped {g : GridViewController I} (h : g.EditsItems) (index : Nat) :
    (g.tappedItemAtIndexPath index).EditsItems := by
  unfold GridViewController.tappedItemAtIndexPath
  split
  · exact h
  · split
    · exact h
    · next itemID hitem =>
      split
      · intro other hother
        show other ∈ g.items
        change other ∈ (if _ then _ else _ : Finset I) at hother
        split at hother
        · exact h other (Finset.mem_of_mem_erase hother)
        · rcases Finset.mem_insert.1 hother with rfl | hold
          · exact List.mem_of_getElem? hitem
          · exact h other hold
      · exact h

theorem tapped_items (g : GridViewController I) (index : Nat) :
    (g.tappedItemAtIndexPath index).items = g.items ∧
    (g.tappedItemAtIndexPath index).selectedItemID = g.selectedItemID := by
  unfold GridViewController.tappedItemAtIndexPath
  split
  · exact ⟨rfl, rfl⟩
  · split
    · exact ⟨rfl, rfl⟩
    · split <;> exact ⟨rfl, rfl⟩

/-- A replacement. -/
theorem Inv.replaceWebStateAt_iff (h : s.Inv tabID) {index : Int} {new : W}
    (hpre : s.Pre tabID (.operation (.replaceWebStateAt index new))) :
    (s.step tabID (.operation (.replaceWebStateAt index new))).Consistent tabID ↔
      KeepsConsistent tabID s (.operation (.replaceWebStateAt index new)) := by
  obtain ⟨l, hlist, hv, _⟩ := hpre
  obtain ⟨htabs, hfollows⟩ := h.hasTabs hlist
  obtain ⟨i, old, rfl, _, hi, hat⟩ := hv.1.getWebStateAt
  obtain ⟨hshows, hselected, hedits⟩ :=
    replaceWebStateAtImpl_shows hfollows htabs.1 htabs.2 hi hv.2
  have hstep : s.step tabID (.operation (.replaceWebStateAt i new)) =
      { reaction tabID s ((Mutation.mk l []).replaceWebStateAtImpl i new) with
        webStateList := some ((Mutation.mk l []).replaceWebStateAtImpl i new).webStateList } :=
    performOperation_eq hlist _
  have hkeeps : KeepsConsistent tabID s (.operation (.replaceWebStateAt i new)) ↔
      (tabID old ∈ s.consumer.selectedEditingItemIDs → tabID new = tabID old) := by
    constructor
    · intro hall
      exact hall l old hlist hat
    · intro hsame l' old' hlist' hat'
      rw [hlist] at hlist'
      cases hlist'
      rw [hat] at hat'
      cases hat'
      exact hsame
  have hbatch : (s.step tabID (.operation (.replaceWebStateAt i new))).isBatchInProgress = false := by
    rw [hstep]
    exact hshows.batch
  have hafter : (s.step tabID (.operation (.replaceWebStateAt i new))).webStateList =
      some ((Mutation.mk l []).replaceWebStateAtImpl i new).webStateList := by
    rw [hstep]
  rw [hkeeps, ← hedits, consistent_iff_follows hafter hbatch, hstep]
  exact ⟨fun hfollows => hfollows.edits,
    fun hedited => ⟨⟨hshows.batch, hshows.items, hshows.observed⟩, hedited, hselected⟩⟩

/-- A browser is set. Without tabs it leaves the items of the one before. -/
theorem Inv.setBrowser_iff (h : s.Inv tabID) {webStateList : Option (WebStateList W)} :
    (s.step tabID (.setBrowser webStateList)).Consistent tabID ↔
      KeepsConsistent tabID s (.setBrowser webStateList) := by
  -- an empty grid has nothing selected, in either way
  have hempty : s.consumer.items = [] →
      s.consumer.selectedItemID = none ∧ s.consumer.selectedEditingItemIDs = ∅ := by
    intro hitems
    have htabs : s.tabs = [] := List.map_eq_nil_iff.1 (h.consistent.items.symm.trans hitems)
    refine ⟨?_, Finset.eq_empty_of_forall_notMem fun itemID hselected => ?_⟩
    · have hactive : s.activeWebState = none := by
        refine Option.eq_none_iff_forall_not_mem.2 fun w hw => ?_
        unfold activeWebState at hw
        obtain ⟨l, hlist, hget⟩ := Option.bind_eq_some_iff.1 hw
        have hmem := mem_of_getActiveWebState hget
        unfold tabs at htabs
        rw [hlist] at htabs
        simp only at htabs
        rw [htabs] at hmem
        exact List.not_mem_nil hmem
      rw [h.consistent.selected, hactive]
      rfl
    · have hin := h.consistent.edits itemID hselected
      rw [hitems] at hin
      exact List.not_mem_nil hin
  have hunpopulated : ∀ s' : TabGridMediator W I, s'.consumer = s.consumer → s'.tabs = [] →
      s'.activeWebState = none → s'.scopedWebStateObservation = [] →
      (s'.Consistent tabID ↔ s.consumer.items = []) := by
    intro s' hconsumer htabs hactive hobserved
    constructor
    · intro hafter
      rw [← hconsumer, hafter.items, htabs]
      rfl
    · intro hitems
      obtain ⟨hselected, hedits⟩ := hempty hitems
      refine ⟨?_, ?_, ?_, ?_⟩
      · rw [hconsumer, hitems, htabs]
        rfl
      · rw [hconsumer, hselected, hactive]
        rfl
      · unfold GridViewController.EditsItems
        rw [hconsumer, hedits]
        exact fun _ hin => absurd hin (Finset.notMem_empty _)
      · rw [hobserved, htabs]
  cases webStateList with
  | none =>
    rw [hunpopulated (s.step tabID (.setBrowser none)) rfl rfl rfl rfl]
    exact ⟨fun hitems _ => hitems, fun hkeeps => hkeeps fun _ hnone => nomatch hnone⟩
  | some l =>
    by_cases hcount : l.count > 0
    · have hstep : s.step tabID (.setBrowser (some l)) =
          { s with
            webStateList := some l
            scopedWebStateObservation := l.webStates
            consumer := s.consumer.populateItems (createItems tabID l) (getActiveTabId tabID l) } :=
        if_pos hcount
      refine iff_of_true ?_ fun hnone => ?_
      · rw [hstep]
        exact ⟨rfl, rfl, fun _ hin => absurd hin (Finset.notMem_empty _), List.Perm.refl _⟩
      · have hzero := congrArg List.length (hnone l rfl)
        rw [WebStateList.length_webStates, List.length_nil] at hzero
        unfold WebStateList.count at hcount
        omega
    · have hnone : l.webStates = [] := by
        rw [← List.length_eq_zero_iff, WebStateList.length_webStates]
        unfold WebStateList.count at hcount
        omega
      have hactive : l.getActiveWebState = none := by
        refine Option.eq_none_iff_forall_not_mem.2 fun w hw => ?_
        have hmem := mem_of_getActiveWebState hw
        rw [hnone] at hmem
        exact List.not_mem_nil hmem
      have hstep : s.step tabID (.setBrowser (some l)) =
          { s with webStateList := some l, scopedWebStateObservation := l.webStates } :=
        if_neg hcount
      rw [hstep, hunpopulated
        { s with webStateList := some l, scopedWebStateObservation := l.webStates } rfl hnone hactive
        hnone]
      refine ⟨fun hitems _ => hitems, fun hkeeps => hkeeps fun l' hlist => ?_⟩
      cases hlist
      exact hnone

/-- **One call keeps the grid in step exactly if it is not one of the two.** -/
theorem Inv.step_iff (h : s.Inv tabID) {call : Call W I} (hpre : s.Pre tabID call) :
    (s.step tabID call).Consistent tabID ↔ KeepsConsistent tabID s call := by
  have hpopulated : ∀ {s' : TabGridMediator W I} {l : WebStateList W},
      s'.webStateList = some l → s'.Follows tabID l → s'.Consistent tabID :=
    fun hlist hfollows => (consistent_iff_follows hlist hfollows.shows.batch).2 hfollows
  cases call with
  | operation operation =>
    by_cases hreplace : ∀ index new, operation ≠ .replaceWebStateAt index new
    · obtain ⟨l, hlist, hv, _⟩ := hpre
      obtain ⟨htabs, hfollows⟩ := h.hasTabs hlist
      have hafter := perform_follows hfollows htabs hv hreplace
      have hkeeps : KeepsConsistent tabID s (.operation operation) := by
        cases operation with
        | replaceWebStateAt index new => exact absurd rfl (hreplace index new)
        | _ => trivial
      refine iff_of_true ?_ hkeeps
      show (s.performOperation tabID operation).Consistent tabID
      rw [performOperation_eq hlist]
      exact hpopulated rfl ⟨⟨hafter.shows.batch, hafter.shows.items, hafter.shows.observed⟩,
        hafter.edits, hafter.selected⟩
    · have hreplaced : ∃ index new, operation = .replaceWebStateAt index new := by
        by_contra hnone
        exact hreplace fun index new heq => hnone ⟨index, new, heq⟩
      obtain ⟨index, new, rfl⟩ := hreplaced
      exact h.replaceWebStateAt_iff hpre
  | batchOperation operations =>
    obtain ⟨hall, l, hlist, _, _⟩ := hpre
    refine iff_of_true ?_ trivial
    have hbatch : operations.foldl (performOperation tabID) s.willBeginBatchOperation =
        { s.willBeginBatchOperation with
          webStateList := some ((webStateListMachine W).exec l operations) } :=
      foldl_performOperation_batch rfl hlist hall
    have hstep : s.step tabID (.batchOperation operations) =
        { s.willBeginBatchOperation with
          webStateList := some ((webStateListMachine W).exec l operations)
          : TabGridMediator W I }.batchOperationEnded tabID
            ((webStateListMachine W).exec l operations) := by
      show s.performBatchOperation tabID operations = _
      unfold performBatchOperation
      rw [hbatch]
    rw [hstep]
    exact hpopulated rfl (batchOperationEnded_follows rfl _)
  | changeTitle webState =>
    refine iff_of_true ?_ trivial
    show (s.webStateDidChangeTitle tabID webState).Consistent tabID
    unfold webStateDidChangeTitle
    rw [replaceItemID_self]
    split <;> exact h.consistent
  | updateSnapshot identifier =>
    refine iff_of_true ?_ trivial
    show (s.didUpdateSnapshotForIdentifier tabID identifier).Consistent tabID
    unfold didUpdateSnapshotForIdentifier
    split
    · exact h.consistent
    · split
      · exact h.consistent
      · next webState hfind =>
        unfold getWebStateWithId at hfind
        have hfound := List.find?_some hfind
        have hsame : tabID webState = identifier := of_decide_eq_true hfound
        rw [hsame, replaceItemID_self]
        exact h.consistent
  | tapItem index =>
    obtain ⟨hitems, hselected⟩ := tapped_items s.consumer index
    exact iff_of_true (h.consistent.withConsumer hitems hselected
      (editsItems_tapped h.consistent.edits index)) trivial
  | selectAllItemsForEditing =>
    refine iff_of_true ?_ trivial
    show Consistent tabID { s with consumer := s.consumer.selectAllItemsForEditing }
    unfold GridViewController.selectAllItemsForEditing
    split
    · refine h.consistent.withConsumer rfl rfl fun itemID hselected => ?_
      rcases Finset.mem_union.1 hselected with hold | hitem
      · exact h.consistent.edits itemID hold
      · exact List.mem_toFinset.1 hitem
    · exact h.consistent
  | setMode mode =>
    refine iff_of_true (h.consistent.withConsumer rfl rfl fun itemID hselected => ?_) trivial
    change itemID ∈ (if mode = .normal then ∅ else s.consumer.selectedEditingItemIDs : Finset I)
      at hselected
    split at hselected
    · exact absurd hselected (Finset.notMem_empty _)
    · exact h.consistent.edits itemID hselected
  | updatesCompleted =>
    exact iff_of_true (h.consistent.withConsumer rfl rfl h.consistent.edits) trivial
  | setBrowser webStateList => exact h.setBrowser_iff

theorem reaction_batch_false {l : WebStateList W} (h : s.Inv tabID) (hlist : s.webStateList = some l)
    {operation : Operation W} (hv : operation.Valid l) :
    (reaction tabID s (operation.perform { webStateList := l })).isBatchInProgress = false := by
  obtain ⟨htabs, hfollows⟩ := h.hasTabs hlist
  by_cases hreplace : ∀ index new, operation ≠ .replaceWebStateAt index new
  · exact (perform_follows hfollows htabs hv hreplace).shows.batch
  · have hreplaced : ∃ index new, operation = .replaceWebStateAt index new := by
      by_contra hnone
      exact hreplace fun index new heq => hnone ⟨index, new, heq⟩
    obtain ⟨index, new, rfl⟩ := hreplaced
    obtain ⟨i, old, rfl, _, hi, _⟩ := hv.1.getWebStateAt
    exact (replaceWebStateAtImpl_shows hfollows htabs.1 htabs.2 hi hv.2).1.batch

/-- What the list is after a call, and that no batch is left open. -/
theorem Inv.step (h : s.Inv tabID) {call : Call W I} (hpre : s.Pre tabID call)
    (hconsistent : (s.step tabID call).Consistent tabID) : (s.step tabID call).Inv tabID := by
  refine ⟨hconsistent, ?_, ?_⟩
  · cases call with
    | operation operation =>
      obtain ⟨l, hlist, hv, _⟩ := hpre
      show (s.performOperation tabID operation).isBatchInProgress = false
      rw [performOperation_eq hlist]
      exact reaction_batch_false h hlist hv
    | batchOperation operations =>
      obtain ⟨hall, l, hlist, _, _⟩ := hpre
      show (s.performBatchOperation tabID operations).isBatchInProgress = false
      unfold performBatchOperation
      rw [foldl_performOperation_batch (s := s.willBeginBatchOperation) rfl hlist hall]
      rfl
    | changeTitle webState =>
      show (s.webStateDidChangeTitle tabID webState).isBatchInProgress = false
      unfold webStateDidChangeTitle
      split <;> exact h.batch
    | updateSnapshot identifier =>
      show (s.didUpdateSnapshotForIdentifier tabID identifier).isBatchInProgress = false
      unfold didUpdateSnapshotForIdentifier
      split
      · exact h.batch
      · split <;> exact h.batch
    | setBrowser webStateList =>
      cases webStateList with
      | none => exact h.batch
      | some l =>
        show (populateConsumerItems tabID _ l).isBatchInProgress = false
        unfold populateConsumerItems
        split <;> exact h.batch
    | tapItem | selectAllItemsForEditing | setMode | updatesCompleted => exact h.batch
  · intro l' hlist'
    cases call with
    | operation operation =>
      obtain ⟨l, hlist, hv, hnodup⟩ := hpre
      change (s.performOperation tabID operation).webStateList = some l' at hlist'
      rw [performOperation_eq hlist] at hlist'
      cases hlist'
      exact ⟨perform_inv (m := { webStateList := l }) (h.list l hlist).1 operation hv, hnodup⟩
    | batchOperation operations =>
      obtain ⟨hall, l, hlist, hrun, hnodup⟩ := hpre
      change (s.performBatchOperation tabID operations).webStateList = some l' at hlist'
      unfold performBatchOperation at hlist'
      rw [foldl_performOperation_batch (s := s.willBeginBatchOperation) rfl hlist hall] at hlist'
      cases hlist'
      exact ⟨hrun.invariant (fun l operation hl hv =>
        perform_inv (m := { webStateList := l }) hl operation hv) (h.list l hlist).1, hnodup⟩
    | changeTitle webState =>
      change (s.webStateDidChangeTitle tabID webState).webStateList = some l' at hlist'
      refine h.list l' ?_
      unfold webStateDidChangeTitle at hlist'
      split at hlist' <;> exact hlist'
    | updateSnapshot identifier =>
      change (s.didUpdateSnapshotForIdentifier tabID identifier).webStateList = some l' at hlist'
      refine h.list l' ?_
      unfold didUpdateSnapshotForIdentifier at hlist'
      split at hlist'
      · exact hlist'
      · split at hlist' <;> exact hlist'
    | setBrowser webStateList =>
      refine hpre l' ?_
      cases webStateList with
      | none => exact nomatch hlist'
      | some l =>
        change (populateConsumerItems tabID _ l).webStateList = some l' at hlist'
        unfold populateConsumerItems at hlist'
        split at hlist' <;> exact hlist'
    | tapItem | selectAllItemsForEditing | setMode | updatesCompleted => exact h.list l' hlist'

omit [DecidableEq W] [DecidableEq I] in
theorem init_inv : ({} : TabGridMediator W I).Inv tabID where
  consistent := ⟨rfl, rfl, fun _ hin => absurd hin (Finset.notMem_empty _), List.Perm.refl _⟩
  batch := rfl
  list _ hlist := nomatch hlist

/-- **Along every run the grid is in step after each call exactly if no call of the run is one
of the two** that get it out of step. -/
theorem grid_consistent_iff {calls : List (Call W I)}
    (hrun : (machine W I tabID).Run {} calls) :
    (machine W I tabID).Always (fun s call => ((machine W I tabID).step s call).Consistent tabID) {}
        calls ↔
      (machine W I tabID).Always (fun s call => s.KeepsConsistent tabID call) {} calls :=
  Lib.Machine.always_iff_of_invariant (I := fun s => s.Inv tabID)
    (fun _ _ h hpre => h.step_iff hpre) (fun _ _ h hpre hconsistent => h.step hpre hconsistent)
    init_inv hrun

/-- A tab that is not selected for editing is replaced by one with another id. -/
theorem grid_consistent_iff_replaced :
    let calls : List (Call Nat Nat) :=
      [.setBrowser (some {}), .operation (.insertWebState (fun _ => 0) 0 1 insertActivate .null),
        .updatesCompleted, .setMode .selection, .operation (.replaceWebStateAt 0 2), .tapItem 0]
    (machine Nat Nat id).Always
        (fun s call => ((machine Nat Nat id).step s call).Consistent id) {} calls ↔
      (machine Nat Nat id).Always (fun s call => s.KeepsConsistent id call) {} calls :=
  grid_consistent_iff ⟨fun _ hlist => by cases hlist; exact ⟨Tabs.init_inv, List.nodup_nil⟩,
    ⟨_, rfl, by decide, by decide⟩, trivial, trivial, ⟨_, rfl, by decide, by decide⟩, trivial,
    trivial⟩

/-- The browser with tab 1 is replaced by one without tabs. -/
theorem grid_notConsistent :
    ¬ ∀ calls : List (Call Nat Nat), (machine Nat Nat id).Run {} calls →
      (machine Nat Nat id).Always
        (fun s call => ((machine Nat Nat id).step s call).Consistent id) {} calls := by
  intro h
  have hitems := (h [.setBrowser (some {}),
    .operation (.insertWebState (fun _ => 0) 0 1 insertActivate .null), .setBrowser (some {})]
    ⟨fun _ hlist => by cases hlist; exact ⟨Tabs.init_inv, List.nodup_nil⟩,
      ⟨_, rfl, by decide, by decide⟩,
      fun _ hlist => by cases hlist; exact ⟨Tabs.init_inv, List.nodup_nil⟩, trivial⟩).2.2.1.items
  exact absurd hitems (by decide)

end TabGridMediator

end IosChrome.TabGrid

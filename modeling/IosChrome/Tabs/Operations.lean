import IosChrome.Lib.Machine
import IosChrome.Tabs.WebStateList

/-!
# The mutating operations of `WebStateList` and their notifications

Each operation of `web_state_list.mm` interleaves writes to the list with
calls to its observers, and what an observer can see of the list depends on
where in the operation its call stands. So an operation here is a function on
a `Mutation`: the list as it is now, and the calls made so far, each with the
list as it was when the call was made. `update` writes, `notify` calls, and
the bodies keep the source's order of the two.

`LockForMutation` makes the list non-re-entrant: an observer cannot change it
from within a call, so a whole operation is one step. `webStateListMachine`
collects the eight public operations with what their `DCHECK`s require.
-/

namespace IosChrome.Tabs

/-- `ActiveWebStateChangeReason`. -/
inductive ActiveWebStateChangeReason where
  | replaced
  | activated
  | closed
  | inserted
  deriving DecidableEq, Repr

/-- The calls of `WebStateListObserver`. -/
inductive ObserverCall (W : Type) where
  | webStateInsertedAt (webState : W) (index : Int) (activating : Bool)
  | webStateMoved (webState : W) (fromIndex toIndex : Int)
  | webStateReplacedAt (oldWebState newWebState : W) (index : Int)
  | willDetachWebStateAt (webState : W) (index : Int)
  | webStateDetachedAt (webState : W) (index : Int)
  | willCloseWebStateAt (webState : W) (index : Int) (userAction : Bool)
  | webStateActivatedAt (oldWebState newWebState : Option W) (activeIndex : Int)
      (reason : ActiveWebStateChangeReason)
  | willBeginBatchOperation
  | batchOperationEnded
  deriving DecidableEq, Repr

/-- An observer call and the list the observer finds when it is made. -/
structure Notified (W : Type) where
  webStateList : WebStateList W
  call : ObserverCall W
  deriving DecidableEq, Repr

/-- An operation in progress: the list, and the calls made so far. -/
structure Mutation (W : Type) where
  webStateList : WebStateList W
  calls : List (Notified W) := []
  deriving DecidableEq, Repr

namespace Mutation

variable {W : Type}

def update (m : Mutation W) (f : WebStateList W → WebStateList W) : Mutation W :=
  { m with webStateList := f m.webStateList }

def notify (m : Mutation W) (call : ObserverCall W) : Mutation W :=
  { m with calls := m.calls ++ [⟨m.webStateList, call⟩] }

@[simp] theorem update_webStateList (m : Mutation W) (f : WebStateList W → WebStateList W) :
    (m.update f).webStateList = f m.webStateList := rfl

@[simp] theorem update_calls (m : Mutation W) (f : WebStateList W → WebStateList W) :
    (m.update f).calls = m.calls := rfl

@[simp] theorem notify_webStateList (m : Mutation W) (call : ObserverCall W) :
    (m.notify call).webStateList = m.webStateList := rfl

@[simp] theorem notify_calls (m : Mutation W) (call : ObserverCall W) :
    (m.notify call).calls = m.calls ++ [⟨m.webStateList, call⟩] := rfl

end Mutation

/-! ## Flags -/

/-- `WebStateList::InsertionFlags`. -/
def insertActivate : Int32 := (1 : Int32) <<< 0
def insertForceIndex : Int32 := (1 : Int32) <<< 1
def insertInheritOpener : Int32 := (1 : Int32) <<< 2

/-- `WebStateList::ClosingFlags`. -/
def closeUserAction : Int32 := (1 : Int32) <<< 0

def isInsertionFlagSet (flagset flag : Int32) : Bool := flagset &&& flag == flag

def isClosingFlagSet (flagset flag : Int32) : Bool := flagset &&& flag == flag

/-! ## Writes to the list

What happens to the list between two calls to the observers. -/

namespace WebStateList

variable {W : Type}

/-- A write to the wrapper at `index`. -/
def modifyWrapperAt (l : WebStateList W) (index : Int)
    (f : WebStateWrapper W → WebStateWrapper W) : WebStateList W :=
  if index < 0 then l else { l with webStateWrappers := l.webStateWrappers.modify index.toNat f }

/-- `SetOpenerOfWebStateAt`. -/
def setOpenerOfWebStateAt (l : WebStateList W) (index : Int) (opener : WebStateOpener W) :
    WebStateList W :=
  l.modifyWrapperAt index (·.setOpener opener)

/-- The loop of `INSERT_INHERIT_OPENER`, which breaks the link of every tab. -/
def clearAllOpeners (l : WebStateList W) : WebStateList W :=
  { l with webStateWrappers := l.webStateWrappers.map (·.setOpener .null) }

/-- The list an insertion works on, cleared of openers when the new tab is to
inherit one. -/
def insertionBase (l : WebStateList W) (insertionFlags : Int32) : WebStateList W :=
  if isInsertionFlagSet insertionFlags insertInheritOpener then l.clearAllOpeners else l

/-- The insertion of a wrapper; the active index follows its tab. -/
def insertWrapperAt (l : WebStateList W) (index : Int) (webState : W) : WebStateList W where
  webStateWrappers := l.webStateWrappers.insertIdx index.toNat { webState := webState }
  activeIndex := if l.activeIndex ≥ index then l.activeIndex + 1 else l.activeIndex

/-- `MoveWebStateAtImpl` before it notifies. -/
def moveWrapper (l : WebStateList W) (fromIndex toIndex : Int) : WebStateList W :=
  match l.getWebStateWrapperAt fromIndex with
  | none => l
  | some wrapper =>
    { webStateWrappers :=
        (l.webStateWrappers.eraseIdx fromIndex.toNat).insertIdx toIndex.toNat wrapper
      activeIndex :=
        if l.activeIndex = fromIndex then toIndex
        else
          let min := min fromIndex toIndex
          let max := max fromIndex toIndex
          let delta := if fromIndex < toIndex then -1 else 1
          if min ≤ l.activeIndex ∧ l.activeIndex ≤ max then l.activeIndex + delta
          else l.activeIndex }

/-- The first half of `ActivateWebStateAtImpl`: the tab that stops being active
loses an opener it inherited, and the index is set. -/
def setActiveIndex (l : WebStateList W) (index : Int) : WebStateList W :=
  let resetOpener (wrapper : WebStateWrapper W) :=
    if wrapper.shouldResetOpener then wrapper.setOpener .null else wrapper
  let l' := match l.getActiveWebStateWrapper with
    | none => l
    | some _ => l.modifyWrapperAt l.activeIndex resetOpener
  { l' with activeIndex := index }

/-- The opener `InsertWebStateImpl` gives the new tab. -/
def insertionOpener (l : WebStateList W) (nav : W → Int32) (insertionFlags : Int32)
    (opener : WebStateOpener W) : WebStateOpener W :=
  if isInsertionFlagSet insertionFlags insertInheritOpener then
    .ofWebState nav l.getActiveWebState
  else opener

/-- With `INSERT_INHERIT_OPENER`, the new tab's opener is to be reset when
another tab becomes active. -/
def markInserted (l : WebStateList W) (index : Int) (insertionFlags : Int32) : WebStateList W :=
  if isInsertionFlagSet insertionFlags insertInheritOpener then
    l.modifyWrapperAt index ({ · with shouldResetOpener := true })
  else l

/-- The new tab gets its opener, if there is one. -/
def setInsertedOpener (l : WebStateList W) (index : Int) (opener : WebStateOpener W) :
    WebStateList W :=
  if opener.opener.isSome then l.setOpenerOfWebStateAt index opener else l

/-! ### The tabs after each write

A write to the openers leaves the tabs alone, the others edit them as the list
operation of the same name. -/

@[simp] theorem clearAllOpeners_webStates (l : WebStateList W) :
    l.clearAllOpeners.webStates = l.webStates := by
  unfold clearAllOpeners webStates
  rw [List.map_map]
  rfl

@[simp] theorem insertionBase_webStates (l : WebStateList W) (insertionFlags : Int32) :
    (l.insertionBase insertionFlags).webStates = l.webStates := by
  unfold insertionBase
  split
  · exact clearAllOpeners_webStates l
  · rfl

@[simp] theorem insertionBase_activeIndex (l : WebStateList W) (insertionFlags : Int32) :
    (l.insertionBase insertionFlags).activeIndex = l.activeIndex := by
  unfold insertionBase
  split <;> rfl

theorem modifyWrapperAt_webStates (l : WebStateList W) (index : Int)
    {f : WebStateWrapper W → WebStateWrapper W} (hf : ∀ w, (f w).webState = w.webState) :
    (l.modifyWrapperAt index f).webStates = l.webStates := by
  unfold modifyWrapperAt
  split
  · rfl
  · refine List.ext_getElem? fun j => ?_
    rw [webStates, webStates, List.getElem?_map, List.getElem?_map, List.getElem?_modify]
    cases l.webStateWrappers[j]? with
    | none => simp
    | some w =>
      by_cases hj : index.toNat = j
      · simp [hj, hf w]
      · simp [hj]

@[simp] theorem modifyWrapperAt_activeIndex (l : WebStateList W) (index : Int)
    (f : WebStateWrapper W → WebStateWrapper W) :
    (l.modifyWrapperAt index f).activeIndex = l.activeIndex := by
  unfold modifyWrapperAt
  split <;> rfl

@[simp] theorem setOpenerOfWebStateAt_webStates (l : WebStateList W) (index : Int)
    (opener : WebStateOpener W) :
    (l.setOpenerOfWebStateAt index opener).webStates = l.webStates :=
  modifyWrapperAt_webStates l index fun _ => rfl

@[simp] theorem setOpenerOfWebStateAt_activeIndex (l : WebStateList W) (index : Int)
    (opener : WebStateOpener W) :
    (l.setOpenerOfWebStateAt index opener).activeIndex = l.activeIndex :=
  modifyWrapperAt_activeIndex l index _

@[simp] theorem markInserted_webStates (l : WebStateList W) (index : Int)
    (insertionFlags : Int32) : (l.markInserted index insertionFlags).webStates = l.webStates := by
  unfold markInserted
  split
  · exact modifyWrapperAt_webStates l index fun _ => rfl
  · rfl

@[simp] theorem markInserted_activeIndex (l : WebStateList W) (index : Int)
    (insertionFlags : Int32) :
    (l.markInserted index insertionFlags).activeIndex = l.activeIndex := by
  unfold markInserted
  split
  · exact modifyWrapperAt_activeIndex l index _
  · rfl

@[simp] theorem setInsertedOpener_webStates (l : WebStateList W) (index : Int)
    (opener : WebStateOpener W) :
    (l.setInsertedOpener index opener).webStates = l.webStates := by
  unfold setInsertedOpener
  split
  · exact setOpenerOfWebStateAt_webStates l index opener
  · rfl

@[simp] theorem setInsertedOpener_activeIndex (l : WebStateList W) (index : Int)
    (opener : WebStateOpener W) :
    (l.setInsertedOpener index opener).activeIndex = l.activeIndex := by
  unfold setInsertedOpener
  split
  · exact setOpenerOfWebStateAt_activeIndex l index opener
  · rfl

@[simp] theorem setActiveIndex_webStates (l : WebStateList W) (index : Int) :
    (l.setActiveIndex index).webStates = l.webStates := by
  unfold setActiveIndex
  split
  · rfl
  · refine modifyWrapperAt_webStates l l.activeIndex fun w => ?_
    split <;> rfl

@[simp] theorem setActiveIndex_activeIndex (l : WebStateList W) (index : Int) :
    (l.setActiveIndex index).activeIndex = index := rfl

@[simp] theorem insertWrapperAt_webStates (l : WebStateList W) (index : Int) (webState : W) :
    (l.insertWrapperAt index webState).webStates = l.webStates.insertIdx index.toNat webState :=
  List.map_insertIdx _ _ _ _

/-- The wrapper an insertion leaves in the list: `SetOpener` clears the reset
flag, so a tab that got an opener no longer carries it. -/
def insertedWrapper (webState : W) (insertionFlags : Int32) (opener : WebStateOpener W) :
    WebStateWrapper W :=
  if opener.opener.isSome then { webState := webState, opener := opener }
  else { webState := webState
         shouldResetOpener := isInsertionFlagSet insertionFlags insertInheritOpener }

/-- The three writes of an insertion at `i`, put together. -/
theorem insertWrapperAt_marked (l : WebStateList W) {i : Nat} (webState : W)
    (insertionFlags : Int32) (hi : i ≤ l.webStateWrappers.length) :
    (l.insertWrapperAt i webState).markInserted i insertionFlags =
      { webStateWrappers := l.webStateWrappers.insertIdx i
          { webState := webState
            shouldResetOpener := isInsertionFlagSet insertionFlags insertInheritOpener }
        activeIndex := if l.activeIndex ≥ i then l.activeIndex + 1 else l.activeIndex } := by
  unfold markInserted
  split
  next hinherit =>
    unfold modifyWrapperAt insertWrapperAt
    rw [if_neg (by omega), Int.toNat_natCast, Lib.modify_insertIdx_self _ _ _ _ hi, hinherit]
  next hinherit =>
    unfold insertWrapperAt
    rw [Int.toNat_natCast, Bool.eq_false_iff.2 hinherit]

theorem insertWrapperAt_setInsertedOpener (l : WebStateList W) {i : Nat} (webState : W)
    (insertionFlags : Int32) (opener : WebStateOpener W) (hi : i ≤ l.webStateWrappers.length) :
    ((l.insertWrapperAt i webState).markInserted i insertionFlags).setInsertedOpener i opener =
      { webStateWrappers :=
          l.webStateWrappers.insertIdx i (insertedWrapper webState insertionFlags opener)
        activeIndex := if l.activeIndex ≥ i then l.activeIndex + 1 else l.activeIndex } := by
  rw [insertWrapperAt_marked l webState insertionFlags hi]
  unfold setInsertedOpener insertedWrapper
  split
  · unfold setOpenerOfWebStateAt modifyWrapperAt
    rw [if_neg (by omega), Int.toNat_natCast, Lib.modify_insertIdx_self _ _ _ _ hi]
    rfl
  · rfl

theorem moveWrapper_webStates (l : WebStateList W) (fromIndex toIndex : Int) {webState : W}
    (h : l.getWebStateAt fromIndex = some webState) :
    (l.moveWrapper fromIndex toIndex).webStates =
      (l.webStates.eraseIdx fromIndex.toNat).insertIdx toIndex.toNat webState := by
  unfold getWebStateAt at h
  obtain ⟨wrapper, hw, rfl⟩ := Option.map_eq_some_iff.1 h
  unfold moveWrapper
  rw [hw, webStates, List.map_insertIdx, ← List.eraseIdx_map]
  rfl

variable [DecidableEq W]

/-- `ClearOpenersReferencing`. -/
def clearOpenersReferencing (l : WebStateList W) (index : Int) : WebStateList W :=
  match l.getWebStateAt index with
  | none => l
  | some oldWebState =>
    { l with
      webStateWrappers := l.webStateWrappers.map fun wrapper =>
        if wrapper.opener.opener = some oldWebState then wrapper.setOpener .null else wrapper }

/-- `ReplaceWebStateAtImpl` before it notifies. -/
def replaceWrapper (l : WebStateList W) (index : Int) (webState : W) : WebStateList W :=
  (l.clearOpenersReferencing index).modifyWrapperAt index (·.replaceWebState webState)

/-- `DetachWebStateAtImpl` between its two notifications: the new active index
is determined on the list that still holds the tab. -/
def removeWrapperAt (l : WebStateList W) (index : Int) : WebStateList W :=
  let l' := { l with activeIndex := l.determineNewActiveIndex l.activeIndex index }
  let l'' := l'.clearOpenersReferencing index
  { l'' with webStateWrappers := l''.webStateWrappers.eraseIdx index.toNat }

/-- The index `InsertWebStateImpl` inserts at. -/
def insertionIndex (l : WebStateList W) (nav : W → Int32) (index : Int)
    (insertionFlags : Int32) (opener : WebStateOpener W) : Int :=
  if isInsertionFlagSet insertionFlags insertForceIndex then index
  else
    let index := l.determineInsertionIndex nav opener.opener
    if index < 0 ∨ l.count < index then l.count else index

@[simp] theorem clearOpenersReferencing_webStates (l : WebStateList W) (index : Int) :
    (l.clearOpenersReferencing index).webStates = l.webStates := by
  unfold clearOpenersReferencing
  split
  · rfl
  · unfold webStates
    rw [List.map_map]
    refine List.map_congr_left fun w _ => ?_
    show (if _ then _ else _ : WebStateWrapper W).webState = w.webState
    split <;> rfl

@[simp] theorem clearOpenersReferencing_activeIndex (l : WebStateList W) (index : Int) :
    (l.clearOpenersReferencing index).activeIndex = l.activeIndex := by
  unfold clearOpenersReferencing
  split <;> rfl

theorem replaceWrapper_webStates (l : WebStateList W) (i : Nat) (webState : W) :
    (l.replaceWrapper i webState).webStates = l.webStates.set i webState := by
  rw [← clearOpenersReferencing_webStates l i]
  unfold replaceWrapper modifyWrapperAt
  rw [if_neg (by omega), Int.toNat_natCast]
  refine List.ext_getElem? fun j => ?_
  rw [webStates, webStates, List.getElem?_map, List.getElem?_modify, List.getElem?_set,
    List.getElem?_map]
  by_cases hj : i = j
  · subst hj
    by_cases hlt : i < (l.clearOpenersReferencing i).webStateWrappers.length
    · simp [hlt]
    · simp [hlt]
  · simp [hj]

@[simp] theorem replaceWrapper_activeIndex (l : WebStateList W) (index : Int) (webState : W) :
    (l.replaceWrapper index webState).activeIndex = l.activeIndex := by
  rw [replaceWrapper, modifyWrapperAt_activeIndex, clearOpenersReferencing_activeIndex]

theorem removeWrapperAt_webStates (l : WebStateList W) (index : Int) :
    (l.removeWrapperAt index).webStates = l.webStates.eraseIdx index.toNat := by
  unfold removeWrapperAt
  simp only
  rw [webStates, ← List.eraseIdx_map]
  exact congrArg (List.eraseIdx · index.toNat)
    (clearOpenersReferencing_webStates { l with activeIndex := _ } index)

theorem removeWrapperAt_activeIndex (l : WebStateList W) (index : Int) :
    (l.removeWrapperAt index).activeIndex = l.determineNewActiveIndex l.activeIndex index :=
  clearOpenersReferencing_activeIndex { l with activeIndex := _ } index

end WebStateList

/-! ## The operations -/

namespace Mutation

variable {W : Type} [DecidableEq W]

/-- `NotifyIfActiveWebStateChanged`. -/
def notifyIfActiveWebStateChanged (m : Mutation W) (oldWebState : Option W)
    (reason : ActiveWebStateChangeReason) : Mutation W :=
  let newWebState := m.webStateList.getActiveWebState
  if oldWebState = newWebState then m
  else m.notify (.webStateActivatedAt oldWebState newWebState m.webStateList.activeIndex reason)

/-- `ActivateWebStateAtImpl`. -/
def activateWebStateAtImpl (m : Mutation W) (index : Int)
    (reason : ActiveWebStateChangeReason) : Mutation W :=
  let oldWebState := m.webStateList.getActiveWebState
  (m.update (·.setActiveIndex index)).notifyIfActiveWebStateChanged oldWebState reason

/-- `InsertWebStateImpl`, with the index it returns. `nav` gives the last
committed item index of the tabs' navigation managers. -/
def insertWebStateImpl (m : Mutation W) (nav : W → Int32) (index : Int) (webState : W)
    (insertionFlags : Int32) (opener : WebStateOpener W) : Int × Mutation W :=
  let activating := isInsertionFlagSet insertionFlags insertActivate
  let m := m.update (·.insertionBase insertionFlags)
  let opener := m.webStateList.insertionOpener nav insertionFlags opener
  let index := m.webStateList.insertionIndex nav index insertionFlags opener
  let m := m.update (·.insertWrapperAt index webState)
  let m := m.update (·.markInserted index insertionFlags)
  let m := m.notify (.webStateInsertedAt webState index activating)
  let m := m.update (·.setInsertedOpener index opener)
  (index, if activating then m.activateWebStateAtImpl index .inserted else m)

/-- `MoveWebStateAtImpl`. -/
def moveWebStateAtImpl (m : Mutation W) (fromIndex toIndex : Int) : Mutation W :=
  if fromIndex = toIndex then m
  else match m.webStateList.getWebStateAt fromIndex with
    | none => m
    | some webState =>
      (m.update (·.moveWrapper fromIndex toIndex)).notify
        (.webStateMoved webState fromIndex toIndex)

/-- `ReplaceWebStateAtImpl`: the old tab is passed to
`NotifyIfActiveWebStateChanged` whether or not it was the active one. -/
def replaceWebStateAtImpl (m : Mutation W) (index : Int) (webState : W) : Mutation W :=
  match m.webStateList.getWebStateAt index with
  | none => m
  | some oldWebState =>
    let m := m.update (·.replaceWrapper index webState)
    let m := m.notify (.webStateReplacedAt oldWebState webState index)
    m.notifyIfActiveWebStateChanged (some oldWebState) .replaced

/-- `DetachWebStateAtImpl`. -/
def detachWebStateAtImpl (m : Mutation W) (index : Int) : Mutation W :=
  match m.webStateList.getWebStateAt index with
  | none => m
  | some webState =>
    let m := m.notify (.willDetachWebStateAt webState index)
    let activeWebStateWasClosed := index == m.webStateList.activeIndex
    let m := m.update (·.removeWrapperAt index)
    let m := m.notify (.webStateDetachedAt webState index)
    if activeWebStateWasClosed then m.notifyIfActiveWebStateChanged (some webState) .closed
    else m

/-- `CloseWebStateAtImpl`. -/
def closeWebStateAtImpl (m : Mutation W) (index : Int) (closeFlags : Int32) : Mutation W :=
  match m.webStateList.getWebStateAt index with
  | none => m
  | some webState =>
    let m := m.detachWebStateAtImpl index
    let userAction := isClosingFlagSet closeFlags closeUserAction
    m.notify (.willCloseWebStateAt webState index userAction)

/-- `PerformBatchOperation`. -/
def performBatchOperation (m : Mutation W) (operation : Mutation W → Mutation W) :
    Mutation W :=
  (operation (m.notify .willBeginBatchOperation)).notify .batchOperationEnded

/-- The loop of `CloseAllWebStatesImpl`, from last to first. Every round removes
one tab, so `count()` rounds are enough (`closeAllLoop_empty`). -/
def closeAllLoop (closeFlags : Int32) : Nat → Mutation W → Mutation W
  | 0, m => m
  | rounds + 1, m =>
    if m.webStateList.empty then m
    else closeAllLoop closeFlags rounds
      (m.closeWebStateAtImpl (m.webStateList.count - 1) closeFlags)

/-- `CloseAllWebStatesImpl`: one deactivation first, then the tabs. -/
def closeAllWebStatesImpl (m : Mutation W) (closeFlags : Int32) : Mutation W :=
  m.performBatchOperation fun m =>
    let m := m.activateWebStateAtImpl kInvalidIndex .closed
    closeAllLoop closeFlags m.webStateList.webStateWrappers.length m

/-! ### What the operations leave in the list -/

@[simp] theorem notifyIfActiveWebStateChanged_webStateList (m : Mutation W)
    (oldWebState : Option W) (reason : ActiveWebStateChangeReason) :
    (m.notifyIfActiveWebStateChanged oldWebState reason).webStateList = m.webStateList := by
  unfold notifyIfActiveWebStateChanged
  simp only
  split <;> rfl

@[simp] theorem activateWebStateAtImpl_webStateList (m : Mutation W) (index : Int)
    (reason : ActiveWebStateChangeReason) :
    (m.activateWebStateAtImpl index reason).webStateList = m.webStateList.setActiveIndex index :=
  notifyIfActiveWebStateChanged_webStateList _ _ _

omit [DecidableEq W] in
theorem moveWebStateAtImpl_webStateList (m : Mutation W) {fromIndex : Int} (toIndex : Int)
    {webState : W} (h : m.webStateList.getWebStateAt fromIndex = some webState) :
    (m.moveWebStateAtImpl fromIndex toIndex).webStateList =
      if fromIndex = toIndex then m.webStateList
      else m.webStateList.moveWrapper fromIndex toIndex := by
  unfold moveWebStateAtImpl
  rw [h]
  split <;> rfl

theorem replaceWebStateAtImpl_webStateList (m : Mutation W) {index : Int} (webState : W)
    {old : W} (h : m.webStateList.getWebStateAt index = some old) :
    (m.replaceWebStateAtImpl index webState).webStateList =
      m.webStateList.replaceWrapper index webState := by
  unfold replaceWebStateAtImpl
  rw [h]
  exact notifyIfActiveWebStateChanged_webStateList _ _ _

theorem detachWebStateAtImpl_webStateList (m : Mutation W) {index : Int} {webState : W}
    (h : m.webStateList.getWebStateAt index = some webState) :
    (m.detachWebStateAtImpl index).webStateList = m.webStateList.removeWrapperAt index := by
  unfold detachWebStateAtImpl
  rw [h]
  simp only
  split
  · exact notifyIfActiveWebStateChanged_webStateList _ _ _
  · rfl

theorem closeWebStateAtImpl_webStateList (m : Mutation W) {index : Int} (closeFlags : Int32)
    {webState : W} (h : m.webStateList.getWebStateAt index = some webState) :
    (m.closeWebStateAtImpl index closeFlags).webStateList =
      m.webStateList.removeWrapperAt index := by
  unfold closeWebStateAtImpl
  rw [h]
  exact detachWebStateAtImpl_webStateList m h

/-- **The insertion, in one equation.** At an index in range the wrapper goes
in, one `WebStateInsertedAt` is sent (before the opener is set), and the
activation comes last. -/
theorem insertWebStateImpl_eq (m : Mutation W) (nav : W → Int32) (index : Int) (webState : W)
    (insertionFlags : Int32) (opener : WebStateOpener W) {i : Nat} {base : WebStateList W}
    {opener' : WebStateOpener W}
    (hbase : base = m.webStateList.insertionBase insertionFlags)
    (hopener : opener' = base.insertionOpener nav insertionFlags opener)
    (hindex : base.insertionIndex nav index insertionFlags opener' = i) :
    m.insertWebStateImpl nav index webState insertionFlags opener =
      (↑i,
        let marked := (base.insertWrapperAt i webState).markInserted i insertionFlags
        let activating := isInsertionFlagSet insertionFlags insertActivate
        let m' : Mutation W :=
          { webStateList := marked.setInsertedOpener i opener'
            calls := m.calls ++ [⟨marked, .webStateInsertedAt webState i activating⟩] }
        if activating then m'.activateWebStateAtImpl i .inserted else m') := by
  subst hbase hopener
  unfold insertWebStateImpl
  simp only [update_webStateList, hindex]
  rfl

end Mutation

/-! ## The list as a machine -/

/-- The public mutating operations. `nav` in an insertion is what the tabs'
navigation managers answer at that moment. -/
inductive Operation (W : Type) where
  | insertWebState (nav : W → Int32) (index : Int) (webState : W) (insertionFlags : Int32)
      (opener : WebStateOpener W)
  | moveWebStateAt (fromIndex toIndex : Int)
  | replaceWebStateAt (index : Int) (webState : W)
  | detachWebStateAt (index : Int)
  | closeWebStateAt (index : Int) (closeFlags : Int32)
  | closeAllWebStates (closeFlags : Int32)
  | activateWebStateAt (index : Int)
  | setOpenerOfWebStateAt (index : Int) (opener : WebStateOpener W)

section Machine

variable {W : Type} [DecidableEq W]

/-- What an operation does, with its notifications. -/
def Operation.perform (m : Mutation W) : Operation W → Mutation W
  | .insertWebState nav index webState insertionFlags opener =>
    (m.insertWebStateImpl nav index webState insertionFlags opener).2
  | .moveWebStateAt fromIndex toIndex => m.moveWebStateAtImpl fromIndex toIndex
  | .replaceWebStateAt index webState => m.replaceWebStateAtImpl index webState
  | .detachWebStateAt index => m.detachWebStateAtImpl index
  | .closeWebStateAt index closeFlags => m.closeWebStateAtImpl index closeFlags
  | .closeAllWebStates closeFlags => m.closeAllWebStatesImpl closeFlags
  | .activateWebStateAt index => m.activateWebStateAtImpl index .activated
  | .setOpenerOfWebStateAt index opener => m.update (·.setOpenerOfWebStateAt index opener)

/-- What the `DCHECK`s of an operation require of its caller. A tab handed in
through a `unique_ptr` is owned by the caller, hence not in the list. -/
def Operation.Valid (l : WebStateList W) : Operation W → Prop
  | .insertWebState _ index webState insertionFlags opener =>
    webState ∉ l.webStates ∧
    (∀ o ∈ opener.opener, o ∈ l.webStates) ∧
    (isInsertionFlagSet insertionFlags insertForceIndex = true →
      l.ContainsIndex index ∨ index = l.count)
  | .moveWebStateAt fromIndex toIndex => l.ContainsIndex fromIndex ∧ l.ContainsIndex toIndex
  | .replaceWebStateAt index webState => l.ContainsIndex index ∧ webState ∉ l.webStates
  | .detachWebStateAt index => l.ContainsIndex index
  | .closeWebStateAt index _ => l.ContainsIndex index
  | .closeAllWebStates _ => True
  | .activateWebStateAt index => l.ContainsIndex index
  | .setOpenerOfWebStateAt index opener =>
    l.ContainsIndex index ∧
    ∃ o ∈ opener.opener, o ∈ l.webStates ∧ l.getWebStateAt index ≠ some o

instance (l : WebStateList W) : (op : Operation W) → Decidable (op.Valid l)
  | .insertWebState .. => inferInstanceAs (Decidable (_ ∧ _ ∧ (_ → _ ∨ _)))
  | .moveWebStateAt .. => inferInstanceAs (Decidable (_ ∧ _))
  | .replaceWebStateAt .. => inferInstanceAs (Decidable (_ ∧ _))
  | .detachWebStateAt index => inferInstanceAs (Decidable (l.ContainsIndex index))
  | .closeWebStateAt index _ => inferInstanceAs (Decidable (l.ContainsIndex index))
  | .closeAllWebStates _ => isTrue trivial
  | .activateWebStateAt index => inferInstanceAs (Decidable (l.ContainsIndex index))
  | .setOpenerOfWebStateAt .. => inferInstanceAs (Decidable (_ ∧ ∃ o ∈ _, _ ∧ _))

/-- The list under its public operations, from the empty list. -/
def webStateListMachine (W : Type) [DecidableEq W] :
    Lib.Machine (WebStateList W) (Operation W) where
  init l := l = {}
  pre l op := op.Valid l
  step l op := (op.perform { webStateList := l }).webStateList

instance (l : WebStateList W) (op : Operation W) :
    Decidable ((webStateListMachine W).pre l op) :=
  inferInstanceAs (Decidable (op.Valid l))

end Machine

end IosChrome.Tabs

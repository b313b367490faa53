import IosChrome.Tabs.Observer
import Mathlib.Data.Finset.Basic

/-!
# TabGridMediator and GridViewController

The tab grid shows the tabs of a window. Its mediator observes the window's list of tabs and
passes each notification on to the view controller, one incremental update at a time. During a
batch operation it passes on nothing, and the whole grid is populated anew at the end.

Of an item of the grid, its identifier is kept: the tab id of its tab (`tabID`), fixed when the
tab helper is created. What the collection view draws is left out, except that it reports the
end of an animated update later (`updatesCompleted`); until then taps are ignored.
-/

namespace IosChrome.TabGrid

open Tabs

inductive TabGridMode where
  | normal
  | selection
  deriving DecidableEq, Repr

/-! ## The view controller -/

structure GridViewController (I : Type) where
  items : List I := []
  selectedItemID : Option I := none
  selectedEditingItemIDs : Finset I := ∅
  mode : TabGridMode := .normal
  updating : Bool := false

namespace GridViewController

variable {I : Type} [DecidableEq I] (g : GridViewController I)

/-- `none` is `NSNotFound`. -/
def indexOfItemWithID (itemID : I) : Option Nat := g.items.findIdx? (· = itemID)

/-! ### `GridConsumer` -/

def populateItems (items : List I) (selectedItemID : Option I) : GridViewController I :=
  { g with items := items, selectedItemID := selectedItemID, selectedEditingItemIDs := ∅ }

def insertItem (item : I) (index : Nat) (selectedItemID : Option I) : GridViewController I :=
  { g with
    items := g.items.insertIdx index item
    selectedItemID := selectedItemID
    updating := true }

/-- An identifier that is not there raises an exception. -/
def removeItemWithID (removedItemID : I) (selectedItemID : Option I) : GridViewController I :=
  match g.indexOfItemWithID removedItemID with
  | none => g
  | some index =>
    { g with
      items := g.items.eraseIdx index
      selectedItemID := selectedItemID
      selectedEditingItemIDs := g.selectedEditingItemIDs.erase removedItemID
      updating := true }

def selectItemWithID (selectedItemID : Option I) : GridViewController I :=
  { g with selectedItemID := selectedItemID }

/-- The items selected for editing are left alone. -/
def replaceItemID (itemID item : I) : GridViewController I :=
  match g.indexOfItemWithID itemID with
  | none => g
  | some index => { g with items := g.items.set index item }

/-- An identifier that is not there raises an exception. -/
def moveItemWithID (itemID : I) (toIndex : Nat) : GridViewController I :=
  match g.indexOfItemWithID itemID with
  | none => g
  | some fromIndex =>
    if fromIndex = toIndex then g
    else
      { g with
        items := (g.items.eraseIdx fromIndex).insertIdx toIndex itemID
        updating := true }

/-! ### Editing -/

def setMode (mode : TabGridMode) : GridViewController I :=
  { g with
    mode := mode
    selectedEditingItemIDs := if mode = .normal then ∅ else g.selectedEditingItemIDs }

/-- A tap on the plus sign, or one that comes while the grid is updating, changes nothing. -/
def tappedItemAtIndexPath (index : Nat) : GridViewController I :=
  if g.updating then g
  else match g.items[index]? with
    | none => g
    | some itemID =>
      if g.mode = .selection then
        { g with
          selectedEditingItemIDs :=
            if itemID ∈ g.selectedEditingItemIDs then g.selectedEditingItemIDs.erase itemID
            else insert itemID g.selectedEditingItemIDs }
      else g

def selectAllItemsForEditing : GridViewController I :=
  if g.mode = .selection then
    { g with selectedEditingItemIDs := g.selectedEditingItemIDs ∪ g.items.toFinset }
  else g

def updatesCompleted : GridViewController I := { g with updating := false }

end GridViewController

/-! ## The mediator -/

/-- The mediator with its consumer. `webStateList` is null when there is no browser, and
`isBatchInProgress` is the list's. -/
structure TabGridMediator (W I : Type) where
  webStateList : Option (WebStateList W) := none
  isBatchInProgress : Bool := false
  scopedWebStateObservation : List W := []
  consumer : GridViewController I := {}

namespace TabGridMediator

variable {W I : Type} [DecidableEq W] [DecidableEq I] (tabID : W → I) (s : TabGridMediator W I)

section Observer

variable (l : WebStateList W)

def createItems : List I := l.webStates.map tabID

def getActiveTabId : Option I := l.getActiveWebState.map tabID

/-! ### `WebStateListObserving` -/

def didInsertWebState (webState : W) (index : Int) : TabGridMediator W I :=
  { s with
    consumer := s.consumer.insertItem (tabID webState) index.toNat (getActiveTabId tabID l)
    scopedWebStateObservation := s.scopedWebStateObservation ++ [webState] }

def didMoveWebState (webState : W) (toIndex : Int) : TabGridMediator W I :=
  { s with consumer := s.consumer.moveItemWithID (tabID webState) toIndex.toNat }

def didReplaceWebState (oldWebState newWebState : W) : TabGridMediator W I :=
  { s with
    consumer := s.consumer.replaceItemID (tabID oldWebState) (tabID newWebState)
    scopedWebStateObservation :=
      s.scopedWebStateObservation.erase oldWebState ++ [newWebState] }

def didDetachWebState (webState : W) : TabGridMediator W I :=
  { s with
    consumer := s.consumer.removeItemWithID (tabID webState) (getActiveTabId tabID l)
    scopedWebStateObservation := s.scopedWebStateObservation.erase webState }

def didChangeActiveWebState (newWebState : Option W) (atIndex : Int) : TabGridMediator W I :=
  { s with
    consumer :=
      if atIndex = kInvalidIndex then s.consumer.selectItemWithID none
      else s.consumer.selectItemWithID (newWebState.map tabID) }

def willBeginBatchOperation : TabGridMediator W I :=
  { s with isBatchInProgress := true, scopedWebStateObservation := [] }

def batchOperationEnded : TabGridMediator W I :=
  { s with
    isBatchInProgress := false
    scopedWebStateObservation := s.scopedWebStateObservation ++ l.webStates
    consumer := s.consumer.populateItems (createItems tabID l) (getActiveTabId tabID l) }

/-- The other notifications are not observed. -/
def onNotified (notified : Notified W) : TabGridMediator W I :=
  match notified.call with
  | .willBeginBatchOperation => s.willBeginBatchOperation
  | .batchOperationEnded => s.batchOperationEnded tabID notified.webStateList
  | .webStateInsertedAt webState index _ =>
    if s.isBatchInProgress then s
    else s.didInsertWebState tabID notified.webStateList webState index
  | .webStateMoved webState _ toIndex =>
    if s.isBatchInProgress then s else s.didMoveWebState tabID webState toIndex
  | .webStateReplacedAt oldWebState newWebState _ =>
    if s.isBatchInProgress then s else s.didReplaceWebState tabID oldWebState newWebState
  | .webStateDetachedAt webState _ =>
    if s.isBatchInProgress then s
    else s.didDetachWebState tabID notified.webStateList webState
  | .webStateActivatedAt _ newWebState atIndex _ =>
    if s.isBatchInProgress then s else s.didChangeActiveWebState tabID newWebState atIndex
  | .willDetachWebStateAt .. => s
  | .willCloseWebStateAt .. => s

/-! ### `CRWWebStateObserver` and `SnapshotCacheObserver` -/

/-- Only an observed tab sends it. -/
def webStateDidChangeTitle (webState : W) : TabGridMediator W I :=
  if webState ∈ s.scopedWebStateObservation then
    { s with consumer := s.consumer.replaceItemID (tabID webState) (tabID webState) }
  else s

def getWebStateWithId (identifier : I) : Option W :=
  l.webStates.find? fun webState => tabID webState = identifier

/-- Without a browser no snapshot cache is observed. -/
def didUpdateSnapshotForIdentifier (identifier : I) : TabGridMediator W I :=
  match s.webStateList with
  | none => s
  | some l =>
    match getWebStateWithId tabID l identifier with
    | none => s
    | some webState =>
      { s with consumer := s.consumer.replaceItemID identifier (tabID webState) }

/-! ### The browser -/

/-- Nothing is populated for a list without tabs. -/
def populateConsumerItems : TabGridMediator W I :=
  if l.count > 0 then
    { s with
      consumer := s.consumer.populateItems (createItems tabID l) (getActiveTabId tabID l) }
  else s

def setBrowser (webStateList : Option (WebStateList W)) : TabGridMediator W I :=
  match webStateList with
  | none => { s with webStateList := none, scopedWebStateObservation := [] }
  | some l =>
    { s with webStateList := some l, scopedWebStateObservation := l.webStates
      : TabGridMediator W I }.populateConsumerItems tabID l

end Observer

/-! ## Runs -/

def performOperation (operation : Operation W) : TabGridMediator W I :=
  match s.webStateList with
  | none => s
  | some l =>
    let m := operation.perform { webStateList := l }
    { m.calls.foldl (onNotified tabID) s with webStateList := some m.webStateList }

def performBatchOperation (operations : List (Operation W)) : TabGridMediator W I :=
  match (operations.foldl (performOperation tabID) s.willBeginBatchOperation).webStateList with
  | none => s
  | some l =>
    (operations.foldl (performOperation tabID) s.willBeginBatchOperation).batchOperationEnded
      tabID l

end TabGridMediator

inductive Call (W I : Type) where
  | operation (operation : Operation W)
  | batchOperation (operations : List (Operation W))
  | changeTitle (webState : W)
  | updateSnapshot (identifier : I)
  | tapItem (index : Nat)
  | selectAllItemsForEditing
  | setMode (mode : TabGridMode)
  | updatesCompleted
  | setBrowser (webStateList : Option (WebStateList W))

namespace TabGridMediator

variable {W I : Type} [DecidableEq W] [DecidableEq I] (tabID : W → I) (s : TabGridMediator W I)

def step (call : Call W I) : TabGridMediator W I :=
  match call with
  | .operation operation => s.performOperation tabID operation
  | .batchOperation operations => s.performBatchOperation tabID operations
  | .changeTitle webState => s.webStateDidChangeTitle tabID webState
  | .updateSnapshot identifier => s.didUpdateSnapshotForIdentifier tabID identifier
  | .tapItem index => { s with consumer := s.consumer.tappedItemAtIndexPath index }
  | .selectAllItemsForEditing => { s with consumer := s.consumer.selectAllItemsForEditing }
  | .setMode mode => { s with consumer := s.consumer.setMode mode }
  | .updatesCompleted => { s with consumer := s.consumer.updatesCompleted }
  | .setBrowser webStateList => s.setBrowser tabID webStateList

/-- `CloseAllWebStates` is a batch itself, and batches are not nested. -/
def isCloseAll : Operation W → Bool
  | .closeAllWebStates _ => true
  | _ => false

/-- The list is in order, and its tabs have ids of their own: what the grid `DCHECK`s of every
item that comes in. -/
def HasTabs (l : WebStateList W) : Prop := ListInv l ∧ (l.webStates.map tabID).Nodup

/-- What a call requires. A browser brings any list of tabs with it. -/
def Pre (call : Call W I) : Prop :=
  match call with
  | .operation operation =>
    ∃ l, s.webStateList = some l ∧ operation.Valid l ∧
      (((webStateListMachine W).step l operation).webStates.map tabID).Nodup
  | .batchOperation operations =>
    (∀ operation ∈ operations, isCloseAll operation = false) ∧
    ∃ l, s.webStateList = some l ∧ (webStateListMachine W).Run l operations ∧
      (((webStateListMachine W).exec l operations).webStates.map tabID).Nodup
  | .setBrowser webStateList => ∀ l, webStateList = some l → HasTabs tabID l
  | _ => True

/-- A new mediator, and a new grid. -/
def machine (W I : Type) [DecidableEq W] [DecidableEq I] (tabID : W → I) :
    Lib.Machine (TabGridMediator W I) (Call W I) where
  init s := s = {}
  pre s call := s.Pre tabID call
  step s call := s.step tabID call

end TabGridMediator

end IosChrome.TabGrid

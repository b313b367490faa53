import IosChrome.Snapshots.SnapshotCache
import IosChrome.Tabs.Invariant

/-!
# SnapshotBrowserAgent and ClosingWebStateObserverBrowserAgent

Two agents of a browser observe its list of tabs. `SnapshotBrowserAgent` connects the tabs of
the list to the browser's snapshot cache, and `ClosingWebStateObserverBrowserAgent` has the
snapshot of a tab removed when the tab is replaced or closed by the user.

Both go through the `SnapshotGenerator` of the tab: a tab that is connected stores and removes
its snapshot in the cache, and the same messages of one that is not are lost, sent to nil. What
the closing agent records in the tab restore service is left out.

Every notification reaches the agents one after the other, in the order in which they were
attached to the browser.
-/

namespace IosChrome.Snapshots

open Tabs

/-- Which of the two agents was attached first. -/
inductive AgentOrder where
  | snapshotBrowserAgentFirst
  | closingWebStateObserverFirst
  deriving DecidableEq, Repr

/-- A browser with its snapshot cache. `connected` are the tabs whose generator has the cache,
and `removals` the removals that were requested from it. -/
structure BrowserSnapshots (W Image : Type) where
  webStateList : WebStateList W
  isBatchInProgress : Bool
  connected : W → Bool
  snapshots : SnapshotSystem Image
  removals : List SnapshotID

namespace BrowserSnapshots

variable {W Image : Type} [DecidableEq W] (tabID : W → SnapshotID) (s : BrowserSnapshots W Image)

/-! ## `SnapshotGenerator`, through `SnapshotTabHelper` -/

/-- `SetSnapshotCache`, with the browser's cache or with nil. -/
def setSnapshotCache (webState : W) (cache : Bool) : BrowserSnapshots W Image :=
  { s with connected := fun w => if w = webState then cache else s.connected w }

/-- `removeSnapshot`. -/
def removeSnapshot (webState : W) : BrowserSnapshots W Image :=
  if s.connected webState then
    { s with
      snapshots := s.snapshots.removeImageWithSnapshotID (tabID webState)
      removals := s.removals ++ [tabID webState] }
  else s

/-- A snapshot that failed removes the one before. -/
def updateSnapshotCacheWithImage (webState : W) (snapshot : Option Image) :
    BrowserSnapshots W Image :=
  match snapshot with
  | some image =>
    if s.connected webState then
      { s with snapshots := s.snapshots.setImage image (tabID webState) }
    else s
  | none => s.removeSnapshot tabID webState

/-! ## The agents -/

namespace SnapshotBrowserAgent

variable (s : BrowserSnapshots W Image)

def webStateInsertedAt (webState : W) : BrowserSnapshots W Image := s.setSnapshotCache webState true

def webStateReplacedAt (oldWebState newWebState : W) : BrowserSnapshots W Image :=
  (s.setSnapshotCache oldWebState false).setSnapshotCache newWebState true

def webStateDetachedAt (webState : W) : BrowserSnapshots W Image :=
  s.setSnapshotCache webState false

def willBeginBatchOperation (webStateList : WebStateList W) : BrowserSnapshots W Image :=
  webStateList.webStates.foldl (fun s webState => s.setSnapshotCache webState false) s

def batchOperationEnded (webStateList : WebStateList W) : BrowserSnapshots W Image :=
  webStateList.webStates.foldl (fun s webState => s.setSnapshotCache webState true) s

def onNotified (notified : Notified W) : BrowserSnapshots W Image :=
  match notified.call with
  | .webStateInsertedAt webState _ _ => webStateInsertedAt s webState
  | .webStateReplacedAt oldWebState newWebState _ => webStateReplacedAt s oldWebState newWebState
  | .webStateDetachedAt webState _ => webStateDetachedAt s webState
  | .willBeginBatchOperation => willBeginBatchOperation s notified.webStateList
  | .batchOperationEnded => batchOperationEnded s notified.webStateList
  | _ => s

end SnapshotBrowserAgent

namespace ClosingWebStateObserverBrowserAgent

variable (s : BrowserSnapshots W Image)

def webStateReplacedAt (oldWebState : W) : BrowserSnapshots W Image :=
  s.removeSnapshot tabID oldWebState

def willCloseWebStateAt (webState : W) (userAction : Bool) : BrowserSnapshots W Image :=
  if userAction then s.removeSnapshot tabID webState else s

def onNotified (notified : Notified W) : BrowserSnapshots W Image :=
  match notified.call with
  | .webStateReplacedAt oldWebState _ _ => webStateReplacedAt tabID s oldWebState
  | .willCloseWebStateAt webState _ userAction => willCloseWebStateAt tabID s webState userAction
  | _ => s

end ClosingWebStateObserverBrowserAgent

variable (order : AgentOrder)

def onNotified (notified : Notified W) : BrowserSnapshots W Image :=
  match order with
  | .snapshotBrowserAgentFirst =>
    ClosingWebStateObserverBrowserAgent.onNotified tabID
      (SnapshotBrowserAgent.onNotified s notified) notified
  | .closingWebStateObserverFirst =>
    SnapshotBrowserAgent.onNotified
      (ClosingWebStateObserverBrowserAgent.onNotified tabID s notified) notified

end BrowserSnapshots

/-! ## Runs -/

/-- `PerformBatchOperation` is its two ends, with the operations in between. -/
inductive BrowserCall (W Image : Type) where
  | operation (operation : Operation W)
  | willBeginBatchOperation
  | batchOperationEnded
  | updateSnapshotCacheWithImage (webState : W) (snapshot : Option Image)
  | runFirstTask

namespace BrowserSnapshots

variable {W Image : Type} [DecidableEq W] (order : AgentOrder) (tabID : W → SnapshotID)
  (s : BrowserSnapshots W Image)

/-- The agents never change the list. -/
def performOperation (operation : Operation W) : BrowserSnapshots W Image :=
  let m := operation.perform { webStateList := s.webStateList }
  { m.calls.foldl (onNotified tabID · order) s with webStateList := m.webStateList }

def step : BrowserCall W Image → BrowserSnapshots W Image
  | .operation operation => s.performOperation order tabID operation
  | .willBeginBatchOperation =>
    { s.onNotified tabID order ⟨s.webStateList, .willBeginBatchOperation⟩ with
      isBatchInProgress := true }
  | .batchOperationEnded =>
    { s.onNotified tabID order ⟨s.webStateList, .batchOperationEnded⟩ with
      isBatchInProgress := false }
  | .updateSnapshotCacheWithImage webState snapshot =>
    s.updateSnapshotCacheWithImage tabID webState snapshot
  | .runFirstTask => { s with snapshots := s.snapshots.runFirstTask }

/-- `CloseAllWebStates` is a batch itself, and batches are not nested. -/
def Pre : BrowserCall W Image → Prop
  | .operation operation => operation.Valid s.webStateList ∧
    (s.isBatchInProgress = true → ∀ closeFlags, operation ≠ .closeAllWebStates closeFlags)
  | .willBeginBatchOperation => s.isBatchInProgress = false
  | .batchOperationEnded => s.isBatchInProgress = true
  | _ => True

/-- A new browser; there may be snapshots in its cache. -/
def machine (W Image : Type) [DecidableEq W] (order : AgentOrder) (tabID : W → SnapshotID) :
    Lib.Machine (BrowserSnapshots W Image) (BrowserCall W Image) where
  init s := s.webStateList = {} ∧ s.isBatchInProgress = false ∧ ∀ webState,
    s.connected webState = false
  pre s call := s.Pre call
  step s call := s.step order tabID call

/-- The tab that a call replaces, or closes for the user outside a batch. -/
def dropped : BrowserCall W Image → Option W
  | .operation (.replaceWebStateAt index _) => s.webStateList.getWebStateAt index
  | .operation (.closeWebStateAt index closeFlags) =>
    if isClosingFlagSet closeFlags closeUserAction ∧ s.isBatchInProgress = false then
      s.webStateList.getWebStateAt index
    else none
  | _ => none

end BrowserSnapshots

/-- No image of a tab is in memory, and none on disk once the posted tasks have run. -/
def SnapshotSystem.Gone {Image : Type} (s : SnapshotSystem Image) (id : SnapshotID) : Prop :=
  s.inMemory id = none ∧
  ∀ imageType ∈ kImageTypes, s.settledDisk
    (imagePath id imageType s.cache.snapshotsScale s.cache.cacheDirectory) = none

namespace BrowserSnapshots

variable {W Image : Type} [DecidableEq W] (order : AgentOrder) (tabID : W → SnapshotID)

/-- Outside batches the tabs of the list are connected and no others. -/
def ConnectsList (s : BrowserSnapshots W Image) : Prop :=
  s.isBatchInProgress = false →
    ∀ webState, s.connected webState = true ↔ webState ∈ s.webStateList.webStates

/-- The snapshot of a tab that a call replaced, or closed for the user, goes. -/
def RemovesDropped (s : BrowserSnapshots W Image) (call : BrowserCall W Image) : Prop :=
  ∀ webState ∈ s.dropped call,
    (∃ requests, (s.step order tabID call).removals = s.removals ++ requests ∧
      tabID webState ∈ requests) ∧
    (s.step order tabID call).snapshots.Gone (tabID webState)

/-- What the two agents are for. -/
def SnapshotsFollow (s : BrowserSnapshots W Image) (call : BrowserCall W Image) : Prop :=
  (s.step order tabID call).ConnectsList ∧ s.RemovesDropped order tabID call

/-- The closing agent can remove the snapshot: it hears of a replacement before the other agent
disconnects the tab. Of a closing it never does. -/
def ReachesCache (s : BrowserSnapshots W Image) : BrowserCall W Image → Prop
  | .operation (.replaceWebStateAt index _) =>
    order = .closingWebStateObserverFirst ∧
      ∀ webState ∈ s.webStateList.getWebStateAt index, s.connected webState = true
  | .operation (.closeWebStateAt _ closeFlags) =>
    ¬ (isClosingFlagSet closeFlags closeUserAction ∧ s.isBatchInProgress = false)
  | _ => True

end BrowserSnapshots

end IosChrome.Snapshots

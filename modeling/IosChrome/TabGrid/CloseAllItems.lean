import IosChrome.Snapshots.SnapshotBrowserAgent
import IosChrome.Tabs.Serialization

/-!
# Closing all tabs, and undoing it

`saveAndCloseAllItems` keeps the window as it was, `undoCloseAllItems` restores it, and
`discardSavedClosedItems` gives it up. Every tab that closes leaves an entry in the tab restore
service, which is shared by the windows of the profile; of the entries the mediator keeps only
their number, and at an undo it removes that many from the front.

The tab restore service is a component of its own. What is relied on: the newest entry comes
first, the oldest ones above a fixed maximum are dropped, every entry has an id of its own, and a
tab without navigations gets no entry.

The tabs and the snapshots are those of `BrowserSnapshots`, with its two agents; the closing
agent also records the tabs that go (`recordHistory`). What the loop of `RestoreSessionWindow`
sets up for the restored tabs, placeholders and certificates, is left out.
-/

namespace IosChrome.TabGrid

open Tabs Snapshots
open Sessions (SessionWindow)

/-! ## The tab restore service -/

abbrev SessionID := Nat

/-- `nextSessionID` is the id `SessionID::NewUnique` gives out next. -/
structure TabRestoreService where
  maxEntries : Nat
  entries : List SessionID
  nextSessionID : SessionID
  deriving DecidableEq, Repr

namespace TabRestoreService

variable (service : TabRestoreService)

def createHistoricalTab (hasNavigations : Bool) : TabRestoreService :=
  if hasNavigations then
    { service with
      entries := (service.nextSessionID :: service.entries).take service.maxEntries
      nextSessionID := service.nextSessionID + 1 }
  else service

def removeTabEntryById (id : SessionID) : TabRestoreService :=
  { service with entries := service.entries.erase id }

/-- No two entries have the same id, and new ones get ids of their own. -/
structure WellFormed : Prop where
  nodup : service.entries.Nodup
  fresh : ∀ id ∈ service.entries, id < service.nextSessionID

end TabRestoreService

/-! ## The closing agent's history -/

def kChromeUINewTabHost : String := "newtab"
def kChromeUINewTabURL : String := "chrome://newtab/"

/-- What is asked of the navigation manager of a tab. `lastCommittedItemHost` is the host of the
virtual URL of the last committed item, and `hasNavigations` is true when its session has any. -/
structure TabNavigation where
  isRestoreSessionInProgress : Bool
  itemCount : Nat
  lastCommittedItemHost : Option String
  hasPendingItem : Bool
  lastCommittedURL : String
  hasNavigations : Bool
  deriving DecidableEq, Repr

/-- The service is null off the record. -/
def recordHistoryForWebState (navigation : TabNavigation) :
    Option TabRestoreService → Option TabRestoreService
  | none => none
  | some service =>
    some <|
      if navigation.isRestoreSessionInProgress then
        service.createHistoricalTab navigation.hasNavigations
      else if navigation.itemCount ≤ 1 then
        match navigation.lastCommittedItemHost with
        | none => service
        | some host =>
          if host = kChromeUINewTabHost then service
          else service.createHistoricalTab navigation.hasNavigations
      else service.createHistoricalTab navigation.hasNavigations

section

variable {W : Type} (navigation : W → TabNavigation)

/-- A tab is recorded when it will be detached. -/
def recordNotified (service : Option TabRestoreService) (notified : Notified W) :
    Option TabRestoreService :=
  match notified.call with
  | .willDetachWebStateAt webState _ => recordHistoryForWebState (navigation webState) service
  | _ => service

def recordHistory (calls : List (Notified W)) (service : Option TabRestoreService) :
    Option TabRestoreService :=
  calls.foldl (recordNotified navigation) service

end

/-! ## The mediator -/

/-- A close-all that can still be undone: the list it closed, what the sessions of its tabs were,
and the ids given out while it closed them. No code reads it. -/
structure ClosedAll (W R : Type) where
  webStateList : WebStateList W
  storageOf : W → SessionStorage R
  firstID : SessionID
  nextID : SessionID

/-- The entry was created by the close-all. -/
def ClosedAll.Created {W R : Type} (closed : ClosedAll W R) (id : SessionID) : Prop :=
  closed.firstID ≤ id ∧ id < closed.nextID

instance {W R : Type} (closed : ClosedAll W R) (id : SessionID) : Decidable (closed.Created id) :=
  inferInstanceAs (Decidable (_ ∧ _))

/-- Its tabs, restored. -/
def ClosedAll.restored {W R : Type} [DecidableEq W] (closed : ClosedAll W R)
    (factory : WebStateFactory W R) : List W :=
  closed.webStateList.webStateWrappers.mapIdx fun i wrapper =>
    factory.run i (serializeWebState closed.webStateList closed.storageOf wrapper)

/-- The mediator of a window, its browser, and the service it shares with the other windows. -/
structure ClosableGrid (W R Image : Type) where
  browser : BrowserSnapshots W Image
  tabRestoreService : Option TabRestoreService
  closedSessionWindow : Option (SessionWindow (SessionStorage R))
  syncedClosedTabsCount : Int
  closedAll : Option (ClosedAll W R)

namespace ClosableGrid

variable {W R Image : Type} [DecidableEq W] (order : AgentOrder) (tabID : W → SnapshotID)
  (s : ClosableGrid W R Image)

def webStateList : WebStateList W := s.browser.webStateList

def performOperation (navigation : W → TabNavigation) (operation : Operation W) :
    ClosableGrid W R Image :=
  { s with
    browser := s.browser.performOperation order tabID operation
    tabRestoreService := recordHistory navigation
      (operation.perform { webStateList := s.webStateList }).calls s.tabRestoreService }

def removeAllSnapshots : ClosableGrid W R Image :=
  { s with browser := { s.browser with snapshots := s.browser.snapshots.removeAllImages } }

/-! ### `RestoreSessionWindow` -/

/-- The batch in which the tabs are restored. -/
def deserializeWindow (navigation : W → TabNavigation) (nav : W → Int32)
    (factory : WebStateFactory W R) (window : SessionWindow (SessionStorage R)) :
    ClosableGrid W R Image :=
  let browser := s.browser.step order tabID .willBeginBatchOperation
  let m := deserializeWebStateList nav factory { webStateList := browser.webStateList } window
  let browser :=
    { m.calls.foldl (BrowserSnapshots.onNotified tabID · order) browser with
      webStateList := m.webStateList }
  { s with
    browser := browser.step order tabID .batchOperationEnded
    tabRestoreService := recordHistory navigation m.calls s.tabRestoreService }

/-- The new tab page has been loaded, and nothing else is on its way. -/
def isNewTabPage (navigation : TabNavigation) : Bool :=
  !navigation.hasPendingItem && navigation.lastCommittedURL == kChromeUINewTabURL

def restoreSessionWindow (navigation : W → TabNavigation) (nav : W → Int32)
    (factory : WebStateFactory W R) (window : SessionWindow (SessionStorage R)) :
    ClosableGrid W R Image :=
  if window.sessions = [] then s
  else
    let oldCount := s.webStateList.count
    let s := s.deserializeWindow order tabID navigation nav factory window
    if oldCount = 1 then
      match s.webStateList.getWebStateAt 0 with
      | none => s
      | some webState =>
        if isNewTabPage (navigation webState) then
          s.performOperation order tabID navigation (.closeWebStateAt 0 closeUserAction)
        else s
    else s

/-! ### `TabGridCommands` -/

/-- `entries().size()`, or 0 without a service. -/
def entriesSize (service : Option TabRestoreService) : Int :=
  match service with
  | none => 0
  | some service => service.entries.length

def nextSessionID (service : Option TabRestoreService) : SessionID :=
  match service with
  | none => 0
  | some service => service.nextSessionID

def closeAllItems (navigation : W → TabNavigation) : ClosableGrid W R Image :=
  (s.performOperation order tabID navigation
    (.closeAllWebStates closeUserAction)).removeAllSnapshots

def saveAndCloseAllItems (navigation : W → TabNavigation) (storageOf : W → SessionStorage R) :
    ClosableGrid W R Image :=
  if s.webStateList.empty then s
  else
    let closedSessionWindow := serializeWebStateList s.webStateList storageOf
    let oldSize := entriesSize s.tabRestoreService
    let s' := s.performOperation order tabID navigation (.closeAllWebStates closeUserAction)
    { s' with
      closedSessionWindow := some closedSessionWindow
      syncedClosedTabsCount := entriesSize s'.tabRestoreService - oldSize
      closedAll := some ⟨s.webStateList, storageOf, nextSessionID s.tabRestoreService,
        nextSessionID s'.tabRestoreService⟩ }

/-- The identifiers are collected first, then their entries are removed. -/
def removeEntriesFromTabRestoreService : ClosableGrid W R Image :=
  { s with
    tabRestoreService := s.tabRestoreService.map fun service =>
      (service.entries.take s.syncedClosedTabsCount.toNat).foldl
        TabRestoreService.removeTabEntryById service }

def undoCloseAllItems (navigation : W → TabNavigation) (nav : W → Int32)
    (factory : WebStateFactory W R) : ClosableGrid W R Image :=
  match s.closedSessionWindow with
  | none => s
  | some window =>
    { (s.restoreSessionWindow order tabID navigation nav factory window)
        |>.removeEntriesFromTabRestoreService with
      closedSessionWindow := none
      syncedClosedTabsCount := 0
      closedAll := none }

def discardSavedClosedItems : ClosableGrid W R Image :=
  match s.closedSessionWindow with
  | none => s
  | some _ =>
    { s.removeAllSnapshots with
      closedSessionWindow := none
      syncedClosedTabsCount := 0
      closedAll := none }

end ClosableGrid

/-! ## Runs -/

/-- A call of this window, with what the tabs' navigation managers say then; or a tab that is
closed in another window; or an entry that is restored or removed from the service. -/
inductive ClosableGridCall (W R Image : Type) where
  | browser (navigation : W → TabNavigation) (call : BrowserCall W Image)
  | closeAllItems (navigation : W → TabNavigation)
  | saveAndCloseAllItems (navigation : W → TabNavigation) (storageOf : W → SessionStorage R)
  | undoCloseAllItems (navigation : W → TabNavigation) (nav : W → Int32)
      (factory : WebStateFactory W R)
  | discardSavedClosedItems
  | tabClosedInOtherWindow (navigation : TabNavigation)
  | removeTabEntryById (id : SessionID)

namespace ClosableGrid

variable {W R Image : Type} [DecidableEq W] (order : AgentOrder) (tabID : W → SnapshotID)
  (s : ClosableGrid W R Image)

def step : ClosableGridCall W R Image → ClosableGrid W R Image
  | .browser navigation (.operation operation) =>
    s.performOperation order tabID navigation operation
  | .browser _ call => { s with browser := s.browser.step order tabID call }
  | .closeAllItems navigation => s.closeAllItems order tabID navigation
  | .saveAndCloseAllItems navigation storageOf =>
    s.saveAndCloseAllItems order tabID navigation storageOf
  | .undoCloseAllItems navigation nav factory =>
    s.undoCloseAllItems order tabID navigation nav factory
  | .discardSavedClosedItems => s.discardSavedClosedItems
  | .tabClosedInOtherWindow navigation =>
    { s with tabRestoreService := recordHistoryForWebState navigation s.tabRestoreService }
  | .removeTabEntryById id =>
    { s with tabRestoreService := s.tabRestoreService.map (·.removeTabEntryById id) }

/-- The restored tabs are new ones, and `count()` can count them. -/
def Pre : ClosableGridCall W R Image → Prop
  | .browser _ call => s.browser.Pre call
  | .undoCloseAllItems _ _ factory => s.browser.isBatchInProgress = false ∧
    ∀ window ∈ s.closedSessionWindow, factory.Restores s.webStateList window.sessions ∧
      s.webStateList.count + window.sessions.length ≤ intMax
  | .closeAllItems _ => s.browser.isBatchInProgress = false
  | .saveAndCloseAllItems _ _ => s.browser.isBatchInProgress = false
  | .discardSavedClosedItems => s.browser.isBatchInProgress = false
  | _ => True

/-- A new window, next to a service that may have entries. -/
def machine (W R Image : Type) [DecidableEq W] (order : AgentOrder) (tabID : W → SnapshotID) :
    Lib.Machine (ClosableGrid W R Image) (ClosableGridCall W R Image) where
  init s := (BrowserSnapshots.machine W Image order tabID).init s.browser ∧
    (∀ service ∈ s.tabRestoreService, service.WellFormed) ∧
    s.closedSessionWindow = none ∧ s.syncedClosedTabsCount = 0 ∧ s.closedAll = none
  pre s call := s.Pre call
  step s call := s.step order tabID call

/-! ## What undoing and discarding are for -/

/-- The only tab, if it shows the new tab page. -/
def loneNewTabPage (navigation : W → TabNavigation) : Option W :=
  match s.webStateList.webStates with
  | [webState] => if isNewTabPage (navigation webState) then some webState else none
  | _ => none

/-- The service once the lone new tab page has been replaced. -/
def serviceAtUndo (navigation : W → TabNavigation) : Option TabRestoreService :=
  match s.loneNewTabPage navigation with
  | none => s.tabRestoreService
  | some webState => recordHistoryForWebState (navigation webState) s.tabRestoreService

/-- **What the three commands promise.** An undo puts the closed tabs behind those there are, a
lone new tab page being replaced, and takes from the service the entries of the close-all that
are still there; a discard leaves the snapshots of the tabs in the list alone. -/
def UndoesCloseAll (s : ClosableGrid W R Image) : ClosableGridCall W R Image → Prop
  | .undoCloseAllItems navigation nav factory => ∀ closed ∈ s.closedAll,
    (s.step order tabID (.undoCloseAllItems navigation nav factory)).webStateList.webStates =
      (if (s.loneNewTabPage navigation).isSome then [] else s.webStateList.webStates) ++
        closed.restored factory ∧
    (s.step order tabID (.undoCloseAllItems navigation nav factory)).tabRestoreService.map
        (·.entries) =
      (s.serviceAtUndo navigation).map fun service =>
        service.entries.filter fun id => ¬ closed.Created id
  | .discardSavedClosedItems => ∀ webState ∈ s.webStateList.webStates,
    (s.step order tabID .discardSavedClosedItems).browser.snapshots.holds (tabID webState) =
      s.browser.snapshots.holds (tabID webState)
  | _ => True

/-- The condition: at an undo, the `syncedClosedTabsCount` newest entries are those of the
close-all and no older one is, and at a discard no tab of the list has a snapshot. -/
def NothingInBetween (s : ClosableGrid W R Image) : ClosableGridCall W R Image → Prop
  | .undoCloseAllItems navigation _ _ => ∀ closed ∈ s.closedAll,
    ∀ service ∈ s.serviceAtUndo navigation, ∀ (i : Nat) id, service.entries[i]? = some id →
      (closed.Created id ↔ (i : Int) < s.syncedClosedTabsCount)
  | .discardSavedClosedItems => s.closedAll ≠ none →
    ∀ webState ∈ s.webStateList.webStates, s.browser.snapshots.holds (tabID webState) = none
  | _ => True

end ClosableGrid

end IosChrome.TabGrid

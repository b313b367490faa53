import IosChrome.Sessions.SessionService
import IosChrome.Tabs.Observer

/-!
# SessionRestorationBrowserAgent

The agent of a window observes its list of tabs. Five of the notifications make it ask the
session service for a delayed save, each with guards of its own, and `SaveSession` asks for
none while there are tabs and none of them is active.

Each notification comes with the list as it is when it is made, so that the guards are
evaluated there. What `IsLoading` answers during an operation is an argument of the operation.
There is one window; the service is that of `SessionService.lean`. Of the session that is
saved, the tabs and the active one are kept.
-/

namespace IosChrome.Sessions

open Tabs

variable {W : Type}

/-- `CanSaveSession`, and `canSaveCurrentSession` of the factory. -/
def canSaveSession (l : WebStateList W) : Bool := l.empty || l.getActiveWebState.isSome

def sessionForSaving (l : WebStateList W) : Option (View W) :=
  if canSaveSession l then some (viewOf l) else none

structure SessionRestorationBrowserAgent (W : Type) where
  sessionIdentifier : String
  directory : FilePath
  webStateList : WebStateList W
  sessionService : SessionService Unit (View W)
  /-- The saves handed to the session service. -/
  saveSessionCallsCount : Nat

namespace SessionRestorationBrowserAgent

def init (sessionIdentifier : String) (directory : FilePath) : SessionRestorationBrowserAgent W :=
  ⟨sessionIdentifier, directory, {}, {}, 0⟩

section Observer

variable (a : SessionRestorationBrowserAgent W)

def sessionPath : FilePath := sessionPathForSessionID a.sessionIdentifier a.directory

/-- `l` is what the list is when the save is asked for. -/
def saveSession (l : WebStateList W) (immediately : Bool) : SessionRestorationBrowserAgent W :=
  if canSaveSession l then
    { a with
      sessionService :=
        a.sessionService.saveSession (fun _ => sessionForSaving l) () a.sessionIdentifier
          a.directory immediately
      saveSessionCallsCount := a.saveSessionCallsCount + 1 }
  else a

/-! ## The observer methods -/

variable (isLoading : W → Bool) (l : WebStateList W)

def webStateActivatedAt (newWebState : Option W) : SessionRestorationBrowserAgent W :=
  if newWebState.any isLoading then a else a.saveSession l false

def willDetachWebStateAt (index : Int) : SessionRestorationBrowserAgent W :=
  if l.activeIndex = index then a else a.saveSession l false

def webStateInsertedAt (webState : W) (activating : Bool) : SessionRestorationBrowserAgent W :=
  if activating || isLoading webState then a else a.saveSession l false

def webStateReplacedAt (newWebState : W) : SessionRestorationBrowserAgent W :=
  if isLoading newWebState then a else a.saveSession l false

def webStateMoved (webState : W) : SessionRestorationBrowserAgent W :=
  if isLoading webState then a else a.saveSession l false

/-- The other notifications are not observed. -/
def onNotified (notified : Notified W) : SessionRestorationBrowserAgent W :=
  match notified.call with
  | .webStateActivatedAt _ newWebState _ _ =>
    a.webStateActivatedAt isLoading notified.webStateList newWebState
  | .willDetachWebStateAt _ index => a.willDetachWebStateAt notified.webStateList index
  | .webStateInsertedAt webState _ activating =>
    a.webStateInsertedAt isLoading notified.webStateList webState activating
  | .webStateReplacedAt _ newWebState _ =>
    a.webStateReplacedAt isLoading notified.webStateList newWebState
  | .webStateMoved webState _ _ => a.webStateMoved isLoading notified.webStateList webState
  | _ => a

/-! ## Runs -/

/-- The timer of a delayed save fires. -/
def performSave : SessionRestorationBrowserAgent W :=
  { a with
    sessionService := (SessionService.machine Unit (View W)).step a.sessionService
      (.timerFired (fun _ => sessionForSaving a.webStateList) a.sessionPath) }

/-- The session in the file, as the last save that had one left it. -/
def savedSession : Option (View W) :=
  a.sessionService.history.reverse.findSome? fun entry =>
    match entry with
    | .request .. => none
    | .answer _ _ session => session

end Observer

/-- An operation on the list, with what `IsLoading` answers meanwhile. -/
abbrev ListOperation (W : Type) := Operation W × (W → Bool)

def isCloseAll : Operation W → Bool
  | .closeAllWebStates _ => true
  | _ => false

inductive Call (W : Type) where
  | operation (operation : ListOperation W)
  | batchOperation (operations : List (ListOperation W))
  | didFinishNavigation
  | saveSession (immediately : Bool)
  | timerFired

variable [DecidableEq W] (a : SessionRestorationBrowserAgent W)

/-- The list under operations, for the ones of a batch. -/
def operationMachine (W : Type) [DecidableEq W] :
    Lib.Machine (WebStateList W) (ListOperation W) where
  init l := l = {}
  pre l operation := operation.1.Valid l
  step l operation := (operation.1.perform { webStateList := l }).webStateList

instance (l : WebStateList W) (operation : ListOperation W) :
    Decidable ((operationMachine W).pre l operation) :=
  inferInstanceAs (Decidable (operation.1.Valid l))

def performOperation (operation : ListOperation W) : SessionRestorationBrowserAgent W :=
  let m := operation.1.perform { webStateList := a.webStateList }
  let notified := m.calls.foldl (fun a notified => a.onNotified operation.2 notified) a
  { notified with webStateList := m.webStateList }

/-- The beginning and the end of a batch are not observed. -/
def performBatchOperation (operations : List (ListOperation W)) :
    SessionRestorationBrowserAgent W :=
  operations.foldl performOperation a

def step (call : Call W) : SessionRestorationBrowserAgent W :=
  match call with
  | .operation operation => a.performOperation operation
  | .batchOperation operations => a.performBatchOperation operations
  | .didFinishNavigation => a.saveSession a.webStateList false
  | .saveSession immediately => a.saveSession a.webStateList immediately
  | .timerFired => a.performSave

/-- `CloseAllWebStates` is a batch itself, and batches are not nested. -/
def Pre (call : Call W) : Prop :=
  match call with
  | .operation operation => operation.1.Valid a.webStateList
  | .batchOperation operations =>
    (operationMachine W).Run a.webStateList operations ∧
      ∀ operation ∈ operations, isCloseAll operation.1 = false
  | .timerFired => a.sessionPath ∈ a.sessionService.performRequests
  | _ => True

instance (call : Call W) : Decidable (a.Pre call) := by
  unfold Pre
  cases call <;> infer_instance

def machine (W : Type) [DecidableEq W] :
    Lib.Machine (SessionRestorationBrowserAgent W) (Call W) where
  init a := ∃ sessionIdentifier directory,
    sessionIdentifier ≠ "" ∧ a = init sessionIdentifier directory
  pre := Pre
  step := step

instance (a : SessionRestorationBrowserAgent W) (call : Call W) :
    Decidable ((machine W).pre a call) :=
  inferInstanceAs (Decidable (a.Pre call))

end SessionRestorationBrowserAgent

end IosChrome.Sessions

import IosChrome.Lib.Machine

/-!
# PreloadController

The controller prerenders one URL at a time. A request is started by a delayed selector of the
controller on itself, and so is a cancellation that something in the prerendered page asks for;
`removeScheduledPrerenderRequests` cancels whatever delayed selectors there are.

A selector performed after a delay of zero fires in the next turn of the run loop, one with
`kPrerenderDelay` in a later turn: `nextTurn` is possible only when the first kind has fired.
WebStates are numbered. Those in `live` belong to tabs; the prerendered one belongs to the
controller until it is released or destroyed. What the environment decides is in the calls:
whether the device supports prerendering, what the delegate answers, whether a session restore
is in progress.

The metrics, and `startTime` and `loadCompleted` that only they read, are left out.
-/

namespace IosChrome.Prerender

structure GURL where
  spec : String
  isValid : Bool
  scheme : String
  ne_empty : isValid = true → spec ≠ ""
  deriving DecidableEq

def GURL.empty : GURL := ⟨"", false, "", fun h => absurd h Bool.false_ne_true⟩

def GURL.isEmpty (url : GURL) : Bool := url.spec = ""

def canPrerenderURL (url : GURL) : Bool :=
  url.isValid && (url.scheme = "http" || url.scheme = "https")

theorem isEmpty_of_canPrerenderURL {url : GURL} (h : canPrerenderURL url = true) :
    url.isEmpty = false :=
  decide_eq_false (url.ne_empty (Bool.and_eq_true_iff.1 h).1)

inductive NetworkPredictionSetting where
  | enabledWifiOnly
  | enabledWifiAndCellular
  | disabled
  deriving DecidableEq

structure PrerenderRequest where
  url : GURL
  transition : Nat
  referrer : String
  deriving DecidableEq

/-- The WebState used for prerendering, and what it was made to load. -/
structure PrerenderWebState where
  id : Nat
  loadParams : PrerenderRequest
  restoreInProgress : Bool
  deriving DecidableEq

inductive Selector where
  | startPrerender
  | cancelPrerender
  deriving DecidableEq

inductive Delay where
  | zero
  | prerenderDelay
  deriving DecidableEq

/-- A `performSelector:withObject:afterDelay:`, and the turn it was made in. -/
structure Perform where
  selector : Selector
  delay : Delay
  turn : Nat
  deriving DecidableEq

/-- What the prerendered WebState calls the controller for. -/
inductive Trigger where
  | createNewWebState
  | runJavaScriptDialog
  | didRequestHTTPAuth
  | didFinishNavigation (mimeType : String)
  | didLoadPage (mimeType : String)
  | shouldAllowRequest (isAppUrl canHandleITunesUrl : Bool)
  | manageAccounts
  deriving DecidableEq

structure PreloadController where
  networkPredictionSetting : NetworkPredictionSetting
  isOnCellularNetwork : Bool
  connectionTypeObserver : Bool
  /-- `kPreloadDelayWebStateReset`. -/
  delayWebStateReset : Bool
  prerenderedURL : GURL
  webState : Option PrerenderWebState
  scheduledRequest : Option PrerenderRequest
  webStateToReplace : Option Nat
  /-- What `_webStateToReplaceObserver` observes. -/
  observed : List Nat
  delayed : List Perform
  turn : Nat
  live : List Nat
  nextID : Nat
  destroyed : List Nat
  delayedDestruction : List Nat
  released : List Nat
  /-- The WebStates that a cancellation was scheduled because of, and the turns. -/
  cancelled : List (Nat × Nat)
  deriving DecidableEq

namespace PreloadController

def initWithBrowserState (setting : NetworkPredictionSetting) (cellular delayWebStateReset : Bool) :
    PreloadController where
  networkPredictionSetting := setting
  isOnCellularNetwork := cellular
  connectionTypeObserver := setting = .enabledWifiOnly
  delayWebStateReset := delayWebStateReset
  prerenderedURL := GURL.empty
  webState := none
  scheduledRequest := none
  webStateToReplace := none
  observed := []
  delayed := []
  turn := 0
  live := []
  nextID := 0
  destroyed := []
  delayedDestruction := []
  released := []
  cancelled := []

variable (c : PreloadController)

def scheduledURL : GURL :=
  match c.scheduledRequest with
  | none => GURL.empty
  | some request => request.url

/-- `supported` is what the device and the connection allow. -/
def isEnabled (supported : Bool) : Bool :=
  if supported then
    match c.networkPredictionSetting with
    | .enabledWifiOnly => !c.isOnCellularNetwork
    | .enabledWifiAndCellular => true
    | .disabled => false
  else false

def performSelector (selector : Selector) (delay : Delay) : PreloadController :=
  { c with delayed := c.delayed ++ [⟨selector, delay, c.turn⟩] }

/-- What is observed after `RemoveObserver` on the WebState to replace, when there is one. -/
def observedWithoutToReplace : List Nat :=
  match c.webStateToReplace with
  | none => c.observed
  | some w => c.observed.filter (· ≠ w)

def removeScheduledPrerenderRequests : PreloadController :=
  { c with
    delayed := []
    scheduledRequest := none
    observed := c.observedWithoutToReplace
    webStateToReplace := none }

/-- A WebState that restores its session is destroyed when it has finished. -/
def destroyPrerenderingWebState (w : PrerenderWebState) : PreloadController :=
  if !c.delayWebStateReset || !w.restoreInProgress then
    { c with destroyed := c.destroyed ++ [w.id] }
  else { c with delayedDestruction := c.delayedDestruction ++ [w.id] }

def releasePrerenderContentsInternal : PreloadController :=
  { c with prerenderedURL := GURL.empty, webState := none }

/-- Does nothing when there is no WebState. -/
def destroyPreviewContents : PreloadController :=
  match c.webState with
  | none => c
  | some w => c.releasePrerenderContentsInternal.destroyPrerenderingWebState w

def cancelPrerender : PreloadController :=
  c.removeScheduledPrerenderRequests.destroyPreviewContents

def schedulePrerenderCancel : PreloadController :=
  c.removeScheduledPrerenderRequests.performSelector .cancelPrerender .zero

/-- Whether a request for a URL is neither refused nor ignored. -/
def acceptsRequest (url : GURL) (supported : Bool) : Bool :=
  c.isEnabled supported && canPrerenderURL url &&
    !(url.spec = c.scheduledURL.spec ||
      (c.scheduledURL.isEmpty && url.spec = c.prerenderedURL.spec))

def scheduleRequest (request : PrerenderRequest) (currentWebState : Option Nat)
    (immediately : Bool) : PreloadController :=
  let c := c.removeScheduledPrerenderRequests
  { c with
    webStateToReplace := currentWebState
    observed := c.observed ++ currentWebState.toList
    scheduledRequest := some request }.performSelector .startPrerender
      (if immediately then .zero else .prerenderDelay)

def prerenderURL (request : PrerenderRequest) (currentWebState : Option Nat)
    (immediately supported : Bool) : PreloadController :=
  if c.acceptsRequest request.url supported then
    c.scheduleRequest request currentWebState immediately
  else c

def createWebState (request : PrerenderRequest) (restoreInProgress : Bool) : PreloadController :=
  { c with
    webState := some ⟨c.nextID, request, restoreInProgress⟩
    nextID := c.nextID + 1
    webStateToReplace := none }

/-- The first half of `startPrerender`. `replacement` is what the delegate answers when there is
no WebState to replace. -/
def started (replacement : Option Nat) : PreloadController :=
  { c.destroyPreviewContents with
    prerenderedURL := c.scheduledURL
    scheduledRequest := none
    observed := c.observedWithoutToReplace
    webStateToReplace := c.webStateToReplace.or replacement }

/-- The URL is not valid when there is no request. -/
def startPrerender (replacement : Option Nat) (restoreInProgress : Bool) : PreloadController :=
  match c.scheduledRequest with
  | none => (c.started replacement).destroyPreviewContents
  | some request =>
    if !(c.started replacement).prerenderedURL.isValid ||
        (c.started replacement).webStateToReplace.isNone then
      (c.started replacement).destroyPreviewContents
    else (c.started replacement).createWebState request restoreInProgress

/-- A delayed selector is performed. -/
def fire (k : Nat) (replacement : Option Nat) (restoreInProgress : Bool) : PreloadController :=
  match c.delayed[k]? with
  | none => c
  | some perform =>
    let c := { c with delayed := c.delayed.eraseIdx k }
    match perform.selector with
    | .startPrerender => c.startPrerender replacement restoreInProgress
    | .cancelPrerender => c.cancelPrerender

/-- The WebState is returned to the caller, who makes a tab of it. -/
def releasePrerenderContents : PreloadController :=
  match c.webState with
  | none => c
  | some w =>
    if w.restoreInProgress then c
    else
      let c := c.removeScheduledPrerenderRequests.releasePrerenderContentsInternal
      { c with released := c.released ++ [w.id], live := c.live ++ [w.id] }

def shouldCancelPreloadForMimeType (mimeType : String) : Bool :=
  mimeType = "application/octet-stream" || mimeType = "application/pdf"

/-- Whether a callback of the prerendered WebState `w` cancels. Those of the WebState to
replace are not looked at. -/
def cancels (w : Nat) (trigger : Trigger) : Bool :=
  match trigger with
  | .createNewWebState => true
  | .runJavaScriptDialog => true
  | .didRequestHTTPAuth => true
  | .didFinishNavigation mimeType =>
    !(c.webStateToReplace = some w) && shouldCancelPreloadForMimeType mimeType
  | .didLoadPage mimeType =>
    !(c.webStateToReplace = some w) && shouldCancelPreloadForMimeType mimeType
  | .shouldAllowRequest isAppUrl canHandleITunesUrl => isAppUrl || canHandleITunesUrl
  | .manageAccounts => true

def prerendered (trigger : Trigger) : PreloadController :=
  match c.webState with
  | none => c
  | some w =>
    if c.cancels w.id trigger then
      { c.schedulePrerenderCancel with cancelled := c.cancelled ++ [(w.id, c.turn)] }
    else c

def connectionTypeChanged (cellular : Bool) : PreloadController :=
  let c := { c with isOnCellularNetwork := cellular }
  if c.networkPredictionSetting = .enabledWifiOnly ∧ c.isOnCellularNetwork = true then
    c.cancelPrerender
  else c

/-- `cellular` is the connection type at that moment. -/
def onPreferenceChanged (setting : NetworkPredictionSetting) (cellular : Bool) :
    PreloadController :=
  let c := { c with networkPredictionSetting := setting }
  match setting with
  | .enabledWifiOnly =>
    let c :=
      if c.connectionTypeObserver then c
      else { c with isOnCellularNetwork := cellular, connectionTypeObserver := true }
    if c.isOnCellularNetwork then c.cancelPrerender else c
  | .enabledWifiAndCellular => { c with connectionTypeObserver := false }
  | .disabled => { c.cancelPrerender with connectionTypeObserver := false }

def browserStateDestroyed : PreloadController :=
  { c.cancelPrerender with connectionTypeObserver := false }

/-- `webStateDestroyed:`, for the WebState to replace. -/
def webStateDestroyed : PreloadController :=
  c.schedulePrerenderCancel

/-- A WebState of a tab goes; its observers hear of it first. -/
def destroyWebState (w : Nat) : PreloadController :=
  let c := if w ∈ c.observed then c.webStateDestroyed else c
  { c with live := c.live.filter (· ≠ w) }

inductive Call where
  | prerenderURL (request : PrerenderRequest) (currentWebState : Option Nat)
      (immediately supported : Bool)
  | fire (k : Nat) (replacement : Option Nat) (restoreInProgress : Bool)
  | releasePrerenderContents
  | prerendered (trigger : Trigger)
  | cancelPrerender
  | didReceiveMemoryWarning
  | connectionTypeChanged (cellular : Bool)
  | onPreferenceChanged (setting : NetworkPredictionSetting) (cellular : Bool)
  | browserStateDestroyed
  | restoreSession (inProgress : Bool)
  | createWebState
  | destroyWebState (w : Nat)
  | nextTurn
  deriving DecidableEq

def step (call : Call) : PreloadController :=
  match call with
  | .prerenderURL request currentWebState immediately supported =>
    c.prerenderURL request currentWebState immediately supported
  | .fire k replacement restoreInProgress => c.fire k replacement restoreInProgress
  | .releasePrerenderContents => c.releasePrerenderContents
  | .prerendered trigger => c.prerendered trigger
  | .cancelPrerender => c.cancelPrerender
  | .didReceiveMemoryWarning => c.cancelPrerender
  | .connectionTypeChanged cellular => c.connectionTypeChanged cellular
  | .onPreferenceChanged setting cellular => c.onPreferenceChanged setting cellular
  | .browserStateDestroyed => c.browserStateDestroyed
  | .restoreSession inProgress =>
    { c with webState := c.webState.map fun w => { w with restoreInProgress := inProgress } }
  | .createWebState => { c with live := c.live ++ [c.nextID], nextID := c.nextID + 1 }
  | .destroyWebState w => c.destroyWebState w
  | .nextTurn => { c with turn := c.turn + 1 }

def Pre (call : Call) : Prop :=
  match call with
  | .prerenderURL _ currentWebState _ _ => ∀ w ∈ currentWebState.toList, w ∈ c.live
  | .fire k replacement _ =>
    (c.delayed[k]?.any fun perform => perform.turn < c.turn) = true ∧
      ∀ w ∈ replacement.toList, w ∈ c.live
  | .prerendered _ => c.webState ≠ none
  | .connectionTypeChanged _ => c.connectionTypeObserver = true
  | .destroyWebState w => w ∈ c.live
  | .nextTurn => ∀ perform ∈ c.delayed, perform.delay = .zero → c.turn ≤ perform.turn
  | _ => True

instance (call : Call) : Decidable (c.Pre call) := by
  unfold Pre
  cases call <;> infer_instance

def machine : Lib.Machine PreloadController Call where
  init c := ∃ setting cellular delayWebStateReset,
    c = initWithBrowserState setting cellular delayWebStateReset
  pre := Pre
  step := step

instance (c : PreloadController) (call : Call) : Decidable (machine.pre c call) :=
  inferInstanceAs (Decidable (c.Pre call))

end PreloadController

end IosChrome.Prerender

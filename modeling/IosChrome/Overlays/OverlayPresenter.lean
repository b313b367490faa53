import IosChrome.Overlays.OverlayPresentationContext
import IosChrome.Tabs.Edits
import Mathlib.Data.Fintype.Basic

/-!
# Overlay queues, presenters and contexts, as one system

Every tab has an `OverlayRequestQueue`, every browser window an
`OverlayPresenterImpl` and the contexts it has been given. A presenter is the
delegate of the queues of its tabs (it takes the requests removed from them)
and their observer (it hears of requests added). A tab may be detached from one
window and put into another, and its queue goes with it, so what one presenter
does can reach another one: `SetDelegate` tells the presenter it replaces.
That is why the state is all windows (`B`) and all tabs (`W`) at once.

`Browser` is one window: its tabs, presenter and contexts (`C`). Functions that
only read the queues are functions on `Browser`; `System` has those that change
queues, and the events.

The tabs of a window change by `Tabs.Edit`: its `WebStateList` sends the calls
of legal edits (`Tabs.perform_told`), and the presenter reacts to each call.

Three logs are kept for what is proved and read by no function: the requests
added, the requests destroyed (each with the `presented_request_` of every
window at that moment), and the calls made on the contexts. A request that is
destroyed runs its completion callbacks then (`~OverlayRequestImpl`).

Presenter observers and the set of requests presented before, which only they
are told of, are left out.
-/

namespace IosChrome.Overlays

open Tabs (ActiveWebStateChangeReason ObserverCall View Edit)

/-- `OverlayRequestQueueImpl` of a tab. -/
structure OverlayRequestQueue (W B : Type) where
  requests : List (OverlayRequest W) := []
  delegate : Option B := none
  observers : List B := []
  deriving DecidableEq, Repr

/-- `front_request`. -/
def OverlayRequestQueue.frontRequest {W B : Type} (queue : OverlayRequestQueue W B) :
    Option (OverlayRequest W) := queue.requests.head?

/-- `OverlayPresenterImpl`. A queue is named by its tab. -/
structure OverlayPresenterImpl (W C : Type) where
  presenting : Bool := false
  detachedQueueReplacedDelegate : Bool := false
  detachedPresentingRequestQueue : Option W := none
  presentedRequest : Option (OverlayRequest W) := none
  detachingPresentingWebState : Bool := false
  removedRequestAwaitingDismissal : Option (OverlayRequest W) := none
  activeWebState : Option W := none
  presentationContext : Option C := none
  deriving DecidableEq, Repr

/-- A call on a context, with the request whose UI was up there. -/
inductive ContextCall (W C : Type) where
  | showOverlayUI (context : C) (request : OverlayRequest W)
      (displayed : Option (OverlayRequest W))
  | hideOverlayUI (context : C) (request : OverlayRequest W)
      (displayed : Option (OverlayRequest W))
  deriving DecidableEq, Repr

/-- A window. -/
structure Browser (W C : Type) where
  webStateList : View W := ⟨[], none⟩
  presenter : OverlayPresenterImpl W C := {}
  contexts : C → OverlayPresentationContext W
  contextCalls : List (ContextCall W C) := []

/-! ## The presenter and its context -/

namespace Browser

variable {W B C : Type} [DecidableEq W] [DecidableEq C]

/-- The presenter after a write. -/
def setPresenter (br : Browser W C) (presenter : OverlayPresenterImpl W C) : Browser W C :=
  { br with presenter := presenter }

/-- A context after a write. -/
def setContext (br : Browser W C) (context : C) (ctx : OverlayPresentationContext W) :
    Browser W C :=
  { br with contexts := Function.update br.contexts context ctx }

/-- The UI that is up in the presenter's context. -/
def shown (br : Browser W C) : Option (Shown W) :=
  br.presenter.presentationContext.bind fun context => (br.contexts context).shown

/-- `GetActiveRequest`. -/
def getActiveRequest (queues : W → OverlayRequestQueue W B) (br : Browser W C) :
    Option (OverlayRequest W) :=
  br.presenter.activeWebState.bind fun webState => (queues webState).frontRequest

/-- `presentation_context_->HideOverlayUI(request)`. -/
def hideOverlayUI (br : Browser W C) (request : OverlayRequest W) : Browser W C :=
  match br.presenter.presentationContext with
  | none => br
  | some context =>
    let ctx := br.contexts context
    { br.setContext context (ctx.hideOverlayUI request) with
      contextCalls := br.contextCalls ++ [.hideOverlayUI context request ctx.displayed] }

/-- `CancelOverlayUIForRequest`. -/
def cancelOverlayUIForRequest (br : Browser W C) (request : Option (OverlayRequest W)) :
    Browser W C :=
  match br.presenter.presentationContext, request with
  | some context, some request =>
    br.setContext context ((br.contexts context).cancelOverlayUI request)
  | _, _ => br

variable (factory : OverlayRequestCoordinatorFactory W)

/-- `PresentOverlayForActiveRequest`. Where the context cannot show the UI it is
asked to prepare (`PrepareToShowOverlayUI`), and may get the capabilities later. -/
def presentOverlayForActiveRequest (queues : W → OverlayRequestQueue W B) (br : Browser W C) :
    Browser W C :=
  match br.presenter.presentationContext, br.presenter.activeWebState with
  | some context, some webState =>
    let ctx := br.contexts context
    if ctx.isShowingOverlayUI then br
    else match (queues webState).frontRequest with
      | none => br
      | some request =>
        if OverlayPresentationContext.canShowUIForRequest factory request
            ctx.presentationCapabilities then
          { br with
            presenter := { br.presenter with
              presenting := true
              presentedRequest := some request }
            contexts := Function.update br.contexts context (ctx.showOverlayUI request webState)
            contextCalls :=
              br.contextCalls ++ [.showOverlayUI context request ctx.displayed] }
        else br
  | _, _ => br

/-- `SetActiveWebState`. -/
def setActiveWebState (queues : W → OverlayRequestQueue W B) (br : Browser W C)
    (webState : Option W) (reason : ActiveWebStateChangeReason) : Browser W C :=
  if br.presenter.activeWebState = webState then br
  else
    let previouslyActiveRequest :=
      match br.presenter.removedRequestAwaitingDismissal with
      | some request => some request
      | none => br.getActiveRequest queues
    let shouldCancelUI := reason == .replaced || br.presenter.detachingPresentingWebState
    let br := br.setPresenter { br.presenter with
      activeWebState := webState
      detachingPresentingWebState := false }
    if br.presenter.presentationContext.isNone then br
    else if !br.presenter.presenting then br.presentOverlayForActiveRequest factory queues
    else match previouslyActiveRequest with
      | none => br
      | some request =>
        if shouldCancelUI then br.cancelOverlayUIForRequest (some request)
        else br.hideOverlayUI request

/-- `RequestAddedToQueue`, for the request now at `index` of the queue of
`webState`. -/
def requestAddedToQueue (queues : W → OverlayRequestQueue W B) (br : Browser W C) (webState : W)
    (request : OverlayRequest W) : Browser W C :=
  if br.getActiveRequest queues ≠ some request then br
  else if !br.presenter.presenting then br.presentOverlayForActiveRequest factory queues
  else match br.presenter.presentedRequest with
    | none => br
    | some presentedRequest =>
      -- `queue->size() > 1` is that there is a request at index 1
      if (queues webState).requests[1]? = some presentedRequest then
        br.hideOverlayUI presentedRequest
      else br

/-- `CancelAllOverlayUI`. -/
def cancelAllOverlayUI (queues : W → OverlayRequestQueue W B) (br : Browser W C) : Browser W C :=
  br.webStateList.tabs.foldl
    (fun br webState => br.cancelOverlayUIForRequest (queues webState).frontRequest) br

/-- `SetPresentationContext`. -/
def setPresentationContext (queues : W → OverlayRequestQueue W B) (br : Browser W C)
    (presentationContext : Option C) : Browser W C :=
  let br := br.cancelAllOverlayUI queues
  let br := br.setPresenter { br.presenter with
    presentationContext := presentationContext
    presenting := false
    presentedRequest := none }
  br.presentOverlayForActiveRequest factory queues

/-- `OverlayPresentationContextWillChangePresentationCapabilities`. -/
def willChangePresentationCapabilities (br : Browser W C)
    (capabilities : UIPresentationCapabilities) : Browser W C :=
  match br.presenter.presentedRequest with
  | none => br
  | some request =>
    if OverlayPresentationContext.canShowUIForRequest factory request capabilities then br
    else br.hideOverlayUI request

/-- `OverlayPresentationContextDidChangePresentationCapabilities`,
`OverlayPresentationContextDidEnableUI` and
`OverlayPresentationContextDidMoveToWindow` (into a window). -/
def presentationContextReady (queues : W → OverlayRequestQueue W B) (br : Browser W C) :
    Browser W C :=
  if !br.presenter.presenting then br.presentOverlayForActiveRequest factory queues else br

/-- `presentation_capabilities_ = capabilities`. -/
def setPresentationCapabilities (br : Browser W C) (context : C)
    (capabilities : UIPresentationCapabilities) : Browser W C :=
  br.setContext context { br.contexts context with presentationCapabilities := capabilities }

/-- `UpdatePresentationCapabilities` of a context; the presenter whose context
it is observes it. -/
def updatePresentationCapabilities (queues : W → OverlayRequestQueue W B) (br : Browser W C)
    (context : C) (capabilities : UIPresentationCapabilities) : Browser W C :=
  if (br.contexts context).presentationCapabilities = capabilities then br
  else if br.presenter.presentationContext ≠ some context then
    br.setPresentationCapabilities context capabilities
  else
    ((br.willChangePresentationCapabilities factory capabilities).setPresentationCapabilities
      context capabilities).presentationContextReady factory queues

end Browser

/-- `OverlayRequestQueueWillReplaceDelegate`, called on the presenter that is no
longer to be the delegate of a queue with this front request. -/
def OverlayPresenterImpl.overlayRequestQueueWillReplaceDelegate {W C : Type} [DecidableEq W]
    (presenter : OverlayPresenterImpl W C) (frontRequest : Option (OverlayRequest W)) :
    OverlayPresenterImpl W C :=
  if presenter.presentedRequest.isNone ∨ presenter.presentedRequest ≠ frontRequest then presenter
  else { presenter with
    presentedRequest := none
    detachedPresentingRequestQueue := none
    detachedQueueReplacedDelegate := true }

/-! ## The system -/

/-- A request that was destroyed, and what each window was presenting then. -/
structure Destruction (W B : Type) where
  request : OverlayRequest W
  presented : B → Option (OverlayRequest W)

/-- All windows and all tabs. -/
structure System (W B C : Type) where
  browsers : B → Browser W C
  queues : W → OverlayRequestQueue W B := fun _ => {}
  destroyedWebStates : List W := []
  added : List (OverlayRequest W) := []
  destroyed : List (Destruction W B) := []

namespace System

variable {W B C : Type} [DecidableEq W] [DecidableEq B] [DecidableEq C]

def modifyBrowser (s : System W B C) (b : B) (f : Browser W C → Browser W C) : System W B C :=
  { s with browsers := Function.update s.browsers b (f (s.browsers b)) }

def modifyPresenter (s : System W B C) (b : B)
    (f : OverlayPresenterImpl W C → OverlayPresenterImpl W C) : System W B C :=
  s.modifyBrowser b fun br => br.setPresenter (f br.presenter)

def modifyQueue (s : System W B C) (webState : W)
    (f : OverlayRequestQueue W B → OverlayRequestQueue W B) : System W B C :=
  { s with queues := Function.update s.queues webState (f (s.queues webState)) }

/-- A `unique_ptr` to a request is dropped. -/
def destroyRequest (s : System W B C) (request : OverlayRequest W) : System W B C :=
  { s with destroyed := s.destroyed ++
      [⟨request, fun b => (s.browsers b).presenter.presentedRequest⟩] }

/-- `removed_request_awaiting_dismissal_` gets another value; the request it
held is destroyed. -/
def setRemovedRequest (s : System W B C) (b : B) (request : Option (OverlayRequest W)) :
    System W B C :=
  let held := (s.browsers b).presenter.removedRequestAwaitingDismissal
  let s := s.modifyPresenter b ({ · with removedRequestAwaitingDismissal := request })
  match held with
  | none => s
  | some held => s.destroyRequest held

/-! ### Queues -/

/-- `OverlayRequestQueueImpl::SetDelegate`. -/
def setDelegate (s : System W B C) (webState : W) (delegate : Option B) : System W B C :=
  if (s.queues webState).delegate = delegate then s
  else
    let s := match (s.queues webState).delegate with
      | none => s
      | some b => s.modifyPresenter b
          (·.overlayRequestQueueWillReplaceDelegate (s.queues webState).frontRequest)
    s.modifyQueue webState ({ · with delegate := delegate })

/-- What `OverlayRequestRemoved` does with the presented request: it is kept
until its UI is dismissed. -/
def holdRequest (s : System W B C) (b : B) (webState : W) (request : OverlayRequest W) :
    System W B C :=
  let s := s.setRemovedRequest b (some request)
  if (s.browsers b).presenter.detachedPresentingRequestQueue.isSome then
    (s.modifyPresenter b ({ · with detachedPresentingRequestQueue := none })).setDelegate
      webState none
  else s

/-- `if (cancelled) CancelOverlayUIForRequest(removed_request)`. -/
def cancelRemoved (s : System W B C) (b : B) (request : OverlayRequest W) (cancelled : Bool) :
    System W B C :=
  if cancelled then s.modifyBrowser b (·.cancelOverlayUIForRequest (some request)) else s

/-- `OverlayRequestRemoved`, called on presenter `b`. A request that was not
moved into the presenter is destroyed on return. -/
def overlayRequestRemoved (s : System W B C) (b : B) (webState : W) (request : OverlayRequest W)
    (cancelled : Bool) : System W B C :=
  if (s.browsers b).presenter.presentedRequest = some request then
    (s.holdRequest b webState request).cancelRemoved b request cancelled
  else (s.cancelRemoved b request cancelled).destroyRequest request

/-- `RemoveRequest`. -/
def removeRequest (s : System W B C) (webState : W) (index : Nat) (cancelled : Bool) :
    System W B C :=
  match (s.queues webState).requests[index]? with
  | none => s
  | some request =>
    let s := s.modifyQueue webState fun queue =>
      { queue with requests := queue.requests.eraseIdx index }
    match (s.queues webState).delegate with
    | none => s.destroyRequest request
    | some b => s.overlayRequestRemoved b webState request cancelled

/-- `PopFrontRequest`. -/
def popFrontRequest (s : System W B C) (webState : W) : System W B C :=
  s.removeRequest webState 0 false

/-- `CancelRequest`. -/
def cancelRequest (s : System W B C) (webState : W) (request : OverlayRequest W) : System W B C :=
  match (s.queues webState).requests.findIdx? (· = request) with
  | none => s
  | some index => s.removeRequest webState index true

/-- The loop of `CancelAllRequests`, from last to first. Every round removes one
request, so `size()` rounds are enough. -/
def cancelAllLoop (webState : W) : Nat → System W B C → System W B C
  | 0, s => s
  | rounds + 1, s =>
    cancelAllLoop webState rounds
      (s.removeRequest webState ((s.queues webState).requests.length - 1) true)

/-- `CancelAllRequests`. -/
def cancelAllRequests (s : System W B C) (webState : W) : System W B C :=
  cancelAllLoop webState (s.queues webState).requests.length s

variable (factory : OverlayRequestCoordinatorFactory W)

/-- `InsertRequest` with a new request. -/
def insertRequest (s : System W B C) (webState : W) (index : Nat) : System W B C :=
  let request : OverlayRequest W := ⟨s.added.length, webState⟩
  let s := { s with added := s.added ++ [request] }
  let s := s.modifyQueue webState fun queue =>
    { queue with requests := queue.requests.insertIdx index request }
  (s.queues webState).observers.foldl
    (fun s b => s.modifyBrowser b fun br =>
      br.requestAddedToQueue factory s.queues webState request) s

/-- `AddRequest`. -/
def addRequest (s : System W B C) (webState : W) : System W B C :=
  s.insertRequest factory webState (s.queues webState).requests.length

/-! ### The presenter as an observer of the tabs -/

/-- `WebStateAddedToBrowser`. -/
def webStateAddedToBrowser (s : System W B C) (b : B) (webState : W) : System W B C :=
  let s := s.modifyQueue webState fun queue =>
    { queue with observers := if b ∈ queue.observers then queue.observers
        else queue.observers ++ [b] }
  s.setDelegate webState (some b)

/-- `WebStateRemovedFromBrowser`. -/
def webStateRemovedFromBrowser (s : System W B C) (b : B) (webState : W) : System W B C :=
  let s := s.modifyQueue webState fun queue =>
    { queue with observers := queue.observers.filter (· ≠ b) }
  let presents (s : System W B C) : Bool :=
    (s.browsers b).presenter.presentedRequest.any (·.queueWebState = webState)
  let s := if presents s then s else s.setDelegate webState none
  if presents s then s.modifyPresenter b ({ · with detachedPresentingRequestQueue := some webState })
  else s.modifyBrowser b
    (·.cancelOverlayUIForRequest (s.queues webState).frontRequest)

/-- `WillDetachWebStateAt`. -/
def willDetachWebStateAt (s : System W B C) (b : B) (webState : W) : System W B C :=
  let s := s.modifyPresenter b fun presenter =>
    { presenter with
      detachingPresentingWebState :=
        presenter.presentedRequest.any (·.queueWebState = webState) }
  s.webStateRemovedFromBrowser b webState

/-- The presenter's part of a call of its `WebStateList`. -/
def onCall (b : B) (s : System W B C) : ObserverCall W → System W B C
  | .webStateInsertedAt webState _ _ => s.webStateAddedToBrowser b webState
  | .webStateReplacedAt oldWebState newWebState _ =>
    (s.webStateRemovedFromBrowser b oldWebState).webStateAddedToBrowser b newWebState
  | .willDetachWebStateAt webState _ => s.willDetachWebStateAt b webState
  | .webStateActivatedAt _ newWebState _ reason =>
    s.modifyBrowser b fun br => br.setActiveWebState factory s.queues newWebState reason
  | _ => s

/-- An edit of the tabs of a window. -/
def edit (s : System W B C) (b : B) (e : Edit W) : System W B C :=
  let v := (s.browsers b).webStateList
  ((e.calls v).foldl (onCall factory b) s).modifyBrowser b ({ · with webStateList := e.apply v })

/-- A tab that is in no window is destroyed, and its queue with it. The cancel
handlers of its requests may have cancelled them before. -/
def webStateDestroyed (s : System W B C) (webState : W) : System W B C :=
  let s := s.modifyQueue webState ({ · with observers := [] })
  let s := s.cancelAllRequests webState
  { s with destroyedWebStates := webState :: s.destroyedWebStates }

/-! ### Dismissals -/

/-- Whether `OverlayWasDismissed` pops the queue: for a dismissal by the user,
while the queue is alive and the request was not removed before. -/
def PopsFrontRequest (s : System W B C) (b : B) (request : OverlayRequest W) (queue : W)
    (reason : OverlayDismissalReason) : Prop :=
  reason = .userInteraction ∧ queue ∉ s.destroyedWebStates ∧
    (s.browsers b).presenter.removedRequestAwaitingDismissal ≠ some request

instance (s : System W B C) (b : B) (request : OverlayRequest W) (queue : W)
    (reason : OverlayDismissalReason) : Decidable (s.PopsFrontRequest b request queue reason) :=
  inferInstanceAs (Decidable (_ ∧ _ ∧ _))

/-- The bookkeeping of `OverlayWasDismissed`, up to where the next overlay is
shown. -/
def endPresentation (s : System W B C) (b : B) (request : OverlayRequest W) (queue : W)
    (reason : OverlayDismissalReason) : System W B C :=
  let s := if s.PopsFrontRequest b request queue reason then s.popFrontRequest queue else s
  let s := s.modifyPresenter b fun presenter =>
    { presenter with
      presenting := false
      presentedRequest := none
      detachedPresentingRequestQueue := none }
  s.setRemovedRequest b none

/-- `OverlayWasDismissed`, bound to a context, a request and a queue. -/
def overlayWasDismissed (s : System W B C) (b : B) (context : C) (request : OverlayRequest W)
    (queue : W) (reason : OverlayDismissalReason) : System W B C :=
  if (s.browsers b).presenter.presentationContext ≠ some context then s
  else if (s.browsers b).presenter.detachedQueueReplacedDelegate then
    -- `PresentOverlayForActiveRequest` asks again whether there is an active request
    (s.modifyPresenter b fun presenter =>
      { presenter with presenting := false, detachedQueueReplacedDelegate := false }).modifyBrowser
        b (·.presentOverlayForActiveRequest factory s.queues)
  else
    let s := s.endPresentation b request queue reason
    if (s.browsers b).getActiveRequest s.queues ≠ some request then
      s.modifyBrowser b (·.presentOverlayForActiveRequest factory s.queues)
    else s

/-- `SetRequest(nullptr)` at the end of `OverlayUIWasDismissed`: a state dropped
while it has a callback runs it (`~OverlayRequestUIState`). -/
def resetRequest (s : System W B C) (b : B) (context : C) (request : OverlayRequest W) :
    System W B C :=
  let ctx := (s.browsers b).contexts context
  let s := match ctx.states request with
    | none => s
    | some state =>
      if OverlayPresentationContext.isFinal state.dismissalReason then
        let s := s.modifyBrowser b fun br => br.setContext context (ctx.setState request none)
        match state.dismissalCallback with
        | none => s
        | some queue => s.overlayWasDismissed factory b context request queue .cancellation
      else s
  s.modifyBrowser b fun br => br.setContext context (br.contexts context).clearRequest

/-- `OverlayUIDidFinishDismissal` and `OverlayUIWasDismissed` of a context. -/
def overlayUIWasDismissed (s : System W B C) (b : B) (context : C) : System W B C :=
  match ((s.browsers b).contexts context).shown with
  | none => s
  | some shown =>
    let s := s.modifyBrowser b fun br =>
      br.setContext context ((br.contexts context).takeCallback shown.request)
    let s := s.overlayWasDismissed factory b context shown.request shown.queue shown.reason
    if ((s.browsers b).contexts context).request = some shown.request then
      s.resetRequest factory b context shown.request
    else s

end System

/-! ## The machine -/

/-- What may happen to the system. -/
inductive Event (W B C : Type) where
  | edit (browser : B) (e : Edit W)
  | webStateDestroyed (webState : W)
  | addRequest (webState : W)
  | insertRequest (webState : W) (index : Nat)
  | cancelRequest (webState : W) (request : OverlayRequest W)
  | cancelAllRequests (webState : W)
  | setPresentationContext (browser : B) (presentationContext : Option C)
  | updatePresentationCapabilities (browser : B) (context : C)
      (capabilities : UIPresentationCapabilities)
  | presentationContextReady (browser : B) (context : C)
  | dismissedByUser (browser : B) (context : C)
  | overlayUIDidFinishDismissal (browser : B) (context : C)

section Machine

variable {W B C : Type} [DecidableEq W] [DecidableEq B] [DecidableEq C]

/-- A tab handed to a window is alive and in no window. -/
def System.Free (s : System W B C) (webState : W) : Prop :=
  webState ∉ s.destroyedWebStates ∧ ∀ b, webState ∉ (s.browsers b).webStateList.tabs

/-- The tab an edit puts into a window. -/
def editInserts : Edit W → Option W
  | .insert webState _ _ => some webState
  | .replace _ newWebState _ _ => some newWebState
  | _ => none

/-- When an event can happen. -/
def System.Enabled (s : System W B C) : Event W B C → Prop
  | .edit b e => e.Legal (s.browsers b).webStateList ∧ ∀ webState ∈ editInserts e, s.Free webState
  | .webStateDestroyed webState => s.Free webState
  | .addRequest webState => webState ∉ s.destroyedWebStates
  | .insertRequest webState index =>
    webState ∉ s.destroyedWebStates ∧ index ≤ (s.queues webState).requests.length
  | .cancelRequest webState _ => webState ∉ s.destroyedWebStates
  | .cancelAllRequests webState => webState ∉ s.destroyedWebStates
  | .setPresentationContext _ _ => True
  | .updatePresentationCapabilities _ _ _ => True
  | .presentationContextReady b context =>
    (s.browsers b).presenter.presentationContext = some context
  | .dismissedByUser b context =>
    ((s.browsers b).contexts context).isShowingOverlayUI = true ∧
      ((s.browsers b).contexts context).stopping = false
  | .overlayUIDidFinishDismissal b context =>
    ((s.browsers b).contexts context).isShowingOverlayUI = true ∧
      ((s.browsers b).contexts context).stopping = true

instance [Fintype B] (s : System W B C) (webState : W) : Decidable (s.Free webState) :=
  inferInstanceAs (Decidable (_ ∧ _))

instance [Fintype B] (s : System W B C) : (event : Event W B C) → Decidable (s.Enabled event)
  | .edit _ e =>
    inferInstanceAs (Decidable (_ ∧ ∀ webState ∈ editInserts e, s.Free webState))
  | .webStateDestroyed webState => inferInstanceAs (Decidable (s.Free webState))
  | .addRequest _ => inferInstanceAs (Decidable (_ ∉ _))
  | .insertRequest _ _ => inferInstanceAs (Decidable (_ ∧ _))
  | .cancelRequest _ _ => inferInstanceAs (Decidable (_ ∉ _))
  | .cancelAllRequests _ => inferInstanceAs (Decidable (_ ∉ _))
  | .setPresentationContext _ _ => isTrue trivial
  | .updatePresentationCapabilities _ _ _ => isTrue trivial
  | .presentationContextReady _ _ => inferInstanceAs (Decidable (_ = _))
  | .dismissedByUser _ _ => inferInstanceAs (Decidable (_ ∧ _))
  | .overlayUIDidFinishDismissal _ _ => inferInstanceAs (Decidable (_ ∧ _))

/-- What an event does. -/
def System.step (factory : OverlayRequestCoordinatorFactory W) (s : System W B C) :
    Event W B C → System W B C
  | .edit b e => s.edit factory b e
  | .webStateDestroyed webState => s.webStateDestroyed webState
  | .addRequest webState => s.addRequest factory webState
  | .insertRequest webState index => s.insertRequest factory webState index
  | .cancelRequest webState request => s.cancelRequest webState request
  | .cancelAllRequests webState => s.cancelAllRequests webState
  | .setPresentationContext b presentationContext =>
    s.modifyBrowser b (·.setPresentationContext factory s.queues presentationContext)
  | .updatePresentationCapabilities b context capabilities =>
    s.modifyBrowser b (·.updatePresentationCapabilities factory s.queues context capabilities)
  | .presentationContextReady b _ =>
    s.modifyBrowser b (·.presentationContextReady factory s.queues)
  | .dismissedByUser b context =>
    s.modifyBrowser b fun br => br.setContext context (br.contexts context).dismissByUser
  | .overlayUIDidFinishDismissal b context => s.overlayUIWasDismissed factory b context

/-- A window when it is made: no tabs, and no context given to its presenter. -/
def Browser.create (capabilities : C → UIPresentationCapabilities) : Browser W C where
  contexts context := { presentationCapabilities := capabilities context }

/-- The system from its start, when no window has a tab or a context. -/
def overlayMachine (W B C : Type) [DecidableEq W] [DecidableEq B] [DecidableEq C]
    (factory : OverlayRequestCoordinatorFactory W) :
    Lib.Machine (System W B C) (Event W B C) where
  init s := ∃ capabilities : B → C → UIPresentationCapabilities,
    s = { browsers := fun b => Browser.create (capabilities b) }
  pre s event := s.Enabled event
  step s event := s.step factory event

instance [Fintype B] (factory : OverlayRequestCoordinatorFactory W) (s : System W B C)
    (event : Event W B C) : Decidable ((overlayMachine W B C factory).pre s event) :=
  inferInstanceAs (Decidable (s.Enabled event))

/-- A factory whose coordinators are all child view controllers. -/
def childFactory (W : Type) : OverlayRequestCoordinatorFactory W := ⟨fun _ => true⟩

/-- The start, with contexts that can show everything. -/
def System.start (W B C : Type) : System W B C where
  browsers _ := Browser.create fun _ => ⟨true, true⟩

end Machine

end IosChrome.Overlays

import Mathlib.Logic.Function.Basic

/-!
# `OverlayPresentationContextImpl`: where overlay UI is shown

`overlay_presentation_context_impl.mm` shows the UI of one `OverlayRequest` at
a time (`request_`) and keeps an `OverlayRequestUIState` for every request it
has shown and may show again. The state holds the dismissal callback while the
UI is up (`has_callback`), and the reason the callback will be run with. The
reason is set to `kUserInteraction` when the UI is shown, so a dismissal by the
user does not set it; `HideOverlayUI` and `CancelOverlayUI` do, also when the
UI is already on its way out.

A dismissal ends later than it begins: `stopAnimated:` only starts it, and the
coordinator reports `OverlayUIDidFinishDismissal` at some other time. `stopping`
is that the coordinator has been told to stop. What happens at the end of a
dismissal runs the presenter's callback and is in `OverlayPresenter.lean`.

The dismissal callback is the presenter's `OverlayWasDismissed` bound to the
context, the request and the queue; the context and the request are where the
callback is stored, so the queue (named by its tab) is all it carries here.
View controllers, animations and the presentation callback (which only notifies
observers) have no counterpart.
-/

namespace IosChrome.Overlays

/-- An `OverlayRequest`: its identity, and the tab whose queue it was put in
(`set_queue_web_state`). -/
structure OverlayRequest (W : Type) where
  id : Nat
  queueWebState : W
  deriving DecidableEq, Repr

/-- `OverlayDismissalReason`. -/
inductive OverlayDismissalReason where
  | userInteraction
  | hiding
  | cancellation
  deriving DecidableEq, Repr

/-- `UIPresentationCapabilities`, a set of two flags. -/
structure UIPresentationCapabilities where
  contained : Bool
  presented : Bool
  deriving DecidableEq, Repr

/-- What the context asks its coordinator factory about a request. -/
structure OverlayRequestCoordinatorFactory (W : Type) where
  coordinatorForRequestUsesChildViewController : OverlayRequest W → Bool

/-- `OverlayRequestUIState`. -/
structure OverlayRequestUIState (W : Type) where
  dismissalCallback : Option W
  dismissalReason : OverlayDismissalReason
  deriving DecidableEq, Repr

/-- `OverlayPresentationContextImpl`. -/
structure OverlayPresentationContext (W : Type) where
  request : Option (OverlayRequest W) := none
  states : OverlayRequest W → Option (OverlayRequestUIState W) := fun _ => none
  presentationCapabilities : UIPresentationCapabilities
  stopping : Bool := false

/-- Overlay UI that is up: whose it is, the queue its callback carries, and the
reason the callback would be run with now. -/
structure Shown (W : Type) where
  request : OverlayRequest W
  queue : W
  reason : OverlayDismissalReason
  deriving DecidableEq, Repr

namespace OverlayPresentationContext

variable {W : Type}

/-- The callback of a request's state (`has_callback`). -/
def callback (ctx : OverlayPresentationContext W) (request : OverlayRequest W) : Option W :=
  (ctx.states request).bind (·.dismissalCallback)

/-- The UI that is up. -/
def shown (ctx : OverlayPresentationContext W) : Option (Shown W) :=
  ctx.request.bind fun request =>
    (ctx.states request).bind fun state =>
      state.dismissalCallback.map fun queue => ⟨request, queue, state.dismissalReason⟩

/-- `IsShowingOverlayUI`: until the dismissal callback has been executed. -/
def isShowingOverlayUI (ctx : OverlayPresentationContext W) : Bool := ctx.shown.isSome

/-- The request whose UI is up. -/
def displayed (ctx : OverlayPresentationContext W) : Option (OverlayRequest W) :=
  ctx.shown.map (·.request)

/-- `CanShowUIForRequest(request, capabilities)`. -/
def canShowUIForRequest (factory : OverlayRequestCoordinatorFactory W) (request : OverlayRequest W)
    (capabilities : UIPresentationCapabilities) : Bool :=
  if factory.coordinatorForRequestUsesChildViewController request then capabilities.contained
  else capabilities.presented

variable [DecidableEq W]

/-- `states_[request] = state`, or `states_.erase(request)`. -/
def setState (ctx : OverlayPresentationContext W) (request : OverlayRequest W)
    (state : Option (OverlayRequestUIState W)) : OverlayPresentationContext W :=
  { ctx with states := Function.update ctx.states request state }

/-- Whether the UI of a state dismissed for this reason may be shown again. -/
def isFinal : OverlayDismissalReason → Bool
  | .userInteraction => true
  | .cancellation => true
  | .hiding => false

/-- `SetRequest` with a request: the state of the one before is dropped if its
UI will never be shown again, and the coordinator of the new one starts. Its
callers have checked that no UI is up, so the dropped state has no callback. -/
def setRequest (ctx : OverlayPresentationContext W) (request : OverlayRequest W) :
    OverlayPresentationContext W :=
  if ctx.request = some request then ctx
  else
    let ctx' := match ctx.request with
      | none => ctx
      | some previous =>
        match ctx.states previous with
        | none => ctx
        | some state =>
          if isFinal state.dismissalReason then ctx.setState previous none else ctx
    { ctx' with request := some request, stopping := false }

/-- `ShowOverlayUI`. -/
def showOverlayUI (ctx : OverlayPresentationContext W) (request : OverlayRequest W) (queue : W) :
    OverlayPresentationContext W :=
  (ctx.setState request (some ⟨some queue, .userInteraction⟩)).setRequest request

/-- `DismissPresentedUI`. -/
def dismissPresentedUI (ctx : OverlayPresentationContext W) (reason : OverlayDismissalReason) :
    OverlayPresentationContext W :=
  match ctx.request with
  | none => ctx
  | some request =>
    match ctx.states request with
    | none => ctx
    | some state =>
      { ctx.setState request (some { state with dismissalReason := reason }) with stopping := true }

/-- `HideOverlayUI`: the request passed is only checked against `request_`. -/
def hideOverlayUI (ctx : OverlayPresentationContext W) (_request : OverlayRequest W) :
    OverlayPresentationContext W :=
  ctx.dismissPresentedUI .hiding

/-- `CancelOverlayUI`. -/
def cancelOverlayUI (ctx : OverlayPresentationContext W) (request : OverlayRequest W) :
    OverlayPresentationContext W :=
  match ctx.states request with
  | none => ctx
  | some state =>
    if state.dismissalCallback.isNone then ctx.setState request none
    else ctx.dismissPresentedUI .cancellation

/-- The user closes the UI: the coordinator stops, with the reason it has. -/
def dismissByUser (ctx : OverlayPresentationContext W) : OverlayPresentationContext W :=
  { ctx with stopping := true }

/-- The callback is moved out of the state to be run (`OverlayUIWasDismissed`). -/
def takeCallback (ctx : OverlayPresentationContext W) (request : OverlayRequest W) :
    OverlayPresentationContext W :=
  { ctx with
    states := Function.update ctx.states request
      ((ctx.states request).map ({ · with dismissalCallback := none }))
    stopping := false }

/-- `SetRequest(nullptr)`, once the callback of the presented request has run. -/
def clearRequest (ctx : OverlayPresentationContext W) : OverlayPresentationContext W :=
  { ctx with request := none }

/-! ## Only the presented request has a callback -/

/-- A state with a callback is the one of `request_`. -/
def Single (ctx : OverlayPresentationContext W) : Prop :=
  ∀ request, ctx.callback request ≠ none → ctx.request = some request

variable {ctx : OverlayPresentationContext W}

omit [DecidableEq W] in
theorem shown_eq_some {x : Shown W} :
    ctx.shown = some x ↔
      ctx.request = some x.request ∧ ctx.states x.request = some ⟨some x.queue, x.reason⟩ := by
  unfold shown
  simp only [Option.bind_eq_some_iff, Option.map_eq_some_iff]
  constructor
  · rintro ⟨request, hrequest, state, hstate, queue, hqueue, rfl⟩
    refine ⟨hrequest, ?_⟩
    rw [hstate, ← hqueue]
  · rintro ⟨hrequest, hstate⟩
    exact ⟨x.request, hrequest, _, hstate, x.queue, rfl, rfl⟩

omit [DecidableEq W] in
theorem shown_eq_none_of_request (h : ctx.request = none) :
    ctx.shown = none := by
  unfold shown
  rw [h, Option.bind_none]

omit [DecidableEq W] in
/-- The presented UI has its callback. -/
theorem callback_of_shown {x : Shown W} (h : ctx.shown = some x) :
    ctx.callback x.request = some x.queue := by
  unfold callback
  rw [(shown_eq_some.1 h).2]
  rfl

omit [DecidableEq W] in
/-- A callback is that of the presented UI. -/
theorem Single.shown (h : ctx.Single) {request : OverlayRequest W}
    (hcallback : ctx.callback request ≠ none) :
    ∃ x, ctx.shown = some x ∧ x.request = request := by
  have hrequest := h request hcallback
  unfold callback at hcallback
  obtain ⟨queue, hqueue⟩ := Option.ne_none_iff_exists'.1 hcallback
  obtain ⟨state, hstate, hstate'⟩ := Option.bind_eq_some_iff.1 hqueue
  refine ⟨⟨request, queue, state.dismissalReason⟩, shown_eq_some.2 ⟨hrequest, ?_⟩, rfl⟩
  rw [hstate, ← hstate']

omit [DecidableEq W] in
theorem Single.callback_eq_none (h : ctx.Single) (hshown : ctx.shown = none)
    (request : OverlayRequest W) : ctx.callback request = none := by
  by_contra hcallback
  obtain ⟨x, hx, _⟩ := h.shown hcallback
  rw [hshown] at hx
  cases hx

@[simp] theorem setState_request (ctx : OverlayPresentationContext W) (request : OverlayRequest W)
    (state : Option (OverlayRequestUIState W)) : (ctx.setState request state).request = ctx.request :=
  rfl

theorem setState_states (ctx : OverlayPresentationContext W) (request request' : OverlayRequest W)
    (state : Option (OverlayRequestUIState W)) :
    (ctx.setState request state).states request' =
      if request' = request then state else ctx.states request' :=
  Function.update_apply ..

theorem callback_setState (ctx : OverlayPresentationContext W) (request request' : OverlayRequest W)
    (state : Option (OverlayRequestUIState W)) :
    (ctx.setState request state).callback request' =
      if request' = request then state.bind (·.dismissalCallback) else ctx.callback request' := by
  unfold callback
  rw [setState_states]
  split
  · rfl
  · rfl

/-! ### `ShowOverlayUI` -/

theorem setRequest_request (ctx : OverlayPresentationContext W) (request : OverlayRequest W) :
    (ctx.setRequest request).request = some request := by
  unfold setRequest
  split
  next h => exact h
  next => rfl

/-- The states `SetRequest` may drop are not the one of the new request. -/
theorem setRequest_states_self (ctx : OverlayPresentationContext W) (request : OverlayRequest W) :
    (ctx.setRequest request).states request = ctx.states request := by
  unfold setRequest
  split
  next => rfl
  next hne =>
    show (match ctx.request with | none => _ | some previous => _ :
      OverlayPresentationContext W).states request = _
    split
    next => rfl
    next previous hprevious =>
      split
      next => rfl
      next =>
        split
        next =>
          rw [setState_states, if_neg]
          rintro rfl
          exact hne hprevious
        next => rfl

theorem setRequest_callback (request : OverlayRequest W) {request' : OverlayRequest W}
    (h : ctx.callback request' = none) :
    (ctx.setRequest request).callback request' = none := by
  unfold setRequest
  split
  next => exact h
  next =>
    show (match ctx.request with | none => _ | some previous => _ :
      OverlayPresentationContext W).callback request' = _
    split
    next => exact h
    next previous _ =>
      split
      next => exact h
      next =>
        split
        next =>
          rw [callback_setState]
          split
          · rfl
          · exact h
        next => exact h

/-- **After `ShowOverlayUI` the UI of the request is up**, to be dismissed for
user interaction unless the presenter says otherwise. -/
@[simp] theorem shown_showOverlayUI (ctx : OverlayPresentationContext W)
    (request : OverlayRequest W) (queue : W) :
    (ctx.showOverlayUI request queue).shown = some ⟨request, queue, .userInteraction⟩ := by
  unfold showOverlayUI
  refine shown_eq_some.2 ⟨setRequest_request _ _, ?_⟩
  rw [setRequest_states_self]
  exact Function.update_self ..

theorem Single.showOverlayUI (h : ctx.Single) (hshown : ctx.shown = none)
    (request : OverlayRequest W) (queue : W) :
    (ctx.showOverlayUI request queue).Single := by
  intro request' hcallback
  unfold OverlayPresentationContext.showOverlayUI at hcallback ⊢
  rw [setRequest_request]
  by_cases heq : request' = request
  · rw [heq]
  · exfalso
    apply hcallback
    apply setRequest_callback
    rw [callback_setState, if_neg heq]
    exact h.callback_eq_none hshown request'

/-! ### `HideOverlayUI` and `CancelOverlayUI` -/

theorem callback_dismissPresentedUI (ctx : OverlayPresentationContext W)
    (reason : OverlayDismissalReason) (request : OverlayRequest W) :
    (ctx.dismissPresentedUI reason).callback request = ctx.callback request := by
  unfold dismissPresentedUI
  split
  next => rfl
  next presented _ =>
    split
    next => rfl
    next state hstate =>
      show (ctx.setState presented _).callback request = _
      rw [callback_setState]
      split
      next heq =>
        unfold callback
        rw [heq, hstate]
        rfl
      next => rfl

@[simp] theorem dismissPresentedUI_request (ctx : OverlayPresentationContext W)
    (reason : OverlayDismissalReason) : (ctx.dismissPresentedUI reason).request = ctx.request := by
  unfold dismissPresentedUI
  split
  next => rfl
  next =>
    split
    next => rfl
    next => rfl

/-- **A dismissal sets the reason of the UI that is up** and nothing else of it. -/
@[simp] theorem shown_dismissPresentedUI (ctx : OverlayPresentationContext W)
    (reason : OverlayDismissalReason) :
    (ctx.dismissPresentedUI reason).shown = ctx.shown.map ({ · with reason := reason }) := by
  unfold dismissPresentedUI
  split
  next h => rw [shown_eq_none_of_request h]; rfl
  next request hrequest =>
    split
    next hstate =>
      unfold shown
      rw [hrequest, Option.bind_some, hstate, Option.bind_none, Option.map_none]
    next state hstate =>
      unfold shown setState
      simp only [hrequest, hstate, Option.bind_some, Function.update_self, Option.map_map]
      rfl

theorem Single.dismissPresentedUI (h : ctx.Single) (reason : OverlayDismissalReason) :
    (ctx.dismissPresentedUI reason).Single := by
  intro request hcallback
  rw [callback_dismissPresentedUI] at hcallback
  rw [dismissPresentedUI_request]
  exact h request hcallback

/-- **`CancelOverlayUI` cancels the UI of its request if it is up**, and only
drops hidden state otherwise. -/
theorem shown_cancelOverlayUI (h : ctx.Single) (request : OverlayRequest W) :
    (ctx.cancelOverlayUI request).shown =
      ctx.shown.map fun x => if x.request = request then { x with reason := .cancellation } else x := by
  have hother : ∀ x, ctx.shown = some x → x.request ≠ request →
      ctx.shown = ctx.shown.map fun x =>
        if x.request = request then { x with reason := .cancellation } else x := by
    intro x hx hne
    rw [hx, Option.map_some, if_neg hne]
  unfold cancelOverlayUI
  split
  next hstate =>
    cases hx : ctx.shown with
    | none => rfl
    | some x =>
      rw [← hx]
      apply hother x hx
      rintro rfl
      rw [(shown_eq_some.1 hx).2] at hstate
      cases hstate
  next state hstate =>
    split
    next hnone =>
      have hcallback : ctx.callback request = none := by
        unfold callback
        rw [hstate]
        exact Option.isNone_iff_eq_none.1 hnone
      cases hx : ctx.shown with
      | none =>
        cases hx' : (ctx.setState request none).shown with
        | none => rfl
        | some x =>
          obtain ⟨hrequest, hx'⟩ := shown_eq_some.1 hx'
          rw [setState_states] at hx'
          split at hx'
          · cases hx'
          · have hup : ctx.shown = some x := shown_eq_some.2 ⟨hrequest, hx'⟩
            rw [hx] at hup
            cases hup
      | some x =>
        have hne : x.request ≠ request := by
          rintro rfl
          rw [callback_of_shown hx] at hcallback
          cases hcallback
        obtain ⟨hrequest, hx'⟩ := shown_eq_some.1 hx
        rw [Option.map_some, if_neg hne]
        refine shown_eq_some.2 ⟨hrequest, ?_⟩
        rw [setState_states, if_neg hne, hx']
    next hsome =>
      have hcallback : ctx.callback request ≠ none := by
        unfold callback
        rw [hstate]
        intro hnone
        exact hsome (Option.isNone_iff_eq_none.2 hnone)
      obtain ⟨x, hx, rfl⟩ := h.shown hcallback
      rw [shown_dismissPresentedUI, hx, Option.map_some, Option.map_some, if_pos rfl]

theorem Single.cancelOverlayUI (h : ctx.Single) (request : OverlayRequest W) :
    (ctx.cancelOverlayUI request).Single := by
  unfold OverlayPresentationContext.cancelOverlayUI
  split
  next => exact h
  next =>
    split
    next =>
      intro request' hcallback
      rw [callback_setState] at hcallback
      split at hcallback
      · exact absurd rfl hcallback
      · exact h request' hcallback
    next => exact h.dismissPresentedUI _

/-! ### The end of a dismissal -/

theorem callback_takeCallback (ctx : OverlayPresentationContext W)
    (request request' : OverlayRequest W) :
    (ctx.takeCallback request).callback request' =
      if request' = request then none else ctx.callback request' := by
  unfold callback takeCallback
  simp only [Function.update_apply]
  split
  · cases ctx.states request <;> rfl
  · rfl

theorem Single.takeCallback (h : ctx.Single) (request : OverlayRequest W) :
    (ctx.takeCallback request).Single := by
  intro request' hcallback
  rw [callback_takeCallback] at hcallback
  split at hcallback
  · exact absurd rfl hcallback
  · exact h request' hcallback

/-- Once its callback is taken, no UI is up. -/
theorem shown_takeCallback {x : Shown W} (h : ctx.shown = some x) :
    (ctx.takeCallback x.request).shown = none := by
  cases hx : (ctx.takeCallback x.request).shown with
  | none => rfl
  | some y =>
    have hcallback := callback_of_shown hx
    have hrequest : ctx.request = some y.request := (shown_eq_some.1 hx).1
    have hsame : y.request = x.request :=
      Option.some.inj (hrequest.symm.trans (shown_eq_some.1 h).1)
    rw [callback_takeCallback, if_pos hsame] at hcallback
    cases hcallback

theorem Single.setState_none (h : ctx.Single) (request : OverlayRequest W) :
    (ctx.setState request none).Single := by
  intro request' hcallback
  rw [callback_setState] at hcallback
  split at hcallback
  · exact absurd rfl hcallback
  · exact h request' hcallback

/-- Dropping the state of the presented request leaves no UI up. -/
theorem shown_setState_none {request : OverlayRequest W} (h : ctx.request = some request) :
    (ctx.setState request none).shown = none := by
  unfold shown
  rw [setState_request, h, Option.bind_some, setState_states, if_pos rfl, Option.bind_none]

omit [DecidableEq W] in
theorem Single.clearRequest (h : ctx.Single) (hshown : ctx.shown = none) :
    ctx.clearRequest.Single := by
  intro request hcallback
  have hnone : ctx.clearRequest.callback request = none := h.callback_eq_none hshown request
  exact absurd hnone hcallback

omit [DecidableEq W] in
@[simp] theorem shown_clearRequest (ctx : OverlayPresentationContext W) :
    ctx.clearRequest.shown = none := shown_eq_none_of_request rfl

end OverlayPresentationContext

end IosChrome.Overlays

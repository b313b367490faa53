import IosChrome.Overlays.Ownership
import Mathlib.Logic.Relation

/-!
# The effects functions are made of

Most functions of the system are sequences of a few effects: UI hidden,
cancelled or shown through a presenter's context, a write to a presenter's
bookkeeping, requests taken out of a queue. `Effect` lists them, and for each
function `Effects` says that it is such a sequence. A property that every
effect keeps is then kept by all of these functions (`Effects.keeps`), and is
proved effect by effect. Removing requests, changing delegates and taking tabs
away only needs a few of them (`Upkeep`).

Not among them are the four places where the state of a presentation itself
changes: a new request added, a context given to a presenter, a dismissal
callback being run, and the context's own bookkeeping around it. These are
treated where the property is proved.
-/

set_option linter.unusedSectionVars false

namespace IosChrome.Overlays

open Tabs (ActiveWebStateChangeReason ObserverCall View Edit)

variable {W B C : Type} [DecidableEq W] [DecidableEq B] [DecidableEq C]

/-- A write to a presenter that starts and ends no presentation: the presented
request may only be forgotten, with the flag for that set. -/
structure SoftWrite (presenter presenter' : OverlayPresenterImpl W C) : Prop where
  presenting : presenter'.presenting = presenter.presenting
  presentationContext : presenter'.presentationContext = presenter.presentationContext
  presented : presenter'.presentedRequest = presenter.presentedRequest ∧
      presenter'.detachedQueueReplacedDelegate = presenter.detachedQueueReplacedDelegate ∨
    presenter.presentedRequest ≠ none ∧ presenter'.presentedRequest = none ∧
      presenter'.detachedQueueReplacedDelegate = true

theorem SoftWrite.of_eq {presenter presenter' : OverlayPresenterImpl W C}
    (hpresenting : presenter'.presenting = presenter.presenting)
    (hcontext : presenter'.presentationContext = presenter.presentationContext)
    (hpresented : presenter'.presentedRequest = presenter.presentedRequest)
    (hreplaced : presenter'.detachedQueueReplacedDelegate =
      presenter.detachedQueueReplacedDelegate) : SoftWrite presenter presenter' :=
  ⟨hpresenting, hcontext, .inl ⟨hpresented, hreplaced⟩⟩

theorem SoftWrite.presentedRequest {presenter presenter' : OverlayPresenterImpl W C}
    (h : SoftWrite presenter presenter') :
    presenter'.presentedRequest = presenter.presentedRequest ∨
      presenter'.presentedRequest = none := h.presented.imp (·.1) (·.2.1)

theorem SoftWrite.trans {presenter₁ presenter₂ presenter₃ : OverlayPresenterImpl W C}
    (h₁ : SoftWrite presenter₁ presenter₂) (h₂ : SoftWrite presenter₂ presenter₃) :
    SoftWrite presenter₁ presenter₃ := by
  refine ⟨h₂.presenting.trans h₁.presenting,
    h₂.presentationContext.trans h₁.presentationContext, ?_⟩
  rcases h₁.presented with ⟨hsame, hflag⟩ | ⟨hsome, hnone, hflag⟩
  · rw [← hsame, ← hflag]
    exact h₂.presented
  · rcases h₂.presented with ⟨hsame', hflag'⟩ | ⟨hsome', _⟩
    · exact .inr ⟨hsome, hsame'.trans hnone, hflag'.trans hflag⟩
    · exact absurd hnone hsome'

variable (factory : OverlayRequestCoordinatorFactory W)

/-- One effect. The capabilities of contexts change only if `caps`. -/
inductive Effect (caps : Prop) (s : System W B C) : System W B C → Prop where
  | hide (b : B) (request : OverlayRequest W) :
      Effect caps s (s.modifyBrowser b (·.hideOverlayUI request))
  | cancel (b : B) (request : Option (OverlayRequest W)) :
      Effect caps s (s.modifyBrowser b (·.cancelOverlayUIForRequest request))
  | present (b : B) (hidle : (s.browsers b).presenter.presenting = false) :
      Effect caps s (s.modifyBrowser b (·.presentOverlayForActiveRequest factory s.queues))
  | presenter (b : B) (f : OverlayPresenterImpl W C → OverlayPresenterImpl W C)
      (hsoft : SoftWrite (s.browsers b).presenter (f (s.browsers b).presenter)) :
      Effect caps s (s.modifyPresenter b f)
  | queue (webState : W) (f : OverlayRequestQueue W B → OverlayRequestQueue W B)
      (hsub : (f (s.queues webState)).requests.Sublist (s.queues webState).requests) :
      Effect caps s (s.modifyQueue webState f)
  | destroyRequest (request : OverlayRequest W) : Effect caps s (s.destroyRequest request)
  | capabilities (hcaps : caps) (b : B) (context : C) (capabilities : UIPresentationCapabilities) :
      Effect caps s (s.modifyBrowser b (·.setPresentationCapabilities context capabilities))
  | byUser (b : B) (context : C) : Effect caps s (s.modifyBrowser b fun br =>
      br.setContext context (br.contexts context).dismissByUser)
  | tabs (b : B) (v : View W) : Effect caps s (s.modifyBrowser b ({ · with webStateList := v }))
  | webStateDestroyed (webState : W) :
      Effect caps s { s with destroyedWebStates := webState :: s.destroyedWebStates }

/-- The effects of removing requests, of changing delegates and of taking tabs
away: nothing is shown or hidden, and the active tab stays. -/
inductive Upkeep (s : System W B C) : System W B C → Prop where
  | cancel (b : B) (request : Option (OverlayRequest W)) :
      Upkeep s (s.modifyBrowser b (·.cancelOverlayUIForRequest request))
  | presenter (b : B) (f : OverlayPresenterImpl W C → OverlayPresenterImpl W C)
      (hsoft : SoftWrite (s.browsers b).presenter (f (s.browsers b).presenter))
      (hactive : (f (s.browsers b).presenter).activeWebState =
        (s.browsers b).presenter.activeWebState) : Upkeep s (s.modifyPresenter b f)
  | queue (webState : W) (f : OverlayRequestQueue W B → OverlayRequestQueue W B)
      (hsub : (f (s.queues webState)).requests.Sublist (s.queues webState).requests) :
      Upkeep s (s.modifyQueue webState f)
  | destroyRequest (request : OverlayRequest W) : Upkeep s (s.destroyRequest request)

/-- A sequence of these. -/
abbrev Upkeeps (s s' : System W B C) : Prop := Relation.ReflTransGen Upkeep s s'

/-- A sequence of effects. -/
abbrev Effects (caps : Prop) (s s' : System W B C) : Prop :=
  Relation.ReflTransGen (Effect factory caps) s s'

variable {factory} {caps : Prop} {s s' : System W B C}

theorem Effect.effects (h : Effect factory caps s s') : Effects factory caps s s' :=
  .single h

/-- **What every effect keeps, a sequence of effects keeps.** -/
theorem Effects.keeps {P : System W B C → Prop}
    (hstep : ∀ {s s' : System W B C}, P s → Effect factory caps s s' → P s')
    (h : Effects factory caps s s') (hP : P s) : P s' := by
  induction h with
  | refl => exact hP
  | tail _ heffect ih => exact hstep ih heffect

theorem Upkeep.upkeeps (h : Upkeep s s') : Upkeeps s s' := .single h

theorem Upkeeps.keeps {P : System W B C → Prop}
    (hstep : ∀ {s s' : System W B C}, P s → Upkeep s s' → P s')
    (h : Upkeeps s s') (hP : P s) : P s' := by
  induction h with
  | refl => exact hP
  | tail _ hupkeep ih => exact hstep ih hupkeep

theorem Upkeep.activeWebState (h : Upkeep s s') (b : B) :
    (s'.browsers b).presenter.activeWebState = (s.browsers b).presenter.activeWebState := by
  cases h with
  | cancel b' request =>
    rw [System.modifyBrowser_browsers]
    split
    next heq =>
      rw [heq]
      unfold Browser.cancelOverlayUIForRequest
      split <;> rfl
    next => rfl
  | presenter b' f _ hactive =>
    unfold System.modifyPresenter
    rw [System.modifyBrowser_browsers]
    split
    next heq =>
      rw [heq]
      exact hactive
    next => rfl
  | queue webState f _ => rfl
  | destroyRequest request => rfl

theorem Upkeep.effect (h : Upkeep s s') : Effect factory caps s s' := by
  cases h with
  | cancel b request => exact .cancel b request
  | presenter b f hsoft _ => exact .presenter b f hsoft
  | queue webState f hsub => exact .queue webState f hsub
  | destroyRequest request => exact .destroyRequest request

theorem Upkeeps.effects (h : Upkeeps s s') : Effects factory caps s s' := by
  induction h with
  | refl => exact .refl
  | tail _ hupkeep ih => exact ih.tail hupkeep.effect

namespace System

/-! ## In one window -/

theorem modifyBrowser_congr {s : System W B C} {b : B} {f g : Browser W C → Browser W C}
    (h : f (s.browsers b) = g (s.browsers b)) : s.modifyBrowser b f = s.modifyBrowser b g := by
  unfold modifyBrowser
  rw [h]

theorem modifyBrowser_modifyBrowser (s : System W B C) (b : B) (f g : Browser W C → Browser W C) :
    (s.modifyBrowser b f).modifyBrowser b g = s.modifyBrowser b (fun br => g (f br)) := by
  unfold modifyBrowser
  simp only [Function.update_self, Function.update_idem]

theorem modifyBrowser_id (s : System W B C) (b : B) {f : Browser W C → Browser W C}
    (h : f (s.browsers b) = s.browsers b) : s.modifyBrowser b f = s := by
  unfold modifyBrowser
  rw [h, Function.update_eq_self]

/-- A window after effects in it, one after the other. -/
theorem effects_of_eq {s : System W B C} {b : B} {f : Browser W C → Browser W C}
    {br : Browser W C} (heq : f (s.browsers b) = br)
    (h : Effects factory caps s (s.modifyBrowser b fun _ => br)) :
    Effects factory caps s (s.modifyBrowser b f) := by
  rw [modifyBrowser_congr (g := fun _ => br) heq]
  exact h

theorem setActiveWebState_effects (s : System W B C) (b : B) (webState : Option W)
    (reason : ActiveWebStateChangeReason) :
    Effects factory caps s
      (s.modifyBrowser b (·.setActiveWebState factory s.queues webState reason)) := by
  have hactive : Effects factory caps s (s.modifyBrowser b (·.withActiveWebState webState)) :=
    (Effect.presenter b (fun presenter => { presenter with
      activeWebState := webState, detachingPresentingWebState := false })
      (.of_eq rfl rfl rfl rfl)).effects
  have hthen : ∀ {f : Browser W C → Browser W C},
      Effect factory caps (s.modifyBrowser b (·.withActiveWebState webState))
        ((s.modifyBrowser b (·.withActiveWebState webState)).modifyBrowser b f) →
      Effects factory caps s (s.modifyBrowser b fun _ =>
        f ((s.browsers b).withActiveWebState webState)) := by
    intro f heffect
    have h := hactive.tail heffect
    rw [modifyBrowser_modifyBrowser] at h
    exact h
  have h := Browser.setActiveWebState_cases factory s.queues (s.browsers b) webState reason
  refine effects_of_eq rfl ?_
  generalize (s.browsers b).setActiveWebState factory s.queues webState reason = br at h
  cases h with
  | same =>
    rw [modifyBrowser_id s b rfl]
  | ignored => exact hactive
  | present _ hidle =>
    refine hthen (f := (·.presentOverlayForActiveRequest factory s.queues)) (.present b ?_)
    rw [modifyBrowser_self]
    exact hidle
  | cancel request =>
    exact hthen (f := (·.cancelOverlayUIForRequest (some request))) (.cancel b (some request))
  | hide request => exact hthen (f := (·.hideOverlayUI request)) (.hide b request)

theorem requestAddedToQueue_effects (s : System W B C) (b : B) (webState : W)
    (request : OverlayRequest W) :
    Effects factory caps s
      (s.modifyBrowser b (·.requestAddedToQueue factory s.queues webState request)) := by
  have h := Browser.requestAddedToQueue_cases factory s.queues (s.browsers b) webState request
  refine effects_of_eq rfl ?_
  generalize (s.browsers b).requestAddedToQueue factory s.queues webState request = br at h
  cases h with
  | inactive => rw [modifyBrowser_id s b rfl]
  | present _ hidle => exact (Effect.present b hidle).effects
  | wait => rw [modifyBrowser_id s b rfl]
  | hide presented => exact (Effect.hide b presented).effects

theorem cancelAllOverlayUI_effects (s : System W B C) (b : B) :
    Effects factory caps s (s.modifyBrowser b (·.cancelAllOverlayUI s.queues)) := by
  have hloop : ∀ (tabs : List W) (s : System W B C) (queues : W → OverlayRequestQueue W B),
      Effects factory caps s (s.modifyBrowser b fun br => tabs.foldl
        (fun br webState => br.cancelOverlayUIForRequest (queues webState).frontRequest) br) := by
    intro tabs
    induction tabs with
    | nil =>
      intro s queues
      rw [modifyBrowser_id s b rfl]
    | cons webState tabs ih =>
      intro s queues
      have hnext := ih (s.modifyBrowser b
        (·.cancelOverlayUIForRequest (queues webState).frontRequest)) queues
      rw [modifyBrowser_modifyBrowser] at hnext
      exact .head (.cancel b (queues webState).frontRequest) hnext
  exact hloop (s.browsers b).webStateList.tabs s s.queues

theorem presentationContextReady_effects (s : System W B C) (b : B) :
    Effects factory caps s (s.modifyBrowser b (·.presentationContextReady factory s.queues)) := by
  refine effects_of_eq rfl ?_
  unfold Browser.presentationContextReady
  split
  next hidle => exact (Effect.present b (by simpa using hidle)).effects
  next => rw [modifyBrowser_id s b rfl]

theorem updatePresentationCapabilities_effects (hcaps : caps) (s : System W B C) (b : B)
    (context : C) (capabilities : UIPresentationCapabilities) :
    Effects factory caps s (s.modifyBrowser b
      (·.updatePresentationCapabilities factory s.queues context capabilities)) := by
  refine effects_of_eq rfl ?_
  unfold Browser.updatePresentationCapabilities
  split
  next => rw [modifyBrowser_id s b rfl]
  next =>
    split
    next => exact (Effect.capabilities hcaps b context capabilities).effects
    next =>
      have hwill : Effects factory caps s
          (s.modifyBrowser b (·.willChangePresentationCapabilities factory capabilities)) := by
        refine effects_of_eq rfl ?_
        unfold Browser.willChangePresentationCapabilities
        split
        next => rw [modifyBrowser_id s b rfl]
        next request _ =>
          split
          next => rw [modifyBrowser_id s b rfl]
          next => exact (Effect.hide b request).effects
      have hset := hwill.tail (.capabilities hcaps b context capabilities)
      rw [modifyBrowser_modifyBrowser] at hset
      have hready := hset.trans (presentationContextReady_effects _ b)
      rw [modifyBrowser_modifyBrowser] at hready
      exact hready

/-! ## Queues -/

theorem willReplaceDelegate_soft (presenter : OverlayPresenterImpl W C)
    (front : Option (OverlayRequest W)) :
    SoftWrite presenter (presenter.overlayRequestQueueWillReplaceDelegate front) := by
  unfold OverlayPresenterImpl.overlayRequestQueueWillReplaceDelegate
  split
  next => exact .of_eq rfl rfl rfl rfl
  next h =>
    rw [not_or, Option.isNone_iff_eq_none] at h
    exact ⟨rfl, rfl, .inr ⟨h.1, rfl, rfl⟩⟩

theorem willReplaceDelegate_active (presenter : OverlayPresenterImpl W C)
    (front : Option (OverlayRequest W)) :
    (presenter.overlayRequestQueueWillReplaceDelegate front).activeWebState =
      presenter.activeWebState := by
  unfold OverlayPresenterImpl.overlayRequestQueueWillReplaceDelegate
  split <;> rfl

theorem setDelegate_upkeeps (s : System W B C) (webState : W) (delegate : Option B) :
    Upkeeps s (s.setDelegate webState delegate) := by
  unfold setDelegate
  split
  next => exact .refl
  next =>
    simp only
    split
    next =>
      exact (Upkeep.queue webState ({ · with delegate := delegate })
        (List.Sublist.refl _)).upkeeps
    next b _ =>
      exact .head (.presenter b _ (willReplaceDelegate_soft _ _) (willReplaceDelegate_active _ _))
        (Upkeep.queue webState ({ · with delegate := delegate }) (List.Sublist.refl _)).upkeeps

theorem setRemovedRequest_upkeeps (s : System W B C) (b : B)
    (request : Option (OverlayRequest W)) :
    Upkeeps s (s.setRemovedRequest b request) := by
  have hwrite : Upkeeps s
      (s.modifyPresenter b ({ · with removedRequestAwaitingDismissal := request })) :=
    (Upkeep.presenter b ({ · with removedRequestAwaitingDismissal := request })
      (.of_eq rfl rfl rfl rfl) rfl).upkeeps
  unfold setRemovedRequest
  simp only
  split
  next => exact hwrite
  next held _ => exact hwrite.tail (.destroyRequest held)

theorem holdRequest_upkeeps (s : System W B C) (b : B) (webState : W)
    (request : OverlayRequest W) : Upkeeps s (s.holdRequest b webState request) := by
  have hset : Upkeeps s (s.setRemovedRequest b (some request)) :=
    setRemovedRequest_upkeeps s b _
  unfold holdRequest
  simp only
  split
  next =>
    exact (hset.tail (.presenter b ({ · with detachedPresentingRequestQueue := none })
      (.of_eq rfl rfl rfl rfl) rfl)).trans (setDelegate_upkeeps _ webState none)
  next => exact hset

theorem cancelRemoved_upkeeps (s : System W B C) (b : B) (request : OverlayRequest W)
    (cancelled : Bool) : Upkeeps s (s.cancelRemoved b request cancelled) := by
  unfold cancelRemoved
  split
  · exact (Upkeep.cancel b (some request)).upkeeps
  · exact .refl

theorem overlayRequestRemoved_upkeeps (s : System W B C) (b : B) (webState : W)
    (request : OverlayRequest W) (cancelled : Bool) :
    Upkeeps s (s.overlayRequestRemoved b webState request cancelled) := by
  unfold overlayRequestRemoved
  split
  · exact (holdRequest_upkeeps s b webState request).trans (cancelRemoved_upkeeps _ b request _)
  · exact (cancelRemoved_upkeeps s b request cancelled).tail (.destroyRequest request)

theorem removeRequest_upkeeps (s : System W B C) (webState : W) (index : Nat) (cancelled : Bool) :
    Upkeeps s (s.removeRequest webState index cancelled) := by
  unfold removeRequest
  split
  next => exact .refl
  next request _ =>
    have htake : Upkeep s (s.modifyQueue webState fun queue =>
        { queue with requests := queue.requests.eraseIdx index }) :=
      .queue webState _ (List.eraseIdx_sublist _ _)
    simp only
    split
    next => exact .head htake (Upkeep.destroyRequest request).upkeeps
    next b _ => exact .head htake (overlayRequestRemoved_upkeeps _ b webState request cancelled)

theorem cancelRequest_upkeeps (s : System W B C) (webState : W) (request : OverlayRequest W) :
    Upkeeps s (s.cancelRequest webState request) := by
  unfold cancelRequest
  split
  · exact .refl
  · exact removeRequest_upkeeps s webState _ true

theorem cancelAllLoop_upkeeps (webState : W) (rounds : Nat) (s : System W B C) :
    Upkeeps s (cancelAllLoop webState rounds s) := by
  induction rounds generalizing s with
  | zero => exact .refl
  | succ rounds ih => exact (removeRequest_upkeeps s webState _ true).trans (ih _)

/-! ## Tabs -/

theorem webStateAddedToBrowser_upkeeps (s : System W B C) (b : B) (webState : W) :
    Upkeeps s (s.webStateAddedToBrowser b webState) :=
  .head (.queue webState _ (List.Sublist.refl _)) (setDelegate_upkeeps _ webState _)

theorem webStateRemovedFromBrowser_upkeeps (s : System W B C) (b : B) (webState : W) :
    Upkeeps s (s.webStateRemovedFromBrowser b webState) := by
  unfold webStateRemovedFromBrowser
  simp only
  refine .head (.queue webState (fun queue =>
    { queue with observers := queue.observers.filter (· ≠ b) }) (List.Sublist.refl _)) ?_
  generalize s.modifyQueue webState _ = s₁
  have hdelegate : Upkeeps s₁ (if (s₁.browsers b).presenter.presentedRequest.any
      (·.queueWebState = webState) then s₁ else s₁.setDelegate webState none) := by
    split
    · exact .refl
    · exact setDelegate_upkeeps s₁ webState none
  refine hdelegate.trans ?_
  generalize (if (s₁.browsers b).presenter.presentedRequest.any
      (·.queueWebState = webState) then s₁ else s₁.setDelegate webState none) = s₂
  split
  · exact (Upkeep.presenter b ({ · with detachedPresentingRequestQueue := some webState })
      (.of_eq rfl rfl rfl rfl) rfl).upkeeps
  · exact (Upkeep.cancel b _).upkeeps

theorem willDetachWebStateAt_upkeeps (s : System W B C) (b : B) (webState : W) :
    Upkeeps s (s.willDetachWebStateAt b webState) :=
  .head (.presenter b _ (.of_eq rfl rfl rfl rfl) rfl) (webStateRemovedFromBrowser_upkeeps _ b webState)

theorem onCall_effects (b : B) (s : System W B C) (call : ObserverCall W) :
    Effects factory caps s (s.onCall factory b call) := by
  cases call with
  | webStateInsertedAt webState index activating =>
    exact (webStateAddedToBrowser_upkeeps s b webState).effects
  | webStateReplacedAt oldWebState newWebState index =>
    exact (webStateRemovedFromBrowser_upkeeps s b oldWebState).effects.trans
      (webStateAddedToBrowser_upkeeps _ b newWebState).effects
  | willDetachWebStateAt webState index => exact (willDetachWebStateAt_upkeeps s b webState).effects
  | webStateActivatedAt oldWebState newWebState activeIndex reason =>
    exact setActiveWebState_effects s b newWebState reason
  | webStateMoved webState fromIndex toIndex => exact .refl
  | webStateDetachedAt webState index => exact .refl
  | willCloseWebStateAt webState index userAction => exact .refl
  | willBeginBatchOperation => exact .refl
  | batchOperationEnded => exact .refl

theorem edit_effects (s : System W B C) (b : B) (e : Edit W) :
    Effects factory caps s (s.edit factory b e) := by
  have hcalls : ∀ (calls : List (ObserverCall W)) (s : System W B C),
      Effects factory caps s (calls.foldl (onCall factory b) s) := by
    intro calls
    induction calls with
    | nil => exact fun s => .refl
    | cons call calls ih => exact fun s => (onCall_effects b s call).trans (ih _)
  exact (hcalls _ s).tail (.tabs b _)

theorem webStateDestroyed_effects (s : System W B C) (webState : W) :
    Effects factory caps s (s.webStateDestroyed webState) :=
  .head (.queue webState ({ · with observers := [] }) (List.Sublist.refl _))
    ((cancelAllLoop_upkeeps webState _ _).effects.tail (.webStateDestroyed webState))

theorem requestsAdded_effects (observers : List B) (webState : W) (request : OverlayRequest W)
    (s : System W B C) :
    Effects factory caps s (observers.foldl (fun s b => s.modifyBrowser b fun br =>
      br.requestAddedToQueue factory s.queues webState request) s) := by
  induction observers generalizing s with
  | nil => exact .refl
  | cons b observers ih => exact (requestAddedToQueue_effects s b webState request).trans (ih _)

end System

end IosChrome.Overlays

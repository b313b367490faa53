import IosChrome.Overlays.PresentingRuns

/-!
# Presenters that keep their context

In the app a window's presenter is given its context once. Along such runs
(`KeepsContext`) the presenter's fields can be trusted, and this file collects
what the properties of the following files need:

* `Steady`: `presenting_` and `presented_request_` are right, the presented
  request is only forgotten with `detached_queue_replaced_delegate_` set, and
  no UI is up outside the presenter's context;
* `HeldPresented`: the request held back until its dismissal is the presented
  one. A dismissal that ends therefore never destroys a request that another
  one would need;
* `step_tracked`: every event keeps both;
* `overlayUIWasDismissed_cases`: what is up in the window after a dismissal has
  ended, and why.
-/

set_option linter.unusedSectionVars false

namespace IosChrome.Overlays

open Tabs (ActiveWebStateChangeReason ObserverCall View Edit)

variable {W B C : Type} [DecidableEq W] [DecidableEq B] [DecidableEq C]
variable {factory : OverlayRequestCoordinatorFactory W} {caps : Prop}
variable {s : System W B C} {b : B} {context : C} {request : OverlayRequest W}

/-- A presenter that has a context is given no other. -/
def System.KeepsContext (s : System W B C) : Event W B C → Prop
  | .setPresentationContext b _ => (s.browsers b).presenter.presentationContext = none
  | _ => True

instance (s : System W B C) : (event : Event W B C) → Decidable (s.KeepsContext event)
  | .setPresentationContext b _ =>
    inferInstanceAs (Decidable ((s.browsers b).presenter.presentationContext = none))
  | .edit .. => isTrue trivial
  | .webStateDestroyed _ => isTrue trivial
  | .addRequest _ => isTrue trivial
  | .insertRequest .. => isTrue trivial
  | .cancelRequest .. => isTrue trivial
  | .cancelAllRequests _ => isTrue trivial
  | .updatePresentationCapabilities .. => isTrue trivial
  | .presentationContextReady .. => isTrue trivial
  | .dismissedByUser .. => isTrue trivial
  | .overlayUIDidFinishDismissal .. => isTrue trivial

/-! ## The presented request after a reaction -/

namespace Browser

@[simp] theorem hideOverlayUI_presenter (br : Browser W C) (request : OverlayRequest W) :
    (br.hideOverlayUI request).presenter = br.presenter := by
  unfold hideOverlayUI
  split <;> rfl

@[simp] theorem cancelOverlayUIForRequest_presenter (br : Browser W C)
    (request : Option (OverlayRequest W)) :
    (br.cancelOverlayUIForRequest request).presenter = br.presenter := by
  unfold cancelOverlayUIForRequest
  split <;> rfl

theorem setActiveWebState_presented (queues : W → OverlayRequestQueue W B) (br : Browser W C)
    (webState : Option W) (reason : ActiveWebStateChangeReason) :
    (br.setActiveWebState factory queues webState reason).presenter.presentedRequest =
      br.presenter.presentedRequest ∨ br.presenter.presenting = false := by
  have h := setActiveWebState_cases factory queues br webState reason
  generalize br.setActiveWebState factory queues webState reason = br' at h
  cases h with
  | same => exact .inl rfl
  | ignored => exact .inl rfl
  | present _ hidle => exact .inr hidle
  | cancel => exact .inl (by rw [cancelOverlayUIForRequest_presenter]; rfl)
  | hide => exact .inl (by rw [hideOverlayUI_presenter]; rfl)

theorem requestAddedToQueue_presented (queues : W → OverlayRequestQueue W B) (br : Browser W C)
    (webState : W) (request : OverlayRequest W) :
    (br.requestAddedToQueue factory queues webState request).presenter.presentedRequest =
      br.presenter.presentedRequest ∨ br.presenter.presenting = false := by
  have h := requestAddedToQueue_cases factory queues br webState request
  generalize br.requestAddedToQueue factory queues webState request = br' at h
  cases h with
  | inactive => exact .inl rfl
  | present _ hidle => exact .inr hidle
  | wait => exact .inl rfl
  | hide => exact .inl (by rw [hideOverlayUI_presenter])

variable (factory) in
theorem presentationContextReady_presented (queues : W → OverlayRequestQueue W B)
    (br : Browser W C) :
    (br.presentationContextReady factory queues).presenter.presentedRequest =
      br.presenter.presentedRequest ∨ br.presenter.presenting = false := by
  unfold presentationContextReady
  split
  next hidle => exact .inr (by simpa using hidle)
  next => exact .inl rfl

theorem willChangePresentationCapabilities_presenter (br : Browser W C)
    (capabilities : UIPresentationCapabilities) :
    (br.willChangePresentationCapabilities factory capabilities).presenter = br.presenter := by
  unfold willChangePresentationCapabilities
  split
  · rfl
  · split
    · rfl
    · rw [hideOverlayUI_presenter]

theorem updatePresentationCapabilities_presented (queues : W → OverlayRequestQueue W B)
    (br : Browser W C) (context : C) (capabilities : UIPresentationCapabilities) :
    (br.updatePresentationCapabilities factory queues context
      capabilities).presenter.presentedRequest = br.presenter.presentedRequest ∨
      br.presenter.presenting = false := by
  unfold updatePresentationCapabilities
  split
  · exact .inl rfl
  · split
    · exact .inl rfl
    · have h := presentationContextReady_presented factory queues
        ((br.willChangePresentationCapabilities factory capabilities).setPresentationCapabilities
          context capabilities)
      have hsame : ((br.willChangePresentationCapabilities factory
          capabilities).setPresentationCapabilities context capabilities).presenter =
            br.presenter := willChangePresentationCapabilities_presenter br capabilities
      rw [hsame] at h
      exact h

end Browser

/-! ## The request held back -/

namespace System

theorem setRemovedRequest_of_ne (s : System W B C) {b b' : B} (h : b' ≠ b)
    (request : Option (OverlayRequest W)) :
    (s.setRemovedRequest b request).browsers b' = s.browsers b' := by
  have hwrite : (s.modifyPresenter b
      ({ · with removedRequestAwaitingDismissal := request })).browsers b' = s.browsers b' :=
    modifyBrowser_of_ne s h _
  unfold setRemovedRequest
  simp only
  split
  · exact hwrite
  · exact hwrite

/-- The request a presenter holds back is the one it presents. -/
structure HeldPresented (loose : Option (OverlayRequest W)) (s : System W B C) : Prop where
  owned : s.OwnedWith loose
  presented : ∀ b request, s.held b = some request →
    (s.browsers b).presenter.presentedRequest = some request

namespace HeldPresented

variable {loose : Option (OverlayRequest W)}

theorem kept {s s' : System W B C} (h : s.HeldPresented loose) (hk : Kept s s')
    (hpresented : ∀ b, (s'.browsers b).presenter.presentedRequest =
      (s.browsers b).presenter.presentedRequest ∨ s.held b = none) : s'.HeldPresented loose := by
  refine ⟨h.owned.kept hk, fun b request hb => ?_⟩
  have hb' : s.held b = some request := ((hk.browsers b).removed).symm.trans hb
  rcases hpresented b with hsame | hnone
  · exact hsame.trans (h.presented b request hb')
  · rw [hnone] at hb'
    cases hb'

/-- A held request is in no queue, so it is not forgotten with a delegate. -/
theorem setDelegate (h : s.HeldPresented loose) (webState : W) (delegate : Option B) :
    (s.setDelegate webState delegate).HeldPresented loose := by
  refine h.kept (setDelegate_kept s webState delegate) fun b => ?_
  rcases setDelegate_presenter s webState delegate b with
    hsame | ⟨_, _, request, hrequest, hfront, _⟩
  · exact .inl (by rw [hsame])
  · right
    by_contra hne
    obtain ⟨held, hheld⟩ := Option.ne_none_iff_exists'.1 hne
    have heq : held = request :=
      Option.some.inj ((h.presented b held hheld).symm.trans hrequest)
    rw [heq] at hheld
    exact (h.owned.held b request hheld).2.1
      (h.owned.queued_of_mem (List.mem_of_head? hfront))

theorem take (h : s.HeldPresented none) {webState : W} {index : Nat}
    (hget : (s.queues webState).requests[index]? = some request) :
    (s.modifyQueue webState fun queue =>
      { queue with requests := queue.requests.eraseIdx index }).HeldPresented (some request) :=
  ⟨OwnedWith.take h.owned hget, h.presented⟩

theorem destroyRequest (h : s.HeldPresented (some request)) :
    (s.destroyRequest request).HeldPresented none :=
  ⟨h.owned.destroyRequest, h.presented⟩

theorem setRemovedRequest {request : Option (OverlayRequest W)} (h : s.HeldPresented request)
    (hrequest : ∀ r, request = some r → (s.browsers b).presenter.presentedRequest = some r) :
    (s.setRemovedRequest b request).HeldPresented none := by
  refine ⟨h.owned.setRemovedRequest b, fun b' r hb' => ?_⟩
  have hwindow : (s.setRemovedRequest b request).browsers b' = if b' = b then
      (s.browsers b).setPresenter { (s.browsers b).presenter with
        removedRequestAwaitingDismissal := request } else s.browsers b' := by
    split
    next heq => rw [heq, setRemovedRequest_presenter]
    next hne => exact setRemovedRequest_of_ne s hne request
  unfold System.held at hb'
  rw [hwindow] at hb' ⊢
  split at hb'
  next heq =>
    rw [if_pos heq]
    exact hrequest r hb'
  next hne =>
    rw [if_neg hne]
    exact h.presented b' r hb'

theorem cancelRemoved (h : s.HeldPresented loose) (b : B) (request : OverlayRequest W)
    (cancelled : Bool) :
    (s.cancelRemoved b request cancelled).HeldPresented loose := by
  refine h.kept (cancelRemoved_kept s b request cancelled) fun b' => .inl ?_
  unfold System.cancelRemoved
  split
  · rw [modifyBrowser_browsers]
    split
    next heq => rw [heq, Browser.cancelOverlayUIForRequest_presenter]
    next => rfl
  · rfl

theorem holdRequest (h : s.HeldPresented (some request)) (webState : W)
    (hpresented : (s.browsers b).presenter.presentedRequest = some request) :
    (s.holdRequest b webState request).HeldPresented none := by
  have hset : (s.setRemovedRequest b (some request)).HeldPresented none :=
    h.setRemovedRequest fun r hr => by cases hr; exact hpresented
  unfold System.holdRequest
  simp only
  split
  next =>
    refine setDelegate (hset.kept (modifyPresenter_kept _ b rfl) fun b' => .inl ?_) webState none
    unfold modifyPresenter
    rw [modifyBrowser_browsers]
    split
    next heq => rw [heq]; rfl
    next => rfl
  next => exact hset

theorem overlayRequestRemoved (h : s.HeldPresented (some request)) (b : B) (webState : W)
    (cancelled : Bool) :
    (s.overlayRequestRemoved b webState request cancelled).HeldPresented none := by
  unfold System.overlayRequestRemoved
  split
  next hpresented => exact (h.holdRequest webState hpresented).cancelRemoved b request cancelled
  next => exact (h.cancelRemoved b request cancelled).destroyRequest

theorem removeRequest (h : s.HeldPresented none) (webState : W) (index : Nat) (cancelled : Bool) :
    (s.removeRequest webState index cancelled).HeldPresented none := by
  unfold System.removeRequest
  split
  next => exact h
  next request hget =>
    simp only
    split
    next => exact (h.take hget).destroyRequest
    next b _ => exact (h.take hget).overlayRequestRemoved b webState cancelled

theorem cancelAllLoop (h : s.HeldPresented none) (webState : W) (rounds : Nat) :
    (cancelAllLoop webState rounds s).HeldPresented none := by
  induction rounds generalizing s with
  | zero => exact h
  | succ rounds ih => exact ih (h.removeRequest webState _ true)

/-- A write to one window that keeps the presented request, or finds the
presenter idle. -/
theorem modifyBrowser (h : s.HeldPresented none)
    {f : Browser W C → Browser W C} (hk : Browser.Kept (s.browsers b) (f (s.browsers b)))
    (hpresented : (f (s.browsers b)).presenter.presentedRequest =
      (s.browsers b).presenter.presentedRequest ∨
      (s.browsers b).presenter.presentedRequest = none) :
    (s.modifyBrowser b f).HeldPresented none := by
  refine h.kept (modifyBrowser_kept s b hk) fun b' => ?_
  rw [modifyBrowser_browsers]
  split
  next heq =>
    rw [heq]
    rcases hpresented with hsame | hnone
    · exact .inl hsame
    · right
      by_contra hne
      obtain ⟨held, hheld⟩ := Option.ne_none_iff_exists'.1 hne
      rw [h.presented b held hheld] at hnone
      cases hnone
  next => exact .inl rfl

theorem modifyQueue (h : s.HeldPresented loose) (webState : W)
    {f : OverlayRequestQueue W B → OverlayRequestQueue W B}
    (hf : (f (s.queues webState)).requests = (s.queues webState).requests) :
    (s.modifyQueue webState f).HeldPresented loose :=
  h.kept (modifyQueue_kept s webState hf) fun _ => .inl rfl

theorem webStateAddedToBrowser (h : s.HeldPresented none) (b : B) (webState : W) :
    (s.webStateAddedToBrowser b webState).HeldPresented none :=
  setDelegate (h.modifyQueue webState rfl) webState (some b)

theorem webStateRemovedFromBrowser (h : s.HeldPresented none) (b : B) (webState : W) :
    (s.webStateRemovedFromBrowser b webState).HeldPresented none := by
  have hobserver : (s.modifyQueue webState fun queue =>
      { queue with observers := queue.observers.filter (· ≠ b) }).HeldPresented none :=
    h.modifyQueue webState rfl
  unfold System.webStateRemovedFromBrowser
  simp only
  generalize s.modifyQueue webState _ = s₁ at hobserver
  have hdelegate : (if (s₁.browsers b).presenter.presentedRequest.any
      (·.queueWebState = webState) then s₁ else s₁.setDelegate webState none).HeldPresented
        none := by
    split
    · exact hobserver
    · exact hobserver.setDelegate webState none
  generalize (if (s₁.browsers b).presenter.presentedRequest.any
      (·.queueWebState = webState) then s₁ else s₁.setDelegate webState none) = s₂ at hdelegate
  split
  · exact hdelegate.modifyBrowser ⟨rfl, rfl⟩ (.inl rfl)
  · exact hdelegate.modifyBrowser (Browser.cancelOverlayUIForRequest_kept _ _)
      (.inl (by rw [Browser.cancelOverlayUIForRequest_presenter]))

theorem willDetachWebStateAt (h : s.HeldPresented none) (b : B) (webState : W) :
    (s.willDetachWebStateAt b webState).HeldPresented none :=
  webStateRemovedFromBrowser (h.modifyBrowser ⟨rfl, rfl⟩ (.inl rfl)) b webState

end HeldPresented

end System

/-! ## The fields along runs that keep their contexts -/

/-- The fields of a window are right, the presented request is forgotten only
with the flag set, and no UI is up outside the presenter's context. -/
structure Browser.Steady (br : Browser W C) : Prop where
  exact : br.PresentingExact
  replaced : br.presenter.detachedQueueReplacedDelegate = true ↔
    br.presenter.presenting = true ∧ br.presenter.presentedRequest = none
  elsewhere : ∀ context, br.presenter.presentationContext ≠ some context →
    (br.contexts context).shown = none

namespace Browser

theorem Steady.presented_none {br : Browser W C} (h : br.Steady)
    (hidle : br.presenter.presenting = false) : br.presenter.presentedRequest = none := by
  by_contra hne
  obtain ⟨request, hrequest⟩ := Option.ne_none_iff_exists'.1 hne
  obtain ⟨x, hx, _⟩ := h.exact.presented request hrequest
  have hpresenting : br.presenter.presenting = true := by
    rw [h.exact.presenting, hx]
    exact nofun
  rw [hidle] at hpresenting
  cases hpresenting

theorem Steady.not_replaced {br : Browser W C} (h : br.Steady)
    (hidle : br.presenter.presenting = false) :
    br.presenter.detachedQueueReplacedDelegate = false := by
  rw [← Bool.not_eq_true]
  intro hflag
  exact Bool.noConfusion (hidle.symm.trans (h.replaced.1 hflag).1)

theorem Steady.quiet {br br' : Browser W C} (h : br.Steady) (hsingle : br.Single)
    (hquiet : Quiet br br') : br'.Steady := by
  refine ⟨hquiet.exact hsingle h.exact, ?_, fun context hcontext => ?_⟩
  · rw [hquiet.presenter.presenting]
    rcases hquiet.presenter.presented with ⟨hsame, hflag⟩ | ⟨hsome, hnone, hflag⟩
    · rw [hsame, hflag]
      exact h.replaced
    · obtain ⟨request, hrequest⟩ := Option.ne_none_iff_exists'.1 hsome
      obtain ⟨x, hx, _⟩ := h.exact.presented request hrequest
      have hpresenting : br.presenter.presenting = true := by
        rw [h.exact.presenting, hx]
        exact nofun
      exact ⟨fun _ => ⟨hpresenting, hnone⟩, fun _ => hflag⟩
  · rw [hquiet.presenter.presentationContext] at hcontext
    exact (hquiet.contexts context).shown_eq_none (hsingle context) (h.elsewhere context hcontext)

theorem Steady.shows {queues : W → OverlayRequestQueue W B} {br br' : Browser W C} {webState : W}
    (h : br.Steady) (hidle : br.presenter.presenting = false)
    (hshows : Shows factory queues br br' context webState request) : br'.Steady := by
  refine ⟨hshows.exact, ?_, fun context' hcontext' => ?_⟩
  · rw [hshows.presented, hshows.result]
    constructor
    · intro hflag
      exact absurd ((h.not_replaced hidle).symm.trans hflag) Bool.false_ne_true
    · rintro ⟨_, hnone⟩
      cases hnone
  · rw [hshows.result] at hcontext' ⊢
    have hcontext'' : br.presenter.presentationContext ≠ some context' := hcontext'
    have hne : context' ≠ context := by
      rintro rfl
      exact hcontext'' hshows.presentationContext
    show (Function.update br.contexts context _ context').shown = none
    rw [Function.update_of_ne hne]
    exact h.elsewhere context' hcontext''

theorem Steady.present {br : Browser W C} (h : br.Steady)
    (hidle : br.presenter.presenting = false) (queues : W → OverlayRequestQueue W B) :
    (br.presentOverlayForActiveRequest factory queues).Steady := by
  rcases presentOverlayForActiveRequest_cases factory queues br with
    ⟨context, webState, request, hshows⟩ | ⟨hsame, _⟩
  · exact h.shows hidle hshows
  · rw [hsame]
    exact h

end Browser

/-- The fields of all windows along such runs. -/
structure System.Steady (s : System W B C) : Prop where
  single : s.Single
  windows : ∀ b, (s.browsers b).Steady

/-- An effect keeps the fields of a window right. -/
theorem Effect.steadyAt {s s' : System W B C} (h : Effect factory caps s s') (hsingle : s.Single)
    (hsteady : (s.browsers b).Steady) : (s'.browsers b).Steady := by
  rcases h.window b with hquiet | ⟨hidle, context, webState, request, hshows⟩
  · exact hsteady.quiet (hsingle b) hquiet
  · exact hsteady.shows hidle hshows

theorem Effect.steady {s s' : System W B C} (h : Effect factory caps s s') (hsteady : s.Steady) :
    s'.Steady :=
  ⟨h.single hsteady.single, fun b => h.steadyAt hsteady.single (hsteady.windows b)⟩

namespace System

theorem Effects.steady {s s' : System W B C} (h : Effects factory caps s s') (hsteady : s.Steady) :
    s'.Steady := h.keeps (fun hs he => he.steady hs) hsteady

/-! ## The end of a dismissal -/

/-- The presenter presents what it did, in the same context, for the same tab. -/
structure SamePresentation (presenter presenter' : OverlayPresenterImpl W C) : Prop where
  presenting : presenter'.presenting = presenter.presenting
  presented : presenter'.presentedRequest = presenter.presentedRequest
  replaced : presenter'.detachedQueueReplacedDelegate = presenter.detachedQueueReplacedDelegate
  presentationContext : presenter'.presentationContext = presenter.presentationContext
  activeWebState : presenter'.activeWebState = presenter.activeWebState

theorem SamePresentation.refl (presenter : OverlayPresenterImpl W C) :
    SamePresentation presenter presenter := ⟨rfl, rfl, rfl, rfl, rfl⟩

theorem SamePresentation.trans {presenter₁ presenter₂ presenter₃ : OverlayPresenterImpl W C}
    (h₁ : SamePresentation presenter₁ presenter₂) (h₂ : SamePresentation presenter₂ presenter₃) :
    SamePresentation presenter₁ presenter₃ :=
  ⟨h₂.presenting.trans h₁.presenting, h₂.presented.trans h₁.presented,
    h₂.replaced.trans h₁.replaced, h₂.presentationContext.trans h₁.presentationContext,
    h₂.activeWebState.trans h₁.activeWebState⟩

theorem modifyPresenter_samePresentation (s : System W B C) (b : B)
    {f : OverlayPresenterImpl W C → OverlayPresenterImpl W C}
    (hf : SamePresentation (s.browsers b).presenter (f (s.browsers b).presenter)) (b' : B) :
    SamePresentation (s.browsers b').presenter ((s.modifyPresenter b f).browsers b').presenter := by
  unfold modifyPresenter
  rw [modifyBrowser_browsers]
  split
  next heq =>
    rw [heq]
    exact hf
  next => exact .refl _

theorem setRemovedRequest_samePresentation (s : System W B C) (b : B)
    (request : Option (OverlayRequest W)) (b' : B) :
    SamePresentation (s.browsers b').presenter
      ((s.setRemovedRequest b request).browsers b').presenter := by
  by_cases heq : b' = b
  · rw [heq, setRemovedRequest_presenter]
    exact ⟨rfl, rfl, rfl, rfl, rfl⟩
  · rw [setRemovedRequest_of_ne s heq]
    exact .refl _

theorem cancelRemoved_samePresentation (s : System W B C) (b : B) (request : OverlayRequest W)
    (cancelled : Bool) (b' : B) : SamePresentation (s.browsers b').presenter
      ((s.cancelRemoved b request cancelled).browsers b').presenter := by
  unfold cancelRemoved
  split
  · rw [modifyBrowser_browsers]
    split
    next heq =>
      rw [heq, Browser.cancelOverlayUIForRequest_presenter]
      exact .refl _
    next => exact .refl _
  · exact .refl _

/-- A request that is held is in no queue, so taking the delegate from its queue
changes no presentation. -/
theorem holdRequest_samePresentation (h : s.HeldPresented (some request)) {webState : W}
    (hdelegate : (s.queues webState).delegate = some b)
    (hpresented : (s.browsers b).presenter.presentedRequest = some request) (b' : B) :
    SamePresentation (s.browsers b').presenter
      ((s.holdRequest b webState request).browsers b').presenter := by
  have hset := setRemovedRequest_samePresentation s b (some request) b'
  have hheld : (s.setRemovedRequest b (some request)).HeldPresented none :=
    h.setRemovedRequest fun r hr => by cases hr; exact hpresented
  have hqueues : (s.setRemovedRequest b (some request)).queues = s.queues :=
    setRemovedRequest_queues ..
  have hself : (s.setRemovedRequest b (some request)).held b = some request := by
    unfold held
    rw [setRemovedRequest_presenter]
    rfl
  unfold holdRequest
  simp only
  generalize s.setRemovedRequest b (some request) = s₁ at hset hheld hself hqueues
  split
  next =>
    have hwrite := modifyPresenter_samePresentation s₁ b (f := fun presenter =>
      { presenter with detachedPresentingRequestQueue := none }) ⟨rfl, rfl, rfl, rfl, rfl⟩ b'
    rcases setDelegate_presenter (s₁.modifyPresenter b ({ · with
      detachedPresentingRequestQueue := none })) webState none b' with
      hsame | ⟨hdelegate', _, request', hrequest', hfront, _⟩
    · rw [hsame]
      exact hset.trans hwrite
    · exfalso
      have hb : b' = b := by
        rw [modifyPresenter_queues, hqueues, hdelegate] at hdelegate'
        exact (Option.some.inj hdelegate').symm
      rw [hb, modifyPresenter_self] at hrequest'
      have heq : request' = request :=
        Option.some.inj ((hrequest' : (s₁.browsers b).presenter.presentedRequest = some request').symm.trans
          (hheld.presented b request hself))
      rw [heq] at hfront
      exact (hheld.owned.held b request hself).2.1
        (OwnedWith.queued_of_mem hheld.owned (List.mem_of_head? hfront))
  next => exact hset

/-- Removing a request changes no presentation. -/
theorem removeRequest_samePresentation (h : s.HeldPresented none) (webState : W) (index : Nat)
    (cancelled : Bool) (b' : B) : SamePresentation (s.browsers b').presenter
      ((s.removeRequest webState index cancelled).browsers b').presenter := by
  unfold removeRequest
  split
  next => exact .refl _
  next request hget =>
    have htaken := h.take hget
    simp only
    split
    next => exact .refl _
    next b hdelegate =>
      have hstart : SamePresentation (s.browsers b').presenter ((s.modifyQueue webState fun queue =>
          { queue with requests := queue.requests.eraseIdx index }).browsers b').presenter :=
        .refl _
      have hdelegate' : ((s.modifyQueue webState fun queue =>
          { queue with requests := queue.requests.eraseIdx index }).queues webState).delegate =
            some b := by
        rw [modifyQueue_self]
        rw [modifyQueue_self] at hdelegate
        exact hdelegate
      refine hstart.trans ?_
      unfold overlayRequestRemoved
      split
      next hpresented =>
        exact (holdRequest_samePresentation htaken hdelegate' hpresented b').trans
          (cancelRemoved_samePresentation _ b request cancelled b')
      next => exact cancelRemoved_samePresentation _ b request cancelled b'

end System

/-- The window `br'` is `br` with its presentation over. -/
structure Browser.Over (br br' : Browser W C) : Prop where
  presenting : br'.presenter.presenting = false
  presented : br'.presenter.presentedRequest = none
  replaced : br'.presenter.detachedQueueReplacedDelegate = false
  removed : br'.presenter.removedRequestAwaitingDismissal = none
  presentationContext : br'.presenter.presentationContext = br.presenter.presentationContext
  activeWebState : br'.presenter.activeWebState = br.presenter.activeWebState
  shown : ∀ context, (br'.contexts context).shown = none

theorem Browser.Over.steady {br br' : Browser W C} (h : Browser.Over br br') : br'.Steady := by
  have hnone : br'.shown = none := by
    cases hcontext : br'.presenter.presentationContext with
    | none => exact shown_of_no_context hcontext
    | some context => rw [shown_of_context hcontext, h.shown]
  refine ⟨Idle.exact ⟨h.presenting, h.presented, hnone⟩, ?_, fun context _ => h.shown context⟩
  rw [h.replaced, h.presenting]
  exact ⟨nofun, nofun⟩

theorem Browser.Over.setContext {br br' : Browser W C} (h : Browser.Over br br') (context : C)
    {ctx : OverlayPresentationContext W} (hctx : ctx.shown = none) :
    Browser.Over br (br'.setContext context ctx) := by
  refine ⟨h.presenting, h.presented, h.replaced, h.removed, h.presentationContext,
    h.activeWebState, fun context' => ?_⟩
  rw [setContext_contexts]
  split
  · exact hctx
  · exact h.shown context'

namespace System

theorem endPresentation_over (h : s.HeldPresented none) (hsingle : s.Single)
    (hreplaced : (s.browsers b).presenter.detachedQueueReplacedDelegate = false)
    (hshown : ∀ context, ((s.browsers b).contexts context).shown = none)
    (request : OverlayRequest W) (queue : W) (reason : OverlayDismissalReason) :
    Browser.Over (s.browsers b) ((s.endPresentation b request queue reason).browsers b) := by
  have hpopped : SamePresentation (s.browsers b).presenter ((if s.PopsFrontRequest b request queue
      reason then s.popFrontRequest queue else s).browsers b).presenter := by
    split
    · exact removeRequest_samePresentation h queue 0 false b
    · exact .refl _
  have hcontexts := fun context => ((endPresentation_silent s b request queue reason).contexts b
    context).shown_eq_none (hsingle b context) (hshown context)
  unfold endPresentation at hcontexts ⊢
  simp only at hcontexts ⊢
  rw [setRemovedRequest_presenter, modifyPresenter_self]
  refine ⟨rfl, rfl, hpopped.replaced.trans hreplaced, rfl, hpopped.presentationContext,
    hpopped.activeWebState, fun context => ?_⟩
  have hnone := hcontexts context
  rw [setRemovedRequest_presenter, modifyPresenter_self] at hnone
  exact hnone

/-- What holds along runs that keep their contexts. -/
structure Tracked (s : System W B C) : Prop where
  steady : s.Steady
  held : s.HeldPresented none

/-- The outcome of a dismissal in its window: nothing is presented, because the
active request is the one dismissed or none that can be shown, or another
request is presented. -/
inductive DismissalEnds (factory : OverlayRequestCoordinatorFactory W) (s s' : System W B C) (b : B)
    (context : C) (request : OverlayRequest W) : Prop where
  | ended (hover : Browser.Over (s.browsers b) (s'.browsers b))
      (hactive : ∀ next, (s'.browsers b).getActiveRequest s'.queues = some next →
        next = request ∨ OverlayPresentationContext.canShowUIForRequest factory next
          ((s.browsers b).contexts context).presentationCapabilities = false)
  | shows {br : Browser W C} {webState : W} {next : OverlayRequest W}
      (hover : Browser.Over (s.browsers b) br) (hne : next ≠ request)
      (hshows : Browser.Shows factory s'.queues br (s'.browsers b) context webState next)

/-- The context drops its request, with nothing up. -/
theorem resetRequest_over {s s₁ : System W B C} (hsingle : s₁.Single)
    (hover : Browser.Over (s.browsers b) (s₁.browsers b))
    (hactive : ∀ next, (s₁.browsers b).getActiveRequest s₁.queues = some next →
      next = request ∨ OverlayPresentationContext.canShowUIForRequest factory next
        ((s.browsers b).contexts context).presentationCapabilities = false) :
    DismissalEnds factory s (s₁.resetRequest factory b context request) b context request := by
  obtain ⟨ctx, hreset, hctx, _⟩ := resetRequest_eq factory
    ((hsingle b context).callback_eq_none (hover.shown context) request)
  rw [hreset]
  refine .ended ?_ fun next hnext => hactive next ?_
  · rw [modifyBrowser_self]
    exact hover.setContext context hctx
  · rw [← hnext, modifyBrowser_self]
    rfl

theorem HeldPresented.takeCallback (h : s.HeldPresented none) (b : B) (context : C) (x : Shown W) :
    (s.takeCallback b context x).HeldPresented none :=
  h.modifyBrowser ⟨rfl, rfl⟩ (.inl rfl)

/-- Nothing is up once the callback is taken. -/
theorem Tracked.takeCallback_shown (h : s.Tracked) {x : Shown W}
    (hx : ((s.browsers b).contexts context).shown = some x) (context' : C) :
    (((s.takeCallback b context x).browsers b).contexts context').shown = none := by
  rw [takeCallback_self, Browser.setContext_contexts]
  split
  next => exact OverlayPresentationContext.shown_takeCallback hx
  next hne =>
    refine (h.steady.windows b).elsewhere context' fun hcontext' => ?_
    have hcontext : (s.browsers b).presenter.presentationContext = some context := by
      by_contra hother
      rw [(h.steady.windows b).elsewhere context hother] at hx
      cases hx
    rw [hcontext'] at hcontext
    exact hne (Option.some.inj hcontext)

theorem endPresentation_capabilities (s : System W B C) (b : B) (request : OverlayRequest W)
    (queue : W) (reason : OverlayDismissalReason) (b' : B) (context : C) :
    (((s.endPresentation b request queue reason).browsers b').contexts
      context).presentationCapabilities =
        ((s.browsers b').contexts context).presentationCapabilities := by
  have hmoves : Moves ⟨fun _ => true⟩ False (fun _ _ => False) s
      (s.endPresentation b request queue reason) := endPresentation_moves s b request queue reason
  exact hmoves.keeps (P := fun s' => ((s'.browsers b').contexts context).presentationCapabilities =
    ((s.browsers b').contexts context).presentationCapabilities)
    (fun hs hmove => (hmove.capabilities id b' context).trans hs) rfl

/-- A dismissal that ends on the usual path ends the presentation. -/
theorem Tracked.endPresentation_over (h : s.Tracked)
    {x : Shown W} (hx : ((s.browsers b).contexts context).shown = some x)
    (hreplaced : ((s.takeCallback b context x).browsers
      b).presenter.detachedQueueReplacedDelegate = false) :
    Browser.Over (s.browsers b) (((s.takeCallback b context x).endPresentation b x.request x.queue
      x.reason).browsers b) := by
  have hover := System.endPresentation_over (h.held.takeCallback b context x)
    (h.steady.single.setContext b context ((h.steady.single b context).takeCallback x.request))
    hreplaced (h.takeCallback_shown hx) x.request x.queue x.reason
  have hself := takeCallback_self s b context x
  refine ⟨hover.presenting, hover.presented, hover.replaced, hover.removed, ?_, ?_, hover.shown⟩
  · rw [hover.presentationContext, hself]
    rfl
  · rw [hover.activeWebState, hself]
    rfl

/-- The context shows the request again whose dismissal it is told of, and drops
it: its callback is run once more, and shows nothing. -/
theorem resetRequest_again {s s₁ : System W B C} {x : Shown W}
    (hsingle : s₁.Single) (hheld : s₁.HeldPresented none)
    (hcontext : (s₁.browsers b).presenter.presentationContext =
      (s.browsers b).presenter.presentationContext)
    (hactive : (s₁.browsers b).presenter.activeWebState =
      (s.browsers b).presenter.activeWebState)
    (hx : ((s₁.browsers b).contexts context).shown = some x) (hreason : x.reason = .userInteraction)
    (hother : ∀ context', context' ≠ context → ((s₁.browsers b).contexts context').shown = none)
    (hreplaced : (s₁.browsers b).presenter.detachedQueueReplacedDelegate = false)
    (hpc : (s₁.browsers b).presenter.presentationContext = some context)
    (hrequest : (s₁.browsers b).getActiveRequest s₁.queues = some x.request) :
    DismissalEnds factory s (s₁.resetRequest factory b context x.request) b context x.request := by
  obtain ⟨hpresents, hstate⟩ := OverlayPresentationContext.shown_eq_some.1 hx
  unfold resetRequest
  simp only [hstate, hreason, OverlayPresentationContext.isFinal, if_true]
  set dropped := s₁.modifyBrowser b fun br => br.setContext context
    (((s₁.browsers b).contexts context).setState x.request none) with hdropped
  have hself : dropped.browsers b = (s₁.browsers b).setContext context
      (((s₁.browsers b).contexts context).setState x.request none) := modifyBrowser_self ..
  have hshown : ∀ context', ((dropped.browsers b).contexts context').shown = none := by
    intro context'
    rw [hself, Browser.setContext_contexts]
    split
    next => exact OverlayPresentationContext.shown_setState_none hpresents
    next hne => exact hother context' hne
  have hsingle' : dropped.Single :=
    hsingle.setContext b context (f := fun _ => _) ((hsingle b context).setState_none x.request)
  have hheld' : dropped.HeldPresented none := hheld.modifyBrowser ⟨rfl, rfl⟩ (.inl rfl)
  have hrequest' : (dropped.browsers b).getActiveRequest dropped.queues = some x.request := by
    rw [hself]
    exact hrequest
  have hended : dropped.overlayWasDismissed factory b context x.request x.queue .cancellation =
      dropped.endPresentation b x.request x.queue .cancellation := by
    have h := overlayWasDismissed_cases factory dropped b context x.request x.queue .cancellation
    generalize dropped.overlayWasDismissed factory b context x.request x.queue .cancellation = s₂
      at h
    cases h with
    | ignored hne => exact absurd (by rw [hself]; exact hpc) hne
    | replaced _ hflag =>
      rw [hself] at hflag
      exact Bool.noConfusion (hreplaced.symm.trans hflag)
    | next _ _ hne =>
      rw [endPresentation_activeRequest_of_ne b x.request x.queue (by decide)] at hne
      exact absurd hrequest' hne
    | unchanged => rfl
  have hover := endPresentation_over hheld' hsingle' (by rw [hself]; exact hreplaced) hshown
    x.request x.queue .cancellation
  rw [hended]
  have hover' : Browser.Over (s.browsers b)
      ((dropped.endPresentation b x.request x.queue .cancellation).browsers b) := by
    refine ⟨hover.presenting, hover.presented, hover.replaced, hover.removed, ?_, ?_, hover.shown⟩
    · rw [hover.presentationContext, hself]
      exact hcontext
    · rw [hover.activeWebState, hself]
      exact hactive
  refine .ended ?_ fun next hnext => .inl ?_
  · rw [modifyBrowser_self]
    exact hover'.setContext context (OverlayPresentationContext.shown_clearRequest _)
  · rw [modifyBrowser_self] at hnext
    have hnext' : ((dropped.endPresentation b x.request x.queue .cancellation).browsers
        b).getActiveRequest (dropped.endPresentation b x.request x.queue .cancellation).queues =
          some next := hnext
    rw [endPresentation_activeRequest_of_ne b x.request x.queue (by decide), hrequest'] at hnext'
    exact (Option.some.inj hnext').symm

variable (factory) in
/-- **What is up in a window after a dismissal has ended, and why.** -/
theorem overlayUIWasDismissed_cases (h : s.Tracked) {x : Shown W}
    (hx : ((s.browsers b).contexts context).shown = some x) :
    DismissalEnds factory s (s.overlayUIWasDismissed factory b context) b context x.request := by
  have hcontext : (s.browsers b).presenter.presentationContext = some context := by
    by_contra hother
    rw [(h.steady.windows b).elsewhere context hother] at hx
    cases hx
  have hsingle : (s.takeCallback b context x).Single :=
    h.steady.single.setContext b context ((h.steady.single b context).takeCallback x.request)
  have hheld : (s.takeCallback b context x).HeldPresented none := h.held.takeCallback b context x
  have hshown := h.takeCallback_shown hx
  have hself := takeCallback_self s b context x
  have hcapabilities : (((s.takeCallback b context x).browsers b).contexts
      context).presentationCapabilities =
        ((s.browsers b).contexts context).presentationCapabilities := by
    rw [hself, Browser.setContext_contexts, if_pos rfl]
    rfl
  rw [overlayUIWasDismissed_eq hx]
  have hcases := overlayWasDismissed_cases factory (s.takeCallback b context x) b context x.request
    x.queue x.reason
  have hsingle' := overlayWasDismissed_single factory hsingle b context x.request x.queue x.reason
  generalize hend : (s.takeCallback b context x).overlayWasDismissed factory b context x.request
    x.queue x.reason = s₁ at hcases hsingle'
  -- nothing shown: the context drops its request, if it has it still
  have hnothing : Browser.Over (s.browsers b) (s₁.browsers b) →
      (∀ next, (s₁.browsers b).getActiveRequest s₁.queues = some next → next = x.request ∨
        OverlayPresentationContext.canShowUIForRequest factory next
          ((s.browsers b).contexts context).presentationCapabilities = false) →
      DismissalEnds factory s (if ((s₁.browsers b).contexts context).request = some x.request then
        s₁.resetRequest factory b context x.request else s₁) b context x.request := by
    intro hover hactive
    split
    · exact resetRequest_over hsingle' hover hactive
    · exact .ended hover hactive
  -- another request shown: the context has that one
  have hother : ∀ {br : Browser W C} {webState : W} {next : OverlayRequest W},
      Browser.Over (s.browsers b) br → next ≠ x.request →
      Browser.Shows factory s₁.queues br (s₁.browsers b) context webState next →
      DismissalEnds factory s (if ((s₁.browsers b).contexts context).request = some x.request then
        s₁.resetRequest factory b context x.request else s₁) b context x.request := by
    intro br webState next hover hne hshows
    rw [if_neg]
    · exact .shows hover hne hshows
    · intro hrequest
      have hup := hshows.shown_eq
      rw [Browser.shown_of_context (by rw [hshows.result]; exact hshows.presentationContext)] at hup
      rw [(OverlayPresentationContext.shown_eq_some.1 hup).1] at hrequest
      exact hne (Option.some.inj hrequest)
  have hpc : ((s.takeCallback b context x).browsers b).presenter.presentationContext =
      some context := by
    rw [hself]
    exact hcontext
  -- nothing is shown for a reason the outcome gives
  have hcannot : ∀ {br : Browser W C} {queues : W → OverlayRequestQueue W B},
      Browser.CannotPresent factory queues br → br.presenter.presentationContext = some context →
      (br.contexts context).shown = none →
      (br.contexts context).presentationCapabilities =
        ((s.browsers b).contexts context).presentationCapabilities →
      ∀ next, br.getActiveRequest queues = some next → next = x.request ∨
        OverlayPresentationContext.canShowUIForRequest factory next
          ((s.browsers b).contexts context).presentationCapabilities = false := by
    intro br queues hcannot hbr hnone hcaps next hnext
    rw [← hcaps]
    exact .inr (hcannot context hbr hnone next hnext)
  cases hcases with
  | ignored hne => exact absurd hpc hne
  | replaced _ hflag =>
    set left := (s.takeCallback b context x).leaveReplaced b with hleft
    have hflag' : (s.browsers b).presenter.detachedQueueReplacedDelegate = true := by
      rw [hself] at hflag
      exact hflag
    have hpresented : (s.browsers b).presenter.presentedRequest = none :=
      ((h.steady.windows b).replaced.1 hflag').2
    have hleftSelf : left.browsers b = ((s.takeCallback b context x).browsers b).setPresenter
        { ((s.takeCallback b context x).browsers b).presenter with
          presenting := false, detachedQueueReplacedDelegate := false } := leaveReplaced_self ..
    have hover : Browser.Over (s.browsers b) (left.browsers b) := by
      rw [hleftSelf, hself]
      refine ⟨rfl, hpresented, rfl, ?_, rfl, rfl, fun context' => ?_⟩
      · show s.held b = none
        by_contra hne
        obtain ⟨held, hheld'⟩ := Option.ne_none_iff_exists'.1 hne
        rw [h.held.presented b held hheld'] at hpresented
        cases hpresented
      · have hnone := hshown context'
        rw [hself] at hnone
        exact hnone
    have hleftHeld : left.HeldPresented none :=
      hheld.modifyBrowser (f := fun br => br.setPresenter { br.presenter with
        presenting := false, detachedQueueReplacedDelegate := false }) ⟨rfl, rfl⟩ (.inl rfl)
    rcases Browser.presentOverlayForActiveRequest_cases factory left.queues (left.browsers b) with
      ⟨context', webState, next, hshows⟩ | ⟨hsame, hcannot'⟩
    · have hsome : some context' = some context := by
        rw [← hshows.presentationContext, hover.presentationContext]
        exact hcontext
      cases hsome
      by_cases hagain : next = x.request
      · have hup : (((left.modifyBrowser b (·.presentOverlayForActiveRequest factory
            left.queues)).browsers b).contexts context).shown =
              some ⟨next, webState, .userInteraction⟩ := by
          have hup := hshows.shown_eq
          rw [Browser.shown_of_context (by rw [hshows.result]; exact hshows.presentationContext)]
            at hup
          rw [modifyBrowser_self]
          exact hup
        rw [if_pos (by rw [(OverlayPresentationContext.shown_eq_some.1 hup).1, hagain])]
        rw [← hagain]
        refine resetRequest_again (x := ⟨next, webState, .userInteraction⟩) hsingle'
          (hleftHeld.modifyBrowser (Browser.presentOverlayForActiveRequest_kept _ _ _)
            (.inr hover.presented)) ?_ ?_ hup rfl (fun context' hne => ?_) ?_ ?_ ?_
        · rw [modifyBrowser_self, hshows.result]
          exact hover.presentationContext
        · rw [modifyBrowser_self, hshows.result]
          exact hover.activeWebState
        · rw [modifyBrowser_self, hshows.result]
          show (Function.update (left.browsers b).contexts context _ context').shown = none
          rw [Function.update_of_ne hne]
          exact hover.shown context'
        · rw [modifyBrowser_self, hshows.result]
          exact hover.replaced
        · rw [modifyBrowser_self, hshows.result]
          exact hshows.presentationContext
        · rw [modifyBrowser_self, hshows.result]
          show (left.browsers b).presenter.activeWebState.bind _ = _
          rw [hshows.activeWebState, Option.bind_some]
          exact hshows.front
      · have hshown : Browser.Shows factory left.queues (left.browsers b)
            ((left.modifyBrowser b (·.presentOverlayForActiveRequest factory
              left.queues)).browsers b) context webState next := by
          rw [modifyBrowser_self]
          exact hshows
        exact hother hover hagain hshown
    · rw [modifyBrowser_id left b hsame] at hnothing ⊢
      refine hnothing hover (hcannot hcannot' ?_ (hover.shown context) ?_)
      · rw [hover.presentationContext]
        exact hcontext
      · rw [hleftSelf]
        exact hcapabilities
  | next _ hflag hne =>
    have hover := h.endPresentation_over hx hflag
    rcases Browser.presentOverlayForActiveRequest_cases factory
      ((s.takeCallback b context x).endPresentation b x.request x.queue x.reason).queues
      (((s.takeCallback b context x).endPresentation b x.request x.queue x.reason).browsers b) with
      ⟨context', webState, next, hshows⟩ | ⟨hsame, hcannot'⟩
    · have hsome : some context' = some context := by
        rw [← hshows.presentationContext, hover.presentationContext]
        exact hcontext
      cases hsome
      have hnext : next ≠ x.request := by
        rintro rfl
        apply hne
        unfold Browser.getActiveRequest
        rw [hshows.activeWebState, Option.bind_some]
        exact hshows.front
      set ended := (s.takeCallback b context x).endPresentation b x.request x.queue x.reason
      have hshown : Browser.Shows factory ended.queues (ended.browsers b)
          ((ended.modifyBrowser b (·.presentOverlayForActiveRequest factory
            ended.queues)).browsers b) context webState next := by
        rw [modifyBrowser_self]
        exact hshows
      exact hother hover hnext hshown
    · rw [modifyBrowser_id _ b hsame] at hnothing ⊢
      refine hnothing hover (hcannot hcannot' ?_ (hover.shown context) ?_)
      · rw [hover.presentationContext]
        exact hcontext
      · rw [endPresentation_capabilities]
        exact hcapabilities
  | unchanged _ hflag hsame =>
    refine hnothing (h.endPresentation_over hx hflag) fun next hnext => .inl ?_
    rw [hsame] at hnext
    exact (Option.some.inj hnext).symm

/-! ### The other windows -/

theorem endPresentation_of_ne (s : System W B C) {b b' : B} (h : b' ≠ b)
    (request : OverlayRequest W) (queue : W) (reason : OverlayDismissalReason) :
    (s.endPresentation b request queue reason).browsers b' =
      (if s.PopsFrontRequest b request queue reason then s.popFrontRequest queue else s).browsers
        b' := by
  unfold endPresentation
  simp only
  rw [setRemovedRequest_of_ne _ h]
  exact modifyBrowser_of_ne _ h _

variable (factory) in
/-- A dismissal in one window reaches another only by the pop. -/
theorem overlayWasDismissed_of_ne (s : System W B C) {b b' : B} (h : b' ≠ b) (context : C)
    (request : OverlayRequest W) (queue : W) (reason : OverlayDismissalReason) :
    (s.overlayWasDismissed factory b context request queue reason).browsers b' = s.browsers b' ∨
    reason = .userInteraction ∧
      (s.overlayWasDismissed factory b context request queue reason).browsers b' =
        (s.popFrontRequest queue).browsers b' := by
  have hcases := overlayWasDismissed_cases factory s b context request queue reason
  generalize s.overlayWasDismissed factory b context request queue reason = s' at hcases
  have hended : (s.endPresentation b request queue reason).browsers b' = s.browsers b' ∨
      reason = .userInteraction ∧ (s.endPresentation b request queue reason).browsers b' =
        (s.popFrontRequest queue).browsers b' := by
    rw [endPresentation_of_ne s h]
    split
    next hpops => exact .inr ⟨hpops.1, rfl⟩
    next => exact .inl rfl
  cases hcases with
  | ignored => exact .inl rfl
  | replaced =>
    left
    rw [modifyBrowser_of_ne _ h]
    unfold leaveReplaced modifyPresenter
    exact modifyBrowser_of_ne s h _
  | next =>
    rw [modifyBrowser_of_ne _ h]
    exact hended
  | unchanged => exact hended

theorem resetRequest_of_ne (s : System W B C) {b b' : B} (h : b' ≠ b) (context : C)
    (request : OverlayRequest W) :
    (s.resetRequest factory b context request).browsers b' = s.browsers b' := by
  unfold resetRequest
  simp only
  rw [modifyBrowser_of_ne _ h]
  split
  next => rfl
  next =>
    split
    next =>
      split
      next => exact modifyBrowser_of_ne _ h _
      next queue _ =>
        rcases overlayWasDismissed_of_ne factory (s.modifyBrowser b fun br =>
          br.setContext context (((s.browsers b).contexts context).setState request none)) h context
          request queue .cancellation with hsame | ⟨hreason, _⟩
        · rw [hsame]
          exact modifyBrowser_of_ne _ h _
        · cases hreason
    next => rfl

variable (factory) in
theorem overlayUIWasDismissed_of_ne {b b' : B} (h : b' ≠ b) {x : Shown W}
    (hx : ((s.browsers b).contexts context).shown = some x) :
    (s.overlayUIWasDismissed factory b context).browsers b' = s.browsers b' ∨
    (s.overlayUIWasDismissed factory b context).browsers b' =
      ((s.takeCallback b context x).popFrontRequest x.queue).browsers b' := by
  have hdismissed : ((s.takeCallback b context x).overlayWasDismissed factory b context x.request
      x.queue x.reason).browsers b' = s.browsers b' ∨
    ((s.takeCallback b context x).overlayWasDismissed factory b context x.request x.queue
      x.reason).browsers b' = ((s.takeCallback b context x).popFrontRequest x.queue).browsers b' := by
    rcases overlayWasDismissed_of_ne factory (s.takeCallback b context x) h context
      x.request x.queue x.reason with hsame | ⟨_, hpopped⟩
    · left
      rw [hsame]
      exact modifyBrowser_of_ne _ h _
    · exact .inr hpopped
  rw [overlayUIWasDismissed_eq hx]
  split
  · rw [resetRequest_of_ne _ h]
    exact hdismissed
  · exact hdismissed

/-! ## Every event -/

theorem overlayUIWasDismissed_tracked (h : s.Tracked) {x : Shown W}
    (hx : ((s.browsers b).contexts context).shown = some x) :
    (s.overlayUIWasDismissed factory b context).Tracked := by
  have htaken : (s.takeCallback b context x).HeldPresented none := h.held.takeCallback b context x
  have hpopped : ((s.takeCallback b context x).popFrontRequest x.queue).HeldPresented none :=
    htaken.removeRequest x.queue 0 false
  have hends := overlayUIWasDismissed_cases factory h hx
  refine ⟨⟨overlayUIWasDismissed_single h.steady.single b context, fun b' => ?_⟩,
    overlayUIWasDismissed_owned factory h.held.owned b context, fun b' request hb' => ?_⟩
  · by_cases heq : b' = b
    · rw [heq]
      cases hends with
      | ended hover => exact hover.steady
      | shows hover _ hshows => exact hover.steady.shows hover.presenting hshows
    · rcases overlayUIWasDismissed_of_ne factory heq hx with hsame | hpop
      · rw [hsame]
        exact h.steady.windows b'
      · rw [hpop]
        have hsingle : (s.takeCallback b context x).Single :=
          h.steady.single.setContext b context ((h.steady.single b context).takeCallback x.request)
        have heffects : Effects ⟨fun _ => true⟩ False (s.takeCallback b context x)
            ((s.takeCallback b context x).popFrontRequest x.queue) :=
          (removeRequest_upkeeps _ x.queue 0 false).effects
        refine (heffects.keeps (P := fun s => s.Single ∧ (s.browsers b').Steady)
          (fun hs he => ⟨he.single hs.1, he.steadyAt hs.1 hs.2⟩) ⟨hsingle, ?_⟩).2
        rw [show (s.takeCallback b context x).browsers b' = s.browsers b' from
          modifyBrowser_of_ne s heq _]
        exact h.steady.windows b'
  · by_cases heq : b' = b
    · exfalso
      unfold held at hb'
      rw [heq] at hb'
      cases hends with
      | ended hover =>
        rw [hover.removed] at hb'
        cases hb'
      | shows hover _ hshows =>
        rw [hshows.result] at hb'
        cases hover.removed.symm.trans hb'
    · unfold held at hb'
      rcases overlayUIWasDismissed_of_ne factory heq hx with hsame | hpop
      · rw [hsame] at hb' ⊢
        exact h.held.presented b' request hb'
      · rw [hpop] at hb' ⊢
        exact hpopped.presented b' request hb'

/-- A write to one window that keeps the presented request, or finds the
presenter idle. -/
theorem Tracked.reaction (h : s.Tracked)
    {f : Browser W C → Browser W C} (heffects : Effects factory True s (s.modifyBrowser b f))
    (hk : Browser.Kept (s.browsers b) (f (s.browsers b)))
    (hpresented : (f (s.browsers b)).presenter.presentedRequest =
      (s.browsers b).presenter.presentedRequest ∨ (s.browsers b).presenter.presenting = false) :
    (s.modifyBrowser b f).Tracked :=
  ⟨Effects.steady heffects h.steady, h.held.modifyBrowser hk
    (hpresented.imp_right (h.steady.windows b).presented_none)⟩

theorem Tracked.webStateAddedToBrowser (h : s.Tracked) (b : B) (webState : W) :
    (s.webStateAddedToBrowser b webState).Tracked := by
  have heffects : Effects ⟨fun _ => true⟩ False s (s.webStateAddedToBrowser b webState) :=
    (webStateAddedToBrowser_upkeeps s b webState).effects
  exact ⟨Effects.steady heffects h.steady, h.held.webStateAddedToBrowser b webState⟩

theorem Tracked.webStateRemovedFromBrowser (h : s.Tracked) (b : B) (webState : W) :
    (s.webStateRemovedFromBrowser b webState).Tracked := by
  have heffects : Effects ⟨fun _ => true⟩ False s (s.webStateRemovedFromBrowser b webState) :=
    (webStateRemovedFromBrowser_upkeeps s b webState).effects
  exact ⟨Effects.steady heffects h.steady, h.held.webStateRemovedFromBrowser b webState⟩

theorem Tracked.willDetachWebStateAt (h : s.Tracked) (b : B) (webState : W) :
    (s.willDetachWebStateAt b webState).Tracked := by
  have heffects : Effects ⟨fun _ => true⟩ False s (s.willDetachWebStateAt b webState) :=
    (willDetachWebStateAt_upkeeps s b webState).effects
  exact ⟨Effects.steady heffects h.steady, h.held.willDetachWebStateAt b webState⟩

theorem Tracked.setActiveWebState (h : s.Tracked) (b : B) (webState : Option W)
    (reason : ActiveWebStateChangeReason) :
    (s.modifyBrowser b (·.setActiveWebState factory s.queues webState reason)).Tracked :=
  h.reaction (setActiveWebState_effects s b webState reason)
    (Browser.setActiveWebState_kept factory s.queues _ webState reason)
    (Browser.setActiveWebState_presented s.queues _ webState reason)

theorem Tracked.onCall (h : s.Tracked) (b : B) (call : ObserverCall W) :
    (s.onCall factory b call).Tracked := by
  cases call with
  | webStateInsertedAt webState index activating => exact h.webStateAddedToBrowser b webState
  | webStateReplacedAt oldWebState newWebState index =>
    exact (h.webStateRemovedFromBrowser b oldWebState).webStateAddedToBrowser b newWebState
  | willDetachWebStateAt webState index => exact h.willDetachWebStateAt b webState
  | webStateActivatedAt oldWebState newWebState activeIndex reason =>
    exact h.setActiveWebState b newWebState reason
  | webStateMoved webState fromIndex toIndex => exact h
  | webStateDetachedAt webState index => exact h
  | willCloseWebStateAt webState index userAction => exact h
  | willBeginBatchOperation => exact h
  | batchOperationEnded => exact h

/-- The tabs are written. -/
theorem Tracked.tabs (h : s.Tracked) (b : B) (v : View W) :
    (s.modifyBrowser b ({ · with webStateList := v })).Tracked := by
  have hheld : ∀ b', (s.modifyBrowser b ({ · with webStateList := v })).held b' = s.held b' := by
    intro b'
    unfold System.held
    rw [modifyBrowser_browsers]
    split
    next heq => rw [heq]
    next => rfl
  have hpresenter : ∀ b', ((s.modifyBrowser b ({ · with webStateList := v })).browsers
      b').presenter = (s.browsers b').presenter := by
    intro b'
    rw [modifyBrowser_browsers]
    split
    next heq => rw [heq]
    next => rfl
  have howned := h.held.owned
  have heffect : Effect ⟨fun _ => true⟩ False s
      (s.modifyBrowser b ({ · with webStateList := v })) := .tabs b v
  refine ⟨heffect.steady h.steady,
    ⟨howned.nodup, howned.queued, ?_, howned.destroyed, howned.destroyedOnce, ?_, nofun,
      howned.ids⟩, ?_⟩
  · simp only [hheld]
    exact howned.held
  · simp only [hheld]
    exact howned.located
  · intro b' request hb'
    rw [hheld] at hb'
    rw [hpresenter]
    exact h.held.presented b' request hb'

theorem Tracked.edit (h : s.Tracked) (b : B) (e : Edit W) :
    (s.edit factory b e).Tracked := by
  have hcalls : ∀ (calls : List (ObserverCall W)) {s : System W B C}, s.Tracked →
      (calls.foldl (System.onCall factory b) s).Tracked := by
    intro calls
    induction calls with
    | nil => exact fun h => h
    | cons call calls ih => exact fun h => ih (h.onCall b call)
  exact (hcalls _ h).tabs b _

theorem Tracked.withRequest (h : s.Tracked) {webState : W} {index : Nat}
    (hindex : index ≤ (s.queues webState).requests.length) :
    (s.withRequest webState index).Tracked :=
  ⟨⟨h.steady.single, h.steady.windows⟩, OwnedWith.add h.held.owned webState hindex,
    h.held.presented⟩

theorem Tracked.insertRequest (h : s.Tracked) {webState : W} {index : Nat}
    (hindex : index ≤ (s.queues webState).requests.length) :
    (s.insertRequest factory webState index).Tracked := by
  have hadded : ∀ (request : OverlayRequest W) (observers : List B) {s : System W B C}, s.Tracked →
      (observers.foldl (fun s b => s.modifyBrowser b fun br =>
        br.requestAddedToQueue factory s.queues webState request) s).Tracked := by
    intro request observers
    induction observers with
    | nil => exact fun h => h
    | cons b observers ih =>
      intro s h
      exact ih (h.reaction (requestAddedToQueue_effects s b webState request)
        (Browser.requestAddedToQueue_kept factory s.queues _ webState request)
        (Browser.requestAddedToQueue_presented s.queues _ webState request))
  exact hadded _ _ (h.withRequest hindex)

/-- A presenter without a context is given one. -/
theorem Tracked.setPresentationContext (h : s.Tracked)
    (hnone : (s.browsers b).presenter.presentationContext = none) (presentationContext : Option C) :
    (s.modifyBrowser b
      (·.setPresentationContext factory s.queues presentationContext)).Tracked := by
  have hwindow := h.steady.windows b
  have hall : ∀ context, ((s.browsers b).contexts context).shown = none := fun context =>
    hwindow.elsewhere context (by rw [hnone]; exact nofun)
  have hidle : (s.browsers b).presenter.presenting = false := by
    rw [← Bool.not_eq_true, hwindow.exact.presenting, Browser.shown_of_no_context hnone]
    exact fun hne => hne rfl
  have hgiven : ((s.browsers b).withPresentationContext presentationContext).Steady := by
    refine ⟨Browser.Idle.exact ⟨rfl, rfl, ?_⟩, ?_, fun context _ => hall context⟩
    · unfold Browser.shown
      cases presentationContext with
      | none => rfl
      | some context => exact hall context
    · show (s.browsers b).presenter.detachedQueueReplacedDelegate = true ↔ _
      rw [hwindow.not_replaced hidle]
      exact ⟨nofun, fun hboth => nomatch hboth.1⟩
  have hsteady : ((s.browsers b).setPresentationContext factory s.queues
      presentationContext).Steady := by
    rw [Browser.setPresentationContext_of_no_context hnone]
    exact hgiven.present rfl s.queues
  have hmoves : Moves factory False (fun _ _ => False) s (s.modifyBrowser b
      (·.setPresentationContext factory s.queues presentationContext)) :=
    setPresentationContext_moves s b presentationContext
  refine ⟨⟨hmoves.keeps (fun hs hmove => hmove.single (fun _ _ => id) hs) h.steady.single,
    fun b' => ?_⟩, h.held.modifyBrowser
      (Browser.setPresentationContext_kept factory s.queues _ presentationContext)
      (.inr (hwindow.presented_none hidle))⟩
  rw [modifyBrowser_browsers]
  split
  · exact hsteady
  · exact h.steady.windows b'

/-- **Every event of a run that keeps its contexts keeps the presenters right.** -/
theorem step_tracked (h : s.Tracked) {event : Event W B C} (henabled : s.Enabled event)
    (hkeeps : s.KeepsContext event) :
    (s.step factory event).Tracked := by
  have hupkeep : ∀ {s' : System W B C}, Upkeeps s s' → s'.HeldPresented none → s'.Tracked := by
    intro s' hupkeeps hheld
    have heffects : Effects ⟨fun _ => true⟩ False s s' := hupkeeps.effects
    exact ⟨Effects.steady heffects h.steady, hheld⟩
  cases event with
  | edit b e => exact h.edit b e
  | webStateDestroyed webState =>
    have hcancelled : (cancelAllLoop webState ((s.modifyQueue webState
        ({ · with observers := [] })).queues webState).requests.length
          (s.modifyQueue webState ({ · with observers := [] }))).Tracked :=
      hupkeep (.head (.queue webState _ (List.Sublist.refl _))
        (cancelAllLoop_upkeeps webState _ _))
        (HeldPresented.cancelAllLoop (h.held.modifyQueue webState rfl) webState _)
    exact ⟨⟨hcancelled.steady.single, hcancelled.steady.windows⟩,
      webStateDestroyed_owned h.held.owned webState, hcancelled.held.presented⟩
  | addRequest webState => exact h.insertRequest (Nat.le_refl _)
  | insertRequest webState index => exact h.insertRequest henabled.2
  | cancelRequest webState request =>
    refine hupkeep (cancelRequest_upkeeps s webState request) ?_
    show (s.cancelRequest webState request).HeldPresented none
    unfold cancelRequest
    split
    · exact h.held
    · exact h.held.removeRequest webState _ true
  | cancelAllRequests webState =>
    exact hupkeep (cancelAllLoop_upkeeps webState _ s) (h.held.cancelAllLoop webState _)
  | setPresentationContext b presentationContext =>
    exact h.setPresentationContext hkeeps presentationContext
  | updatePresentationCapabilities b context capabilities =>
    exact h.reaction (updatePresentationCapabilities_effects trivial s b context capabilities)
      (Browser.updatePresentationCapabilities_kept factory s.queues _ context capabilities)
      (Browser.updatePresentationCapabilities_presented s.queues _ context capabilities)
  | presentationContextReady b context =>
    exact h.reaction (presentationContextReady_effects s b)
      (Browser.presentationContextReady_kept factory s.queues _)
      (Browser.presentationContextReady_presented factory s.queues _)
  | dismissedByUser b context =>
    have heffects : Effects factory True s (s.modifyBrowser b fun br =>
        br.setContext context (br.contexts context).dismissByUser) :=
      (Effect.byUser b context).effects
    exact h.reaction heffects ⟨rfl, rfl⟩ (.inl rfl)
  | overlayUIDidFinishDismissal b context =>
    obtain ⟨x, hx⟩ := Option.isSome_iff_exists.1 henabled.1
    exact overlayUIWasDismissed_tracked h hx

variable (factory) in
theorem init_tracked (h : (overlayMachine W B C factory).init s) :
    s.Tracked := by
  have howned := init_owned factory h
  obtain ⟨hsingle, hexact⟩ := init_single factory h
  obtain ⟨capabilities, rfl⟩ := h
  exact ⟨⟨hsingle, fun b => ⟨hexact b, ⟨nofun, fun hboth => nomatch hboth.1⟩, fun _ _ => rfl⟩⟩,
    howned, nofun⟩

end System

end IosChrome.Overlays

import IosChrome.Overlays.SteadyContext

/-!
# What the interface of a context asks of its presenter

`ShowOverlayUI` must only be called while no UI is up, and `HideOverlayUI` only
for the request whose UI is displayed: the context has no other state to hide.
Each call in the log of a window has the request that was displayed when it was
made, and `Legal` compares the two.

Shows are always legal. A hide asked for by a request inserted in front, or by a
context losing a capability, is for the presented request, which is the one
displayed. A hide asked for by a change of the active tab is for the front
request of the tab left (or the one held back), and that one need not be
displayed: the UI of another tab may still be on its way out.
`contextCalls_legal_iff` is the exact condition (`HidesDisplayed`).
-/

set_option linter.unusedSectionVars false

namespace IosChrome.Overlays

open Tabs (ActiveWebStateChangeReason View Edit)

variable {W B C : Type} [DecidableEq W] [DecidableEq B] [DecidableEq C]
variable {factory : OverlayRequestCoordinatorFactory W}

/-- What the interface asks of a call. -/
def ContextCall.Legal : ContextCall W C → Prop
  | .showOverlayUI _ _ displayed => displayed = none
  | .hideOverlayUI _ request displayed => displayed = some request

namespace Browser

/-- Every call made so far was legal. -/
def CallsLegal (br : Browser W C) : Prop := ∀ call ∈ br.contextCalls, call.Legal

/-- The request whose UI is displayed. -/
def displayed (br : Browser W C) : Option (OverlayRequest W) := br.shown.map (·.request)

/-- Where `SetActiveWebState` takes the front request of the tab it leaves for
the one displayed, it is. -/
def LeavesDisplayed (queues : W → OverlayRequestQueue W B) (br : Browser W C)
    (newActive : Option W) : Prop :=
  br.presenter.activeWebState ≠ newActive → br.presenter.presenting = true →
    br.presenter.removedRequestAwaitingDismissal = none →
    ∀ request, br.getActiveRequest queues = some request → br.displayed = some request

end Browser

/-- A change of the active tab that does not cancel leaves the displayed request. -/
def System.HidesDisplayed (s : System W B C) : Event W B C → Prop
  | .edit b (.activate newActive _ _) =>
    (s.browsers b).presenter.detachingPresentingWebState = false →
      (s.browsers b).LeavesDisplayed s.queues newActive
  | .edit b (.detachActive webState _ newActive _) =>
    (∀ request, (s.browsers b).presenter.presentedRequest = some request →
      request.queueWebState ≠ webState) → (s.browsers b).LeavesDisplayed s.queues newActive
  | _ => True

/-! ## The calls of a window -/

namespace Browser

theorem callsLegal_append {br br' : Browser W C} {call : ContextCall W C}
    (h : br'.contextCalls = br.contextCalls ++ [call]) :
    br'.CallsLegal ↔ br.CallsLegal ∧ call.Legal := by
  unfold CallsLegal
  rw [h]
  simp only [List.mem_append, List.mem_singleton]
  constructor
  · intro hall
    exact ⟨fun c hc => hall c (.inl hc), hall call (.inr rfl)⟩
  · rintro ⟨hall, hcall⟩ c (hc | rfl)
    · exact hall c hc
    · exact hcall

theorem CallsLegal.of_eq {br br' : Browser W C} (h : br.CallsLegal)
    (heq : br'.contextCalls = br.contextCalls) : br'.CallsLegal := by
  unfold CallsLegal
  rw [heq]
  exact h

variable {br : Browser W C}

theorem displayed_of_context {context : C} (h : br.presenter.presentationContext = some context) :
    (br.contexts context).displayed = br.displayed := by
  unfold displayed OverlayPresentationContext.displayed
  rw [shown_of_context h]

/-- **A hide is legal when its request is displayed.** -/
theorem hideOverlayUI_callsLegal (br : Browser W C) (request : OverlayRequest W) :
    (br.hideOverlayUI request).CallsLegal ↔
      br.CallsLegal ∧ (br.presenter.presentationContext ≠ none → br.displayed = some request) := by
  unfold hideOverlayUI
  split
  next hnone =>
    rw [hnone]
    exact ⟨fun h => ⟨h, fun hne => absurd rfl hne⟩, fun h => h.1⟩
  next context hcontext =>
    rw [callsLegal_append rfl, hcontext]
    refine and_congr_right fun _ => ?_
    show (br.contexts context).displayed = some request ↔ _
    rw [displayed_of_context hcontext]
    exact ⟨fun h _ => h, fun h => h nofun⟩

/-- A show is always legal: the presenter asks the context before. -/
theorem present_callsLegal (h : br.CallsLegal) (queues : W → OverlayRequestQueue W B) :
    (br.presentOverlayForActiveRequest factory queues).CallsLegal := by
  rcases presentOverlayForActiveRequest_cases factory queues br with
    ⟨context, webState, request, hshows⟩ | ⟨hsame, _⟩
  · have hcalls : (br.presentOverlayForActiveRequest factory queues).contextCalls =
        br.contextCalls ++ [.showOverlayUI context request none] := by rw [hshows.result]
    exact (callsLegal_append hcalls).2 ⟨h, rfl⟩
  · rw [hsame]
    exact h

theorem cancel_callsLegal (h : br.CallsLegal) (request : Option (OverlayRequest W)) :
    (br.cancelOverlayUIForRequest request).CallsLegal := by
  refine h.of_eq ?_
  unfold cancelOverlayUIForRequest
  split <;> rfl

/-- The presented request is the one displayed. -/
theorem Steady.displayed (h : br.Steady) {request : OverlayRequest W}
    (hpresented : br.presenter.presentedRequest = some request) :
    br.displayed = some request := by
  obtain ⟨x, hx, hrequest⟩ := h.exact.presented request hpresented
  unfold Browser.displayed
  rw [hx, Option.map_some, hrequest]

theorem Steady.context (h : br.Steady) (hpresenting : br.presenter.presenting = true) :
    br.presenter.presentationContext ≠ none := by
  intro hnone
  rw [h.exact.presenting, shown_of_no_context hnone] at hpresenting
  exact hpresenting rfl

/-- **A change of the active tab makes legal calls exactly when** it leaves the
displayed request or cancels. -/
theorem setActiveWebState_callsLegal {queues : W → OverlayRequestQueue W B}
    (hsteady : br.Steady) (hheld : ∀ request,
      br.presenter.removedRequestAwaitingDismissal = some request →
        br.presenter.presentedRequest = some request)
    (hlegal : br.CallsLegal) (newActive : Option W) (reason : ActiveWebStateChangeReason) :
    (br.setActiveWebState factory queues newActive reason).CallsLegal ↔
      (reason ≠ .replaced → br.presenter.detachingPresentingWebState = false →
        br.LeavesDisplayed queues newActive) := by
  have h := setActiveWebState_cases factory queues br newActive reason
  generalize br.setActiveWebState factory queues newActive reason = br' at h
  have hwrite : (br.withActiveWebState newActive).CallsLegal := hlegal
  cases h with
  | same hsame => exact iff_of_true hlegal fun _ _ hne => absurd hsame hne
  | ignored _ hignored =>
    refine iff_of_true hwrite fun _ _ _ hpresenting hremoved request hrequest => ?_
    rcases hignored with hnone | ⟨_, hprevious⟩
    · exact absurd hnone (hsteady.context hpresenting)
    · unfold previouslyActiveRequest at hprevious
      rw [hremoved] at hprevious
      exact nomatch hprevious.symm.trans hrequest
  | present _ hidle =>
    refine iff_of_true (present_callsLegal hwrite queues) fun _ _ _ hpresenting => ?_
    exact absurd (hidle.symm.trans hpresenting) Bool.false_ne_true
  | cancel request _ _ _ hcancel =>
    refine iff_of_true (cancel_callsLegal hwrite _) fun hreason hkeep => ?_
    rcases hcancel with hreplaced | hdetaching
    · exact absurd hreplaced hreason
    · exact absurd (hkeep.symm.trans hdetaching) Bool.false_ne_true
  | hide request hne hpresenting hprevious hreason hkeep =>
    rw [hideOverlayUI_callsLegal]
    have hsame : (br.withActiveWebState newActive).displayed = br.displayed := rfl
    rw [hsame]
    constructor
    · rintro ⟨_, hdisplayed⟩ _ _ _ _ hremoved request' hrequest'
      unfold previouslyActiveRequest at hprevious
      rw [hremoved] at hprevious
      rw [hdisplayed (hsteady.context hpresenting), ← hprevious]
      exact hrequest'
    · intro hleaves
      refine ⟨hwrite, fun _ => ?_⟩
      cases hremoved : br.presenter.removedRequestAwaitingDismissal with
      | some held =>
        unfold previouslyActiveRequest at hprevious
        rw [hremoved] at hprevious
        cases hprevious
        exact hsteady.displayed (hheld request hremoved)
      | none =>
        refine hleaves hreason hkeep hne hpresenting hremoved request ?_
        unfold previouslyActiveRequest at hprevious
        rw [hremoved] at hprevious
        exact hprevious

theorem requestAddedToQueue_callsLegal {queues : W → OverlayRequestQueue W B} (hsteady : br.Steady)
    (hlegal : br.CallsLegal) (webState : W) (request : OverlayRequest W) :
    (br.requestAddedToQueue factory queues webState request).CallsLegal := by
  have h := requestAddedToQueue_cases factory queues br webState request
  generalize br.requestAddedToQueue factory queues webState request = br' at h
  cases h with
  | inactive => exact hlegal
  | present => exact present_callsLegal hlegal queues
  | wait => exact hlegal
  | hide presented _ hpresented =>
    exact (hideOverlayUI_callsLegal br presented).2 ⟨hlegal, fun _ => hsteady.displayed hpresented⟩

theorem presentationContextReady_callsLegal {queues : W → OverlayRequestQueue W B}
    (hlegal : br.CallsLegal) :
    (br.presentationContextReady factory queues).CallsLegal := by
  unfold presentationContextReady
  split
  · exact present_callsLegal hlegal queues
  · exact hlegal

theorem updatePresentationCapabilities_callsLegal {queues : W → OverlayRequestQueue W B}
    (hsteady : br.Steady) (hlegal : br.CallsLegal) (context : C)
    (capabilities : UIPresentationCapabilities) :
    (br.updatePresentationCapabilities factory queues context capabilities).CallsLegal := by
  have hwill : (br.willChangePresentationCapabilities factory capabilities).CallsLegal := by
    unfold willChangePresentationCapabilities
    split
    next => exact hlegal
    next request hrequest =>
      split
      next => exact hlegal
      next =>
        exact (hideOverlayUI_callsLegal br request).2
          ⟨hlegal, fun _ => hsteady.displayed hrequest⟩
  unfold updatePresentationCapabilities
  split
  · exact hlegal
  · split
    · exact hlegal
    · exact presentationContextReady_callsLegal (hwill.of_eq rfl)

end Browser

/-! ## The calls of all windows -/

/-- What upkeep leaves of a window, as far as a change of the active tab asks. -/
theorem Upkeeps.frame {s s' : System W B C} (h : Upkeeps s s') (hsingle : s.Single) (b : B) :
    (s'.browsers b).presenter.presenting = (s.browsers b).presenter.presenting ∧
    (s'.browsers b).presenter.activeWebState = (s.browsers b).presenter.activeWebState ∧
    (s'.browsers b).displayed = (s.browsers b).displayed := by
  have hdisplayed : ∀ {br br' : Browser W C}, br.Single → Browser.Quiet br br' →
      br'.displayed = br.displayed := by
    intro br br' hbr hquiet
    unfold Browser.displayed
    cases hx : br.shown with
    | none => rw [hquiet.shown_eq_none hbr hx]
    | some x =>
      obtain ⟨x', hx', hrequest, _⟩ := hquiet.shown_eq_some hbr hx
      rw [hx', Option.map_some, Option.map_some, hrequest]
  refine (h.keeps (P := fun s' => s'.Single ∧
    (s'.browsers b).presenter.presenting = (s.browsers b).presenter.presenting ∧
    (s'.browsers b).presenter.activeWebState = (s.browsers b).presenter.activeWebState ∧
    (s'.browsers b).displayed = (s.browsers b).displayed) ?_ ⟨hsingle, rfl, rfl, rfl⟩).2
  intro s₁ s₂ hs hupkeep
  have hquiet := hupkeep.quiet b
  exact ⟨fun b' => (hupkeep.quiet b').single (hs.1 b'), hquiet.presenter.presenting.trans hs.2.1,
    (hupkeep.activeWebState b).trans hs.2.2.1, (hdisplayed (hs.1 b) hquiet).trans hs.2.2.2⟩

namespace System

/-- Every call made so far was legal, in all windows. -/
def CallsLegal (s : System W B C) : Prop := ∀ b, (s.browsers b).CallsLegal

theorem CallsLegal.upkeeps {s s' : System W B C} (h : s.CallsLegal) (hupkeeps : Upkeeps s s') :
    s'.CallsLegal := fun b => (h b).of_eq (hupkeeps.silent.contextCalls b)

variable {s : System W B C}

theorem modifyBrowser_callsLegal (h : s.CallsLegal) {b : B} {f : Browser W C → Browser W C} :
    (s.modifyBrowser b f).CallsLegal ↔ (f (s.browsers b)).CallsLegal := by
  constructor
  · intro hall
    have hself := hall b
    rwa [modifyBrowser_self] at hself
  · intro hself b'
    rw [modifyBrowser_browsers]
    split
    · exact hself
    · exact h b'

theorem CallsLegal.present (h : s.CallsLegal) (b : B) :
    (s.modifyBrowser b (·.presentOverlayForActiveRequest factory s.queues)).CallsLegal :=
  (modifyBrowser_callsLegal h).2 (Browser.present_callsLegal (h b) s.queues)

/-! ### Dismissals -/

theorem overlayWasDismissed_callsLegal (h : s.CallsLegal) (b : B) (context : C)
    (request : OverlayRequest W) (queue : W) (reason : OverlayDismissalReason) :
    (s.overlayWasDismissed factory b context request queue reason).CallsLegal := by
  have hended : (s.endPresentation b request queue reason).CallsLegal := fun b' =>
    (h b').of_eq ((endPresentation_silent s b request queue reason).contextCalls b')
  have hcases := overlayWasDismissed_cases factory s b context request queue reason
  generalize s.overlayWasDismissed factory b context request queue reason = s' at hcases
  cases hcases with
  | ignored => exact h
  | replaced =>
    have hleft : (s.leaveReplaced b).CallsLegal := by
      unfold leaveReplaced modifyPresenter
      exact (modifyBrowser_callsLegal h).2 (h b)
    exact hleft.present b
  | next => exact hended.present b
  | unchanged => exact hended

theorem overlayUIWasDismissed_callsLegal (h : s.CallsLegal) {b : B} {context : C} {x : Shown W}
    (hx : ((s.browsers b).contexts context).shown = some x) :
    (s.overlayUIWasDismissed factory b context).CallsLegal := by
  have hwrite : ∀ {s' : System W B C} (f : Browser W C → OverlayPresentationContext W),
      s'.CallsLegal → (s'.modifyBrowser b fun br => br.setContext context (f br)).CallsLegal :=
    fun f h' => (modifyBrowser_callsLegal h').2 (h' b)
  have hdismissed : ((s.takeCallback b context x).overlayWasDismissed factory b context x.request
      x.queue x.reason).CallsLegal := overlayWasDismissed_callsLegal (hwrite _ h) b context _ _ _
  rw [overlayUIWasDismissed_eq hx]
  generalize (s.takeCallback b context x).overlayWasDismissed factory b context x.request x.queue
    x.reason = s' at hdismissed
  split
  next =>
    unfold resetRequest
    refine hwrite _ ?_
    simp only
    split
    next => exact hdismissed
    next =>
      split
      next =>
        split
        next => exact hwrite _ hdismissed
        next => exact overlayWasDismissed_callsLegal (hwrite _ hdismissed) b context _ _ _
      next => exact hdismissed
  next => exact hdismissed

/-! ### Tabs -/

theorem webStateRemovedFromBrowser_detaching (s : System W B C) (b : B) (webState : W) :
    ((s.webStateRemovedFromBrowser b webState).browsers b).presenter.detachingPresentingWebState =
      (s.browsers b).presenter.detachingPresentingWebState := by
  have hdelegate : ∀ s₁ : System W B C, ((s₁.setDelegate webState none).browsers
      b).presenter.detachingPresentingWebState =
        (s₁.browsers b).presenter.detachingPresentingWebState := by
    intro s₁
    rcases setDelegate_presenter s₁ webState none b with hsame | ⟨_, _, request, _, _, hforgets⟩
    · rw [hsame]
    · rw [hforgets]
      rfl
  unfold webStateRemovedFromBrowser
  simp only
  generalize hs₁ : s.modifyQueue webState _ = s₁
  have hbrowsers : s₁.browsers = s.browsers := by rw [← hs₁]; rfl
  generalize hs₂ : (if (s₁.browsers b).presenter.presentedRequest.any
      (·.queueWebState = webState) then s₁ else s₁.setDelegate webState none) = s₂
  have hsame : (s₂.browsers b).presenter.detachingPresentingWebState =
      (s.browsers b).presenter.detachingPresentingWebState := by
    rw [← hs₂, ← hbrowsers]
    split
    · rfl
    · exact hdelegate s₁
  split
  · rw [modifyPresenter_self]
    exact hsame
  · rw [modifyBrowser_self, Browser.cancelOverlayUIForRequest_presenter]
    exact hsame

/-- Detaching a tab tells the presenter whether it is the presenting one. -/
theorem willDetachWebStateAt_detaching (s : System W B C) (b : B) (webState : W) :
    ((s.willDetachWebStateAt b webState).browsers b).presenter.detachingPresentingWebState = false ↔
      ∀ request, (s.browsers b).presenter.presentedRequest = some request →
        request.queueWebState ≠ webState := by
  unfold willDetachWebStateAt
  rw [webStateRemovedFromBrowser_detaching, modifyPresenter_self]
  show (s.browsers b).presenter.presentedRequest.any _ = false ↔ _
  cases (s.browsers b).presenter.presentedRequest with
  | none => exact ⟨fun _ => nofun, fun _ => rfl⟩
  | some presented =>
    rw [Option.any_some, decide_eq_false_iff_not]
    exact ⟨fun hne request hrequest => by cases hrequest; exact hne, fun h => h presented rfl⟩

/-- **An edit makes legal calls exactly when** the change of the active tab that
comes with it leaves the displayed request or cancels. -/
theorem edit_callsLegal (h : s.Tracked) (hlegal : s.CallsLegal) (b : B) {e : Edit W}
    (he : e.Legal (s.browsers b).webStateList) :
    (s.edit factory b e).CallsLegal ↔ s.HidesDisplayed (.edit b e) := by
  have htabs : ∀ {s' : System W B C}, s'.CallsLegal → ∀ v : View W,
      (s'.modifyBrowser b ({ · with webStateList := v })).CallsLegal :=
    fun h' v => (modifyBrowser_callsLegal h').2 (h' b)
  -- a change of the active tab, after some upkeep
  have hchange : ∀ {s' : System W B C}, s'.Tracked → s'.CallsLegal → ∀ (newActive : Option W)
      (reason : ActiveWebStateChangeReason) (v : View W),
      ((s'.modifyBrowser b (·.setActiveWebState factory s'.queues newActive reason)).modifyBrowser b
        ({ · with webStateList := v })).CallsLegal ↔ (reason ≠ .replaced →
          (s'.browsers b).presenter.detachingPresentingWebState = false →
          (s'.browsers b).LeavesDisplayed s'.queues newActive) := by
    intro s' ht hl newActive reason v
    rw [modifyBrowser_modifyBrowser, modifyBrowser_callsLegal hl]
    exact Browser.setActiveWebState_callsLegal (ht.steady.windows b)
      (fun request hrequest => ht.held.presented b request hrequest) (hl b) newActive reason
  cases e with
  | insert webState index activating =>
    exact iff_of_true (htabs (hlegal.upkeeps (webStateAddedToBrowser_upkeeps s b webState)) _)
      trivial
  | move webState fromIndex toIndex => exact iff_of_true (htabs hlegal _) trivial
  | replace oldWebState newWebState index activeIndex =>
    have hupkeeps : Upkeeps s ((s.webStateRemovedFromBrowser b oldWebState).webStateAddedToBrowser b
        newWebState) := (webStateRemovedFromBrowser_upkeeps s b oldWebState).trans
      (webStateAddedToBrowser_upkeeps _ b newWebState)
    refine iff_of_true ((hchange ((h.webStateRemovedFromBrowser b oldWebState).webStateAddedToBrowser
      b newWebState) (hlegal.upkeeps hupkeeps) _ .replaced _).2 fun hne => absurd rfl hne) trivial
  | detach webState index =>
    exact iff_of_true (htabs (hlegal.upkeeps (willDetachWebStateAt_upkeeps s b webState)) _) trivial
  | detachActive webState index newActive activeIndex =>
    have hupkeeps := willDetachWebStateAt_upkeeps s b webState
    have hkept := willDetachWebStateAt_kept s b webState
    obtain ⟨hpresenting, hactive, hdisplayed⟩ := hupkeeps.frame h.steady.single b
    have hrequest : ((s.willDetachWebStateAt b webState).browsers b).getActiveRequest
        (s.willDetachWebStateAt b webState).queues = (s.browsers b).getActiveRequest s.queues := by
      unfold Browser.getActiveRequest OverlayRequestQueue.frontRequest
      rw [hactive]
      simp only [hkept.requests]
    refine (hchange (h.willDetachWebStateAt b webState) (hlegal.upkeeps hupkeeps) newActive .closed
      _).trans ?_
    rw [willDetachWebStateAt_detaching]
    have hleaves : ((s.willDetachWebStateAt b webState).browsers b).LeavesDisplayed
        (s.willDetachWebStateAt b webState).queues newActive ↔
          (s.browsers b).LeavesDisplayed s.queues newActive := by
      unfold Browser.LeavesDisplayed
      rw [hpresenting, hactive, hdisplayed, hrequest, (hkept.browsers b).removed]
    rw [hleaves]
    exact ⟨fun hall => hall (by decide), fun hall _ => hall⟩
  | close webState index userAction => exact iff_of_true (htabs hlegal _) trivial
  | activate newActive activeIndex reason =>
    refine (hchange h hlegal newActive reason _).trans ?_
    exact ⟨fun hall => hall he.2.1, fun hall _ => hall⟩
  | beginBatch => exact iff_of_true (htabs hlegal _) trivial
  | endBatch => exact iff_of_true (htabs hlegal _) trivial

/-! ### Every event -/

/-- A request that waits behind another, or is inserted in front of the
presented one, leads to legal calls only. -/
theorem insertRequest_callsLegal (h : s.Tracked) (hlegal : s.CallsLegal) {webState : W}
    {index : Nat} (hindex : index ≤ (s.queues webState).requests.length) :
    (s.insertRequest factory webState index).CallsLegal := by
  have hadded : ∀ (request : OverlayRequest W) (observers : List B) {s : System W B C}, s.Tracked →
      s.CallsLegal → (observers.foldl (fun s b => s.modifyBrowser b fun br =>
        br.requestAddedToQueue factory s.queues webState request) s).CallsLegal := by
    intro request observers
    induction observers with
    | nil => exact fun _ hl => hl
    | cons b observers ih =>
      intro s h hl
      refine ih (h.reaction (requestAddedToQueue_effects s b webState request)
        (Browser.requestAddedToQueue_kept factory s.queues _ webState request)
        (Browser.requestAddedToQueue_presented s.queues _ webState request)) ?_
      exact (modifyBrowser_callsLegal hl).2
        (Browser.requestAddedToQueue_callsLegal (h.steady.windows b) (hl b) webState request)
  exact hadded _ _ (h.withRequest hindex) hlegal

/-- A presenter without a context has nothing to cancel in the one it is given. -/
theorem setPresentationContext_callsLegal (hlegal : s.CallsLegal) {b : B}
    (hnone : (s.browsers b).presenter.presentationContext = none) (presentationContext : Option C) :
    (s.modifyBrowser b
      (·.setPresentationContext factory s.queues presentationContext)).CallsLegal := by
  refine (modifyBrowser_callsLegal hlegal).2 ?_
  rw [Browser.setPresentationContext_of_no_context hnone]
  have hgiven : ((s.browsers b).withPresentationContext presentationContext).CallsLegal :=
    (hlegal b).of_eq rfl
  exact Browser.present_callsLegal hgiven s.queues

/-- **The exact condition, event by event.** -/
theorem step_callsLegal (h : s.Tracked) (hlegal : s.CallsLegal) {event : Event W B C}
    (henabled : s.Enabled event) (hkeeps : s.KeepsContext event) :
    (s.step factory event).CallsLegal ↔ s.HidesDisplayed event := by
  cases event with
  | edit b e => exact edit_callsLegal h hlegal b henabled.1
  | webStateDestroyed webState =>
    refine iff_of_true ?_ trivial
    have hupkeeps : Upkeeps s (cancelAllLoop webState ((s.modifyQueue webState
        ({ · with observers := [] })).queues webState).requests.length
          (s.modifyQueue webState ({ · with observers := [] }))) :=
      .head (.queue webState _ (List.Sublist.refl _)) (cancelAllLoop_upkeeps webState _ _)
    exact fun b => hlegal.upkeeps hupkeeps b
  | addRequest webState =>
    exact iff_of_true (insertRequest_callsLegal h hlegal (Nat.le_refl _)) trivial
  | insertRequest webState index =>
    exact iff_of_true (insertRequest_callsLegal h hlegal henabled.2) trivial
  | cancelRequest webState request =>
    exact iff_of_true (hlegal.upkeeps (cancelRequest_upkeeps s webState request)) trivial
  | cancelAllRequests webState =>
    exact iff_of_true (hlegal.upkeeps (cancelAllLoop_upkeeps webState _ s)) trivial
  | setPresentationContext b presentationContext =>
    exact iff_of_true (setPresentationContext_callsLegal hlegal hkeeps presentationContext) trivial
  | updatePresentationCapabilities b context capabilities =>
    have hwindow : ((s.browsers b).updatePresentationCapabilities factory s.queues context
        capabilities).CallsLegal :=
      Browser.updatePresentationCapabilities_callsLegal (h.steady.windows b) (hlegal b) context _
    refine iff_of_true ?_ trivial
    unfold step
    exact (modifyBrowser_callsLegal hlegal).2 hwindow
  | presentationContextReady b context =>
    refine iff_of_true ?_ trivial
    unfold step
    exact (modifyBrowser_callsLegal hlegal).2
      (Browser.presentationContextReady_callsLegal (hlegal b))
  | dismissedByUser b context =>
    refine iff_of_true ?_ trivial
    unfold step
    exact (modifyBrowser_callsLegal hlegal).2 (hlegal b)
  | overlayUIDidFinishDismissal b context =>
    obtain ⟨x, hx⟩ := Option.isSome_iff_exists.1 henabled.1
    exact iff_of_true (overlayUIWasDismissed_callsLegal hlegal hx) trivial

variable (factory) in
theorem init_callsLegal (h : (overlayMachine W B C factory).init s) :
    s.CallsLegal := by
  obtain ⟨capabilities, rfl⟩ := h
  exact fun _ => nofun

/-- **A run makes legal calls exactly when** every change of the active tab that
does not cancel leaves the displayed request: `ShowOverlayUI` always finds the
context free, and `HideOverlayUI` its request displayed. -/
theorem contextCalls_legal_iff {s : System W B C} {events : List (Event W B C)}
    (hinit : (overlayMachine W B C factory).init s)
    (hrun : (overlayMachine W B C factory).Run s events)
    (hkeeps : (overlayMachine W B C factory).Always KeepsContext s events) :
    (overlayMachine W B C factory).Always (fun s event => (s.step factory event).CallsLegal)
      s events ↔ (overlayMachine W B C factory).Always HidesDisplayed s events := by
  refine Lib.Machine.Guarded.always_iff (I := fun s => s.Tracked ∧ s.CallsLegal) ?_ ?_
    ⟨init_tracked factory hinit, init_callsLegal factory hinit⟩ hrun hkeeps
  · rintro s event ⟨htracked, hlegal⟩ henabled hkeep
    exact step_callsLegal htracked hlegal henabled hkeep
  · rintro s event ⟨htracked, hlegal⟩ henabled hkeep hcalls
    exact ⟨step_tracked htracked henabled hkeep, hcalls⟩

/-- A tab is left while its overlay is shown, and it is the one hidden. -/
theorem contextCalls_legal_iff_hide :
    let M := overlayMachine Nat Bool Bool (childFactory Nat)
    let s := System.start Nat Bool Bool
    let events : List (Event Nat Bool Bool) :=
      [.edit true (.insert 1 0 true), .edit true (.insert 2 1 false),
        .edit true (.activate (some 1) 0 .activated), .addRequest 1,
        .setPresentationContext true (some true), .edit true (.activate (some 2) 1 .activated)]
    (M.init s ∧ M.Run s events ∧ M.Always KeepsContext s events) ∧
    ((M.exec s events).browsers true).contextCalls =
      [.showOverlayUI true ⟨0, 1⟩ none, .hideOverlayUI true ⟨0, 1⟩ (some ⟨0, 1⟩)] ∧
    (M.Always (fun s event => (s.step (childFactory Nat) event).CallsLegal) s events ↔
      M.Always HidesDisplayed s events) := by
  intro M s events
  have hinit : M.init s := ⟨fun _ _ => ⟨true, true⟩, rfl⟩
  have hrun : M.Run s events := by decide +kernel
  have hkeeps : M.Always KeepsContext s events := by decide +kernel
  exact ⟨⟨hinit, hrun, hkeeps⟩, by decide +kernel, contextCalls_legal_iff hinit hrun hkeeps⟩

/-- Two tabs are left before the overlay of the first is gone: the front request
of the second is to be hidden, and it was never displayed. -/
theorem leftTwice_hidesAnother :
    let M := overlayMachine Nat Bool Bool (childFactory Nat)
    let s := System.start Nat Bool Bool
    let events : List (Event Nat Bool Bool) :=
      [.edit true (.insert 1 0 true), .edit true (.insert 2 1 false),
        .edit true (.insert 3 2 false), .edit true (.activate (some 1) 0 .activated),
        .addRequest 1, .addRequest 2, .setPresentationContext true (some true),
        .edit true (.activate (some 2) 1 .activated), .edit true (.activate (some 3) 2 .activated)]
    M.init s ∧ M.Run s events ∧ M.Always KeepsContext s events ∧
    ¬ (M.exec s events).CallsLegal := by
  intro M s events
  refine ⟨⟨fun _ _ => ⟨true, true⟩, rfl⟩, by decide +kernel, by decide +kernel, fun h => ?_⟩
  have hcalls : ((M.exec s events).browsers true).contextCalls =
      [.showOverlayUI true ⟨0, 1⟩ none, .hideOverlayUI true ⟨0, 1⟩ (some ⟨0, 1⟩),
        .hideOverlayUI true ⟨1, 2⟩ (some ⟨0, 1⟩)] := by decide +kernel
  have hlast := h true (.hideOverlayUI true ⟨1, 2⟩ (some ⟨0, 1⟩)) (by rw [hcalls]; decide)
  exact absurd hlast (by unfold ContextCall.Legal; decide)

end System

end IosChrome.Overlays

import IosChrome.Overlays.OverlayPresenter

/-!
# What each function of the system can do

Every invariant of the overlay system is proved through the lemmas of this
file, and none of them unfolds the presenter again.

* `presentOverlayForActiveRequest_cases`, `setActiveWebState_cases`,
  `requestAddedToQueue_cases`: a presenter's reaction is to leave the window
  alone, to show the front request of the active tab, to hide or to cancel.
* `Kept`: the requests in the queues, the ones the presenters hold back, the
  logs of requests and the tabs stay as they are. Everything but adding,
  removing and dismissing a request is such a step.
* `setDelegate_presenter`: what replacing a delegate does to the presenter
  replaced.
-/

set_option linter.unusedSectionVars false

namespace IosChrome.Overlays

open Tabs (ActiveWebStateChangeReason ObserverCall)

variable {W B C : Type} [DecidableEq W] [DecidableEq B] [DecidableEq C]

/-! ## Writes -/

namespace System

@[simp] theorem modifyBrowser_queues (s : System W B C) (b : B) (f : Browser W C → Browser W C) :
    (s.modifyBrowser b f).queues = s.queues := rfl

theorem modifyBrowser_browsers (s : System W B C) (b b' : B) (f : Browser W C → Browser W C) :
    (s.modifyBrowser b f).browsers b' = if b' = b then f (s.browsers b) else s.browsers b' :=
  Function.update_apply ..

@[simp] theorem modifyBrowser_self (s : System W B C) (b : B) (f : Browser W C → Browser W C) :
    (s.modifyBrowser b f).browsers b = f (s.browsers b) := Function.update_self ..

theorem modifyBrowser_of_ne (s : System W B C) {b b' : B} (h : b' ≠ b)
    (f : Browser W C → Browser W C) : (s.modifyBrowser b f).browsers b' = s.browsers b' :=
  Function.update_of_ne h ..

@[simp] theorem modifyPresenter_queues (s : System W B C) (b : B)
    (f : OverlayPresenterImpl W C → OverlayPresenterImpl W C) :
    (s.modifyPresenter b f).queues = s.queues := rfl

@[simp] theorem modifyPresenter_self (s : System W B C) (b : B)
    (f : OverlayPresenterImpl W C → OverlayPresenterImpl W C) :
    (s.modifyPresenter b f).browsers b =
      (s.browsers b).setPresenter (f (s.browsers b).presenter) := Function.update_self ..

@[simp] theorem modifyQueue_browsers (s : System W B C) (webState : W)
    (f : OverlayRequestQueue W B → OverlayRequestQueue W B) :
    (s.modifyQueue webState f).browsers = s.browsers := rfl

theorem modifyQueue_queues (s : System W B C) (webState webState' : W)
    (f : OverlayRequestQueue W B → OverlayRequestQueue W B) :
    (s.modifyQueue webState f).queues webState' =
      if webState' = webState then f (s.queues webState) else s.queues webState' :=
  Function.update_apply ..

@[simp] theorem modifyQueue_self (s : System W B C) (webState : W)
    (f : OverlayRequestQueue W B → OverlayRequestQueue W B) :
    (s.modifyQueue webState f).queues webState = f (s.queues webState) := Function.update_self ..

theorem modifyQueue_of_ne (s : System W B C) {webState webState' : W} (h : webState' ≠ webState)
    (f : OverlayRequestQueue W B → OverlayRequestQueue W B) :
    (s.modifyQueue webState f).queues webState' = s.queues webState' := Function.update_of_ne h ..

end System

/-! ## What the presenter does in its window -/

namespace Browser

variable (factory : OverlayRequestCoordinatorFactory W) (queues : W → OverlayRequestQueue W B)

/-- The window `br'` is `br` showing the UI of `request`, the front request of
the active tab, in a context where nothing is up. -/
structure Shows (br br' : Browser W C) (context : C) (webState : W)
    (request : OverlayRequest W) : Prop where
  presentationContext : br.presenter.presentationContext = some context
  activeWebState : br.presenter.activeWebState = some webState
  shown : (br.contexts context).shown = none
  front : (queues webState).frontRequest = some request
  canShow : OverlayPresentationContext.canShowUIForRequest factory request
    (br.contexts context).presentationCapabilities = true
  result : br' =
    { br with
      presenter := { br.presenter with presenting := true, presentedRequest := some request }
      contexts := Function.update br.contexts context
        ((br.contexts context).showOverlayUI request webState)
      contextCalls := br.contextCalls ++ [.showOverlayUI context request none] }

/-- Nothing is shown because there is no context, or UI is up, or there is no
active request, or the context cannot show it. -/
def CannotPresent (br : Browser W C) : Prop :=
  ∀ context, br.presenter.presentationContext = some context →
    (br.contexts context).shown = none →
    ∀ request, br.getActiveRequest queues = some request →
      OverlayPresentationContext.canShowUIForRequest factory request
        (br.contexts context).presentationCapabilities = false

/-- **`PresentOverlayForActiveRequest` shows the active request or does
nothing**, for one of its reasons. -/
theorem presentOverlayForActiveRequest_cases (br : Browser W C) :
    (∃ context webState request, Shows factory queues br
      (br.presentOverlayForActiveRequest factory queues) context webState request) ∨
    (br.presentOverlayForActiveRequest factory queues = br ∧ CannotPresent factory queues br) := by
  unfold presentOverlayForActiveRequest
  split
  next context webState hcontext hactive =>
    by_cases hshown : (br.contexts context).isShowingOverlayUI = true
    · simp only [hshown, if_true]
      refine .inr ⟨trivial, fun context' hcontext' hnone => ?_⟩
      rw [hcontext] at hcontext'
      cases hcontext'
      unfold OverlayPresentationContext.isShowingOverlayUI at hshown
      rw [hnone] at hshown
      cases hshown
    · have hnone : (br.contexts context).shown = none :=
        Option.not_isSome_iff_eq_none.1 hshown
      simp only [hshown, Bool.false_eq_true, if_false]
      split
      next hfront =>
        refine .inr ⟨rfl, fun context' _ _ request hrequest => ?_⟩
        unfold getActiveRequest at hrequest
        rw [hactive, Option.bind_some, hfront] at hrequest
        cases hrequest
      next request hfront =>
        split
        next hcan =>
          refine .inl ⟨context, webState, request, hcontext, hactive, hnone, hfront, hcan, ?_⟩
          have hdisplayed : (br.contexts context).displayed = none := by
            rw [OverlayPresentationContext.displayed, hnone, Option.map_none]
          rw [hdisplayed]
        next hcan =>
          refine .inr ⟨rfl, fun context' hcontext' _ request' hrequest => ?_⟩
          rw [hcontext] at hcontext'
          cases hcontext'
          unfold getActiveRequest at hrequest
          rw [hactive, Option.bind_some, hfront] at hrequest
          cases hrequest
          exact Bool.eq_false_iff.2 hcan
  next hnone =>
    refine .inr ⟨rfl, fun context hcontext _ request hrequest => ?_⟩
    unfold getActiveRequest at hrequest
    cases hactive : br.presenter.activeWebState with
    | none =>
      rw [hactive] at hrequest
      cases hrequest
    | some webState => exact (hnone context webState hcontext hactive).elim

/-- The window with another active tab, before the presenter reacts to it. -/
def withActiveWebState (br : Browser W C) (webState : Option W) : Browser W C :=
  br.setPresenter { br.presenter with
    activeWebState := webState, detachingPresentingWebState := false }

/-- The request `SetActiveWebState` takes for the one whose UI is up. -/
def previouslyActiveRequest (br : Browser W C) :
    Option (OverlayRequest W) :=
  match br.presenter.removedRequestAwaitingDismissal with
  | some request => some request
  | none => br.getActiveRequest queues

/-- The reactions to a change of the active tab. -/
inductive SetActive (br : Browser W C) (webState : Option W) (reason : ActiveWebStateChangeReason) : Browser W C → Prop where
  | same : br.presenter.activeWebState = webState → SetActive br webState reason br
  | ignored : br.presenter.activeWebState ≠ webState →
      (br.presenter.presentationContext = none ∨
        br.presenter.presenting = true ∧ br.previouslyActiveRequest queues = none) →
      SetActive br webState reason (br.withActiveWebState webState)
  | present : br.presenter.activeWebState ≠ webState → br.presenter.presenting = false →
      SetActive br webState reason
        ((br.withActiveWebState webState).presentOverlayForActiveRequest factory queues)
  | cancel (request : OverlayRequest W) : br.presenter.activeWebState ≠ webState →
      br.presenter.presenting = true → br.previouslyActiveRequest queues = some request →
      (reason = .replaced ∨ br.presenter.detachingPresentingWebState = true) →
      SetActive br webState reason
        ((br.withActiveWebState webState).cancelOverlayUIForRequest (some request))
  | hide (request : OverlayRequest W) : br.presenter.activeWebState ≠ webState →
      br.presenter.presenting = true → br.previouslyActiveRequest queues = some request →
      reason ≠ .replaced → br.presenter.detachingPresentingWebState = false →
      SetActive br webState reason
        ((br.withActiveWebState webState).hideOverlayUI request)

theorem setActiveWebState_of_ne {br : Browser W C} {webState : Option W}
    (hne : ¬br.presenter.activeWebState = webState) (reason : ActiveWebStateChangeReason) :
    br.setActiveWebState factory queues webState reason =
      if (br.withActiveWebState webState).presenter.presentationContext.isNone then
        br.withActiveWebState webState
      else if !(br.withActiveWebState webState).presenter.presenting then
        (br.withActiveWebState webState).presentOverlayForActiveRequest factory queues
      else match br.previouslyActiveRequest queues with
        | none => br.withActiveWebState webState
        | some request =>
          if reason == .replaced || br.presenter.detachingPresentingWebState then
            (br.withActiveWebState webState).cancelOverlayUIForRequest (some request)
          else (br.withActiveWebState webState).hideOverlayUI request :=
  if_neg hne

theorem setActiveWebState_cases (br : Browser W C) (webState : Option W)
    (reason : ActiveWebStateChangeReason) :
    SetActive factory queues br webState reason
      (br.setActiveWebState factory queues webState reason) := by
  by_cases hsame : br.presenter.activeWebState = webState
  · unfold setActiveWebState
    rw [if_pos hsame]
    exact .same hsame
  · have hne := hsame
    rw [setActiveWebState_of_ne factory queues hne]
    split
    next hnone => exact .ignored hne (.inl (Option.isNone_iff_eq_none.1 hnone))
    next =>
      split
      next hidle =>
        have hidle : (!br.presenter.presenting) = true := hidle
        exact .present hne (by simpa using hidle)
      next hpresenting =>
        have hpresenting : ¬(!br.presenter.presenting) = true := hpresenting
        have hpresenting : br.presenter.presenting = true := by simpa using hpresenting
        split
        next hprevious => exact .ignored hne (.inr ⟨hpresenting, hprevious⟩)
        next request hprevious =>
          split
          next hcancel =>
            rw [Bool.or_eq_true, beq_iff_eq] at hcancel
            exact .cancel request hne hpresenting hprevious hcancel
          next hkeep =>
            rw [Bool.or_eq_true, not_or, Bool.not_eq_true, beq_eq_false_iff_ne,
              Bool.not_eq_true] at hkeep
            exact .hide request hne hpresenting hprevious hkeep.1 hkeep.2

/-- The reactions to a request added to the queue of `webState`. -/
inductive RequestAdded (br : Browser W C) (webState : W) (request : OverlayRequest W) : Browser W C → Prop where
  | inactive : br.getActiveRequest queues ≠ some request →
      RequestAdded br webState request br
  | present : br.getActiveRequest queues = some request → br.presenter.presenting = false →
      RequestAdded br webState request
        (br.presentOverlayForActiveRequest factory queues)
  | wait : br.presenter.presenting = true →
      (∀ presented, br.presenter.presentedRequest = some presented →
        (queues webState).requests[1]? ≠ some presented) →
      RequestAdded br webState request br
  | hide (presented : OverlayRequest W) : br.presenter.presenting = true →
      br.presenter.presentedRequest = some presented →
      (queues webState).requests[1]? = some presented →
      RequestAdded br webState request (br.hideOverlayUI presented)

theorem requestAddedToQueue_cases (br : Browser W C) (webState : W) (request : OverlayRequest W) :
    RequestAdded factory queues br webState request
      (br.requestAddedToQueue factory queues webState request) := by
  unfold requestAddedToQueue
  split
  next hne => exact .inactive hne
  next heq =>
    split
    next hidle => exact .present (not_not.1 heq) (by simpa using hidle)
    next hpresenting =>
      have hpresenting : br.presenter.presenting = true := by simpa using hpresenting
      split
      next hnone =>
        exact .wait hpresenting fun presented hpresented => by
          rw [hnone] at hpresented
          cases hpresented
      next presented hpresented =>
        split
        next hsecond => exact .hide presented hpresenting hpresented hsecond
        next hsecond =>
          refine .wait hpresenting fun presented' hpresented' => ?_
          rw [hpresented] at hpresented'
          cases hpresented'
          exact hsecond

/-! ### What stays -/

/-- The request held back and the tabs are the same. -/
structure Kept (br br' : Browser W C) : Prop where
  removed : br'.presenter.removedRequestAwaitingDismissal =
    br.presenter.removedRequestAwaitingDismissal
  tabs : br'.webStateList = br.webStateList

theorem Kept.refl (br : Browser W C) : Kept br br := ⟨rfl, rfl⟩

theorem Kept.trans {br₁ br₂ br₃ : Browser W C} (h₁ : Kept br₁ br₂) (h₂ : Kept br₂ br₃) :
    Kept br₁ br₃ := ⟨h₂.removed.trans h₁.removed, h₂.tabs.trans h₁.tabs⟩

theorem hideOverlayUI_kept (br : Browser W C) (request : OverlayRequest W) :
    Kept br (br.hideOverlayUI request) := by
  unfold hideOverlayUI
  split
  · exact .refl br
  · exact ⟨rfl, rfl⟩

theorem cancelOverlayUIForRequest_kept (br : Browser W C) (request : Option (OverlayRequest W)) :
    Kept br (br.cancelOverlayUIForRequest request) := by
  unfold cancelOverlayUIForRequest
  split
  · exact ⟨rfl, rfl⟩
  · exact .refl br

variable {factory queues} in
theorem Shows.kept {br br' : Browser W C} {context : C} {webState : W}
    {request : OverlayRequest W} (h : Shows factory queues br br' context webState request) :
    Kept br br' := by
  rw [h.result]
  exact ⟨rfl, rfl⟩

theorem presentOverlayForActiveRequest_kept (br : Browser W C) :
    Kept br (br.presentOverlayForActiveRequest factory queues) := by
  rcases presentOverlayForActiveRequest_cases factory queues br with
    ⟨_, _, _, h⟩ | ⟨h, _⟩
  · exact h.kept
  · rw [h]
    exact .refl br

theorem setActiveWebState_kept (br : Browser W C) (webState : Option W)
    (reason : ActiveWebStateChangeReason) :
    Kept br (br.setActiveWebState factory queues webState reason) := by
  have hactive : Kept br (br.withActiveWebState webState) := ⟨rfl, rfl⟩
  have h := setActiveWebState_cases factory queues br webState reason
  generalize br.setActiveWebState factory queues webState reason = br' at h
  cases h with
  | same => exact .refl br
  | ignored => exact hactive
  | present => exact hactive.trans (presentOverlayForActiveRequest_kept factory queues _)
  | cancel request => exact hactive.trans (cancelOverlayUIForRequest_kept _ _)
  | hide request => exact hactive.trans (hideOverlayUI_kept _ _)

theorem requestAddedToQueue_kept (br : Browser W C) (webState : W) (request : OverlayRequest W) :
    Kept br (br.requestAddedToQueue factory queues webState request) := by
  have h := requestAddedToQueue_cases factory queues br webState request
  generalize br.requestAddedToQueue factory queues webState request = br' at h
  cases h with
  | inactive => exact .refl br
  | present => exact presentOverlayForActiveRequest_kept factory queues _
  | wait => exact .refl br
  | hide presented => exact hideOverlayUI_kept _ _

theorem cancelAllOverlayUI_kept (br : Browser W C) : Kept br (br.cancelAllOverlayUI queues) := by
  unfold cancelAllOverlayUI
  generalize br.webStateList.tabs = tabs
  induction tabs generalizing br with
  | nil => exact .refl br
  | cons webState tabs ih =>
    exact (cancelOverlayUIForRequest_kept br _).trans (ih _)

theorem setPresentationContext_kept (br : Browser W C) (presentationContext : Option C) :
    Kept br (br.setPresentationContext factory queues presentationContext) := by
  have hcancel := cancelAllOverlayUI_kept queues br
  have hgiven : Kept br ((br.cancelAllOverlayUI queues).setPresenter
      { (br.cancelAllOverlayUI queues).presenter with
        presentationContext := presentationContext, presenting := false,
        presentedRequest := none }) := ⟨hcancel.removed, hcancel.tabs⟩
  exact hgiven.trans (presentOverlayForActiveRequest_kept factory queues _)

theorem presentationContextReady_kept (br : Browser W C) :
    Kept br (br.presentationContextReady factory queues) := by
  unfold presentationContextReady
  split
  · exact presentOverlayForActiveRequest_kept factory queues br
  · exact .refl br

theorem willChangePresentationCapabilities_kept (br : Browser W C)
    (capabilities : UIPresentationCapabilities) :
    Kept br (br.willChangePresentationCapabilities factory capabilities) := by
  unfold willChangePresentationCapabilities
  split
  · exact .refl br
  · split
    · exact .refl br
    · exact hideOverlayUI_kept br _

theorem updatePresentationCapabilities_kept (br : Browser W C) (context : C)
    (capabilities : UIPresentationCapabilities) :
    Kept br (br.updatePresentationCapabilities factory queues context capabilities) := by
  unfold updatePresentationCapabilities
  split
  · exact .refl br
  · split
    · exact ⟨rfl, rfl⟩
    · have hwill := willChangePresentationCapabilities_kept factory br capabilities
      have hset : Kept br ((br.willChangePresentationCapabilities factory
          capabilities).setPresentationCapabilities context capabilities) :=
        ⟨hwill.removed, hwill.tabs⟩
      exact hset.trans (presentationContextReady_kept factory queues _)

end Browser

namespace System

/-- The requests and their owners, and the tabs, are the same. -/
structure Kept (s s' : System W B C) : Prop where
  requests : ∀ webState, (s'.queues webState).requests = (s.queues webState).requests
  browsers : ∀ b, Browser.Kept (s.browsers b) (s'.browsers b)
  added : s'.added = s.added
  destroyed : s'.destroyed = s.destroyed
  destroyedWebStates : s'.destroyedWebStates = s.destroyedWebStates

theorem Kept.refl (s : System W B C) : Kept s s :=
  ⟨fun _ => rfl, fun _ => .refl _, rfl, rfl, rfl⟩

theorem Kept.trans {s₁ s₂ s₃ : System W B C} (h₁ : Kept s₁ s₂) (h₂ : Kept s₂ s₃) :
    Kept s₁ s₃ :=
  ⟨fun w => (h₂.requests w).trans (h₁.requests w),
    fun b => (h₁.browsers b).trans (h₂.browsers b), h₂.added.trans h₁.added,
    h₂.destroyed.trans h₁.destroyed, h₂.destroyedWebStates.trans h₁.destroyedWebStates⟩

theorem modifyBrowser_kept (s : System W B C) (b : B) {f : Browser W C → Browser W C}
    (h : Browser.Kept (s.browsers b) (f (s.browsers b))) : Kept s (s.modifyBrowser b f) := by
  refine ⟨fun _ => rfl, fun b' => ?_, rfl, rfl, rfl⟩
  rw [modifyBrowser_browsers]
  split
  next heq =>
    rw [heq]
    exact h
  next => exact .refl _

theorem modifyQueue_kept (s : System W B C) (webState : W)
    {f : OverlayRequestQueue W B → OverlayRequestQueue W B}
    (h : (f (s.queues webState)).requests = (s.queues webState).requests) :
    Kept s (s.modifyQueue webState f) := by
  refine ⟨fun webState' => ?_, fun _ => .refl _, rfl, rfl, rfl⟩
  rw [modifyQueue_queues]
  split
  next heq =>
    rw [heq]
    exact h
  next => rfl

theorem willReplaceDelegate_removed (presenter : OverlayPresenterImpl W C)
    (front : Option (OverlayRequest W)) :
    (presenter.overlayRequestQueueWillReplaceDelegate front).removedRequestAwaitingDismissal =
      presenter.removedRequestAwaitingDismissal := by
  unfold OverlayPresenterImpl.overlayRequestQueueWillReplaceDelegate
  split <;> rfl

/-- Replacing a delegate leaves a window alone, or its presenter was presenting
the front request of the queue and forgets it. -/
theorem setDelegate_presenter (s : System W B C) (webState : W) (delegate : Option B) (b : B) :
    (s.setDelegate webState delegate).browsers b = s.browsers b ∨
    (s.queues webState).delegate = some b ∧ delegate ≠ some b ∧ ∃ request,
      (s.browsers b).presenter.presentedRequest = some request ∧
      (s.queues webState).frontRequest = some request ∧
      (s.setDelegate webState delegate).browsers b = (s.browsers b).setPresenter
        { (s.browsers b).presenter with
          presentedRequest := none
          detachedPresentingRequestQueue := none
          detachedQueueReplacedDelegate := true } := by
  unfold setDelegate
  split
  next => exact .inl rfl
  next hne =>
    simp only
    split
    next => exact .inl rfl
    next b' hb' =>
      rw [modifyQueue_browsers]
      by_cases heq : b = b'
      · rw [heq, modifyPresenter_self]
        unfold OverlayPresenterImpl.overlayRequestQueueWillReplaceDelegate
        split
        next => exact .inl rfl
        next h =>
          rw [not_or, Option.isNone_iff_eq_none, not_not] at h
          obtain ⟨request, hrequest⟩ := Option.ne_none_iff_exists'.1 h.1
          rw [hb'] at hne
          exact .inr ⟨hb', Ne.symm hne, request, hrequest, h.2.symm.trans hrequest, rfl⟩
      · exact .inl (modifyBrowser_of_ne s heq _)

theorem setDelegate_kept (s : System W B C) (webState : W) (delegate : Option B) :
    Kept s (s.setDelegate webState delegate) := by
  unfold setDelegate
  split
  · exact .refl s
  · split
    · exact modifyQueue_kept s webState rfl
    · next b _ =>
      have hpresenter : Kept s (s.modifyPresenter b
          (·.overlayRequestQueueWillReplaceDelegate (s.queues webState).frontRequest)) :=
        modifyBrowser_kept s b ⟨willReplaceDelegate_removed _ _, rfl⟩
      exact hpresenter.trans (modifyQueue_kept _ webState rfl)

theorem webStateAddedToBrowser_kept (s : System W B C) (b : B) (webState : W) :
    Kept s (s.webStateAddedToBrowser b webState) :=
  (modifyQueue_kept s webState (f := fun queue => { queue with
    observers := if b ∈ queue.observers then queue.observers else queue.observers ++ [b] })
    rfl).trans (setDelegate_kept _ webState _)

theorem webStateRemovedFromBrowser_kept (s : System W B C) (b : B) (webState : W) :
    Kept s (s.webStateRemovedFromBrowser b webState) := by
  unfold webStateRemovedFromBrowser
  simp only
  refine (modifyQueue_kept s webState (f := fun queue =>
    { queue with observers := queue.observers.filter (· ≠ b) }) rfl).trans ?_
  generalize s.modifyQueue webState _ = s₁
  have hdelegate : Kept s₁ (if (s₁.browsers b).presenter.presentedRequest.any
      (·.queueWebState = webState) then s₁ else s₁.setDelegate webState none) := by
    split
    · exact .refl s₁
    · exact setDelegate_kept s₁ webState none
  refine hdelegate.trans ?_
  generalize (if (s₁.browsers b).presenter.presentedRequest.any
      (·.queueWebState = webState) then s₁ else s₁.setDelegate webState none) = s₂
  split
  · exact modifyBrowser_kept s₂ b ⟨rfl, rfl⟩
  · exact modifyBrowser_kept s₂ b (Browser.cancelOverlayUIForRequest_kept _ _)

theorem willDetachWebStateAt_kept (s : System W B C) (b : B) (webState : W) :
    Kept s (s.willDetachWebStateAt b webState) :=
  (modifyBrowser_kept s b ⟨rfl, rfl⟩).trans (webStateRemovedFromBrowser_kept _ b webState)

theorem onCall_kept (factory : OverlayRequestCoordinatorFactory W) (b : B) (s : System W B C)
    (call : ObserverCall W) : Kept s (s.onCall factory b call) := by
  cases call with
  | webStateInsertedAt webState index activating => exact webStateAddedToBrowser_kept s b webState
  | webStateReplacedAt oldWebState newWebState index =>
    exact (webStateRemovedFromBrowser_kept s b oldWebState).trans
      (webStateAddedToBrowser_kept _ b newWebState)
  | willDetachWebStateAt webState index => exact willDetachWebStateAt_kept s b webState
  | webStateActivatedAt oldWebState newWebState activeIndex reason =>
    exact modifyBrowser_kept s b (f := fun br =>
      br.setActiveWebState factory s.queues newWebState reason)
      (Browser.setActiveWebState_kept _ _ _ _ _)
  | webStateMoved webState fromIndex toIndex => exact .refl s
  | webStateDetachedAt webState index => exact .refl s
  | willCloseWebStateAt webState index userAction => exact .refl s
  | willBeginBatchOperation => exact .refl s
  | batchOperationEnded => exact .refl s

theorem foldl_onCall_kept (factory : OverlayRequestCoordinatorFactory W) (b : B)
    (calls : List (ObserverCall W)) (s : System W B C) :
    Kept s (calls.foldl (onCall factory b) s) := by
  induction calls generalizing s with
  | nil => exact .refl s
  | cons call calls ih => exact (onCall_kept factory b s call).trans (ih _)

theorem foldl_requestAddedToQueue_kept (factory : OverlayRequestCoordinatorFactory W)
    (observers : List B) (webState : W) (request : OverlayRequest W) (s : System W B C) :
    Kept s (observers.foldl (fun s b => s.modifyBrowser b fun br =>
      br.requestAddedToQueue factory s.queues webState request) s) := by
  induction observers generalizing s with
  | nil => exact .refl s
  | cons b observers ih =>
    exact (modifyBrowser_kept s b (f := fun br =>
      br.requestAddedToQueue factory s.queues webState request)
      (Browser.requestAddedToQueue_kept _ _ _ _ _)).trans (ih _)

end System

end IosChrome.Overlays

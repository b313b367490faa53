import IosChrome.Overlays.TabsWatched
import IosChrome.Overlays.UserDismissal

/-!
# No request of the active tab is left waiting

`Served` says of a window that while no UI is up in its context the queue of its
active tab is empty. `PresentOverlayForActiveRequest` makes it so, where the
context can show everything, and it is called when a tab becomes active, a
request is added, a context is given or gets ready, and a dismissal ends. A
presenter that is presenting does not call it, and need not: something is up.

The end of a dismissal is the one place where the call is left out though
nothing is up: when the active request is the one just dismissed
(`OverlayWasDismissed` takes it that nothing changed). It may be so because the
user switched to another tab and back before the UI was gone, and then the
request waits. `activeQueue_served_iff` says that this is the only way.
-/

set_option linter.unusedSectionVars false

namespace IosChrome.Overlays

open Tabs (ActiveWebStateChangeReason ObserverCall Edit)

variable {W B C : Type} [DecidableEq W] [DecidableEq B] [DecidableEq C]
variable {factory : OverlayRequestCoordinatorFactory W}

/-- The capabilities are enough for every request. -/
def UIPresentationCapabilities.ShowsAll (factory : OverlayRequestCoordinatorFactory W)
    (capabilities : UIPresentationCapabilities) : Prop :=
  ∀ request : OverlayRequest W,
    OverlayPresentationContext.canShowUIForRequest factory request capabilities = true

namespace Browser

/-- The contexts of the window can show every request. -/
def ShowsAll (factory : OverlayRequestCoordinatorFactory W) (br : Browser W C) : Prop :=
  ∀ context, (br.contexts context).presentationCapabilities.ShowsAll factory

/-- While nothing is up in the presenter's context, the active tab has no request. -/
def Served (queues : W → OverlayRequestQueue W B) (br : Browser W C) : Prop :=
  br.presenter.presentationContext ≠ none → br.shown = none → br.getActiveRequest queues = none

end Browser

namespace System

def ShowsAll (factory : OverlayRequestCoordinatorFactory W) (s : System W B C) : Prop :=
  ∀ b, (s.browsers b).ShowsAll factory

def Served (s : System W B C) : Prop := ∀ b, (s.browsers b).Served s.queues

/-- While a presenter has a context with nothing up, the queue of the active tab
of its window is empty. -/
def NoneWaiting (s : System W B C) : Prop :=
  ∀ b, (s.browsers b).presenter.presentationContext ≠ none → (s.browsers b).shown = none →
    ∀ webState, (s.browsers b).webStateList.active = some webState →
      (s.queues webState).requests = []

/-- The presenter keeps the context it has, and contexts stay able to show
every request. -/
def KeepsShowing (factory : OverlayRequestCoordinatorFactory W) (s : System W B C)
    (event : Event W B C) : Prop :=
  s.KeepsContext event ∧ match event with
    | .updatePresentationCapabilities _ _ capabilities => capabilities.ShowsAll factory
    | _ => True

/-- The active request of a window, once the queue of the dismissed request is
popped where the dismissal gets to that. -/
def activeRequestAtEnd (s : System W B C) (b : B) (context : C) (x : Shown W) :
    Option (OverlayRequest W) :=
  (s.browsers b).presenter.activeWebState.bind fun webState =>
    if s.PopsAtEnd b context x ∧ webState = x.queue then (s.queues webState).requests.tail.head?
    else (s.queues webState).frontRequest

/-- A dismissal does not end with its request still the active one. -/
def MovesOn (s : System W B C) : Event W B C → Prop
  | .overlayUIDidFinishDismissal b context =>
    ∀ x, ((s.browsers b).contexts context).shown = some x →
      s.activeRequestAtEnd b context x ≠ some x.request
  | _ => True

end System

/-! ## In one window -/

namespace Browser

variable {queues : W → OverlayRequestQueue W B} {br : Browser W C}

theorem Served.of_shown (h : br.shown ≠ none) : br.Served queues :=
  fun _ hnone => absurd hnone h

/-- **Presenting serves the active tab.** -/
theorem present_served (h : br.ShowsAll factory) :
    (br.presentOverlayForActiveRequest factory queues).Served queues := by
  rcases presentOverlayForActiveRequest_cases factory queues br with
    ⟨context, webState, request, hshows⟩ | ⟨hsame, hcannot⟩
  · refine .of_shown ?_
    rw [hshows.shown_eq]
    exact nofun
  · rw [hsame]
    intro hcontext hnone
    obtain ⟨context, hcontext⟩ := Option.ne_none_iff_exists'.1 hcontext
    rw [shown_of_context hcontext] at hnone
    by_contra hactive
    obtain ⟨request, hrequest⟩ := Option.ne_none_iff_exists'.1 hactive
    have hfalse := hcannot context hcontext hnone request hrequest
    rw [h context request] at hfalse
    cases hfalse

/-- UI that is up stays up through a quiet step. -/
theorem Quiet.shown_ne_none {br br' : Browser W C} (h : Quiet br br') (hsingle : br.Single)
    (hne : br.shown ≠ none) : br'.shown ≠ none := by
  obtain ⟨x, hx⟩ := Option.ne_none_iff_exists'.1 hne
  obtain ⟨x', hx', _⟩ := h.shown_eq_some hsingle hx
  rw [hx']
  exact nofun

/-- Quiet steps and shorter queues leave an active tab served. -/
theorem Served.quiet {queues' : W → OverlayRequestQueue W B} {br br' : Browser W C}
    (h : br.Served queues) (hquiet : Quiet br br') (hsingle : br.Single)
    (hactive : br'.presenter.activeWebState = br.presenter.activeWebState)
    (hqueues : ∀ webState, (queues' webState).requests.Sublist (queues webState).requests) :
    br'.Served queues' := by
  intro hcontext hnone
  have hshown : br.shown = none := by
    by_contra hne
    exact hquiet.shown_ne_none hsingle hne hnone
  rw [hquiet.presenter.presentationContext] at hcontext
  have hempty := h hcontext hshown
  unfold getActiveRequest OverlayRequestQueue.frontRequest at hempty ⊢
  rw [hactive]
  cases hw : br.presenter.activeWebState with
  | none => rfl
  | some webState =>
    rw [hw, Option.bind_some, List.head?_eq_none_iff] at hempty
    have hsub := hqueues webState
    rw [hempty] at hsub
    rw [Option.bind_some, List.sublist_nil.1 hsub, List.head?_nil]

theorem Steady.up (h : br.Steady) (hpresenting : br.presenter.presenting = true) :
    br.shown ≠ none := h.exact.presenting.1 hpresenting

/-- Whatever tab becomes active, it is served. -/
theorem setActiveWebState_served (hsteady : br.Steady) (hsingle : br.Single)
    (hshows : br.ShowsAll factory) (h : br.Served queues) (newActive : Option W)
    (reason : ActiveWebStateChangeReason) :
    (br.setActiveWebState factory queues newActive reason).Served queues := by
  have hcases := setActiveWebState_cases factory queues br newActive reason
  generalize br.setActiveWebState factory queues newActive reason = br' at hcases
  have hup : br.presenter.presenting = true → (br.withActiveWebState newActive).shown ≠ none :=
    fun hpresenting => hsteady.up hpresenting
  have hsingle' : (br.withActiveWebState newActive).Single := hsingle
  cases hcases with
  | same => exact h
  | ignored _ hignored =>
    rcases hignored with hnone | ⟨hpresenting, _⟩
    · exact fun hcontext => absurd hnone hcontext
    · exact .of_shown (hup hpresenting)
  | present =>
    have hshows' : (br.withActiveWebState newActive).ShowsAll factory := hshows
    exact present_served hshows'
  | cancel request _ hpresenting =>
    exact .of_shown ((cancelOverlayUIForRequest_quiet _ (some request)).shown_ne_none hsingle'
      (hup hpresenting))
  | hide request _ hpresenting =>
    exact .of_shown ((hideOverlayUI_quiet _ request).shown_ne_none hsingle' (hup hpresenting))

/-- A request just added is the only one that may be waiting. -/
def ServedExcept (queues : W → OverlayRequestQueue W B) (br : Browser W C)
    (request : OverlayRequest W) : Prop :=
  br.presenter.presentationContext ≠ none → br.shown = none →
    ∀ next, br.getActiveRequest queues = some next → next = request

/-- Told of the request, the presenter serves the active tab. -/
theorem requestAddedToQueue_served (hsteady : br.Steady) (hsingle : br.Single)
    (hshows : br.ShowsAll factory) {request : OverlayRequest W} (h : br.ServedExcept queues request)
    (webState : W) :
    (br.requestAddedToQueue factory queues webState request).Served queues := by
  have hcases := requestAddedToQueue_cases factory queues br webState request
  generalize br.requestAddedToQueue factory queues webState request = br' at hcases
  cases hcases with
  | inactive hne =>
    intro hcontext hnone
    by_contra hactive
    obtain ⟨next, hnext⟩ := Option.ne_none_iff_exists'.1 hactive
    apply hne
    rw [hnext, h hcontext hnone next hnext]
  | present => exact present_served hshows
  | wait hpresenting => exact .of_shown (hsteady.up hpresenting)
  | hide presented hpresenting =>
    exact .of_shown ((hideOverlayUI_quiet br presented).shown_ne_none hsingle
      (hsteady.up hpresenting))

theorem presentationContextReady_served (hsteady : br.Steady) (hshows : br.ShowsAll factory) :
    (br.presentationContextReady factory queues).Served queues := by
  unfold presentationContextReady
  split
  next => exact present_served hshows
  next hpresenting => exact .of_shown (hsteady.up (by simpa using hpresenting))

theorem setPresentationCapabilities_showsAll (hshows : br.ShowsAll factory) (context : C)
    {capabilities : UIPresentationCapabilities} (hcapabilities : capabilities.ShowsAll factory) :
    (br.setPresentationCapabilities context capabilities).ShowsAll factory := by
  intro context'
  unfold setPresentationCapabilities
  rw [setContext_contexts]
  split
  · exact hcapabilities
  · exact hshows context'

/-- Nothing is hidden for capabilities that are enough. -/
theorem willChangePresentationCapabilities_of_showsAll {capabilities : UIPresentationCapabilities}
    (hcapabilities : capabilities.ShowsAll factory) :
    br.willChangePresentationCapabilities factory capabilities = br := by
  unfold willChangePresentationCapabilities
  split
  next => rfl
  next request _ => rw [if_pos (hcapabilities request)]

theorem setPresentationCapabilities_quiet (br : Browser W C) (context : C)
    (capabilities : UIPresentationCapabilities) :
    Quiet br (br.setPresentationCapabilities context capabilities) :=
  .setContext br context (.of_shown id rfl)

theorem updatePresentationCapabilities_served (hsteady : br.Steady) (hsingle : br.Single)
    (hshows : br.ShowsAll factory) (h : br.Served queues) (context : C)
    {capabilities : UIPresentationCapabilities} (hcapabilities : capabilities.ShowsAll factory) :
    (br.updatePresentationCapabilities factory queues context capabilities).Served queues := by
  have hquiet := setPresentationCapabilities_quiet br context capabilities
  unfold updatePresentationCapabilities
  split
  · exact h
  · split
    · exact h.quiet hquiet hsingle rfl fun _ => List.Sublist.refl _
    · rw [willChangePresentationCapabilities_of_showsAll hcapabilities]
      exact presentationContextReady_served (hsteady.quiet hsingle hquiet)
        (setPresentationCapabilities_showsAll hshows context hcapabilities)

theorem present_showsAll (h : br.ShowsAll factory) :
    (br.presentOverlayForActiveRequest factory queues).ShowsAll factory := by
  rcases presentOverlayForActiveRequest_cases factory queues br with
    ⟨context, webState, request, hshows⟩ | ⟨hsame, _⟩
  · intro context'
    rw [hshows.result]
    by_cases heq : context' = context
    · rw [heq]
      show (Function.update br.contexts context _ context).presentationCapabilities.ShowsAll factory
      rw [Function.update_self, OverlayPresentationContext.showOverlayUI_capabilities]
      exact h context
    · show (Function.update br.contexts context _ context').presentationCapabilities.ShowsAll factory
      rw [Function.update_of_ne heq]
      exact h context'
  · rw [hsame]
    exact h

theorem updatePresentationCapabilities_showsAll (h : br.ShowsAll factory) (context : C)
    {capabilities : UIPresentationCapabilities} (hcapabilities : capabilities.ShowsAll factory) :
    (br.updatePresentationCapabilities factory queues context capabilities).ShowsAll factory := by
  have hset := setPresentationCapabilities_showsAll h context hcapabilities
  unfold updatePresentationCapabilities
  split
  · exact h
  · split
    · exact hset
    · rw [willChangePresentationCapabilities_of_showsAll hcapabilities]
      unfold presentationContextReady
      split
      · exact present_showsAll hset
      · exact hset

end Browser

namespace System

/-! ## In the system -/

variable {s : System W B C}

/-- The pointers of the presenters are the active tabs. -/
theorem served_iff_noneWaiting (h : s.Watched) : s.Served ↔ s.NoneWaiting := by
  refine forall_congr' fun b => ?_
  unfold Browser.Served
  refine imp_congr_right fun _ => imp_congr_right fun _ => ?_
  unfold Browser.getActiveRequest OverlayRequestQueue.frontRequest
  rw [h.active b]
  cases (s.browsers b).webStateList.active with
  | none => exact ⟨fun _ => nofun, fun _ => rfl⟩
  | some webState =>
    rw [Option.bind_some, List.head?_eq_none_iff]
    exact ⟨fun hempty _ hw => Option.some.inj hw ▸ hempty, fun h => h webState rfl⟩

theorem Served.upkeeps {s s' : System W B C} (hserved : s.Served) (hsingle : s.Single)
    (h : Upkeeps s s') : s'.Served := by
  refine (h.keeps (P := fun s' => s'.Single ∧ s'.Served) ?_ ⟨hsingle, hserved⟩).2
  intro s₁ s₂ hs hupkeep
  refine ⟨fun b => (hupkeep.quiet b).single (hs.1 b), fun b => ?_⟩
  exact (hs.2 b).quiet (hupkeep.quiet b) (hs.1 b) (hupkeep.activeWebState b) hupkeep.requests

theorem ShowsAll.moves {ends : B → C → Prop} {s s' : System W B C} (hshows : s.ShowsAll factory)
    (h : Moves factory False ends s s') : s'.ShowsAll factory := by
  refine h.keeps (P := (·.ShowsAll factory)) (fun hs hmove b context => ?_) hshows
  rw [hmove.capabilities id b context]
  exact hs b context

theorem ShowsAll.effects {s s' : System W B C} (hshows : s.ShowsAll factory)
    (h : Effects factory False s s') : s'.ShowsAll factory := by
  have hmoves : Moves factory False (fun _ _ => False) s s' := h.moves
  exact hshows.moves hmoves

theorem modifyBrowser_served (h : s.Served) {b : B} {f : Browser W C → Browser W C}
    (hf : (f (s.browsers b)).Served s.queues) :
    (s.modifyBrowser b f).Served := by
  intro b'
  rw [modifyBrowser_browsers]
  split
  · exact hf
  · exact h b'

/-! ### Edits -/

/-- What a call of the list of tabs keeps. -/
structure ServedRun (factory : OverlayRequestCoordinatorFactory W) (s : System W B C) : Prop where
  tracked : s.Tracked
  shows : s.ShowsAll factory
  served : s.Served

theorem onCall_servedRun (h : s.ServedRun factory) (b : B) (call : ObserverCall W) :
    (s.onCall factory b call).ServedRun factory := by
  have heffects : Effects factory False s (s.onCall factory b call) := onCall_effects b s call
  refine ⟨h.tracked.onCall b call, h.shows.effects heffects, ?_⟩
  have hsingle := h.tracked.steady.single
  cases call with
  | webStateInsertedAt webState index activating =>
    exact h.served.upkeeps hsingle (webStateAddedToBrowser_upkeeps s b webState)
  | webStateReplacedAt oldWebState newWebState index =>
    exact h.served.upkeeps hsingle ((webStateRemovedFromBrowser_upkeeps s b oldWebState).trans
      (webStateAddedToBrowser_upkeeps _ b newWebState))
  | willDetachWebStateAt webState index =>
    exact h.served.upkeeps hsingle (willDetachWebStateAt_upkeeps s b webState)
  | webStateActivatedAt oldWebState newWebState activeIndex reason =>
    exact modifyBrowser_served h.served (Browser.setActiveWebState_served
      (h.tracked.steady.windows b) (hsingle b) (h.shows b) (h.served b) newWebState reason)
  | webStateMoved webState fromIndex toIndex => exact h.served
  | webStateDetachedAt webState index => exact h.served
  | willCloseWebStateAt webState index userAction => exact h.served
  | willBeginBatchOperation => exact h.served
  | batchOperationEnded => exact h.served

theorem edit_served (h : s.ServedRun factory) (b : B) (e : Edit W) :
    (s.edit factory b e).Served := by
  have hcalls : ∀ (calls : List (ObserverCall W)) {s : System W B C}, s.ServedRun factory →
      (calls.foldl (System.onCall factory b) s).ServedRun factory := by
    intro calls
    induction calls with
    | nil => exact fun h => h
    | cons call calls ih => exact fun h => ih (onCall_servedRun h b call)
  have hrun := hcalls (e.calls (s.browsers b).webStateList) h
  exact modifyBrowser_served hrun.served (hrun.served b)

/-! ### New requests -/

/-- Before the observers hear of it, only the new request may be waiting, and
only in windows whose presenter observes the queue. -/
theorem withRequest_servedExcept (hwatched : s.Watched) (h : s.Served) {webState : W} {index : Nat}
    (hindex : index ≤ (s.queues webState).requests.length) (b : B) :
    ((s.withRequest webState index).browsers b).Served (s.withRequest webState index).queues ∨
    b ∈ (s.queues webState).observers ∧
      ((s.withRequest webState index).browsers b).ServedExcept
        (s.withRequest webState index).queues ⟨s.added.length, webState⟩ := by
  by_cases hactive : (s.browsers b).presenter.activeWebState = some webState
  · right
    have hmem : webState ∈ (s.browsers b).webStateList.tabs := by
      rw [hwatched.active b] at hactive
      exact (hwatched.wellFormed b).active webState hactive
    refine ⟨hwatched.observed b webState hmem, fun hcontext hnone next hnext => ?_⟩
    have hempty := h b hcontext hnone
    unfold Browser.getActiveRequest OverlayRequestQueue.frontRequest at hempty
    rw [hactive, Option.bind_some, List.head?_eq_none_iff] at hempty
    rw [hempty, List.length_nil, Nat.le_zero] at hindex
    have hactive' : ((s.withRequest webState index).browsers b).presenter.activeWebState =
        some webState := hactive
    unfold Browser.getActiveRequest OverlayRequestQueue.frontRequest at hnext
    rw [hactive', Option.bind_some] at hnext
    unfold withRequest at hnext
    rw [modifyQueue_self, hindex] at hnext
    change ((s.queues webState).requests.insertIdx 0 _).head? = some next at hnext
    rw [hempty] at hnext
    exact (Option.some.inj hnext).symm
  · left
    intro hcontext hnone
    have hempty := h b hcontext hnone
    unfold Browser.getActiveRequest at hempty ⊢
    show (s.browsers b).presenter.activeWebState.bind _ = none
    cases hw : (s.browsers b).presenter.activeWebState with
    | none => rfl
    | some webState' =>
      have hne : webState' ≠ webState := by
        rintro rfl
        exact hactive hw
      rw [hw, Option.bind_some] at hempty
      unfold withRequest
      rw [Option.bind_some, modifyQueue_of_ne _ hne]
      exact hempty

/-- Each observer told serves its window, and all windows are served after the last. -/
theorem requestsAdded_served {webState : W} {request : OverlayRequest W} :
    ∀ (observers : List B) {s : System W B C}, s.Tracked → s.ShowsAll factory →
      (∀ b, (s.browsers b).Served s.queues ∨
        b ∈ observers ∧ (s.browsers b).ServedExcept s.queues request) →
      (observers.foldl (fun s b => s.modifyBrowser b fun br =>
        br.requestAddedToQueue factory s.queues webState request) s).Served := by
  intro observers
  induction observers with
  | nil =>
    intro s _ _ h b
    exact (h b).elim id fun hnil => nomatch hnil.1
  | cons b₀ observers ih =>
    intro s htracked hshows h
    have heffects : Effects factory False s (s.modifyBrowser b₀
        (·.requestAddedToQueue factory s.queues webState request)) :=
      requestAddedToQueue_effects s b₀ webState request
    refine ih (htracked.reaction (requestAddedToQueue_effects s b₀ webState request)
      (Browser.requestAddedToQueue_kept factory s.queues _ webState request)
      (Browser.requestAddedToQueue_presented s.queues _ webState request))
      (hshows.effects heffects) fun b => ?_
    rw [modifyBrowser_browsers]
    split
    · left
      have hexcept : (s.browsers b₀).ServedExcept s.queues request := by
        rcases h b₀ with hserved | ⟨_, hexcept⟩
        · intro hcontext hnone next hnext
          exact nomatch (hserved hcontext hnone).symm.trans hnext
        · exact hexcept
      exact Browser.requestAddedToQueue_served (htracked.steady.windows b₀)
        (htracked.steady.single b₀) (hshows b₀) hexcept webState
    next hne =>
      rcases h b with hserved | ⟨hmem, hexcept⟩
      · exact .inl hserved
      · refine .inr ⟨?_, hexcept⟩
        rcases List.mem_cons.1 hmem with heq | hmem
        · exact absurd heq hne
        · exact hmem

theorem insertRequest_served (h : s.ServedRun factory) (hwatched : s.Watched) {webState : W}
    {index : Nat} (hindex : index ≤ (s.queues webState).requests.length) :
    (s.insertRequest factory webState index).Served := by
  have hobservers : ((s.withRequest webState index).queues webState).observers =
      (s.queues webState).observers := by
    unfold withRequest
    rw [modifyQueue_self]
  refine requestsAdded_served (s := s.withRequest webState index) _ (h.tracked.withRequest hindex)
    h.shows fun b => ?_
  have hexcept := withRequest_servedExcept hwatched h.served hindex b
  rw [← hobservers] at hexcept
  exact hexcept

/-! ### Dismissals -/

variable (factory) in
/-- The active request once a dismissal has ended. -/
theorem overlayUIWasDismissed_activeRequest {b : B} {context : C} {x : Shown W}
    (hx : ((s.browsers b).contexts context).shown = some x) :
    ((s.overlayUIWasDismissed factory b context).browsers b).getActiveRequest
      (s.overlayUIWasDismissed factory b context).queues = s.activeRequestAtEnd b context x := by
  unfold Browser.getActiveRequest activeRequestAtEnd OverlayRequestQueue.frontRequest
  rw [((overlayUIWasDismissed_sameTabs factory s b context).browsers b).activeWebState]
  congr 1
  funext webState
  rw [overlayUIWasDismissed_requests hx]
  split <;> rfl

/-- **The end of a dismissal serves its window exactly when** the dismissed
request is not the active one then. -/
theorem overlayUIWasDismissed_served_iff (htracked : s.Tracked) (hshows : s.ShowsAll factory)
    {b : B} {context : C} {x : Shown W} (hx : ((s.browsers b).contexts context).shown = some x) :
    ((s.overlayUIWasDismissed factory b context).browsers b).Served
        (s.overlayUIWasDismissed factory b context).queues ↔
      s.activeRequestAtEnd b context x ≠ some x.request := by
  have hactive := overlayUIWasDismissed_activeRequest factory hx
  have hends := overlayUIWasDismissed_cases factory htracked hx
  rw [← hactive]
  cases hends with
  | ended hover honly =>
    have hcontext : ((s.overlayUIWasDismissed factory b
        context).browsers b).presenter.presentationContext = some context := by
      rw [hover.presentationContext]
      by_contra hne
      rw [(htracked.steady.windows b).elsewhere context hne] at hx
      cases hx
    constructor
    · intro hserved hsame
      have hnone := hserved (by rw [hcontext]; exact nofun)
        (by rw [Browser.shown_of_context hcontext, hover.shown])
      exact nomatch hnone.symm.trans hsame
    · intro hne _ _
      by_contra hsome
      obtain ⟨next, hnext⟩ := Option.ne_none_iff_exists'.1 hsome
      rcases honly next hnext with rfl | hcannot
      · exact hne hnext
      · rw [hshows b context next] at hcannot
        cases hcannot
  | shows hover hne hup =>
    refine iff_of_true (.of_shown ?_) ?_
    · rw [hup.shown_eq]
      exact nofun
    · have hfront := hup.front
      rw [hup.result]
      unfold Browser.getActiveRequest
      rw [hup.activeWebState, Option.bind_some, hfront]
      exact fun heq => hne (Option.some.inj heq)

theorem overlayUIWasDismissed_served_of_ne (htracked : s.Tracked) (h : s.Served) {b b' : B}
    (hne : b' ≠ b) {context : C} {x : Shown W}
    (hx : ((s.browsers b).contexts context).shown = some x) :
    ((s.overlayUIWasDismissed factory b context).browsers b').Served
      (s.overlayUIWasDismissed factory b context).queues := by
  have hqueues : ∀ webState, ((s.overlayUIWasDismissed factory b context).queues
      webState).requests.Sublist (s.queues webState).requests := by
    intro webState
    rw [overlayUIWasDismissed_requests hx]
    split
    · exact List.tail_sublist _
    · exact List.Sublist.refl _
  have hactive := ((overlayUIWasDismissed_sameTabs factory s b context).browsers
    b').activeWebState
  refine (h b').quiet ?_ (htracked.steady.single b') hactive hqueues
  rcases overlayUIWasDismissed_of_ne factory hne hx with hsame | hpopped
  · rw [hsame]
    exact .refl _
  · rw [hpopped]
    have hquiet := Upkeeps.quiet
      (removeRequest_upkeeps (s.takeCallback b context x) x.queue 0 false) b'
    rw [show (s.takeCallback b context x).browsers b' = s.browsers b' from
      modifyBrowser_of_ne s hne _] at hquiet
    exact hquiet

/-! ### Every event -/

theorem step_showsAll (h : s.ShowsAll factory) {event : Event W B C} (henabled : s.Enabled event)
    (hkeeps : s.KeepsShowing factory event) :
    (s.step factory event).ShowsAll factory := by
  by_cases hchanges : event.ChangesCapabilities
  · cases event with
    | updatePresentationCapabilities b context capabilities =>
      intro b'
      unfold step
      rw [modifyBrowser_browsers]
      split
      · exact Browser.updatePresentationCapabilities_showsAll (h b) context hkeeps.2
      · exact h b'
    | _ => exact hchanges.elim
  · refine step_keeps (P := (·.ShowsAll factory)) henabled (fun hs hmove b context => ?_)
      (fun _ _ _ => h) h
    rw [hmove.capabilities hchanges b context]
    exact hs b context

/-- **The exact condition, event by event.** -/
theorem step_served_iff (h : s.ServedRun factory) (hwatched : s.Watched) {event : Event W B C}
    (henabled : s.Enabled event) (hkeeps : s.KeepsShowing factory event) :
    (s.step factory event).Served ↔ s.MovesOn event := by
  have hsingle := h.tracked.steady.single
  cases event with
  | edit b e => exact iff_of_true (edit_served h b e) trivial
  | webStateDestroyed webState =>
    refine iff_of_true ?_ trivial
    have hupkeeps : Upkeeps s (cancelAllLoop webState ((s.modifyQueue webState
        ({ · with observers := [] })).queues webState).requests.length
          (s.modifyQueue webState ({ · with observers := [] }))) :=
      .head (.queue webState _ (List.Sublist.refl _)) (cancelAllLoop_upkeeps webState _ _)
    exact fun b => h.served.upkeeps hsingle hupkeeps b
  | addRequest webState =>
    exact iff_of_true (insertRequest_served h hwatched (Nat.le_refl _)) trivial
  | insertRequest webState index =>
    exact iff_of_true (insertRequest_served h hwatched henabled.2) trivial
  | cancelRequest webState request =>
    exact iff_of_true (h.served.upkeeps hsingle (cancelRequest_upkeeps s webState request)) trivial
  | cancelAllRequests webState =>
    exact iff_of_true (h.served.upkeeps hsingle (cancelAllLoop_upkeeps webState _ s)) trivial
  | setPresentationContext b presentationContext =>
    refine iff_of_true ?_ trivial
    have hgiven : ((s.browsers b).setPresentationContext factory s.queues
        presentationContext).Served s.queues := by
      rw [Browser.setPresentationContext_of_no_context hkeeps.1]
      have hshows : ((s.browsers b).withPresentationContext presentationContext).ShowsAll
          factory := h.shows b
      exact Browser.present_served hshows
    unfold step
    exact modifyBrowser_served h.served hgiven
  | updatePresentationCapabilities b context capabilities =>
    refine iff_of_true ?_ trivial
    unfold step
    exact modifyBrowser_served h.served (Browser.updatePresentationCapabilities_served
      (h.tracked.steady.windows b) (hsingle b) (h.shows b) (h.served b) context hkeeps.2)
  | presentationContextReady b context =>
    refine iff_of_true ?_ trivial
    unfold step
    exact modifyBrowser_served h.served (Browser.presentationContextReady_served
      (h.tracked.steady.windows b) (h.shows b))
  | dismissedByUser b context =>
    refine iff_of_true ?_ trivial
    have hquiet : Browser.Quiet (s.browsers b)
        ((s.browsers b).setContext context ((s.browsers b).contexts context).dismissByUser) :=
      .setContext _ context (.of_shown id rfl)
    unfold step
    exact modifyBrowser_served h.served
      ((h.served b).quiet hquiet (hsingle b) rfl fun _ => List.Sublist.refl _)
  | overlayUIDidFinishDismissal b context =>
    obtain ⟨x, hx⟩ := Option.isSome_iff_exists.1 henabled.1
    have hwindow := overlayUIWasDismissed_served_iff h.tracked h.shows hx
    constructor
    · intro hserved x' hx'
      cases hx.symm.trans hx'
      exact hwindow.1 (hserved b)
    · intro hmoves b'
      by_cases heq : b' = b
      · rw [heq]
        exact hwindow.2 (hmoves x hx)
      · exact overlayUIWasDismissed_served_of_ne h.tracked h.served heq hx

variable (factory) in
theorem init_served (h : (overlayMachine W B C factory).init s) :
    s.Served := by
  obtain ⟨capabilities, rfl⟩ := h
  exact fun b hcontext => absurd rfl hcontext

/-- **Along a run whose contexts stay and can show everything, no request of an
active tab is ever left waiting exactly when** no dismissal ends with its
request still the active one. -/
theorem activeQueue_served_iff {s : System W B C} {events : List (Event W B C)}
    (hinit : (overlayMachine W B C factory).init s) (hshows : s.ShowsAll factory)
    (hrun : (overlayMachine W B C factory).Run s events)
    (hkeeps : (overlayMachine W B C factory).Always (KeepsShowing factory) s events) :
    (overlayMachine W B C factory).Always (fun s event => (s.step factory event).NoneWaiting)
      s events ↔ (overlayMachine W B C factory).Always MovesOn s events := by
  refine Lib.Machine.Guarded.always_iff (I := fun s => s.ServedRun factory ∧ s.Watched) ?_ ?_
    ⟨⟨init_tracked factory hinit, hshows, init_served factory hinit⟩,
      init_watched factory hinit⟩ hrun hkeeps
  · rintro s event ⟨h, hwatched⟩ henabled hkeep
    have hwatched' : (s.step factory event).Watched := step_watched hwatched henabled
    refine (served_iff_noneWaiting hwatched').symm.trans ?_
    exact step_served_iff h hwatched henabled hkeep
  · rintro s event ⟨h, hwatched⟩ henabled hkeep hwaiting
    have hwatched' : (s.step factory event).Watched := step_watched hwatched henabled
    exact ⟨⟨step_tracked h.tracked henabled hkeep.1, step_showsAll h.shows henabled hkeep,
      (served_iff_noneWaiting hwatched').2 hwaiting⟩, hwatched'⟩

/-- The user closes the dialog of the active tab, and the one behind it is shown. -/
theorem activeQueue_served_iff_next :
    let M := overlayMachine Nat Bool Bool (childFactory Nat)
    let s := start Nat Bool Bool
    let events : List (Event Nat Bool Bool) :=
      [.edit true (.insert 1 0 true), .edit true (.activate (some 1) 0 .inserted), .addRequest 1,
        .addRequest 1, .setPresentationContext true (some true), .dismissedByUser true true,
        .overlayUIDidFinishDismissal true true]
    ((M.exec s events).browsers true).shown = some ⟨⟨1, 1⟩, 1, .userInteraction⟩ ∧
    (M.Always (fun s event => (s.step (childFactory Nat) event).NoneWaiting) s events ↔
      M.Always MovesOn s events) := by
  intro M s events
  refine ⟨by decide +kernel, ?_⟩
  refine activeQueue_served_iff ⟨_, rfl⟩ (fun _ _ _ => rfl) (by decide +kernel) ?_
  exact ⟨⟨trivial, trivial⟩, ⟨trivial, trivial⟩, ⟨trivial, trivial⟩, ⟨trivial, trivial⟩,
    ⟨by decide +kernel, trivial⟩, ⟨trivial, trivial⟩, ⟨trivial, trivial⟩, trivial⟩

/-- **Away from the tab and back before its dialog is hidden**: the dialog is the
active request again when the dismissal ends, and nothing shows it. -/
theorem switchedBack_waits :
    let M := overlayMachine Nat Bool Bool (childFactory Nat)
    let s := start Nat Bool Bool
    let events : List (Event Nat Bool Bool) :=
      [.edit true (.insert 1 0 true), .edit true (.insert 2 1 false),
        .edit true (.activate (some 1) 0 .activated), .addRequest 1,
        .setPresentationContext true (some true), .edit true (.activate (some 2) 1 .activated),
        .edit true (.activate (some 1) 0 .activated), .overlayUIDidFinishDismissal true true]
    M.init s ∧ s.ShowsAll (childFactory Nat) ∧ M.Run s events ∧
    M.Always (KeepsShowing (childFactory Nat)) s events ∧ ¬ (M.exec s events).NoneWaiting := by
  intro M s events
  refine ⟨⟨_, rfl⟩, fun _ _ _ => rfl, by decide +kernel, ?_, fun h => ?_⟩
  · exact ⟨⟨trivial, trivial⟩, ⟨trivial, trivial⟩, ⟨trivial, trivial⟩, ⟨trivial, trivial⟩,
      ⟨by decide +kernel, trivial⟩, ⟨trivial, trivial⟩, ⟨trivial, trivial⟩, ⟨trivial, trivial⟩,
      trivial⟩
  · have hcontext : ((M.exec s events).browsers true).presenter.presentationContext ≠ none := by
      decide +kernel
    have hnone : ((M.exec s events).browsers true).shown = none := by decide +kernel
    have hactive : ((M.exec s events).browsers true).webStateList.active = some 1 := by
      decide +kernel
    have hempty := h true hcontext hnone 1 hactive
    have hwaits : ((M.exec s events).queues 1).requests = [⟨0, 1⟩] := by decide +kernel
    exact nomatch hwaits.symm.trans hempty

end System

end IosChrome.Overlays

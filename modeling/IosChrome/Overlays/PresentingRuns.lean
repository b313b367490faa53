import IosChrome.Overlays.OverlayMoves

/-!
# When a presenter loses track of what is up

`Presenting.lean` has what effects and dismissal callbacks do to `presenting_`
and `presented_request_`. Here the events are put together: `step_exact` for
one event, `presenting_exact` for runs, with the two events that break the
fields (`KeepsTrack` excludes them).
-/

set_option linter.unusedSectionVars false

namespace IosChrome.Overlays

variable {W B C : Type} [DecidableEq W] [DecidableEq B] [DecidableEq C]
variable (factory : OverlayRequestCoordinatorFactory W) {caps : Prop}

/-- The presenter shows a request when asked to, where no UI is up. -/
def Browser.CanPresent (queues : W → OverlayRequestQueue W B) (br : Browser W C) (context : C) :
    Prop :=
  ∃ request, br.getActiveRequest queues = some request ∧
    OverlayPresentationContext.canShowUIForRequest factory request
      (br.contexts context).presentationCapabilities = true

/-- The event is not one after which a presenter is wrong about its context:
a context it is given shows none of its UI, and a flag that a queue replaced
the presenter is not taken for that of another request, unless the next
presentation comes right after. -/
def System.KeepsTrack (s : System W B C) : Event W B C → Prop
  | .setPresentationContext b (some context) =>
    ((s.browsers b).contexts context).shown = none
  | .overlayUIDidFinishDismissal b context =>
    (s.browsers b).presenter.presentationContext = some context →
    (s.browsers b).presenter.detachedQueueReplacedDelegate = true →
    (s.browsers b).presenter.presentedRequest = none ∨
      (s.browsers b).CanPresent factory s.queues context
  | _ => True

namespace System

theorem Effects.exact {s s' : System W B C} (h : Effects factory caps s s') (hsingle : s.Single)
    (hexact : s.PresentingExact) : s'.Single ∧ s'.PresentingExact :=
  h.keeps (P := fun s => s.Single ∧ s.PresentingExact)
    (fun hs he => ⟨he.single hs.1, fun b => he.exact hs.1 (hs.2 b)⟩) ⟨hsingle, hexact⟩

/-! ## Giving a presenter a context -/

variable {s : System W B C}

theorem setPresentationContext_exact (hsingle : s.Single) (hexact : s.PresentingExact) (b : B)
    (presentationContext : Option C) :
    let s' := s.modifyBrowser b (·.setPresentationContext factory s.queues presentationContext)
    s'.Single ∧ (s'.PresentingExact ↔
      ∀ context, presentationContext = some context →
        ((s.browsers b).contexts context).shown = none) := by
  have hquiet : Browser.Quiet (s.browsers b) ((s.browsers b).cancelAllOverlayUI s.queues) :=
    Browser.cancelAllOverlayUI_quiet _ _
  generalize hcancelled : (s.browsers b).cancelAllOverlayUI s.queues = cancelled at hquiet
  set given := cancelled.setPresenter { cancelled.presenter with
    presentationContext := presentationContext, presenting := false, presentedRequest := none }
    with hgiven
  have hstep : (s.browsers b).setPresentationContext factory s.queues presentationContext =
      given.presentOverlayForActiveRequest factory s.queues := by
    unfold Browser.setPresentationContext
    rw [hcancelled]
  have hgivenSingle : given.Single := hquiet.single (hsingle b)
  have hshown : ∀ context, (given.contexts context).shown = none ↔
      ((s.browsers b).contexts context).shown = none := by
    intro context
    have hkey := (hquiet.contexts context).key (hsingle b context)
    rw [← Option.map_eq_none_iff (f := Shown.key), ← Option.map_eq_none_iff (f := Shown.key),
      ← hkey]
    exact Iff.rfl
  have hothers : ∀ {br : Browser W C}, br.Single →
      (s.modifyBrowser b fun _ => br).Single ∧
      ((s.modifyBrowser b fun _ => br).PresentingExact ↔ br.PresentingExact) := by
    intro br hbr
    have hE := exactExcept_of_exact hsingle hexact b
    refine ⟨(hE.modifyBrowser (Q := fun _ => True) hbr trivial).single, fun h => ?_, fun h => ?_⟩
    · have hb := h b
      rwa [modifyBrowser_self] at hb
    · exact (hE.modifyBrowser hbr h).all.2
  show (s.modifyBrowser b _).Single ∧ _
  rw [modifyBrowser_congr (g := fun _ => given.presentOverlayForActiveRequest factory s.queues)
    hstep]
  obtain ⟨hsingle', hiff⟩ := hothers (hgivenSingle.present s.queues)
  refine ⟨hsingle', hiff.trans ⟨fun h context hcontext => ?_, fun h => ?_⟩⟩
  · -- UI that is up keeps the presenter from showing any, and from knowing of it
    rw [← hshown]
    rcases Browser.presentOverlayForActiveRequest_cases factory s.queues given with
      ⟨context', webState, request, hshows⟩ | ⟨hsame, _⟩
    · have hcontext' : some context = some context' := hcontext.symm.trans hshows.presentationContext
      cases hcontext'
      exact hshows.shown
    · rw [hsame] at h
      by_contra hne
      have hpresenting := h.presenting.2 (by
        rw [given.shown_of_context hcontext]
        exact hne)
      cases hpresenting
  · have hidle : given.Idle := by
      refine ⟨rfl, rfl, ?_⟩
      cases hcontext : presentationContext with
      | none => exact given.shown_of_no_context hcontext
      | some context =>
        rw [given.shown_of_context hcontext]
        exact (hshown context).2 (h context hcontext)
    exact hidle.present s.queues

/-! ## The end of a dismissal -/

/-- A dismissal in a context the presenter no longer has. -/
theorem overlayUIWasDismissed_other (hsingle : s.Single) (hexact : s.PresentingExact) {b : B}
    {context : C} (hcontext : (s.browsers b).presenter.presentationContext ≠ some context) :
    (s.overlayUIWasDismissed factory b context).Single ∧
      (s.overlayUIWasDismissed factory b context).PresentingExact := by
  unfold overlayUIWasDismissed
  split
  next => exact ⟨hsingle, hexact⟩
  next x hx =>
    have htaken := (exactExcept_of_exact hsingle hexact b).setContext
      ((hsingle b context).takeCallback x.request) (.inr hcontext)
    have hignored : (s.modifyBrowser b fun br => br.setContext context
        ((br.contexts context).takeCallback x.request)).overlayWasDismissed factory b context
          x.request x.queue x.reason = s.modifyBrowser b fun br => br.setContext context
            ((br.contexts context).takeCallback x.request) := by
      unfold overlayWasDismissed
      rw [modifyBrowser_self]
      exact if_pos hcontext
    simp only [hignored]
    have hsame : (s.modifyBrowser b fun br => br.setContext context
        ((br.contexts context).takeCallback x.request)) = s.modifyBrowser b fun br =>
          br.setContext context (((s.browsers b).contexts context).takeCallback x.request) :=
      modifyBrowser_congr rfl
    rw [hsame]
    split
    · refine (resetRequest_exact htaken ?_ x.request).all
      rw [modifyBrowser_self, Browser.setContext_contexts, if_pos rfl]
      exact OverlayPresentationContext.shown_takeCallback hx
    · exact htaken.all

/-- A window whose UI has gone, with `presenting_` reset and the presented
request as it was. -/
structure Left (br : Browser W C) (presented : Option (OverlayRequest W)) : Prop where
  presenting : br.presenter.presenting = false
  presented : br.presenter.presentedRequest = presented
  shown : br.shown = none

/-- The presented request that stays behind is all that is wrong. -/
theorem ExactExcept.left_exact_iff {b : B} {presented : Option (OverlayRequest W)}
    (h : s.ExactExcept b (Left · presented)) :
    s.PresentingExact ↔ presented = none := by
  refine ⟨fun hall => ?_, fun hpresented => ?_⟩
  · cases hrequest : presented with
    | none => rfl
    | some request =>
      obtain ⟨y, hy, _⟩ := (hall b).presented request (h.self.presented.trans hrequest)
      rw [h.self.shown] at hy
      cases hy
  · have hidle : s.ExactExcept b Browser.PresentingExact :=
      ⟨h.single, Browser.Idle.exact ⟨h.self.presenting, h.self.presented.trans hpresented,
        h.self.shown⟩, h.others⟩
    exact hidle.all.2

theorem takeCallback_presenter (s : System W B C) (b : B) (context : C) (x : Shown W) :
    ((s.takeCallback b context x).browsers b).presenter = (s.browsers b).presenter := by
  rw [takeCallback_self]
  rfl

theorem takeCallback_contexts (s : System W B C) (b : B) (context : C) (x : Shown W) :
    ((s.takeCallback b context x).browsers b).contexts context =
      ((s.browsers b).contexts context).takeCallback x.request := by
  rw [takeCallback_self, Browser.setContext_contexts, if_pos rfl]

/-- Without its callback the UI of the presenter's context is on its way out. -/
theorem takeCallback_ending (hsingle : s.Single) (hexact : s.PresentingExact) {b : B} {context : C}
    {x : Shown W} (hx : ((s.browsers b).contexts context).shown = some x)
    (hcontext : (s.browsers b).presenter.presentationContext = some context) :
    (s.takeCallback b context x).ExactExcept b Browser.Ending := by
  have hpresenter := takeCallback_presenter s b context x
  have hpresenting : ((s.takeCallback b context x).browsers b).presenter.presenting =
      true := by
    rw [hpresenter, (hexact b).presenting, Browser.shown_of_context hcontext, hx]
    exact Option.some_ne_none x
  have hshown : ((s.takeCallback b context x).browsers b).shown = none := by
    have hcontext' : ((s.takeCallback b context x).browsers
        b).presenter.presentationContext = some context := by
      rw [hpresenter]
      exact hcontext
    rw [Browser.shown_of_context hcontext', takeCallback_contexts]
    exact OverlayPresentationContext.shown_takeCallback hx
  rw [takeCallback_self] at hpresenting hshown
  refine (exactExcept_of_exact hsingle hexact b).modifyBrowser (fun context' => ?_)
    ⟨hpresenting, hshown⟩
  rw [Browser.setContext_contexts]
  split
  · exact (hsingle b context).takeCallback x.request
  · exact hsingle b context'

theorem leaveReplaced_left {b : B} (h : s.ExactExcept b Browser.Ending) :
    (s.leaveReplaced b).ExactExcept b (Left · (s.browsers b).presenter.presentedRequest) := by
  unfold leaveReplaced modifyPresenter
  exact h.modifyBrowser (h.single b) ⟨rfl, rfl, h.self.shown⟩

/-- The request is reset where nothing is shown, or its own UI is not shown. -/
theorem resetDismissed_exact {b : B} {context : C}
    (hexact : s.ExactExcept b Browser.PresentingExact)
    (hcontext : (s.browsers b).presenter.presentationContext = some context)
    (request : OverlayRequest W)
    (hshown : ∀ next, (s.browsers b).shown = some next → next.request ≠ request) :
    (if ((s.browsers b).contexts context).request = some request then
      s.resetRequest factory b context request else s).ExactExcept b Browser.PresentingExact := by
  split
  next hrequest =>
    refine resetRequest_exact hexact ?_ request
    rw [← Browser.shown_of_context hcontext]
    cases hnext : (s.browsers b).shown with
    | none => rfl
    | some next =>
      have hup := hnext
      rw [Browser.shown_of_context hcontext] at hup
      rw [(OverlayPresentationContext.shown_eq_some.1 hup).1] at hrequest
      exact absurd (Option.some.inj hrequest) (hshown next hnext)
  next => exact hexact

/-- The overlay that was dismissed may be shown again at once. -/
theorem resetShown_exact {left : System W B C} {b : B} {context : C} {webState : W}
    {next : OverlayRequest W} {presented : Option (OverlayRequest W)}
    (hleft : left.ExactExcept b (Left · presented))
    (hreplaced : (left.browsers b).presenter.detachedQueueReplacedDelegate = false)
    (hshows : Browser.Shows factory left.queues (left.browsers b)
      ((left.browsers b).presentOverlayForActiveRequest factory left.queues) context webState
      next)
    (hnext : (left.browsers b).getActiveRequest left.queues = some next) {s' : System W B C}
    (hs' : s' = left.modifyBrowser b (·.presentOverlayForActiveRequest factory left.queues))
    (request : OverlayRequest W) :
    (if ((s'.browsers b).contexts context).request = some request then
      s'.resetRequest factory b context request else s').ExactExcept b
        Browser.PresentingExact := by
  have hself : s'.browsers b =
      (left.browsers b).presentOverlayForActiveRequest factory left.queues := by
    rw [hs', modifyBrowser_self]
  have hshown : s'.ExactExcept b Browser.PresentingExact := by
    rw [hs']
    exact hleft.modifyBrowser (hshows.single (hleft.single b)) hshows.exact
  have hcontext : (s'.browsers b).presenter.presentationContext = some context := by
    rw [hself, hshows.result]
    exact hshows.presentationContext
  split
  next hrequest =>
    have hup : ((s'.browsers b).contexts context).shown =
        some ⟨next, webState, .userInteraction⟩ := by
      rw [← Browser.shown_of_context hcontext, hself]
      exact hshows.shown_eq
    have hagain : next = request := by
      rw [(OverlayPresentationContext.shown_eq_some.1 hup).1] at hrequest
      exact Option.some.inj hrequest
    rw [← hagain]
    refine resetRequest_shownAgain (x := ⟨next, webState, .userInteraction⟩) hshown hcontext ?_
      hup rfl ?_
    · rw [hself, hshows.result]
      exact hreplaced
    · rw [hself, hshows.result, hs']
      exact hnext
  next => exact hshown

/-- Where nothing is shown, the request is forgotten without a trace. -/
theorem resetLeft_left {left : System W B C} {b : B} {context : C}
    {presented : Option (OverlayRequest W)} (hleft : left.ExactExcept b (Left · presented))
    (hcontext : (left.browsers b).presenter.presentationContext = some context)
    (request : OverlayRequest W) :
    (if ((left.browsers b).contexts context).request = some request then
      left.resetRequest factory b context request else left).ExactExcept b
        (Left · presented) := by
  have hnone : ((left.browsers b).contexts context).shown = none := by
    rw [← Browser.shown_of_context hcontext]
    exact hleft.self.shown
  split
  next =>
    obtain ⟨ctx, hreset, hctx, hctxSingle⟩ := resetRequest_eq factory
      ((hleft.single b context).callback_eq_none hnone request)
    rw [hreset]
    refine hleft.modifyBrowser (fun context' => ?_) ⟨?_, ?_, ?_⟩
    · rw [Browser.setContext_contexts]
      split
      · exact hctxSingle (hleft.single b context) hnone
      · exact hleft.single b context'
    · exact hleft.self.presenting
    · exact hleft.self.presented
    · have hcontext' : ((left.browsers b).setContext context
          ctx).presenter.presentationContext = some context := hcontext
      rw [Browser.shown_of_context hcontext', Browser.setContext_contexts, if_pos rfl]
      exact hctx
  next => exact hleft

/-- A dismissal in the presenter's context. -/
theorem overlayUIWasDismissed_current (hsingle : s.Single) (hexact : s.PresentingExact) {b : B}
    {context : C} {x : Shown W} (hx : ((s.browsers b).contexts context).shown = some x)
    (hcontext : (s.browsers b).presenter.presentationContext = some context) :
    (s.overlayUIWasDismissed factory b context).Single ∧
      ((s.overlayUIWasDismissed factory b context).PresentingExact ↔
        ((s.browsers b).presenter.detachedQueueReplacedDelegate = true →
          (s.browsers b).presenter.presentedRequest = none ∨
            (s.browsers b).CanPresent factory s.queues context)) := by
  have hending := takeCallback_ending hsingle hexact hx hcontext
  have hpresenter := takeCallback_presenter s b context x
  have hstates := takeCallback_contexts s b context x
  rw [overlayUIWasDismissed_eq hx]
  have hqueues : (s.takeCallback b context x).queues = s.queues := rfl
  generalize s.takeCallback b context x = taken at hending hpresenter hstates hqueues ⊢
  have hcontext' : (taken.browsers b).presenter.presentationContext = some context := by
    rw [hpresenter]
    exact hcontext
  cases hreplaced : (s.browsers b).presenter.detachedQueueReplacedDelegate with
  | false =>
    obtain ⟨hexact', hcontext'', hcase⟩ := overlayWasDismissed_normal factory hending hcontext'
      (by rw [hpresenter]; exact hreplaced) x.request x.queue x.reason
    have h := resetDismissed_exact factory hexact' hcontext'' x.request
      fun next hnext => by
        rcases hcase with hidle | ⟨next', hnext', hne, _⟩
        · rw [hidle.self.shown] at hnext
          cases hnext
        · rw [hnext'] at hnext
          cases hnext
          exact hne
    exact ⟨h.all.1, fun _ hfalse => absurd hfalse Bool.false_ne_true, fun _ => h.all.2⟩
  | true =>
    have hleftBrowser := leaveReplaced_self taken b
    have hleftInv := leaveReplaced_left hending
    rw [hpresenter] at hleftInv
    set left := taken.leaveReplaced b
    have hleftContext : (left.browsers b).presenter.presentationContext = some context := by
      rw [hleftBrowser]
      exact hcontext'
    have hleftQueues : left.queues = s.queues := hqueues
    have hcan : (left.browsers b).CanPresent factory s.queues context ↔
        (s.browsers b).CanPresent factory s.queues context := by
      unfold Browser.CanPresent Browser.getActiveRequest
      rw [hleftBrowser]
      show (∃ request, (taken.browsers b).presenter.activeWebState.bind _ = _ ∧
        OverlayPresentationContext.canShowUIForRequest factory request
          ((taken.browsers b).contexts context).presentationCapabilities = true) ↔ _
      rw [hpresenter, hstates]
      rfl
    have hdismissed : taken.overlayWasDismissed factory b context x.request x.queue x.reason =
        left.modifyBrowser b (·.presentOverlayForActiveRequest factory left.queues) := by
      unfold overlayWasDismissed
      rw [if_neg (not_not.2 hcontext'), hpresenter, hreplaced, if_pos rfl]
      rfl
    rcases Browser.presentOverlayForActiveRequest_cases factory left.queues (left.browsers b) with
      ⟨context', webState, next, hshows⟩ | ⟨hsame, hcannot⟩
    · -- the next overlay is shown
      have hsome : some context' = some context := hshows.presentationContext.symm.trans hleftContext
      cases hsome
      have hnext : (left.browsers b).getActiveRequest left.queues = some next := by
        unfold Browser.getActiveRequest
        rw [hshows.activeWebState, Option.bind_some, hshows.front]
      have hpresented : (s.browsers b).CanPresent factory s.queues context :=
        hcan.1 ⟨next, hleftQueues ▸ hnext, hshows.canShow⟩
      have h := resetShown_exact factory hleftInv (by rw [hleftBrowser]; rfl) hshows hnext
        hdismissed x.request
      exact ⟨h.all.1, fun _ _ => .inr hpresented, fun _ => h.all.2⟩
    · -- nothing is shown, and a presented request stays behind
      rw [hdismissed, modifyBrowser_id left b hsame]
      have hnone : ((left.browsers b).contexts context).shown = none := by
        rw [← Browser.shown_of_context hleftContext]
        exact hleftInv.self.shown
      have hnot : ¬ (s.browsers b).CanPresent factory s.queues context := by
        intro h
        obtain ⟨request, hrequest, hshow⟩ := hcan.2 h
        rw [← hleftQueues] at hrequest
        rw [hcannot context hleftContext hnone request hrequest] at hshow
        cases hshow
      have h := resetLeft_left factory hleftInv hleftContext x.request
      exact ⟨h.single, fun hall _ => .inl (h.left_exact_iff.1 hall),
        fun hcond => h.left_exact_iff.2 ((hcond rfl).resolve_right hnot)⟩

/-! ## Events -/

/-- **After an event the fields are right exactly when the event keeps track.** -/
theorem step_exact (hsingle : s.Single) (hexact : s.PresentingExact) {event : Event W B C}
    (henabled : s.Enabled event) :
    (s.step factory event).Single ∧
      ((s.step factory event).PresentingExact ↔ s.KeepsTrack factory event) := by
  have heffects : ∀ {s' : System W B C}, Effects factory True s s' →
      s'.Single ∧ (s'.PresentingExact ↔ True) := by
    intro s' h
    obtain ⟨h1, h2⟩ := Effects.exact factory h hsingle hexact
    exact ⟨h1, iff_true_intro h2⟩
  have hinsert : ∀ webState index, (s.insertRequest factory webState index).Single ∧
      ((s.insertRequest factory webState index).PresentingExact ↔ True) := by
    intro webState index
    have hadded : (s.insertRequest factory webState index).Single ∧
        (s.insertRequest factory webState index).PresentingExact := by
      have hnotified : Effects factory True _ (s.insertRequest factory webState index) :=
        requestsAdded_effects _ webState ⟨s.added.length, webState⟩ _
      exact Effects.exact factory hnotified hsingle hexact
    exact ⟨hadded.1, iff_true_intro hadded.2⟩
  cases event with
  | edit b e => exact heffects (edit_effects s b e)
  | webStateDestroyed webState => exact heffects (webStateDestroyed_effects s webState)
  | addRequest webState => exact hinsert webState _
  | insertRequest webState index => exact hinsert webState index
  | cancelRequest webState request => exact heffects (cancelRequest_upkeeps s webState request).effects
  | cancelAllRequests webState => exact heffects (cancelAllLoop_upkeeps webState _ s).effects
  | setPresentationContext b presentationContext =>
    obtain ⟨h1, h2⟩ := setPresentationContext_exact factory hsingle hexact b
      presentationContext
    refine ⟨h1, h2.trans ?_⟩
    cases presentationContext with
    | none => exact ⟨fun _ => trivial, fun _ => nofun⟩
    | some context =>
      exact ⟨fun h => h context rfl, fun h context' heq => by cases heq; exact h⟩
  | updatePresentationCapabilities b context capabilities =>
    exact heffects (updatePresentationCapabilities_effects trivial s b context capabilities)
  | presentationContextReady b context => exact heffects (presentationContextReady_effects s b)
  | dismissedByUser b context => exact heffects (Effect.byUser b context).effects
  | overlayUIDidFinishDismissal b context =>
    obtain ⟨x, hx⟩ := Option.isSome_iff_exists.1 henabled.1
    by_cases hcontext : (s.browsers b).presenter.presentationContext = some context
    · obtain ⟨h1, h2⟩ := overlayUIWasDismissed_current factory hsingle hexact hx
        hcontext
      exact ⟨h1, h2.trans ⟨fun h _ => h, fun h => h hcontext⟩⟩
    · obtain ⟨h1, h2⟩ := overlayUIWasDismissed_other factory hsingle hexact hcontext
      exact ⟨h1, iff_of_true h2 fun h => absurd h hcontext⟩

theorem init_single (h : (overlayMachine W B C factory).init s) :
    s.Single ∧ s.PresentingExact := by
  obtain ⟨capabilities, rfl⟩ := h
  refine ⟨fun b context request hcallback => absurd rfl hcallback, fun b => ?_⟩
  exact Browser.Idle.exact ⟨rfl, rfl, rfl⟩

/-- **Along every run, the two fields of every presenter are right after each
event exactly when every event keeps track**: a context is given to a presenter
with none of its UI up, and no flag of an earlier context diverts a dismissal. -/
theorem presenting_exact {s : System W B C} {events : List (Event W B C)}
    (hinit : (overlayMachine W B C factory).init s)
    (hrun : (overlayMachine W B C factory).Run s events) :
    (overlayMachine W B C factory).Always
        (fun s event => (s.step factory event).PresentingExact) s events ↔
      (overlayMachine W B C factory).Always (fun s event => s.KeepsTrack factory event) s events := by
  refine Lib.Machine.always_iff_of_invariant (I := fun s => s.Single ∧ s.PresentingExact)
    (fun s event hI henabled => (step_exact factory hI.1 hI.2 henabled).2)
    (fun s event hI henabled hP => ⟨(step_exact factory hI.1 hI.2 henabled).1, hP⟩)
    (init_single factory hinit) hrun

/-- A dialog is shown and its dismissal awaited, after which nothing is up. -/
theorem presenting_exact_dismissed :
    let events : List (Event Nat Bool Bool) :=
      [.edit true (.insert 1 0 true), .edit true (.activate (some 1) 0 .inserted), .addRequest 1,
        .setPresentationContext true (some true), .dismissedByUser true true,
        .overlayUIDidFinishDismissal true true]
    (overlayMachine Nat Bool Bool (childFactory Nat)).Always
        (fun s event => (s.step (childFactory Nat) event).PresentingExact) (start Nat Bool Bool)
        events ↔
      (overlayMachine Nat Bool Bool (childFactory Nat)).Always
        (fun s event => s.KeepsTrack (childFactory Nat) event) (start Nat Bool Bool) events :=
  presenting_exact (childFactory Nat) ⟨_, rfl⟩ (by decide +kernel)

/-- **A context taken away and given back before its UI is gone**: the presenter
shows nothing, as far as it knows. -/
theorem contextGivenBack_notExact :
    ¬ ∀ (s : System Nat Bool Bool) (events : List (Event Nat Bool Bool)),
      (overlayMachine Nat Bool Bool (childFactory Nat)).init s →
      (overlayMachine Nat Bool Bool (childFactory Nat)).Run s events →
      (overlayMachine Nat Bool Bool (childFactory Nat)).Always
        (fun s event => (s.step (childFactory Nat) event).PresentingExact) s events := by
  intro h
  have hrun := h (start Nat Bool Bool)
    [.edit true (.insert 1 0 true), .edit true (.activate (some 1) 0 .inserted), .addRequest 1,
      .setPresentationContext true (some true), .setPresentationContext true none,
      .setPresentationContext true (some true)] ⟨_, rfl⟩ (by decide +kernel)
  have hlast := (hrun.2.2.2.2.2.1 true).presenting.2
  exact absurd (hlast (by decide +kernel)) (by decide +kernel)

end System

end IosChrome.Overlays

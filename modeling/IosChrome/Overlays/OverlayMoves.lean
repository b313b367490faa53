import IosChrome.Overlays.Presenting

/-!
# Every event as a sequence of moves

The effects of `OverlayEffects.lean` do not reach the events that start or end
a presentation. `Move` adds what these are made of: presenting whatever
`presenting_` says, any write to a presenter, and writes to the context whose
dismissal ends, which leave nothing up there. With it a property of all runs is
proved in three places: a move, a new request, the start (`step_keeps`).

* `step_single`: in every run the only dismissal callback of a context is that
  of the request it presents;
* `step_placed`: UI is only up for requests that were added, and its callback
  carries the queue of the request's tab.
-/

set_option linter.unusedSectionVars false

namespace IosChrome.Overlays

variable {W B C : Type} [DecidableEq W] [DecidableEq B] [DecidableEq C]
variable (factory : OverlayRequestCoordinatorFactory W)

/-- One move. The context whose dismissal ends is among `ends`; the capabilities
of contexts change only if `caps`. -/
inductive Move (caps : Prop) (ends : B → C → Prop) (s : System W B C) : System W B C → Prop where
  | effect {s' : System W B C} (heffect : Effect factory caps s s') : Move caps ends s s'
  | present (b : B) :
      Move caps ends s (s.modifyBrowser b (·.presentOverlayForActiveRequest factory s.queues))
  | presenter (b : B) (f : OverlayPresenterImpl W C → OverlayPresenterImpl W C) :
      Move caps ends s (s.modifyPresenter b f)
  | context (b : B) (context : C) (ctx : OverlayPresentationContext W) (hends : ends b context)
      (hshown : ctx.shown = none)
      (hcapabilities : ctx.presentationCapabilities =
        ((s.browsers b).contexts context).presentationCapabilities) : Move caps ends s (s.modifyBrowser b (·.setContext context ctx))

/-- A sequence of moves. -/
abbrev Moves (caps : Prop) (ends : B → C → Prop) (s s' : System W B C) : Prop :=
  Relation.ReflTransGen (Move factory caps ends) s s'

variable {factory} {caps : Prop} {ends : B → C → Prop} {s s' : System W B C}

theorem Move.moves (h : Move factory caps ends s s') : Moves factory caps ends s s' :=
  .single h

theorem Effects.moves (h : Effects factory caps s s') :
    Moves factory caps ends s s' := by
  induction h with
  | refl => exact .refl
  | tail _ heffect ih => exact ih.tail (.effect heffect)

/-- **What every move keeps, a sequence of moves keeps.** -/
theorem Moves.keeps {P : System W B C → Prop}
    (hstep : ∀ {s s' : System W B C}, P s → Move factory caps ends s s' → P s')
    (h : Moves factory caps ends s s') (hP : P s) : P s' := by
  induction h with
  | refl => exact hP
  | tail _ hmove ih => exact hstep ih hmove

/-- The event is the end of the dismissal in this context. -/
def Event.Ends (event : Event W B C) (b : B) (context : C) : Prop :=
  event = .overlayUIDidFinishDismissal b context

/-- The event changes what a context can show. -/
def Event.ChangesCapabilities : Event W B C → Prop
  | .updatePresentationCapabilities _ _ _ => True
  | _ => False

namespace System

/-- A new request in the queue of a tab, before the observers hear of it. -/
def withRequest (s : System W B C) (webState : W) (index : Nat) : System W B C :=
  ({ s with added := s.added ++ [⟨s.added.length, webState⟩] } : System W B C).modifyQueue webState
    fun queue => { queue with
      requests := queue.requests.insertIdx index ⟨s.added.length, webState⟩ }

/-- The presenter is told that the UI of a queue it lost is gone. -/
def leaveReplaced (s : System W B C) (b : B) : System W B C :=
  s.modifyPresenter b fun presenter =>
    { presenter with presenting := false, detachedQueueReplacedDelegate := false }

/-- The branches of `OverlayWasDismissed`. -/
inductive WasDismissed (factory : OverlayRequestCoordinatorFactory W) (s : System W B C) (b : B)
    (context : C) (request : OverlayRequest W) (queue : W) (reason : OverlayDismissalReason) :
    System W B C → Prop where
  | ignored (hcontext : (s.browsers b).presenter.presentationContext ≠ some context) :
      WasDismissed factory s b context request queue reason s
  | replaced (hcontext : (s.browsers b).presenter.presentationContext = some context)
      (hreplaced : (s.browsers b).presenter.detachedQueueReplacedDelegate = true) :
      WasDismissed factory s b context request queue reason ((s.leaveReplaced b).modifyBrowser b
        (·.presentOverlayForActiveRequest factory (s.leaveReplaced b).queues))
  | next (hcontext : (s.browsers b).presenter.presentationContext = some context)
      (hreplaced : (s.browsers b).presenter.detachedQueueReplacedDelegate = false)
      (hother : ((s.endPresentation b request queue reason).browsers b).getActiveRequest
        (s.endPresentation b request queue reason).queues ≠ some request) :
      WasDismissed factory s b context request queue reason
        ((s.endPresentation b request queue reason).modifyBrowser b
          (·.presentOverlayForActiveRequest factory
            (s.endPresentation b request queue reason).queues))
  | unchanged (hcontext : (s.browsers b).presenter.presentationContext = some context)
      (hreplaced : (s.browsers b).presenter.detachedQueueReplacedDelegate = false)
      (hsame : ((s.endPresentation b request queue reason).browsers b).getActiveRequest
        (s.endPresentation b request queue reason).queues = some request) :
      WasDismissed factory s b context request queue reason
        (s.endPresentation b request queue reason)

variable (factory) in
theorem overlayWasDismissed_cases (s : System W B C) (b : B) (context : C)
    (request : OverlayRequest W) (queue : W) (reason : OverlayDismissalReason) :
    WasDismissed factory s b context request queue reason
      (s.overlayWasDismissed factory b context request queue reason) := by
  unfold overlayWasDismissed
  split
  next hcontext => exact .ignored hcontext
  next hcontext =>
    split
    next hreplaced => exact .replaced (not_not.1 hcontext) hreplaced
    next hreplaced =>
      have hreplaced := Bool.eq_false_iff.2 hreplaced
      simp only
      split
      next hother => exact .next (not_not.1 hcontext) hreplaced hother
      next hsame => exact .unchanged (not_not.1 hcontext) hreplaced (not_not.1 hsame)

@[simp] theorem leaveReplaced_self (s : System W B C) (b : B) :
    (s.leaveReplaced b).browsers b = (s.browsers b).setPresenter { (s.browsers b).presenter with
      presenting := false, detachedQueueReplacedDelegate := false } := modifyPresenter_self ..

/-- The callback of the UI that is up is taken out of its context, to be run. -/
def takeCallback (s : System W B C) (b : B) (context : C) (x : Shown W) : System W B C :=
  s.modifyBrowser b fun br => br.setContext context ((br.contexts context).takeCallback x.request)

theorem takeCallback_self (s : System W B C) (b : B) (context : C) (x : Shown W) :
    (s.takeCallback b context x).browsers b = (s.browsers b).setContext context
      (((s.browsers b).contexts context).takeCallback x.request) := modifyBrowser_self ..

theorem overlayUIWasDismissed_eq {b : B} {context : C} {x : Shown W}
    (hx : ((s.browsers b).contexts context).shown = some x) :
    s.overlayUIWasDismissed factory b context =
      if ((((s.takeCallback b context x).overlayWasDismissed factory b context x.request x.queue
          x.reason).browsers b).contexts context).request = some x.request then
        ((s.takeCallback b context x).overlayWasDismissed factory b context x.request x.queue
          x.reason).resetRequest factory b context x.request
      else (s.takeCallback b context x).overlayWasDismissed factory b context x.request x.queue
        x.reason := by
  unfold overlayUIWasDismissed
  rw [hx]
  rfl

/-! ## The moves of each event -/

theorem insertRequest_moves (s : System W B C) (webState : W) (index : Nat) :
    Moves factory caps ends (s.withRequest webState index) (s.insertRequest factory webState index) :=
  (requestsAdded_effects _ webState ⟨s.added.length, webState⟩ _).moves

theorem setPresentationContext_moves (s : System W B C) (b : B) (presentationContext : Option C) :
    Moves factory caps ends s
      (s.modifyBrowser b (·.setPresentationContext factory s.queues presentationContext)) := by
  have hcancel : Moves factory caps ends s (s.modifyBrowser b (·.cancelAllOverlayUI s.queues)) :=
    (cancelAllOverlayUI_effects s b).moves
  have hgiven := hcancel.tail (.presenter b fun presenter =>
    { presenter with
      presentationContext := presentationContext, presenting := false, presentedRequest := none })
  unfold modifyPresenter at hgiven
  rw [modifyBrowser_modifyBrowser] at hgiven
  have hpresent := hgiven.tail (.present b)
  rw [modifyBrowser_modifyBrowser] at hpresent
  exact hpresent

theorem endPresentation_moves (s : System W B C) (b : B) (request : OverlayRequest W) (queue : W)
    (reason : OverlayDismissalReason) :
    Moves factory caps ends s (s.endPresentation b request queue reason) :=
  ((popped_upkeeps s b request queue reason).effects.moves.tail (.presenter b _)).trans
    (setRemovedRequest_upkeeps _ b none).effects.moves

theorem overlayWasDismissed_moves (s : System W B C) (b : B) (context : C)
    (request : OverlayRequest W) (queue : W) (reason : OverlayDismissalReason) :
    Moves factory caps ends s (s.overlayWasDismissed factory b context request queue reason) := by
  have h := overlayWasDismissed_cases factory s b context request queue reason
  generalize s.overlayWasDismissed factory b context request queue reason = s' at h
  have hended : Moves factory caps ends s (s.endPresentation b request queue reason) :=
    endPresentation_moves s b request queue reason
  cases h with
  | ignored => exact .refl
  | replaced => exact (Move.presenter b _).moves.tail (.present b)
  | next => exact hended.tail (.present b)
  | unchanged => exact hended

/-- `SetRequest(nullptr)`, on a context that presents this request. -/
theorem resetRequest_moves (s : System W B C) {b : B} {context : C} (hends : ends b context)
    {request : OverlayRequest W}
    (hrequest : ((s.browsers b).contexts context).request = some request) :
    Moves factory caps ends s (s.resetRequest factory b context request) := by
  have hclear : ∀ {s' : System W B C}, Moves factory caps ends s s' →
      Moves factory caps ends s (s'.modifyBrowser b fun br =>
        br.setContext context (br.contexts context).clearRequest) := by
    intro s' h
    rw [modifyBrowser_congr (g := (·.setContext context
      ((s'.browsers b).contexts context).clearRequest)) rfl]
    exact h.tail (.context b context _ hends (OverlayPresentationContext.shown_clearRequest _) rfl)
  unfold resetRequest
  refine hclear ?_
  simp only
  split
  next => exact .refl
  next state hstate =>
    split
    next =>
      have hdrop : Moves factory caps ends s (s.modifyBrowser b
          (·.setContext context (((s.browsers b).contexts context).setState request none))) :=
        (Move.context b context _ hends
          (OverlayPresentationContext.shown_setState_none hrequest) rfl).moves
      split
      · exact hdrop
      · exact hdrop.trans (overlayWasDismissed_moves _ b context request _ _)
    next => exact .refl

theorem overlayUIWasDismissed_moves (s : System W B C) {b : B} {context : C}
    (hends : ends b context) :
    Moves factory caps ends s (s.overlayUIWasDismissed factory b context) := by
  unfold overlayUIWasDismissed
  split
  next => exact .refl
  next x hx =>
    have htaken : Moves factory caps ends s (s.modifyBrowser b fun br => br.setContext context
        ((br.contexts context).takeCallback x.request)) := by
      rw [modifyBrowser_congr (g := (·.setContext context
        (((s.browsers b).contexts context).takeCallback x.request))) rfl]
      exact (Move.context b context _ hends (OverlayPresentationContext.shown_takeCallback hx)
        rfl).moves
    simp only
    split
    next hrequest =>
      exact (htaken.trans (overlayWasDismissed_moves _ b context x.request x.queue x.reason)).trans
        (resetRequest_moves _ hends hrequest)
    next => exact htaken.trans (overlayWasDismissed_moves _ b context x.request x.queue x.reason)

/-- **An event keeps what its moves and new requests keep.** -/
theorem step_keeps {P : System W B C → Prop} {event : Event W B C}
    (henabled : s.Enabled event)
    (hmove : ∀ {s s' : System W B C}, P s → Move factory event.ChangesCapabilities event.Ends s s' → P s')
    (hadd : ∀ webState index, index ≤ (s.queues webState).requests.length →
      P (s.withRequest webState index)) (hP : P s) : P (s.step factory event) := by
  cases event with
  | edit b e => exact (edit_effects s b e).moves.keeps hmove hP
  | webStateDestroyed webState => exact (webStateDestroyed_effects s webState).moves.keeps hmove hP
  | addRequest webState =>
    exact (insertRequest_moves s webState _).keeps hmove (hadd webState _ (Nat.le_refl _))
  | insertRequest webState index =>
    exact (insertRequest_moves s webState index).keeps hmove (hadd webState index henabled.2)
  | cancelRequest webState request =>
    exact (cancelRequest_upkeeps s webState request).effects.moves.keeps hmove hP
  | cancelAllRequests webState => exact (cancelAllLoop_upkeeps webState _ s).effects.moves.keeps hmove hP
  | setPresentationContext b presentationContext =>
    exact (setPresentationContext_moves s b presentationContext).keeps hmove hP
  | updatePresentationCapabilities b context capabilities =>
    exact (updatePresentationCapabilities_effects trivial s b context capabilities).moves.keeps
      hmove hP
  | presentationContextReady b context =>
    exact (presentationContextReady_effects s b).moves.keeps hmove hP
  | dismissedByUser b context => exact (Effect.byUser b context).effects.moves.keeps hmove hP
  | overlayUIDidFinishDismissal b context =>
    have hends : (Event.overlayUIDidFinishDismissal b context : Event W B C).Ends b context := rfl
    exact (overlayUIWasDismissed_moves s hends).keeps hmove hP

/-! ## Removing a request shows nothing -/

/-- The contexts have the same UI up, and were not told to show or hide any. -/
structure Silent (s s' : System W B C) : Prop where
  contexts : ∀ b context,
    SameUI ((s.browsers b).contexts context) ((s'.browsers b).contexts context)
  contextCalls : ∀ b, (s'.browsers b).contextCalls = (s.browsers b).contextCalls

theorem Silent.refl (s : System W B C) : Silent s s := ⟨fun _ _ => .refl _, fun _ => rfl⟩

theorem Silent.trans {s₁ s₂ s₃ : System W B C} (h₁ : Silent s₁ s₂) (h₂ : Silent s₂ s₃) :
    Silent s₁ s₃ :=
  ⟨fun b context => (h₁.contexts b context).trans (h₂.contexts b context),
    fun b => (h₂.contextCalls b).trans (h₁.contextCalls b)⟩

theorem Silent.modifyPresenter (s : System W B C) (b : B)
    (f : OverlayPresenterImpl W C → OverlayPresenterImpl W C) :
    Silent s (s.modifyPresenter b f) := by
  unfold System.modifyPresenter
  refine ⟨fun b' context => ?_, fun b' => ?_⟩
  · rw [modifyBrowser_browsers]
    split
    next heq =>
      rw [heq]
      exact .refl _
    next => exact .refl _
  · rw [modifyBrowser_browsers]
    split
    next heq =>
      rw [heq]
      rfl
    next => rfl

end System

/-- Upkeep tells no context to show or hide anything. -/
theorem Upkeep.silent (h : Upkeep s s') : System.Silent s s' := by
  refine ⟨fun b context => (h.quiet b).contexts context, fun b => ?_⟩
  cases h with
  | cancel b' request =>
    rw [System.modifyBrowser_browsers]
    split
    next heq =>
      rw [heq]
      unfold Browser.cancelOverlayUIForRequest
      split <;> rfl
    next => rfl
  | presenter b' f _ _ => exact (System.Silent.modifyPresenter s b' f).contextCalls b
  | queue webState f _ => rfl
  | destroyRequest request => rfl

theorem Upkeeps.silent (h : Upkeeps s s') : System.Silent s s' :=
  h.keeps (P := System.Silent s) (fun hs hupkeep => hs.trans hupkeep.silent) (.refl s)

namespace System

/-- The end of a presentation, up to where the next overlay is shown. -/
theorem endPresentation_silent (s : System W B C) (b : B) (request : OverlayRequest W) (queue : W)
    (reason : OverlayDismissalReason) : Silent s (s.endPresentation b request queue reason) :=
  ((popped_upkeeps s b request queue reason).silent.trans (.modifyPresenter _ b _)).trans
    (setRemovedRequest_upkeeps _ b none).silent

/-! ## One callback in a context -/

variable (factory) in
/-- After a dismissal callback has run, the UI of the same request is up again
only where the presenter shows it from the branch for a replaced delegate. -/
theorem overlayWasDismissed_shown (hsingle : s.Single) {b : B} {context : C}
    (hshown : ((s.browsers b).contexts context).shown = none) (request : OverlayRequest W)
    (queue : W) (reason : OverlayDismissalReason) {x : Shown W}
    (hx : (((s.overlayWasDismissed factory b context request queue reason).browsers b).contexts
      context).shown = some x) (hrequest : x.request = request) :
    let s' := s.overlayWasDismissed factory b context request queue reason
    (s'.browsers b).presenter.detachedQueueReplacedDelegate = false ∧
      (s'.browsers b).getActiveRequest s'.queues = some request ∧ x.reason = .userInteraction := by
  have h := overlayWasDismissed_cases factory s b context request queue reason
  simp only
  generalize s.overlayWasDismissed factory b context request queue reason = s' at h hx
  cases h with
  | ignored =>
    rw [hshown] at hx
    cases hx
  | replaced hcontext hreplaced =>
    rcases Browser.presentOverlayForActiveRequest_cases factory (s.leaveReplaced b).queues
      ((s.leaveReplaced b).browsers b) with ⟨context', webState, next, hshows⟩ | ⟨hsame, _⟩
    · rw [modifyBrowser_self] at hx ⊢
      have hup := hshows.shown_eq
      have hsome : ((s.leaveReplaced b).browsers b).presenter.presentationContext = some context := by
        rw [leaveReplaced_self]
        exact hcontext
      rw [hshows.presentationContext] at hsome
      cases hsome
      rw [Browser.shown_of_context (by rw [hshows.result]; exact hshows.presentationContext),
        hx] at hup
      cases hup
      refine ⟨?_, ?_, rfl⟩
      · rw [hshows.result, leaveReplaced_self]
        rfl
      · rw [hshows.result]
        show ((s.leaveReplaced b).browsers b).presenter.activeWebState.bind _ = _
        rw [hshows.activeWebState, Option.bind_some, ← hrequest]
        exact hshows.front
    · rw [modifyBrowser_id _ b hsame, leaveReplaced_self] at hx
      exact absurd (hshown.symm.trans hx) nofun
  | next hcontext hreplaced hother =>
    exfalso
    have hnone := ((endPresentation_silent s b request queue reason).contexts b
      context).shown_eq_none (hsingle b context) hshown
    rcases Browser.presentOverlayForActiveRequest_cases factory
      (s.endPresentation b request queue reason).queues
      ((s.endPresentation b request queue reason).browsers b) with
      ⟨context', webState, next, hshows⟩ | ⟨hsame, _⟩
    · rw [modifyBrowser_self, hshows.result] at hx
      have hx' : (Function.update ((s.endPresentation b request queue reason).browsers
          b).contexts context' _ context).shown = some x := hx
      rw [Function.update_apply] at hx'
      split at hx'
      next =>
        rw [OverlayPresentationContext.shown_showOverlayUI] at hx'
        cases hx'
        apply hother
        unfold Browser.getActiveRequest
        rw [hshows.activeWebState, Option.bind_some, hshows.front, ← hrequest]
      next =>
        rw [hnone] at hx'
        cases hx'
    · rw [modifyBrowser_id _ b hsame, hnone] at hx
      cases hx
  | unchanged =>
    have hnone := ((endPresentation_silent s b request queue reason).contexts b
      context).shown_eq_none (hsingle b context) hshown
    rw [hnone] at hx
    cases hx

theorem Single.setContext (h : s.Single) (b : B) (context : C)
    {f : Browser W C → OverlayPresentationContext W} (hctx : (f (s.browsers b)).Single) :
    (s.modifyBrowser b fun br => br.setContext context (f br)).Single := by
  intro b' context'
  rw [modifyBrowser_browsers]
  split
  · rw [Browser.setContext_contexts]
    split
    · exact hctx
    · exact h b context'
  · exact h b' context'

end System

theorem Move.single (hends : ∀ b context, ¬ ends b context) (h : Move factory caps ends s s')
    (hsingle : s.Single) : s'.Single := by
  have hbrowser : ∀ {b : B} {f : Browser W C → Browser W C}, (f (s.browsers b)).Single →
      (s.modifyBrowser b f).Single := by
    intro b f hf b'
    rw [System.modifyBrowser_browsers]
    split
    · exact hf
    · exact hsingle b'
  cases h with
  | effect heffect => exact heffect.single hsingle
  | present b => exact hbrowser ((hsingle b).present s.queues)
  | presenter b f => exact hbrowser (hsingle b)
  | context b context ctx hin _ _ => exact absurd hin (hends b context)

namespace System

variable (factory) in
theorem overlayWasDismissed_single (hsingle : s.Single) (b : B) (context : C)
    (request : OverlayRequest W) (queue : W) (reason : OverlayDismissalReason) :
    (s.overlayWasDismissed factory b context request queue reason).Single := by
  have hmoves : Moves factory True (fun _ _ => False) s
      (s.overlayWasDismissed factory b context request queue reason) :=
    overlayWasDismissed_moves s b context request queue reason
  exact hmoves.keeps (fun h hmove => hmove.single (fun _ _ => id) h) hsingle

variable (factory) in
/-- A request dropped by the context that presents it: its callback is run, and
shows nothing, since the request is still the active one. -/
theorem overlayWasDismissed_dropped (hsingle : s.Single) {b : B} {context : C}
    (hshown : ((s.browsers b).contexts context).shown = none) {request : OverlayRequest W}
    (hreplaced : (s.browsers b).presenter.detachedQueueReplacedDelegate = false)
    (hactive : (s.browsers b).getActiveRequest s.queues = some request) (queue : W) :
    (((s.overlayWasDismissed factory b context request queue .cancellation).browsers b).contexts
      context).shown = none := by
  have h := overlayWasDismissed_cases factory s b context request queue .cancellation
  generalize s.overlayWasDismissed factory b context request queue .cancellation = s' at h
  have hended : ((s.endPresentation b request queue .cancellation).browsers b).getActiveRequest
      (s.endPresentation b request queue .cancellation).queues = some request := by
    rw [endPresentation_activeRequest_of_ne b request queue (by decide)]
    exact hactive
  cases h with
  | ignored => exact hshown
  | replaced _ hflag =>
    rw [hreplaced] at hflag
    cases hflag
  | next _ _ hother => exact absurd hended hother
  | unchanged =>
    exact ((endPresentation_silent s b request queue .cancellation).contexts b
      context).shown_eq_none (hsingle b context) hshown

theorem overlayUIWasDismissed_single (hsingle : s.Single) (b : B) (context : C) :
    (s.overlayUIWasDismissed factory b context).Single := by
  unfold overlayUIWasDismissed
  split
  next => exact hsingle
  next x hx =>
    have htaken : (s.modifyBrowser b fun br => br.setContext context
        ((br.contexts context).takeCallback x.request)).Single :=
      hsingle.setContext b context ((hsingle b context).takeCallback x.request)
    have hnone : (((s.modifyBrowser b fun br => br.setContext context
        ((br.contexts context).takeCallback x.request)).browsers b).contexts context).shown = none := by
      rw [modifyBrowser_self, Browser.setContext_contexts, if_pos rfl]
      exact OverlayPresentationContext.shown_takeCallback hx
    generalize (s.modifyBrowser b fun br => br.setContext context
      ((br.contexts context).takeCallback x.request)) = taken at htaken hnone
    have hdismissed : (taken.overlayWasDismissed factory b context x.request x.queue
        x.reason).Single := overlayWasDismissed_single factory htaken b context _ _ _
    have hagain := fun y => overlayWasDismissed_shown factory htaken hnone x.request
      x.queue x.reason (x := y)
    simp only
    split
    next hrequest =>
      simp only at hagain
      generalize taken.overlayWasDismissed factory b context x.request x.queue x.reason = s'
        at hdismissed hrequest hagain
      cases hy : ((s'.browsers b).contexts context).shown with
      | none =>
        obtain ⟨ctx, hreset, _, hctx⟩ := resetRequest_eq factory
          ((hdismissed b context).callback_eq_none hy x.request)
        rw [hreset]
        exact hdismissed.setContext b context (f := fun _ => ctx) (hctx (hdismissed b context) hy)
      | some y =>
        obtain ⟨hrequest', hstate⟩ := OverlayPresentationContext.shown_eq_some.1 hy
        have hsame : y.request = x.request := Option.some.inj (hrequest'.symm.trans hrequest)
        obtain ⟨hreplaced, hactive, hreason⟩ := hagain y hy hsame
        rw [hsame, hreason] at hstate
        unfold resetRequest
        simp only [hstate, OverlayPresentationContext.isFinal, if_true]
        have hdropped : (s'.modifyBrowser b fun br => br.setContext context
            (((s'.browsers b).contexts context).setState x.request none)).Single :=
          hdismissed.setContext b context (f := fun _ => _)
            ((hdismissed b context).setState_none x.request)
        have hdown := overlayWasDismissed_dropped factory hdropped (by
            rw [modifyBrowser_self, Browser.setContext_contexts, if_pos rfl]
            exact OverlayPresentationContext.shown_setState_none hrequest)
          (by rw [modifyBrowser_self]; exact hreplaced)
          (by rw [modifyBrowser_self]; exact hactive) y.queue
        have hlast := overlayWasDismissed_single factory hdropped b context x.request
          y.queue .cancellation
        exact hlast.setContext b context (f := fun br => (br.contexts context).clearRequest)
          ((hlast b context).clearRequest hdown)
    next => exact hdismissed

/-- **Every event leaves the presented request of a context the only one with a
callback.** -/
theorem step_single (hsingle : s.Single) {event : Event W B C} (henabled : s.Enabled event) :
    (s.step factory event).Single := by
  by_cases hends : ∃ b context, event = .overlayUIDidFinishDismissal b context
  · obtain ⟨b, context, rfl⟩ := hends
    exact overlayUIWasDismissed_single hsingle b context
  · exact step_keeps henabled
      (fun h hmove => hmove.single (fun b context hend => hends ⟨b, context, hend⟩) h)
      (fun _ _ _ => hsingle) hsingle

variable (factory) in
theorem single_reachable (h : (overlayMachine W B C factory).Reachable s) :
    s.Single := by
  refine h.invariant (I := Single) (fun s hinit => ?_) fun _ _ h henabled => step_single h henabled
  obtain ⟨capabilities, rfl⟩ := hinit
  exact fun b context request hcallback => absurd rfl hcallback

end System

/-! ## What a context can show -/

namespace OverlayPresentationContext

theorem dismissPresentedUI_capabilities (ctx : OverlayPresentationContext W)
    (reason : OverlayDismissalReason) :
    (ctx.dismissPresentedUI reason).presentationCapabilities = ctx.presentationCapabilities := by
  unfold dismissPresentedUI
  split
  · rfl
  · split <;> rfl

theorem cancelOverlayUI_capabilities (ctx : OverlayPresentationContext W)
    (request : OverlayRequest W) :
    (ctx.cancelOverlayUI request).presentationCapabilities = ctx.presentationCapabilities := by
  unfold cancelOverlayUI
  split
  · rfl
  · split
    · rfl
    · exact dismissPresentedUI_capabilities ctx _

theorem showOverlayUI_capabilities (ctx : OverlayPresentationContext W) (request : OverlayRequest W)
    (queue : W) :
    (ctx.showOverlayUI request queue).presentationCapabilities = ctx.presentationCapabilities := by
  unfold showOverlayUI setRequest
  split
  · rfl
  · dsimp only
    split
    · rfl
    · split
      · rfl
      · split <;> rfl

end OverlayPresentationContext

/-- The capabilities stay unless the event is a change of them. -/
theorem Move.capabilities (hcaps : ¬ caps) (h : Move factory caps ends s s') (b : B) (context : C) :
    ((s'.browsers b).contexts context).presentationCapabilities =
      ((s.browsers b).contexts context).presentationCapabilities := by
  have hmodify : ∀ {b' : B} {f : Browser W C → Browser W C},
      (∀ context, ((f (s.browsers b')).contexts context).presentationCapabilities =
        ((s.browsers b').contexts context).presentationCapabilities) →
      (((s.modifyBrowser b' f).browsers b).contexts context).presentationCapabilities =
        ((s.browsers b).contexts context).presentationCapabilities := by
    intro b' f hf
    rw [System.modifyBrowser_browsers]
    split
    next heq => rw [heq, hf]
    next => rfl
  have hset : ∀ (b' : B) (context' context'' : C) (ctx : OverlayPresentationContext W),
      ctx.presentationCapabilities =
        ((s.browsers b').contexts context').presentationCapabilities →
      (((s.browsers b').setContext context' ctx).contexts context'').presentationCapabilities =
        ((s.browsers b').contexts context'').presentationCapabilities := by
    intro b' context' context'' ctx hctx
    rw [Browser.setContext_contexts]
    split
    next heq => rw [heq, hctx]
    next => rfl
  have hpresent : ∀ (b' : B) (context'' : C),
      (((s.browsers b').presentOverlayForActiveRequest factory s.queues).contexts
        context'').presentationCapabilities =
        ((s.browsers b').contexts context'').presentationCapabilities := by
    intro b' context''
    rcases Browser.presentOverlayForActiveRequest_cases factory s.queues (s.browsers b') with
      ⟨context', webState, request, hshows⟩ | ⟨hsame, _⟩
    · rw [hshows.result]
      exact hset b' context' context'' _
        (OverlayPresentationContext.showOverlayUI_capabilities _ _ _)
    · rw [hsame]
  cases h with
  | effect heffect =>
    cases heffect with
    | hide b' request =>
      refine hmodify fun context'' => ?_
      unfold Browser.hideOverlayUI
      split
      · rfl
      · exact hset b' _ context'' _ (OverlayPresentationContext.dismissPresentedUI_capabilities _ _)
    | cancel b' request =>
      refine hmodify fun context'' => ?_
      unfold Browser.cancelOverlayUIForRequest
      split
      · exact hset b' _ context'' _ (OverlayPresentationContext.cancelOverlayUI_capabilities _ _)
      · rfl
    | present b' hidle => exact hmodify (hpresent b')
    | presenter b' f hsoft => exact hmodify fun _ => rfl
    | queue webState f hsub => rfl
    | destroyRequest request => rfl
    | capabilities hchanges b' context' capabilities => exact absurd hchanges hcaps
    | byUser b' context' => exact hmodify fun context'' => hset b' context' context'' _ rfl
    | tabs b' v => exact hmodify fun _ => rfl
    | webStateDestroyed webState => rfl
  | present b' => exact hmodify (hpresent b')
  | presenter b' f => exact hmodify fun _ => rfl
  | context b' context' ctx _ _ hctx => exact hmodify fun context'' => hset b' context' context'' _ hctx

namespace System

/-! ## Whose UI is up -/

/-- Queues hold requests of their own tab that were added, and UI is up for
such a request, with the callback for that queue. -/
structure Placed (s : System W B C) : Prop where
  queued : ∀ webState, ∀ request ∈ (s.queues webState).requests,
    request.queueWebState = webState ∧ request ∈ s.added
  shown : ∀ b context x, ((s.browsers b).contexts context).shown = some x →
    x.queue = x.request.queueWebState ∧ x.request ∈ s.added

/-- UI that is up after a quiet step was up before. -/
theorem Placed.quiet (h : s.Placed) (hadded : s'.added = s.added)
    (hqueues : ∀ webState, ∀ request ∈ (s'.queues webState).requests,
      request ∈ (s.queues webState).requests)
    (hquiet : ∀ b context x', ((s'.browsers b).contexts context).shown = some x' →
      ∃ x, ((s.browsers b).contexts context).shown = some x ∧ x.key = x'.key) : s'.Placed := by
  refine ⟨fun webState request hmem => ?_, fun b context x' hx' => ?_⟩
  · rw [hadded]
    exact h.queued webState request (hqueues webState request hmem)
  · obtain ⟨x, hx, hkey⟩ := hquiet b context x' hx'
    have hplaced := h.shown b context x hx
    unfold Shown.key at hkey
    rw [Prod.mk.injEq] at hkey
    rw [hadded, ← hkey.1, ← hkey.2]
    exact hplaced

theorem Placed.present (h : s.Placed) (b : B) :
    (s.modifyBrowser b (·.presentOverlayForActiveRequest factory s.queues)).Placed := by
  refine ⟨h.queued, fun b' context x hx => ?_⟩
  rw [modifyBrowser_browsers] at hx
  split at hx
  next =>
    rcases Browser.presentOverlayForActiveRequest_cases factory s.queues (s.browsers b) with
      ⟨context', webState, request, hshows⟩ | ⟨hsame, _⟩
    · rw [hshows.result] at hx
      have hx' : (Function.update (s.browsers b).contexts context' _ context).shown = some x := hx
      rw [Function.update_apply] at hx'
      split at hx'
      next =>
        rw [OverlayPresentationContext.shown_showOverlayUI] at hx'
        cases hx'
        obtain ⟨hweb, hadded⟩ := h.queued webState request (List.mem_of_head? hshows.front)
        exact ⟨hweb.symm, hadded⟩
      next => exact h.shown b context x hx'
    · rw [hsame] at hx
      exact h.shown b context x hx
  next => exact h.shown b' context x hx

end System

theorem Effect.placed (h : Effect factory caps s s') (hplaced : s.Placed) :
    s'.Placed := by
  have hmodify : ∀ {b : B} {f : Browser W C → Browser W C},
      Browser.Quiet (s.browsers b) (f (s.browsers b)) → (s.modifyBrowser b f).Placed := by
    intro b f hquiet
    refine hplaced.quiet rfl (fun _ _ hmem => hmem) fun b' context x' hx' => ?_
    rw [System.modifyBrowser_browsers] at hx'
    split at hx'
    next heq =>
      rw [heq]
      exact (hquiet.contexts context).old x' hx'
    next => exact ⟨x', hx', rfl⟩
  cases h with
  | hide b request => exact hmodify (Browser.hideOverlayUI_quiet _ request)
  | cancel b request => exact hmodify (Browser.cancelOverlayUIForRequest_quiet _ request)
  | present b hidle => exact hplaced.present b
  | presenter b f hsoft => exact hmodify ⟨hsoft, fun _ => .refl _⟩
  | queue webState f hsub =>
    refine hplaced.quiet rfl (fun webState' request hmem => ?_) fun _ _ x' hx' => ⟨x', hx', rfl⟩
    rw [System.modifyQueue_queues] at hmem
    split at hmem
    next heq =>
      rw [heq]
      exact hsub.mem hmem
    next => exact hmem
  | destroyRequest request => exact ⟨hplaced.queued, hplaced.shown⟩
  | capabilities _ b context capabilities => exact hmodify (.setContext _ context (.of_shown id rfl))
  | byUser b context => exact hmodify (.setContext _ context (.of_shown id rfl))
  | tabs b v => exact hmodify ⟨.of_eq rfl rfl rfl rfl, fun _ => .refl _⟩
  | webStateDestroyed webState => exact ⟨hplaced.queued, hplaced.shown⟩

theorem Move.placed (h : Move factory caps ends s s') (hplaced : s.Placed) :
    s'.Placed := by
  cases h with
  | effect heffect => exact heffect.placed hplaced
  | present b => exact hplaced.present b
  | presenter b f =>
    refine hplaced.quiet rfl (fun _ _ hmem => hmem) fun b' context x' hx' => ⟨x', ?_, rfl⟩
    unfold System.modifyPresenter at hx'
    rw [System.modifyBrowser_browsers] at hx'
    split at hx'
    next heq =>
      rw [heq]
      exact hx'
    next => exact hx'
  | context b context ctx hends hshown _ =>
    refine hplaced.quiet rfl (fun _ _ hmem => hmem) fun b' context' x' hx' => ⟨x', ?_, rfl⟩
    rw [System.modifyBrowser_browsers] at hx'
    split at hx'
    next heq =>
      rw [Browser.setContext_contexts] at hx'
      split at hx'
      next =>
        rw [hshown] at hx'
        cases hx'
      next =>
        rw [heq]
        exact hx'
    next => exact hx'

namespace System

theorem Placed.withRequest (h : s.Placed) (webState : W) {index : Nat}
    (hindex : index ≤ (s.queues webState).requests.length) :
    (s.withRequest webState index).Placed := by
  have hmem : ∀ {request}, request ∈ s.added → request ∈ (s.withRequest webState index).added :=
    fun hin => List.mem_append_left _ hin
  refine ⟨fun webState' request hin => ?_, fun b context x hx => ?_⟩
  · unfold System.withRequest at hin
    rw [modifyQueue_queues] at hin
    split at hin
    next heq =>
      rcases (List.mem_insertIdx hindex).1 hin with rfl | hin
      · exact ⟨heq.symm, List.mem_append_right _ (List.mem_singleton.2 rfl)⟩
      · obtain ⟨hweb, hadded⟩ := h.queued webState request hin
        exact ⟨hweb.trans heq.symm, hmem hadded⟩
    next =>
      obtain ⟨hweb, hadded⟩ := h.queued webState' request hin
      exact ⟨hweb, hmem hadded⟩
  · obtain ⟨hweb, hadded⟩ := h.shown b context x hx
    exact ⟨hweb, hmem hadded⟩

theorem step_placed (h : s.Placed) {event : Event W B C} (henabled : s.Enabled event) :
    (s.step factory event).Placed :=
  step_keeps henabled (fun hs hmove => hmove.placed hs) (fun webState _ => h.withRequest webState) h

variable (factory) in
theorem placed_reachable (h : (overlayMachine W B C factory).Reachable s) :
    s.Placed := by
  refine h.invariant (I := Placed) (fun s hinit => ?_) fun _ _ h henabled => step_placed h henabled
  obtain ⟨capabilities, rfl⟩ := hinit
  exact ⟨nofun, nofun⟩

/-! ## UI stays up until its own dismissal -/

/-- The context has this UI up, and its callback only. -/
structure Up (b : B) (context : C) (key : OverlayRequest W × W) (s : System W B C) : Prop where
  single : ((s.browsers b).contexts context).Single
  shown : ((s.browsers b).contexts context).shown.map Shown.key = some key

theorem Up.present {b : B} {context : C} {key : OverlayRequest W × W} (h : s.Up b context key)
    (b' : B) :
    (s.modifyBrowser b' (·.presentOverlayForActiveRequest factory s.queues)).Up b context key := by
  rcases Browser.presentOverlayForActiveRequest_cases factory s.queues (s.browsers b') with
    ⟨context', webState, request, hshows⟩ | ⟨hsame, _⟩
  · have hother : b = b' → context ≠ context' := by
      rintro rfl rfl
      have hup := h.shown
      rw [hshows.shown] at hup
      cases hup
    have hcontexts : ((s.modifyBrowser b' (·.presentOverlayForActiveRequest factory
        s.queues)).browsers b).contexts context = (s.browsers b).contexts context := by
      rw [modifyBrowser_browsers]
      split
      next heq =>
        rw [hshows.result, heq]
        exact Function.update_of_ne (hother heq) ..
      next => rfl
    exact ⟨by rw [hcontexts]; exact h.single, by rw [hcontexts]; exact h.shown⟩
  · rw [modifyBrowser_id _ b' hsame]
    exact h

end System

theorem Move.up {b : B} {context : C} {key : OverlayRequest W × W} (hends : ¬ ends b context)
    (h : Move factory caps ends s s') (hup : s.Up b context key) :
    s'.Up b context key := by
  cases h with
  | effect heffect =>
    rcases heffect.window b with hquiet | ⟨_, context', webState, request, hshows⟩
    · exact ⟨(hquiet.contexts context).single hup.single,
        ((hquiet.contexts context).key hup.single).trans hup.shown⟩
    · have hne : context ≠ context' := by
        rintro rfl
        have hshown := hup.shown
        rw [hshows.shown] at hshown
        cases hshown
      have hcontexts : (s'.browsers b).contexts context = (s.browsers b).contexts context := by
        rw [hshows.result]
        exact Function.update_of_ne hne ..
      exact ⟨by rw [hcontexts]; exact hup.single, by rw [hcontexts]; exact hup.shown⟩
  | present b' => exact hup.present b'
  | presenter b' f =>
    have hcontexts : ((s.modifyPresenter b' f).browsers b).contexts = (s.browsers b).contexts := by
      unfold System.modifyPresenter
      rw [System.modifyBrowser_browsers]
      split
      next heq =>
        rw [heq]
        rfl
      next => rfl
    exact ⟨by rw [hcontexts]; exact hup.single, by rw [hcontexts]; exact hup.shown⟩
  | context b' context' ctx hin _ _ =>
    have hcontexts : ((s.modifyBrowser b' (·.setContext context' ctx)).browsers b).contexts context =
        (s.browsers b).contexts context := by
      rw [System.modifyBrowser_browsers]
      split
      next heq =>
        rw [Browser.setContext_contexts, if_neg, heq]
        rintro rfl
        rw [heq] at hends
        exact hends hin
      next => rfl
    exact ⟨by rw [hcontexts]; exact hup.single, by rw [hcontexts]; exact hup.shown⟩

end IosChrome.Overlays

import IosChrome.Overlays.OverlayEffects

/-!
# `presenting_` and `presented_request_`

A presenter does not ask its context what is up, it keeps two fields:
`presenting_` ("from the beginning of the presentation until the end of the
dismissal") and `presented_request_`. `PresentingExact` says that they are
right: the first is set exactly while UI the presenter has shown in its current
context has not been dismissed, and the second is null or the request of that
UI.

The effects of `OverlayEffects.lean` keep it (`Effect.window`: at a window, an
effect is quiet or shows a request where nothing was up). What can break it:

* `SetPresentationContext` sets `presenting_` to false whatever the context it
  is given. If UI the presenter has shown there before is still up (the context
  was taken away and is given back before its dismissal ends), the field is
  wrong from then on.
* `detached_queue_replaced_delegate_` is not reset with the context. A flag
  left over from the context before sends a later, unrelated dismissal down the
  path that leaves `presented_request_` alone.

`presenting_exact` says that nothing else can: along every run, the fields are
right after each event exactly when no event is one of these two.
-/

set_option linter.unusedSectionVars false

namespace IosChrome.Overlays

variable {W B C : Type} [DecidableEq W] [DecidableEq B] [DecidableEq C]
variable {factory : OverlayRequestCoordinatorFactory W} {caps : Prop}

/-! ## A window after an effect -/

/-- The UI that is up, without the reason it would be dismissed for. -/
def Shown.key (x : Shown W) : OverlayRequest W × W := (x.request, x.queue)

/-- The context has the same UI up, if perhaps for another reason to dismiss. -/
structure SameUI (ctx ctx' : OverlayPresentationContext W) : Prop where
  single : ctx.Single → ctx'.Single
  key : ctx.Single → ctx'.shown.map Shown.key = ctx.shown.map Shown.key
  old : ∀ x', ctx'.shown = some x' → ∃ x, ctx.shown = some x ∧ x.key = x'.key

namespace SameUI

theorem of_shown {ctx ctx' : OverlayPresentationContext W} (hsingle : ctx.Single → ctx'.Single)
    (hshown : ctx'.shown = ctx.shown) : SameUI ctx ctx' :=
  ⟨hsingle, fun _ => by rw [hshown], fun x hx => ⟨x, hshown.symm.trans hx, rfl⟩⟩

theorem refl (ctx : OverlayPresentationContext W) : SameUI ctx ctx := of_shown id rfl

theorem trans {ctx₁ ctx₂ ctx₃ : OverlayPresentationContext W} (h₁ : SameUI ctx₁ ctx₂)
    (h₂ : SameUI ctx₂ ctx₃) : SameUI ctx₁ ctx₃ := by
  refine ⟨fun h => h₂.single (h₁.single h), fun h => ?_, fun x hx => ?_⟩
  · exact (h₂.key (h₁.single h)).trans (h₁.key h)
  · obtain ⟨y, hy, hyx⟩ := h₂.old x hx
    obtain ⟨z, hz, hzy⟩ := h₁.old y hy
    exact ⟨z, hz, hzy.trans hyx⟩

theorem shown_eq_none {ctx ctx' : OverlayPresentationContext W} (h : SameUI ctx ctx')
    (hsingle : ctx.Single) (hnone : ctx.shown = none) : ctx'.shown = none := by
  have hkey := h.key hsingle
  rw [hnone, Option.map_none] at hkey
  exact Option.map_eq_none_iff.1 hkey

theorem shown_eq_some {ctx ctx' : OverlayPresentationContext W} (h : SameUI ctx ctx')
    (hsingle : ctx.Single) {x : Shown W} (hx : ctx.shown = some x) :
    ∃ x', ctx'.shown = some x' ∧ x'.request = x.request ∧ x'.queue = x.queue := by
  have hkey := h.key hsingle
  rw [hx, Option.map_some] at hkey
  obtain ⟨x', hx', hkey'⟩ := Option.map_eq_some_iff.1 hkey
  exact ⟨x', hx', congrArg Prod.fst hkey', congrArg Prod.snd hkey'⟩

theorem dismissPresentedUI (ctx : OverlayPresentationContext W)
    (reason : OverlayDismissalReason) : SameUI ctx (ctx.dismissPresentedUI reason) := by
  refine ⟨fun h => h.dismissPresentedUI reason, fun _ => ?_, fun x hx => ?_⟩
  · rw [OverlayPresentationContext.shown_dismissPresentedUI, Option.map_map]
    rfl
  · rw [OverlayPresentationContext.shown_dismissPresentedUI] at hx
    obtain ⟨y, hy, rfl⟩ := Option.map_eq_some_iff.1 hx
    exact ⟨y, hy, rfl⟩

theorem cancelOverlayUI (ctx : OverlayPresentationContext W) (request : OverlayRequest W) :
    SameUI ctx (ctx.cancelOverlayUI request) := by
  refine ⟨fun h => h.cancelOverlayUI request, fun h => ?_, fun x hx => ?_⟩
  · rw [OverlayPresentationContext.shown_cancelOverlayUI h, Option.map_map]
    refine congrArg (Option.map · ctx.shown) (funext fun x => ?_)
    show Shown.key (if x.request = request then { x with reason := .cancellation } else x) = x.key
    split
    · rfl
    · rfl
  · unfold OverlayPresentationContext.cancelOverlayUI at hx
    split at hx
    next => exact ⟨x, hx, rfl⟩
    next =>
      split at hx
      next =>
        -- a state without a callback is dropped: no UI comes up
        obtain ⟨hrequest, hstate⟩ := OverlayPresentationContext.shown_eq_some.1 hx
        rw [OverlayPresentationContext.setState_states] at hstate
        split at hstate
        · cases hstate
        · exact ⟨x, OverlayPresentationContext.shown_eq_some.2 ⟨hrequest, hstate⟩, rfl⟩
      next => exact (dismissPresentedUI ctx .cancellation).old x hx

end SameUI

namespace Browser

theorem setContext_contexts (br : Browser W C) (context context' : C)
    (ctx : OverlayPresentationContext W) :
    (br.setContext context ctx).contexts context' =
      if context' = context then ctx else br.contexts context' := Function.update_apply ..

/-- The window starts and ends no presentation. -/
structure Quiet (br br' : Browser W C) : Prop where
  presenter : SoftWrite br.presenter br'.presenter
  contexts : ∀ context, SameUI (br.contexts context) (br'.contexts context)

theorem Quiet.refl (br : Browser W C) : Quiet br br :=
  ⟨.of_eq rfl rfl rfl rfl, fun _ => .refl _⟩

theorem Quiet.trans {br₁ br₂ br₃ : Browser W C} (h₁ : Quiet br₁ br₂) (h₂ : Quiet br₂ br₃) :
    Quiet br₁ br₃ :=
  ⟨h₁.presenter.trans h₂.presenter, fun context => (h₁.contexts context).trans (h₂.contexts context)⟩

theorem Quiet.setContext (br : Browser W C) (context : C) {ctx : OverlayPresentationContext W}
    (h : SameUI (br.contexts context) ctx) : Quiet br (br.setContext context ctx) := by
  refine ⟨.of_eq rfl rfl rfl rfl, fun context' => ?_⟩
  rw [setContext_contexts]
  split
  next heq =>
    rw [heq]
    exact h
  next => exact .refl _

theorem hideOverlayUI_quiet (br : Browser W C) (request : OverlayRequest W) :
    Quiet br (br.hideOverlayUI request) := by
  unfold hideOverlayUI
  split
  next => exact .refl br
  next context _ =>
    have hquiet := Quiet.setContext br context (.dismissPresentedUI _ .hiding)
    exact ⟨hquiet.presenter, hquiet.contexts⟩

theorem cancelOverlayUIForRequest_quiet (br : Browser W C) (request : Option (OverlayRequest W)) :
    Quiet br (br.cancelOverlayUIForRequest request) := by
  unfold cancelOverlayUIForRequest
  split
  · exact .setContext br _ (.cancelOverlayUI _ _)
  · exact .refl br

variable {br : Browser W C}

/-- Without a context there is nothing to cancel. -/
theorem cancelAllOverlayUI_of_no_context (h : br.presenter.presentationContext = none)
    (queues : W → OverlayRequestQueue W B) :
    br.cancelAllOverlayUI queues = br := by
  unfold cancelAllOverlayUI
  generalize br.webStateList.tabs = tabs
  induction tabs with
  | nil => rfl
  | cons webState tabs ih =>
    have hfirst : br.cancelOverlayUIForRequest (queues webState).frontRequest = br := by
      unfold cancelOverlayUIForRequest
      rw [h]
    rw [List.foldl_cons, hfirst]
    exact ih

/-- The window with another context given to its presenter, before it presents. -/
def withPresentationContext (br : Browser W C) (presentationContext : Option C) : Browser W C :=
  br.setPresenter { br.presenter with
    presentationContext := presentationContext, presenting := false, presentedRequest := none }

theorem setPresentationContext_of_no_context (h : br.presenter.presentationContext = none)
    (queues : W → OverlayRequestQueue W B) (presentationContext : Option C) :
    br.setPresentationContext factory queues presentationContext =
      (br.withPresentationContext presentationContext).presentOverlayForActiveRequest factory
        queues := by
  unfold setPresentationContext
  rw [cancelAllOverlayUI_of_no_context h]
  rfl

theorem cancelAllOverlayUI_quiet (br : Browser W C) (queues : W → OverlayRequestQueue W B) :
    Quiet br (br.cancelAllOverlayUI queues) := by
  unfold cancelAllOverlayUI
  generalize br.webStateList.tabs = tabs
  induction tabs generalizing br with
  | nil => exact .refl br
  | cons webState tabs ih => exact (cancelOverlayUIForRequest_quiet br _).trans (ih _)

end Browser

variable {s s' : System W B C}

/-- **At a window, an effect is quiet or shows the active request** where no UI
was up and nothing was being presented. -/
theorem Effect.window (h : Effect factory caps s s') (b : B) :
    Browser.Quiet (s.browsers b) (s'.browsers b) ∨
    (s.browsers b).presenter.presenting = false ∧ ∃ context webState request,
      Browser.Shows factory s.queues (s.browsers b) (s'.browsers b) context webState
        request := by
  have hmodify : ∀ {b' : B} {f : Browser W C → Browser W C},
      Browser.Quiet (s.browsers b') (f (s.browsers b')) →
      Browser.Quiet (s.browsers b) ((s.modifyBrowser b' f).browsers b) := by
    intro b' f hquiet
    rw [System.modifyBrowser_browsers]
    split
    next heq =>
      rw [heq]
      exact hquiet
    next => exact .refl _
  cases h with
  | hide b' request => exact .inl (hmodify (Browser.hideOverlayUI_quiet _ request))
  | cancel b' request => exact .inl (hmodify (Browser.cancelOverlayUIForRequest_quiet _ request))
  | present b' hidle =>
    rw [System.modifyBrowser_browsers]
    split
    next heq =>
      rw [heq]
      rcases Browser.presentOverlayForActiveRequest_cases factory s.queues (s.browsers b') with
        ⟨context, webState, request, hshows⟩ | ⟨hsame, _⟩
      · exact .inr ⟨hidle, context, webState, request, hshows⟩
      · rw [hsame]
        exact .inl (.refl _)
    next => exact .inl (.refl _)
  | presenter b' f hsoft => exact .inl (hmodify ⟨hsoft, fun _ => .refl _⟩)
  | queue webState f hsub => exact .inl (.refl _)
  | destroyRequest request => exact .inl (.refl _)
  | capabilities _ b' context capabilities =>
    exact .inl (hmodify (.setContext _ context (.of_shown id rfl)))
  | byUser b' context => exact .inl (hmodify (.setContext _ context (.of_shown id rfl)))
  | tabs b' v => exact .inl (hmodify ⟨.of_eq rfl rfl rfl rfl, fun _ => .refl _⟩)
  | webStateDestroyed webState => exact .inl (.refl _)

/-- Upkeep is quiet in every window. -/
theorem Upkeep.quiet (h : Upkeep s s') (b : B) :
    Browser.Quiet (s.browsers b) (s'.browsers b) := by
  have hmodify : ∀ {b' : B} {f : Browser W C → Browser W C},
      Browser.Quiet (s.browsers b') (f (s.browsers b')) →
      Browser.Quiet (s.browsers b) ((s.modifyBrowser b' f).browsers b) := by
    intro b' f hquiet
    rw [System.modifyBrowser_browsers]
    split
    next heq =>
      rw [heq]
      exact hquiet
    next => exact .refl _
  cases h with
  | cancel b' request => exact hmodify (Browser.cancelOverlayUIForRequest_quiet _ request)
  | presenter b' f hsoft _ => exact hmodify ⟨hsoft, fun _ => .refl _⟩
  | queue webState f hsub => exact .refl _
  | destroyRequest request => exact .refl _

theorem Upkeeps.quiet (h : Upkeeps s s') (b : B) :
    Browser.Quiet (s.browsers b) (s'.browsers b) :=
  h.keeps (P := fun s' => Browser.Quiet (s.browsers b) (s'.browsers b))
    (fun hquiet hupkeep => hquiet.trans (hupkeep.quiet b)) (.refl _)

/-- Upkeep adds no request. -/
theorem Upkeep.requests (h : Upkeep s s') (webState : W) :
    (s'.queues webState).requests.Sublist (s.queues webState).requests := by
  cases h with
  | cancel b request => exact List.Sublist.refl _
  | presenter b f _ _ => exact List.Sublist.refl _
  | queue webState' f hsub =>
    rw [System.modifyQueue_queues]
    split
    next heq =>
      rw [heq]
      exact hsub
    next => exact List.Sublist.refl _
  | destroyRequest request => exact List.Sublist.refl _

/-! ## The fields of a window -/

namespace Browser

/-- The two fields are right. -/
structure PresentingExact (br : Browser W C) : Prop where
  presenting : br.presenter.presenting = true ↔ br.shown ≠ none
  presented : ∀ request, br.presenter.presentedRequest = some request →
    ∃ x, br.shown = some x ∧ x.request = request

/-- In every context, only the presented request has a callback. -/
def Single (br : Browser W C) : Prop := ∀ context, (br.contexts context).Single

/-- A dismissal callback is being run: the UI is gone, `presenting_` is still set. -/
structure Ending (br : Browser W C) : Prop where
  presenting : br.presenter.presenting = true
  shown : br.shown = none

/-- Nothing is presented. -/
structure Idle (br : Browser W C) : Prop where
  presenting : br.presenter.presenting = false
  presented : br.presenter.presentedRequest = none
  shown : br.shown = none

variable {br : Browser W C}

theorem Idle.exact (h : br.Idle) : br.PresentingExact := by
  refine ⟨?_, fun request hrequest => ?_⟩
  · rw [h.presenting, h.shown]
    exact ⟨nofun, fun hne => absurd rfl hne⟩
  · rw [h.presented] at hrequest
    cases hrequest

theorem shown_of_context {context : C} (h : br.presenter.presentationContext = some context) :
    br.shown = (br.contexts context).shown := by
  unfold shown
  rw [h, Option.bind_some]

theorem shown_of_no_context (h : br.presenter.presentationContext = none) :
    br.shown = none := by
  unfold shown
  rw [h, Option.bind_none]

theorem Quiet.single {br br' : Browser W C} (h : Quiet br br') (hsingle : br.Single) :
    br'.Single :=
  fun context => (h.contexts context).single (hsingle context)

theorem Quiet.shown_eq_none {br br' : Browser W C} (h : Quiet br br') (hsingle : br.Single)
    (hnone : br.shown = none) : br'.shown = none := by
  cases hcontext : br.presenter.presentationContext with
  | none => exact shown_of_no_context (h.presenter.presentationContext.trans hcontext)
  | some context =>
    rw [shown_of_context hcontext] at hnone
    rw [shown_of_context (h.presenter.presentationContext.trans hcontext)]
    exact (h.contexts context).shown_eq_none (hsingle context) hnone

theorem Quiet.shown_eq_some {br br' : Browser W C} (h : Quiet br br') (hsingle : br.Single)
    {x : Shown W} (hx : br.shown = some x) :
    ∃ x', br'.shown = some x' ∧ x'.request = x.request ∧ x'.queue = x.queue := by
  cases hcontext : br.presenter.presentationContext with
  | none =>
    rw [shown_of_no_context hcontext] at hx
    cases hx
  | some context =>
    rw [shown_of_context hcontext] at hx
    rw [shown_of_context (h.presenter.presentationContext.trans hcontext)]
    exact (h.contexts context).shown_eq_some (hsingle context) hx

theorem Quiet.exact {br br' : Browser W C} (h : Quiet br br') (hsingle : br.Single)
    (hexact : br.PresentingExact) : br'.PresentingExact := by
  refine ⟨?_, fun request hrequest => ?_⟩
  · rw [h.presenter.presenting, hexact.presenting]
    cases hx : br.shown with
    | none => rw [h.shown_eq_none hsingle hx]
    | some x =>
      obtain ⟨x', hx', _⟩ := h.shown_eq_some hsingle hx
      rw [hx']
      exact ⟨fun _ => nofun, fun _ => nofun⟩
  · rcases h.presenter.presentedRequest with hsame | hnone
    · rw [hsame] at hrequest
      obtain ⟨x, hx, hxr⟩ := hexact.presented request hrequest
      obtain ⟨x', hx', hxr', _⟩ := h.shown_eq_some hsingle hx
      exact ⟨x', hx', hxr'.trans hxr⟩
    · rw [hnone] at hrequest
      cases hrequest

theorem Quiet.ending {br br' : Browser W C} (h : Quiet br br') (hsingle : br.Single)
    (hending : br.Ending) : br'.Ending :=
  ⟨h.presenter.presenting.trans hending.presenting, h.shown_eq_none hsingle hending.shown⟩

section Shows

variable {queues : W → OverlayRequestQueue W B} {br br' : Browser W C} {context : C}
  {webState : W} {request : OverlayRequest W}

theorem Shows.single (h : Shows factory queues br br' context webState request) (hsingle : br.Single) :
    br'.Single := by
  intro context'
  rw [h.result]
  show (Function.update br.contexts context _ context').Single
  rw [Function.update_apply]
  split
  · exact (hsingle context).showOverlayUI h.shown request webState
  · exact hsingle context'

theorem Shows.shown_eq (h : Shows factory queues br br' context webState request) :
    br'.shown = some ⟨request, webState, .userInteraction⟩ := by
  have hcontext : br'.presenter.presentationContext = some context := by
    rw [h.result]
    exact h.presentationContext
  rw [shown_of_context hcontext, h.result]
  show (Function.update br.contexts context _ context).shown = _
  rw [Function.update_self, OverlayPresentationContext.shown_showOverlayUI]

theorem Shows.presenting (h : Shows factory queues br br' context webState request) :
    br'.presenter.presenting = true := by rw [h.result]

theorem Shows.presented (h : Shows factory queues br br' context webState request) :
    br'.presenter.presentedRequest = some request := by rw [h.result]

theorem Shows.exact (h : Shows factory queues br br' context webState request) : br'.PresentingExact := by
  refine ⟨?_, fun request' hrequest => ?_⟩
  · rw [h.presenting, h.shown_eq]
    exact ⟨fun _ => nofun, fun _ => rfl⟩
  · rw [h.presented] at hrequest
    cases hrequest
    exact ⟨_, h.shown_eq, rfl⟩

end Shows

/-- Presenting at a window where nothing is presented. -/
theorem Idle.present (h : br.Idle) (queues : W → OverlayRequestQueue W B) :
    (br.presentOverlayForActiveRequest factory queues).PresentingExact := by
  rcases presentOverlayForActiveRequest_cases factory queues br with
    ⟨context, webState, request, hshows⟩ | ⟨hsame, _⟩
  · exact hshows.exact
  · rw [hsame]
    exact h.exact

theorem Single.present (h : br.Single) (queues : W → OverlayRequestQueue W B) :
    (br.presentOverlayForActiveRequest factory queues).Single := by
  rcases presentOverlayForActiveRequest_cases factory queues br with
    ⟨context, webState, request, hshows⟩ | ⟨hsame, _⟩
  · exact hshows.single h
  · rw [hsame]
    exact h

end Browser

/-! ## The fields of all windows -/

namespace System

/-- In every context of every window, only the presented request has a callback. -/
def Single (s : System W B C) : Prop := ∀ b, (s.browsers b).Single

/-- The two fields of every window are right. -/
def PresentingExact (s : System W B C) : Prop := ∀ b, (s.browsers b).PresentingExact

/-- A property of one window and the fields of all the others. -/
structure ExactExcept (b : B) (P : Browser W C → Prop) (s : System W B C) : Prop where
  single : s.Single
  self : P (s.browsers b)
  others : ∀ b', b' ≠ b → (s.browsers b').PresentingExact

end System

theorem Effect.single (h : Effect factory caps s s') (hsingle : s.Single) :
    s'.Single := by
  intro b
  rcases h.window b with hquiet | ⟨_, context, webState, request, hshows⟩
  · exact hquiet.single (hsingle b)
  · exact hshows.single (hsingle b)

variable {b : B}

theorem Effect.exact (h : Effect factory caps s s') (hsingle : s.Single)
    (hexact : (s.browsers b).PresentingExact) : (s'.browsers b).PresentingExact := by
  rcases h.window b with hquiet | ⟨_, context, webState, request, hshows⟩
  · exact hquiet.exact (hsingle b) hexact
  · exact hshows.exact

/-- While a callback is being run, effects show nothing in its window. -/
theorem Effect.ending (hE : s.ExactExcept b Browser.Ending) (h : Effect factory caps s s') :
    s'.ExactExcept b Browser.Ending := by
  refine ⟨h.single hE.single, ?_, fun b' hne => h.exact hE.single (hE.others b' hne)⟩
  rcases h.window b with hquiet | ⟨hidle, _⟩
  · exact hquiet.ending (hE.single b) hE.self
  · rw [hE.self.presenting] at hidle
    cases hidle

namespace System

/-- A write to one window. -/
theorem ExactExcept.modifyBrowser {P Q : Browser W C → Prop} (h : s.ExactExcept b P)
    {f : Browser W C → Browser W C} (hsingle : (f (s.browsers b)).Single)
    (hQ : Q (f (s.browsers b))) :
    (s.modifyBrowser b f).ExactExcept b Q := by
  refine ⟨fun b' => ?_, ?_, fun b' hne => ?_⟩
  · rw [modifyBrowser_browsers]
    split
    · exact hsingle
    · exact h.single b'
  · rw [modifyBrowser_self]
    exact hQ
  · rw [modifyBrowser_of_ne s hne]
    exact h.others b' hne

theorem ExactExcept.all (h : s.ExactExcept b Browser.PresentingExact) :
    s.Single ∧ s.PresentingExact := by
  refine ⟨h.single, fun b' => ?_⟩
  by_cases heq : b' = b
  · rw [heq]
    exact h.self
  · exact h.others b' heq

theorem exactExcept_of_exact (hsingle : s.Single) (h : s.PresentingExact) (b : B) :
    s.ExactExcept b Browser.PresentingExact :=
  ⟨hsingle, h b, fun b' _ => h b'⟩

/-- Effects where nothing is presented that show nothing there. -/
theorem setRemovedRequest_idle (h : s.ExactExcept b Browser.Idle)
    (request : Option (OverlayRequest W)) :
    (s.setRemovedRequest b request).ExactExcept b Browser.Idle := by
  have hwrite : (s.modifyPresenter b
      ({ · with removedRequestAwaitingDismissal := request })).ExactExcept b Browser.Idle :=
    h.modifyBrowser (h.single b) ⟨h.self.presenting, h.self.presented, h.self.shown⟩
  unfold setRemovedRequest
  simp only
  split
  · exact hwrite
  · exact ⟨hwrite.single, hwrite.self, hwrite.others⟩

@[simp] theorem setRemovedRequest_queues (s : System W B C) (b : B)
    (request : Option (OverlayRequest W)) : (s.setRemovedRequest b request).queues = s.queues := by
  unfold setRemovedRequest
  simp only
  split <;> rfl

/-! ## The end of a dismissal -/

theorem endPresentation_queues_of_ne (b : B) (request : OverlayRequest W) (queue : W)
    {reason : OverlayDismissalReason} (hreason : reason ≠ .userInteraction) :
    (s.endPresentation b request queue reason).queues = s.queues := by
  unfold endPresentation
  simp only
  have hpops : ¬ s.PopsFrontRequest b request queue reason := fun h => hreason h.1
  rw [setRemovedRequest_queues, if_neg hpops]
  rfl

theorem setRemovedRequest_presenter (s : System W B C) (b : B)
    (request : Option (OverlayRequest W)) :
    ((s.setRemovedRequest b request).browsers b) =
      (s.browsers b).setPresenter { (s.browsers b).presenter with
        removedRequestAwaitingDismissal := request } := by
  unfold setRemovedRequest
  simp only
  split
  · exact modifyPresenter_self s b ({ · with removedRequestAwaitingDismissal := request })
  · exact modifyPresenter_self s b ({ · with removedRequestAwaitingDismissal := request })

theorem popped_upkeeps (s : System W B C) (b : B) (request : OverlayRequest W) (queue : W)
    (reason : OverlayDismissalReason) :
    Upkeeps s (if s.PopsFrontRequest b request queue reason then s.popFrontRequest queue
      else s) := by
  split
  · exact removeRequest_upkeeps s queue 0 false
  · exact .refl

/-- The end of a presentation leaves nothing presented. -/
theorem endPresentation_idle (factory : OverlayRequestCoordinatorFactory W)
    (h : s.ExactExcept b Browser.Ending) (request : OverlayRequest W) (queue : W)
    (reason : OverlayDismissalReason) :
    (s.endPresentation b request queue reason).ExactExcept b Browser.Idle := by
  have hpops : Effects factory True s (if s.PopsFrontRequest b request queue reason then
      s.popFrontRequest queue else s) := (popped_upkeeps s b request queue reason).effects
  have hpopped := hpops.keeps Effect.ending h
  exact setRemovedRequest_idle (hpopped.modifyBrowser (hpopped.single b)
    ⟨rfl, rfl, hpopped.self.shown⟩) none

end System

/-- An effect leaves the presenter its context. -/
theorem Effect.presentationContext (h : Effect factory caps s s') (b : B) :
    (s'.browsers b).presenter.presentationContext =
      (s.browsers b).presenter.presentationContext := by
  rcases h.window b with hquiet | ⟨_, context, webState, request, hshows⟩
  · exact hquiet.presenter.presentationContext
  · rw [hshows.result]

namespace System

theorem endPresentation_presentationContext (factory : OverlayRequestCoordinatorFactory W)
    (s : System W B C) (b : B) (request : OverlayRequest W) (queue : W)
    (reason : OverlayDismissalReason) :
    ((s.endPresentation b request queue reason).browsers b).presenter.presentationContext =
      (s.browsers b).presenter.presentationContext := by
  have hpops : Effects factory True s (if s.PopsFrontRequest b request queue reason then
      s.popFrontRequest queue else s) := (popped_upkeeps s b request queue reason).effects
  have hpopped := hpops.keeps (P := fun s' => (s'.browsers b).presenter.presentationContext =
    (s.browsers b).presenter.presentationContext)
    (fun h he => (he.presentationContext b).trans h) rfl
  unfold endPresentation
  simp only
  rw [setRemovedRequest_presenter]
  show ((System.modifyPresenter _ b _).browsers b).presenter.presentationContext = _
  rw [modifyPresenter_self]
  exact hpopped

/-- The context alone changes at a window: what is up in the presenter's context
is what is up there now. -/
theorem ExactExcept.setContext
    (h : s.ExactExcept b Browser.PresentingExact) {context : C}
    {ctx : OverlayPresentationContext W} (hsingle : ctx.Single)
    (hshown : ctx.shown = ((s.browsers b).contexts context).shown ∨
      (s.browsers b).presenter.presentationContext ≠ some context) :
    (s.modifyBrowser b fun br => br.setContext context ctx).ExactExcept b
      Browser.PresentingExact := by
  refine h.modifyBrowser (fun context' => ?_) ?_
  · rw [Browser.setContext_contexts]
    split
    · exact hsingle
    · exact h.single b context'
  · have hsame : ((s.browsers b).setContext context ctx).shown = (s.browsers b).shown := by
      cases hcontext : (s.browsers b).presenter.presentationContext with
      | none =>
        have hcontext' : ((s.browsers b).setContext context ctx).presenter.presentationContext =
          none := hcontext
        rw [Browser.shown_of_no_context hcontext, Browser.shown_of_no_context hcontext']
      | some context' =>
        have hcontext' : ((s.browsers b).setContext context ctx).presenter.presentationContext =
          some context' := hcontext
        rw [Browser.shown_of_context hcontext, Browser.shown_of_context hcontext',
          Browser.setContext_contexts]
        split
        next heq =>
          rcases hshown with hshown | hne
          · rw [hshown, heq]
          · rw [hcontext, heq] at hne
            exact absurd rfl hne
        next => rfl
    have hself := h.self
    refine ⟨?_, ?_⟩
    · rw [hsame]
      exact hself.presenting
    · rw [hsame]
      exact hself.presented

/-- Where the request has no callback left, `SetRequest(nullptr)` only touches
the context. -/
theorem resetRequest_eq (factory : OverlayRequestCoordinatorFactory W) {context : C}
    {request : OverlayRequest W}
    (hcallback : ((s.browsers b).contexts context).callback request = none) :
    ∃ ctx : OverlayPresentationContext W,
      s.resetRequest factory b context request =
        s.modifyBrowser b (fun br => br.setContext context ctx) ∧
      ctx.shown = none ∧
      (((s.browsers b).contexts context).Single →
        ((s.browsers b).contexts context).shown = none → ctx.Single) := by
  have hclear : ∀ ctx : OverlayPresentationContext W,
      ((s.modifyBrowser b fun br => br.setContext context ctx).modifyBrowser b fun br =>
        br.setContext context (br.contexts context).clearRequest) =
      s.modifyBrowser b fun br => br.setContext context ctx.clearRequest := by
    intro ctx
    rw [modifyBrowser_modifyBrowser]
    refine modifyBrowser_congr ?_
    simp only [Browser.setContext, Function.update_self, Function.update_idem]
  unfold resetRequest
  simp only
  split
  next =>
    refine ⟨((s.browsers b).contexts context).clearRequest, modifyBrowser_congr rfl,
      OverlayPresentationContext.shown_clearRequest _, fun hsingle hshown => ?_⟩
    exact hsingle.clearRequest hshown
  next state hstate =>
    split
    next =>
      have hnone : state.dismissalCallback = none := by
        unfold OverlayPresentationContext.callback at hcallback
        rw [hstate] at hcallback
        exact hcallback
      rw [hnone]
      refine ⟨_, hclear _, OverlayPresentationContext.shown_clearRequest _,
        fun hsingle hshown => ?_⟩
      refine (hsingle.setState_none request).clearRequest ?_
      -- nothing is up, so dropping a state changes nothing of it
      cases hx : (((s.browsers b).contexts context).setState request none).shown with
      | none => rfl
      | some x =>
        have hx' := OverlayPresentationContext.callback_of_shown hx
        rw [OverlayPresentationContext.callback_setState] at hx'
        split at hx'
        · cases hx'
        · rw [hsingle.callback_eq_none hshown] at hx'
          cases hx'
    next =>
      refine ⟨((s.browsers b).contexts context).clearRequest, modifyBrowser_congr rfl,
        OverlayPresentationContext.shown_clearRequest _, fun hsingle hshown => ?_⟩
      exact hsingle.clearRequest hshown

/-- A context in which nothing is up is written. -/
theorem resetRequest_exact (h : s.ExactExcept b Browser.PresentingExact) {context : C}
    (hshown : ((s.browsers b).contexts context).shown = none) (request : OverlayRequest W) :
    (s.resetRequest factory b context request).ExactExcept b Browser.PresentingExact := by
  obtain ⟨ctx, hreset, hnone, hsingle⟩ := resetRequest_eq factory
    ((h.single b context).callback_eq_none hshown request)
  rw [hreset]
  exact h.setContext (hsingle (h.single b context) hshown) (.inl (hnone.trans hshown.symm))

/-- A dismissal callback run on the usual path leaves nothing presented or the
next request, which is another one. -/
theorem overlayWasDismissed_normal (factory : OverlayRequestCoordinatorFactory W)
    (h : s.ExactExcept b Browser.Ending) {context : C}
    (hcontext : (s.browsers b).presenter.presentationContext = some context)
    (hreplaced : (s.browsers b).presenter.detachedQueueReplacedDelegate = false)
    (request : OverlayRequest W) (queue : W) (reason : OverlayDismissalReason) :
    let s' := s.overlayWasDismissed factory b context request queue reason
    s'.ExactExcept b Browser.PresentingExact ∧
      (s'.browsers b).presenter.presentationContext = some context ∧
      ((s'.ExactExcept b Browser.Idle) ∨ ∃ next, (s'.browsers b).shown = some next ∧
        next.request ≠ request ∧
        ((s.endPresentation b request queue reason).browsers b).getActiveRequest
          (s.endPresentation b request queue reason).queues = some next.request) := by
  have hidle := endPresentation_idle factory h request queue reason
  have hcontext' : ((s.endPresentation b request queue reason).browsers
      b).presenter.presentationContext = some context :=
    (endPresentation_presentationContext factory s b request queue reason).trans hcontext
  unfold overlayWasDismissed
  rw [if_neg (not_not.2 hcontext), hreplaced, if_neg Bool.false_ne_true]
  simp only
  generalize s.endPresentation b request queue reason = ended at hidle hcontext'
  have hexact : ended.ExactExcept b Browser.PresentingExact :=
    ⟨hidle.single, hidle.self.exact, hidle.others⟩
  split
  next hother =>
    rcases Browser.presentOverlayForActiveRequest_cases factory ended.queues
      (ended.browsers b) with ⟨context', webState, next, hshows⟩ | ⟨hsame, _⟩
    · have hnext : (ended.browsers b).getActiveRequest ended.queues = some next := by
        unfold Browser.getActiveRequest
        rw [hshows.activeWebState, Option.bind_some, hshows.front]
      refine ⟨hexact.modifyBrowser (hshows.single (hidle.single b)) hshows.exact, ?_, .inr ?_⟩
      · rw [modifyBrowser_self, hshows.result]
        exact hcontext'
      · refine ⟨⟨next, webState, .userInteraction⟩, ?_, ?_, hnext⟩
        · rw [modifyBrowser_self]
          exact hshows.shown_eq
        · rintro rfl
          exact hother hnext
    · rw [modifyBrowser_id ended b hsame]
      exact ⟨hexact, hcontext', .inl hidle⟩
  next => exact ⟨hexact, hcontext', .inl hidle⟩

theorem endPresentation_activeRequest_of_ne (b : B) (request : OverlayRequest W) (queue : W)
    {reason : OverlayDismissalReason} (hreason : reason ≠ .userInteraction) :
    ((s.endPresentation b request queue reason).browsers b).getActiveRequest
      (s.endPresentation b request queue reason).queues =
        (s.browsers b).getActiveRequest s.queues := by
  rw [endPresentation_queues_of_ne b request queue hreason]
  have hactive : ((s.endPresentation b request queue reason).browsers
      b).presenter.activeWebState = (s.browsers b).presenter.activeWebState := by
    have hpops : ¬ s.PopsFrontRequest b request queue reason := fun h => hreason h.1
    unfold endPresentation
    simp only
    rw [setRemovedRequest_presenter, if_neg hpops]
    show ((System.modifyPresenter s b _).browsers b).presenter.activeWebState = _
    rw [modifyPresenter_self]
    rfl
  unfold Browser.getActiveRequest
  rw [hactive]

/-- The presenter shows the request again whose dismissal it is told of: the
context takes the request to be presented already, and drops the state with its
new callback. Nothing is presented in the end. -/
theorem resetRequest_shownAgain (h : s.ExactExcept b Browser.PresentingExact) {context : C}
    {x : Shown W} (hcontext : (s.browsers b).presenter.presentationContext = some context)
    (hreplaced : (s.browsers b).presenter.detachedQueueReplacedDelegate = false)
    (hx : ((s.browsers b).contexts context).shown = some x) (hreason : x.reason = .userInteraction)
    (hactive : (s.browsers b).getActiveRequest s.queues = some x.request) :
    (s.resetRequest factory b context x.request).ExactExcept b Browser.PresentingExact := by
  obtain ⟨hrequest, hstate⟩ := OverlayPresentationContext.shown_eq_some.1 hx
  have hpresenting : (s.browsers b).presenter.presenting = true := by
    rw [h.self.presenting, Browser.shown_of_context hcontext, hx]
    exact nofun
  have hdropped : (s.modifyBrowser b fun br => br.setContext context
      (((s.browsers b).contexts context).setState x.request none)).ExactExcept b
        Browser.Ending := by
    refine h.modifyBrowser (fun context' => ?_) ⟨hpresenting, ?_⟩
    · rw [Browser.setContext_contexts]
      split
      · exact (h.single b context).setState_none x.request
      · exact h.single b context'
    · have hcontext' : ((s.browsers b).setContext context
          (((s.browsers b).contexts context).setState x.request none)).presenter.presentationContext
            = some context := hcontext
      rw [Browser.shown_of_context hcontext', Browser.setContext_contexts, if_pos rfl]
      exact OverlayPresentationContext.shown_setState_none hrequest
  unfold resetRequest
  simp only [hstate, hreason, OverlayPresentationContext.isFinal, if_true]
  generalize hs' : (s.modifyBrowser b fun br => br.setContext context
    (((s.browsers b).contexts context).setState x.request none)) = s' at hdropped
  have hself : (s'.browsers b).presenter = (s.browsers b).presenter := by
    rw [← hs', modifyBrowser_self]
    rfl
  have hqueues : s'.queues = s.queues := by rw [← hs']; rfl
  obtain ⟨hexact, hcontext', hidle | ⟨next, _, hne, hnext⟩⟩ := overlayWasDismissed_normal
    factory hdropped (by rw [hself]; exact hcontext) (by rw [hself]; exact hreplaced)
    x.request x.queue .cancellation
  · generalize s'.overlayWasDismissed factory b context x.request x.queue .cancellation = s''
      at hexact hcontext' hidle
    have hnone : ((s''.browsers b).contexts context).shown = none := by
      rw [← Browser.shown_of_context hcontext']
      exact hidle.self.shown
    exact hexact.setContext ((hexact.single b context).clearRequest hnone) (.inl (by
      rw [OverlayPresentationContext.shown_clearRequest, hnone]))
  · -- the active request is still the one dismissed, so no other was shown
    exfalso
    rw [endPresentation_activeRequest_of_ne b x.request x.queue (by decide)] at hnext
    unfold Browser.getActiveRequest at hnext hactive
    rw [hself, hqueues, hactive] at hnext
    exact hne (Option.some.inj hnext).symm

end System

end IosChrome.Overlays

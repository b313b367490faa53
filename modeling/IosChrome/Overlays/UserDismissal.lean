import IosChrome.Overlays.OverlayMoves

/-!
# A dismissal by the user

The user closes the UI of a request: its coordinator starts to stop, and some
time later the context runs the dismissal callback, which takes the request out
of its queue. In between the tabs, the queues and the presenter go on. The
callback is run with the reason the state has at the end, not with the one it
had when the user closed the UI, and it pops whatever is at the front of the
queue then.

`userDismissal_exact` is the exact condition on the state in which the
dismissal ends (`RemovesDismissed`) under which the end removes that request,
no other, and for good (`UserDismissed`). Two lemmas carry it:

* `overlayUIWasDismissed_requests`: what the end of a dismissal does to the
  queues;
* `step_gone`: a request in no queue stays in none and is shown by nobody,
  since presenters only show fronts of queues and new requests are new.
-/

set_option linter.unusedSectionVars false

namespace IosChrome.Overlays

variable {W B C : Type} [DecidableEq W] [DecidableEq B] [DecidableEq C]
variable {factory : OverlayRequestCoordinatorFactory W} {caps : Prop}
  {ends : B → C → Prop}

/-- The call shows the UI of this request. -/
def ContextCall.showsRequest (request : OverlayRequest W) : ContextCall W C → Bool
  | .showOverlayUI _ request' _ => request' = request
  | .hideOverlayUI .. => false

/-- The call shows UI in this context. -/
def ContextCall.showsIn (context : C) : ContextCall W C → Bool
  | .showOverlayUI context' _ _ => context' = context
  | .hideOverlayUI .. => false

/-- The times the UI of a request was shown in a window. -/
def Browser.showCalls (br : Browser W C) (request : OverlayRequest W) : List (ContextCall W C) :=
  br.contextCalls.filter (·.showsRequest request)

/-- The times UI was shown in a context of a window. -/
def Browser.showCallsIn (br : Browser W C) (context : C) : List (ContextCall W C) :=
  br.contextCalls.filter (·.showsIn context)

namespace System

/-- The dismissal callback of the UI gets to `PopFrontRequest`. -/
def PopsAtEnd (s : System W B C) (b : B) (context : C) (x : Shown W) : Prop :=
  (s.browsers b).presenter.presentationContext = some context ∧
    (s.browsers b).presenter.detachedQueueReplacedDelegate = false ∧
    s.PopsFrontRequest b x.request x.queue x.reason

instance (s : System W B C) (b : B) (context : C) (x : Shown W) :
    Decidable (s.PopsAtEnd b context x) := inferInstanceAs (Decidable (_ ∧ _ ∧ _))

/-- The end of the dismissal removes the request and no other from a queue, and
it is never shown again. An empty queue is not popped (`DCHECK_LT`). -/
structure UserDismissed (factory : OverlayRequestCoordinatorFactory W) (s : System W B C) (b : B)
    (context : C) (x : Shown W) : Prop where
  pops : s.PopsAtEnd b context x → (s.queues x.queue).requests ≠ []
  removed : ∀ webState, ((s.step factory (.overlayUIDidFinishDismissal b context)).queues
    webState).requests = (s.queues webState).requests.filter (· ≠ x.request)
  neverShown : ∀ events, (overlayMachine W B C factory).Run s
      (.overlayUIDidFinishDismissal b context :: events) → ∀ b',
    (((overlayMachine W B C factory).exec s (.overlayUIDidFinishDismissal b context ::
      events)).browsers b').showCalls x.request = (s.browsers b').showCalls x.request

/-- The dismissal ends with a pop and the request is the one popped, or it ends
without and the request is in no queue any more. -/
def RemovesDismissed (s : System W B C) (b : B) (context : C) (x : Shown W) : Prop :=
  if s.PopsAtEnd b context x then (s.queues x.queue).frontRequest = some x.request
  else ¬ s.Queued x.request

/-! ## The queues after the end of a dismissal -/

theorem overlayRequestRemoved_requests (s : System W B C) (b : B) (webState : W)
    (request : OverlayRequest W) (cancelled : Bool) (webState' : W) :
    ((s.overlayRequestRemoved b webState request cancelled).queues webState').requests =
      (s.queues webState').requests := by
  unfold overlayRequestRemoved
  split
  · rw [(cancelRemoved_kept _ b request cancelled).requests,
      (holdRequest_kept s b webState request).requests, setRemovedRequest_queues]
  · exact (cancelRemoved_kept s b request cancelled).requests webState'

theorem popFrontRequest_requests (s : System W B C) (webState webState' : W) :
    ((s.popFrontRequest webState).queues webState').requests =
      if webState' = webState then (s.queues webState).requests.tail
      else (s.queues webState').requests := by
  have htaken : ((s.modifyQueue webState fun queue =>
      { queue with requests := queue.requests.eraseIdx 0 }).queues webState').requests =
        if webState' = webState then (s.queues webState).requests.tail
        else (s.queues webState').requests := by
    rw [modifyQueue_queues]
    split
    · exact List.eraseIdx_zero
    · rfl
  unfold popFrontRequest removeRequest
  split
  next hempty =>
    split
    next heq =>
      have hnil : (s.queues webState).requests = [] := by
        rw [← List.head?_eq_getElem?] at hempty
        exact List.head?_eq_none_iff.1 hempty
      rw [heq, hnil, List.tail_nil]
    next => rfl
  next request _ =>
    simp only
    split
    · exact htaken
    · rw [overlayRequestRemoved_requests]
      exact htaken

theorem endPresentation_requests (s : System W B C) (b : B) (request : OverlayRequest W) (queue : W)
    (reason : OverlayDismissalReason) (webState : W) :
    ((s.endPresentation b request queue reason).queues webState).requests =
      if s.PopsFrontRequest b request queue reason then
        ((s.popFrontRequest queue).queues webState).requests
      else (s.queues webState).requests := by
  unfold endPresentation
  simp only [setRemovedRequest_queues, modifyPresenter_queues]
  split
  · rfl
  · rfl

theorem overlayWasDismissed_requests (s : System W B C) (b : B) (context : C)
    (request : OverlayRequest W) (queue : W) (reason : OverlayDismissalReason) (webState : W) :
    ((s.overlayWasDismissed factory b context request queue reason).queues webState).requests =
      if s.PopsAtEnd b context ⟨request, queue, reason⟩ then
        ((s.popFrontRequest queue).queues webState).requests
      else (s.queues webState).requests := by
  have h := overlayWasDismissed_cases factory s b context request queue reason
  generalize s.overlayWasDismissed factory b context request queue reason = s' at h
  have hended : (s.browsers b).presenter.presentationContext = some context →
      (s.browsers b).presenter.detachedQueueReplacedDelegate = false →
      ((s.endPresentation b request queue reason).queues webState).requests =
        if s.PopsAtEnd b context ⟨request, queue, reason⟩ then
          ((s.popFrontRequest queue).queues webState).requests
        else (s.queues webState).requests := by
    intro hcontext hreplaced
    rw [endPresentation_requests]
    refine if_congr ⟨fun h => ⟨hcontext, hreplaced, h⟩, fun h => h.2.2⟩ rfl rfl
  cases h with
  | ignored hcontext => rw [if_neg fun h => hcontext h.1]
  | replaced _ hreplaced =>
    rw [if_neg fun h => Bool.noConfusion (hreplaced.symm.trans h.2.1)]
    rfl
  | next hcontext hreplaced _ => exact hended hcontext hreplaced
  | unchanged hcontext hreplaced _ => exact hended hcontext hreplaced

theorem resetRequest_requests (s : System W B C) (b : B) (context : C) (request : OverlayRequest W)
    (webState : W) : ((s.resetRequest factory b context request).queues webState).requests =
      (s.queues webState).requests := by
  unfold resetRequest
  simp only [modifyBrowser_queues]
  split
  next => rfl
  next =>
    split
    next =>
      split
      next => rfl
      next queue _ =>
        rw [overlayWasDismissed_requests, if_neg fun h => OverlayDismissalReason.noConfusion h.2.2.1]
        rfl
    next => rfl

theorem popsAtEnd_takeCallback (s : System W B C) (b : B) (context : C) (x : Shown W) :
    (s.takeCallback b context x).PopsAtEnd b context x ↔ s.PopsAtEnd b context x := by
  unfold PopsAtEnd PopsFrontRequest takeCallback
  rw [modifyBrowser_self]
  rfl

variable {s : System W B C}

/-- **The end of a dismissal pops the queue or leaves all queues alone.** -/
theorem overlayUIWasDismissed_requests {b : B} {context : C} {x : Shown W}
    (hx : ((s.browsers b).contexts context).shown = some x) (webState : W) :
    ((s.overlayUIWasDismissed factory b context).queues webState).requests =
      if s.PopsAtEnd b context x ∧ webState = x.queue then (s.queues webState).requests.tail
      else (s.queues webState).requests := by
  have hdismissed : (((s.takeCallback b context x).overlayWasDismissed factory b context x.request
      x.queue x.reason).queues webState).requests =
        if s.PopsAtEnd b context x ∧ webState = x.queue then (s.queues webState).requests.tail
        else (s.queues webState).requests := by
    rw [overlayWasDismissed_requests, popFrontRequest_requests]
    by_cases hpops : s.PopsAtEnd b context x
    · rw [if_pos ((popsAtEnd_takeCallback s b context x).2 hpops)]
      by_cases hqueue : webState = x.queue
      · rw [if_pos hqueue, if_pos ⟨hpops, hqueue⟩, hqueue]
        rfl
      · rw [if_neg hqueue, if_neg fun h => hqueue h.2]
        rfl
    · rw [if_neg fun h => hpops ((popsAtEnd_takeCallback s b context x).1 h),
        if_neg fun h => hpops h.1]
      rfl
  unfold overlayUIWasDismissed
  rw [hx]
  simp only
  split
  · rw [resetRequest_requests]
    exact hdismissed
  · exact hdismissed

/-! ## A request that is gone -/

/-- The request is in no queue, and was shown so often. -/
structure Gone (request : OverlayRequest W) (shows : B → List (ContextCall W C))
    (s : System W B C) : Prop where
  absent : ∀ webState, request ∉ (s.queues webState).requests
  calls : ∀ b, (s.browsers b).showCalls request = shows b

/-- No UI comes up in the context, and so often it did before. -/
structure Quiet (b : B) (context : C) (key : OverlayRequest W × W)
    (shows : List (ContextCall W C)) (s : System W B C) : Prop where
  up : s.Up b context key
  calls : (s.browsers b).showCallsIn context = shows

end System

/-- Calls of `HideOverlayUI` show nothing. -/
theorem Browser.hideOverlayUI_calls (br : Browser W C) (request : OverlayRequest W)
    {P : ContextCall W C → Bool} (hP : ∀ context request displayed,
      P (.hideOverlayUI context request displayed) = false) :
    (br.hideOverlayUI request).contextCalls.filter P = br.contextCalls.filter P := by
  unfold hideOverlayUI
  split
  · rfl
  · simp only [List.filter_append, List.filter_cons, hP, Bool.false_eq_true, if_false,
      List.filter_nil, List.append_nil]

theorem Browser.cancelOverlayUIForRequest_calls (br : Browser W C)
    (request : Option (OverlayRequest W)) :
    (br.cancelOverlayUIForRequest request).contextCalls = br.contextCalls := by
  unfold cancelOverlayUIForRequest
  split <;> rfl

/-- The calls on the contexts after a move: those before, or one more for a
request shown. -/
theorem Move.calls {s s' : System W B C} (h : Move factory caps ends s s') {P : ContextCall W C → Bool}
    (hP : ∀ context request displayed, P (.hideOverlayUI context request displayed) = false)
    (b : B) : (s'.browsers b).contextCalls.filter P = (s.browsers b).contextCalls.filter P ∨
      ∃ context webState request, Browser.Shows factory s.queues (s.browsers b) (s'.browsers b)
        context webState request := by
  have hmodify : ∀ {b' : B} {f : Browser W C → Browser W C},
      (f (s.browsers b')).contextCalls.filter P = (s.browsers b').contextCalls.filter P →
      ((s.modifyBrowser b' f).browsers b).contextCalls.filter P =
        (s.browsers b).contextCalls.filter P := by
    intro b' f hf
    rw [System.modifyBrowser_browsers]
    split
    next heq => rw [heq, hf]
    next => rfl
  have hpresent : ∀ b' : B, ((s.modifyBrowser b' (·.presentOverlayForActiveRequest factory
      s.queues)).browsers b).contextCalls.filter P = (s.browsers b).contextCalls.filter P ∨
      ∃ context webState request, Browser.Shows factory s.queues (s.browsers b)
        ((s.modifyBrowser b' (·.presentOverlayForActiveRequest factory s.queues)).browsers b)
        context webState request := by
    intro b'
    rw [System.modifyBrowser_browsers]
    split
    next heq =>
      rw [heq]
      rcases Browser.presentOverlayForActiveRequest_cases factory s.queues (s.browsers b') with
        hshows | ⟨hsame, _⟩
      · exact .inr hshows
      · rw [hsame]
        exact .inl rfl
    next => exact .inl rfl
  cases h with
  | effect heffect =>
    cases heffect with
    | hide b' request => exact .inl (hmodify (Browser.hideOverlayUI_calls _ request hP))
    | cancel b' request =>
      exact .inl (hmodify (by rw [Browser.cancelOverlayUIForRequest_calls]))
    | present b' hidle => exact hpresent b'
    | presenter b' f hsoft => exact .inl (hmodify rfl)
    | queue webState f hsub => exact .inl rfl
    | destroyRequest request => exact .inl rfl
    | capabilities _ b' context capabilities => exact .inl (hmodify rfl)
    | byUser b' context => exact .inl (hmodify rfl)
    | tabs b' v => exact .inl (hmodify rfl)
    | webStateDestroyed webState => exact .inl rfl
  | present b' => exact hpresent b'
  | presenter b' f => exact .inl (hmodify rfl)
  | context b' context ctx _ _ _ => exact .inl (hmodify rfl)

variable {request : OverlayRequest W}

/-- A move puts no request into a queue. -/
theorem Move.mem_requests {s s' : System W B C} (h : Move factory caps ends s s') {webState : W}
    (hmem : request ∈ (s'.queues webState).requests) :
    request ∈ (s.queues webState).requests := by
  cases h with
  | effect heffect =>
    cases heffect with
    | queue webState' f hsub =>
      rw [System.modifyQueue_queues] at hmem
      split at hmem
      next heq =>
        rw [heq]
        exact hsub.mem hmem
      next => exact hmem
    | hide | cancel | present | presenter | destroyRequest | capabilities | byUser | tabs
    | webStateDestroyed => exact hmem
  | present | presenter | context => exact hmem

theorem Move.gone {shows : B → List (ContextCall W C)} {s s' : System W B C}
    (h : Move factory caps ends s s') (hgone : s.Gone request shows) :
    s'.Gone request shows := by
  refine ⟨fun webState hmem => hgone.absent webState (h.mem_requests hmem), fun b => ?_⟩
  rcases h.calls (P := (·.showsRequest request)) (fun _ _ _ => rfl) b with
    hsame | ⟨context, webState, next, hshows⟩
  · exact hsame.trans (hgone.calls b)
  · -- a presenter shows the front request of a queue
    have hne : next ≠ request := by
      rintro rfl
      exact hgone.absent webState (List.mem_of_head? hshows.front)
    have hother : ContextCall.showsRequest request
        (.showOverlayUI context next none : ContextCall W C) = false := decide_eq_false hne
    rw [← hgone.calls b, hshows.result]
    unfold Browser.showCalls
    simp only [List.filter_append, List.filter_cons, hother, Bool.false_eq_true, if_false,
      List.filter_nil, List.append_nil]

theorem Move.quiet {b : B} {context : C} {key : OverlayRequest W × W}
    {shows : List (ContextCall W C)} (hends : ¬ ends b context) {s s' : System W B C}
    (h : Move factory caps ends s s') (hquiet : s.Quiet b context key shows) :
    s'.Quiet b context key shows := by
  refine ⟨h.up hends hquiet.up, ?_⟩
  rcases h.calls (P := (·.showsIn context)) (fun _ _ _ => rfl) b with
    hsame | ⟨context', webState, next, hshows⟩
  · exact hsame.trans hquiet.calls
  · have hne : context' ≠ context := by
      rintro rfl
      have hup := hquiet.up.shown
      rw [hshows.shown] at hup
      cases hup
    have hother : ContextCall.showsIn context
        (.showOverlayUI context' next none : ContextCall W C) = false := decide_eq_false hne
    rw [← hquiet.calls, hshows.result]
    unfold Browser.showCallsIn
    simp only [List.filter_append, List.filter_cons, hother, Bool.false_eq_true, if_false,
      List.filter_nil, List.append_nil]

namespace System

variable {s : System W B C}

theorem Gone.withRequest {shows : B → List (ContextCall W C)} (h : s.Gone request shows)
    (howned : s.Owned) (hadded : request ∈ s.added) {webState : W} {index : Nat}
    (hindex : index ≤ (s.queues webState).requests.length) :
    (s.withRequest webState index).Gone request shows := by
  refine ⟨fun webState' hmem => ?_, h.calls⟩
  unfold System.withRequest at hmem
  rw [modifyQueue_queues] at hmem
  split at hmem
  next =>
    rcases (List.mem_insertIdx hindex).1 hmem with hnew | hold
    · -- the identity of a new request is new
      obtain ⟨i, hi, hget⟩ := List.getElem_of_mem hadded
      have hid := howned.ids i request (List.getElem?_eq_some_iff.2 ⟨hi, hget⟩)
      rw [hnew] at hid
      exact absurd hid (Nat.ne_of_gt hi)
    · exact h.absent webState hold
  next => exact h.absent webState' hmem

/-- **A request that is gone stays gone and is not shown.** -/
theorem step_gone {shows : B → List (ContextCall W C)} (h : s.Gone request shows) (howned : s.Owned)
    (hadded : request ∈ s.added) {event : Event W B C} (henabled : s.Enabled event) :
    (s.step factory event).Gone request shows :=
  step_keeps henabled (fun hs hmove => hmove.gone hs)
    (fun _ _ hindex => h.withRequest howned hadded hindex) h

/-- No event forgets that a request was added. -/
theorem step_added (h : request ∈ s.added) {event : Event W B C} (henabled : s.Enabled event) :
    request ∈ (s.step factory event).added := by
  refine step_keeps (P := (request ∈ ·.added)) henabled (fun hs hmove => ?_)
    (fun _ _ _ => List.mem_append_left _ h) h
  cases hmove with
  | effect heffect => cases heffect <;> exact hs
  | present | presenter | context => exact hs

variable (factory) in
theorem run_gone {shows : B → List (ContextCall W C)} {events : List (Event W B C)}
    (h : s.Gone request shows) (howned : s.Owned) (hadded : request ∈ s.added)
    (hrun : (overlayMachine W B C factory).Run s events) :
    ((overlayMachine W B C factory).exec s events).Gone request shows := by
  induction events generalizing s with
  | nil => exact h
  | cons event events ih =>
    exact ih (step_gone h howned hadded hrun.1) (step_owned factory howned hrun.1)
      (step_added hadded hrun.1) hrun.2

variable (factory) in
theorem run_quiet {b : B} {context : C} {key : OverlayRequest W × W}
    {shows : List (ContextCall W C)} {events : List (Event W B C)} (h : s.Quiet b context key shows)
    (hrun : (overlayMachine W B C factory).Run s events)
    (hends : .overlayUIDidFinishDismissal b context ∉ events) :
    ((overlayMachine W B C factory).exec s events).Quiet b context key shows := by
  induction events generalizing s with
  | nil => exact h
  | cons event events ih =>
    rw [List.mem_cons, not_or] at hends
    have hevent : ¬ event.Ends b context := Ne.symm hends.1
    exact ih (step_keeps hrun.1 (fun hs hmove => hmove.quiet hevent hs)
      (fun _ _ _ => ⟨⟨h.up.single, h.up.shown⟩, h.calls⟩) h) hrun.2 hends.2

/-! ## The end of the dismissal -/

/-- After the pop the end of a dismissal is a sequence of moves. -/
theorem overlayUIWasDismissed_popped {b : B} {context : C} {x : Shown W} (hends : ends b context)
    (hx : ((s.browsers b).contexts context).shown = some x) (hpops : s.PopsAtEnd b context x) :
    Moves factory caps ends
      ((s.takeCallback b context x).popFrontRequest x.queue)
      (s.overlayUIWasDismissed factory b context) := by
  have hpops' := (popsAtEnd_takeCallback s b context x).2 hpops
  have hdismissed : Moves factory caps ends
      ((s.takeCallback b context x).popFrontRequest x.queue)
      ((s.takeCallback b context x).overlayWasDismissed factory b context x.request x.queue
        x.reason) := by
    have hended : Moves factory caps ends
        ((s.takeCallback b context x).popFrontRequest x.queue)
        ((s.takeCallback b context x).endPresentation b x.request x.queue x.reason) := by
      unfold endPresentation
      rw [if_pos hpops'.2.2]
      exact (Move.presenter b _).moves.trans (setRemovedRequest_upkeeps _ b none).effects.moves
    have h := overlayWasDismissed_cases factory (s.takeCallback b context x) b context x.request
      x.queue x.reason
    generalize (s.takeCallback b context x).overlayWasDismissed factory b context x.request x.queue
      x.reason = s' at h
    cases h with
    | ignored hcontext => exact absurd hpops'.1 hcontext
    | replaced _ hreplaced => exact Bool.noConfusion (hreplaced.symm.trans hpops'.2.1)
    | next => exact hended.tail (.present b)
    | unchanged => exact hended
  unfold overlayUIWasDismissed
  rw [hx]
  simp only
  split
  next hrequest => exact hdismissed.trans (resetRequest_moves _ hends hrequest)
  next => exact hdismissed

theorem popFrontRequest_calls (s : System W B C) (b : B) (context : C) (x : Shown W) (b' : B) :
    (((s.takeCallback b context x).popFrontRequest x.queue).browsers b').contextCalls =
      (s.browsers b').contextCalls := by
  unfold popFrontRequest
  rw [(removeRequest_upkeeps _ x.queue 0 false).silent.contextCalls b']
  unfold takeCallback
  rw [modifyBrowser_browsers]
  split
  next heq => rw [heq]; rfl
  next => rfl

/-- A pop takes out the request exactly when it is at the front. -/
theorem tail_eq_filter_iff {requests : List (OverlayRequest W)} (hnodup : requests.Nodup)
    (hne : requests ≠ []) (request : OverlayRequest W) :
    requests.tail = requests.filter (· ≠ request) ↔ requests.head? = some request := by
  cases requests with
  | nil => exact absurd rfl hne
  | cons front rest =>
    obtain ⟨hfront, _⟩ := List.nodup_cons.1 hnodup
    rw [List.tail_cons, List.head?_cons, List.filter_cons]
    constructor
    · intro h
      by_contra hother
      have hkept : front ≠ request := fun heq => hother (congrArg some heq)
      rw [if_pos (decide_eq_true hkept)] at h
      exact hfront (h ▸ List.mem_cons_self)
    · intro h
      cases h
      rw [if_neg (by simp), List.filter_eq_self.2]
      intro other hother
      refine decide_eq_true ?_
      rintro rfl
      exact hfront hother

/-- **The end of a dismissal removes the request for good exactly when** it pops
it or the request is in no queue any more. -/
theorem userDismissed_iff (howned : s.Owned) (hplaced : s.Placed) {b : B} {context : C}
    {x : Shown W} (hx : ((s.browsers b).contexts context).shown = some x) :
    s.UserDismissed factory b context x ↔ s.RemovesDismissed b context x := by
  have hafter : ∀ webState, ((s.step factory (.overlayUIDidFinishDismissal b context)).queues
      webState).requests = if s.PopsAtEnd b context x ∧ webState = x.queue then
        (s.queues webState).requests.tail else (s.queues webState).requests :=
    overlayUIWasDismissed_requests hx
  obtain ⟨hqueue, hadded⟩ := hplaced.shown b context x hx
  unfold RemovesDismissed
  constructor
  · intro h
    split
    next hpops =>
      have hremoved := h.removed x.queue
      rw [hafter, if_pos ⟨hpops, rfl⟩] at hremoved
      exact (tail_eq_filter_iff (howned.nodup x.queue) (h.pops hpops) x.request).1 hremoved
    next hpops =>
      intro hqueued
      have hremoved := h.removed x.request.queueWebState
      rw [hafter, if_neg fun hp => hpops hp.1] at hremoved
      have hmem : x.request ∈ (s.queues x.request.queueWebState).requests := hqueued
      rw [hremoved] at hmem
      exact absurd rfl (of_decide_eq_true (List.mem_filter.1 hmem).2)
  · intro h
    have hremoved : ∀ webState, ((s.step factory (.overlayUIDidFinishDismissal b context)).queues
        webState).requests = (s.queues webState).requests.filter (· ≠ x.request) := by
      intro webState
      have habsent : x.request ∉ (s.queues webState).requests →
          (s.queues webState).requests = (s.queues webState).requests.filter (· ≠ x.request) := by
        intro hnot
        refine (List.filter_eq_self.2 fun other hother => decide_eq_true ?_).symm
        rintro rfl
        exact hnot hother
      rw [hafter]
      split
      next hpops =>
        rw [if_pos hpops.1] at h
        rw [hpops.2]
        refine (tail_eq_filter_iff (howned.nodup x.queue) ?_ x.request).2 h
        exact List.ne_nil_of_mem (List.mem_of_head? h)
      next hpops =>
        apply habsent
        intro hmem
        split at h
        next hpops' =>
          have hweb := (howned.queued webState x.request hmem).1
          exact hpops ⟨hpops', hweb.symm.trans hqueue.symm⟩
        next => exact h (OwnedWith.queued_of_mem howned hmem)
    refine ⟨fun hpops => ?_, hremoved, fun events hrun b' => ?_⟩
    · rw [if_pos hpops] at h
      exact List.ne_nil_of_mem (List.mem_of_head? h)
    · have hgone : (s.step factory (.overlayUIDidFinishDismissal b context)).Gone x.request
          fun b' => (s.browsers b').showCalls x.request := by
        split at h
        next hpops =>
          -- nothing is shown up to the pop, and the request is gone after it
          have hpopped : ((s.takeCallback b context x).popFrontRequest x.queue).Gone x.request
              fun b' => (s.browsers b').showCalls x.request := by
            refine ⟨fun webState hmem => ?_, fun b' => ?_⟩
            · rw [popFrontRequest_requests] at hmem
              have hstep := hremoved webState
              rw [hafter] at hstep
              split at hmem
              next heq =>
                rw [if_pos ⟨hpops, heq⟩, heq] at hstep
                have hmem' : x.request ∈ (s.queues x.queue).requests.tail := hmem
                rw [hstep] at hmem'
                exact absurd rfl (of_decide_eq_true (List.mem_filter.1 hmem').2)
              next hne =>
                have hmem' : x.request ∈ (s.queues webState).requests := hmem
                rw [if_neg fun hp => hne hp.2] at hstep
                rw [hstep] at hmem'
                exact absurd rfl (of_decide_eq_true (List.mem_filter.1 hmem').2)
            · unfold Browser.showCalls
              rw [popFrontRequest_calls]
          have hends : (Event.overlayUIDidFinishDismissal b context : Event W B C).Ends b
            context := rfl
          have hmoves : Moves factory False (Event.Ends (.overlayUIDidFinishDismissal b context))
              ((s.takeCallback b context x).popFrontRequest x.queue)
              (s.overlayUIWasDismissed factory b context) :=
            overlayUIWasDismissed_popped hends hx hpops
          exact hmoves.keeps (fun hs hmove => hmove.gone hs) hpopped
        next =>
          have hstart : s.Gone x.request fun b' => (s.browsers b').showCalls x.request :=
            ⟨fun webState hmem => h (OwnedWith.queued_of_mem howned hmem), fun _ => rfl⟩
          exact step_gone hstart howned hadded hrun.1
      exact (run_gone factory hgone (step_owned factory howned hrun.1)
        (step_added hadded hrun.1) hrun.2).calls b'

/-- **The user dismisses the UI of a request, and at some later time, after any
events, the dismissal ends.** Until then nothing is shown in the context. The
end removes the request and no other from a queue, and its UI is never shown
again, exactly when `RemovesDismissed` holds right before it. -/
theorem userDismissal_exact {s₀ : System W B C} {b : B} {context : C} {x₀ : Shown W}
    {events : List (Event W B C)} (h₀ : (overlayMachine W B C factory).Reachable s₀)
    (hx₀ : ((s₀.browsers b).contexts context).shown = some x₀)
    (hrun : (overlayMachine W B C factory).Run s₀ (.dismissedByUser b context :: events))
    (hends : .overlayUIDidFinishDismissal b context ∉ events) :
    let s := (overlayMachine W B C factory).exec s₀ (.dismissedByUser b context :: events)
    (s.browsers b).showCallsIn context = (s₀.browsers b).showCallsIn context ∧
    ∃ x, ((s.browsers b).contexts context).shown = some x ∧ x.request = x₀.request ∧
      (s.UserDismissed factory b context x ↔ s.RemovesDismissed b context x) := by
  intro s
  have hquiet : s.Quiet b context x₀.key ((s₀.browsers b).showCallsIn context) := by
    refine run_quiet factory ⟨⟨single_reachable factory h₀ b context, ?_⟩, rfl⟩ hrun ?_
    · rw [hx₀, Option.map_some]
    · rw [List.mem_cons, not_or]
      exact ⟨nofun, hends⟩
  have hreach : (overlayMachine W B C factory).Reachable s := h₀.exec hrun
  obtain ⟨x, hx, hkey⟩ := Option.map_eq_some_iff.1 hquiet.up.shown
  refine ⟨hquiet.calls, x, hx, congrArg Prod.fst hkey, ?_⟩
  exact userDismissed_iff (owned_reachable factory hreach) (placed_reachable factory hreach) hx

/-- A dialog of tab 1, which the user closes; another is added behind it before
the dismissal ends. -/
theorem userDismissal_exact_behind :
    let s₀ : System Nat Bool Bool := (overlayMachine Nat Bool Bool (childFactory Nat)).exec
      (start Nat Bool Bool) [.edit true (.insert 1 0 true),
        .edit true (.activate (some 1) 0 .inserted), .addRequest 1,
        .setPresentationContext true (some true)]
    let s := (overlayMachine Nat Bool Bool (childFactory Nat)).exec s₀
      [.dismissedByUser true true, .addRequest 1]
    (s.browsers true).showCallsIn true = (s₀.browsers true).showCallsIn true ∧
    ∃ x, ((s.browsers true).contexts true).shown = some x ∧ x.request = ⟨0, 1⟩ ∧
      (s.UserDismissed (childFactory Nat) true true x ↔ s.RemovesDismissed true true x) := by
  intro s₀
  have hx₀ : ((s₀.browsers true).contexts true).shown = some ⟨⟨0, 1⟩, 1, .userInteraction⟩ := by
    decide +kernel
  exact userDismissal_exact ⟨start Nat Bool Bool, _, ⟨_, rfl⟩, by decide +kernel, rfl⟩ hx₀
    (by decide +kernel) (by simp)

/-- **The user closes a dialog and switches to another tab before the dismissal
ends**: the dialog stays in its queue. -/
theorem switchedAway_notRemoved :
    ¬ ∀ (s₀ : System Nat Bool Bool) (x₀ : Shown Nat) (events : List (Event Nat Bool Bool)),
      (overlayMachine Nat Bool Bool (childFactory Nat)).Reachable s₀ →
      ((s₀.browsers true).contexts true).shown = some x₀ →
      (overlayMachine Nat Bool Bool (childFactory Nat)).Run s₀
        (.dismissedByUser true true :: events) →
      .overlayUIDidFinishDismissal true true ∉ events →
      ∀ x, ((((overlayMachine Nat Bool Bool (childFactory Nat)).exec s₀
          (.dismissedByUser true true :: events)).browsers true).contexts true).shown = some x →
        ((overlayMachine Nat Bool Bool (childFactory Nat)).exec s₀
          (.dismissedByUser true true :: events)).UserDismissed (childFactory Nat) true true x := by
  intro h
  have hremoved := (h ((overlayMachine Nat Bool Bool (childFactory Nat)).exec (start Nat Bool Bool)
      [.edit true (.insert 1 0 true), .edit true (.activate (some 1) 0 .inserted),
        .edit true (.insert 2 1 false), .addRequest 1, .setPresentationContext true (some true)])
    ⟨⟨0, 1⟩, 1, .userInteraction⟩ [.edit true (.activate (some 2) 1 .activated)]
    ⟨start Nat Bool Bool, _, ⟨_, rfl⟩, by decide +kernel, rfl⟩ (by decide +kernel)
    (by decide +kernel) (by simp) ⟨⟨0, 1⟩, 1, .hiding⟩ (by decide +kernel)).removed 1
  revert hremoved
  decide +kernel

end System

end IosChrome.Overlays

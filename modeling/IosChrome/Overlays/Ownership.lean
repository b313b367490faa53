import IosChrome.Overlays.OverlayFrame

/-!
# Who owns an overlay request

A request is created into a queue and moves on through `unique_ptr`s: from the
queue to the presenter that holds it back until its UI is dismissed
(`removed_request_awaiting_dismissal_`), or straight to its end. `Owned` says
that every request ever added is in exactly one of three places: its queue, one
presenter, or the log of the destroyed, and there once. It holds in every state
of every run (`owned_reachable`), whatever the tabs, the presenters and their
contexts do: nothing is lost and nothing is destroyed twice.

While a request is on its way between two places it is in none of them, which
is what `OwnedWith (some request)` says.

With `Owned`, the request a user has dismissed can be followed
(`UserDismissal.lean`).
-/

set_option linter.unusedSectionVars false

namespace IosChrome.Overlays

open Tabs (Edit)

variable {W B C : Type} [DecidableEq W] [DecidableEq B] [DecidableEq C]

namespace System

/-- The requests destroyed so far. -/
def destroyedRequests (s : System W B C) : List (OverlayRequest W) := s.destroyed.map (·.request)

/-- The request a presenter holds back. -/
def held (s : System W B C) (b : B) : Option (OverlayRequest W) :=
  (s.browsers b).presenter.removedRequestAwaitingDismissal

/-- The request is in the queue of its tab. -/
def Queued (s : System W B C) (request : OverlayRequest W) : Prop :=
  request ∈ (s.queues request.queueWebState).requests

/-- Every request added, except the one on its way (`loose`), is in one place
and only once. -/
structure OwnedWith (loose : Option (OverlayRequest W)) (s : System W B C) : Prop where
  nodup : ∀ webState, (s.queues webState).requests.Nodup
  queued : ∀ webState, ∀ request ∈ (s.queues webState).requests,
    request.queueWebState = webState ∧ request ∈ s.added
  held : ∀ b request, s.held b = some request → request ∈ s.added ∧ ¬ s.Queued request ∧
    request ∉ s.destroyedRequests ∧ ∀ b', s.held b' = some request → b' = b
  destroyed : ∀ request ∈ s.destroyedRequests, request ∈ s.added ∧ ¬ s.Queued request
  destroyedOnce : s.destroyedRequests.Nodup
  located : ∀ request ∈ s.added, loose = some request ∨ s.Queued request ∨
    (∃ b, s.held b = some request) ∨ request ∈ s.destroyedRequests
  loose : ∀ request, loose = some request → request ∈ s.added ∧ ¬ s.Queued request ∧
    (∀ b, s.held b ≠ some request) ∧ request ∉ s.destroyedRequests
  ids : ∀ (index : Nat) (request : OverlayRequest W), s.added[index]? = some request →
    request.id = index

/-- Every request added is in one place and only once. -/
def Owned (s : System W B C) : Prop := s.OwnedWith none

variable {s : System W B C}

/-- A request in some queue is in the queue of its tab. -/
theorem OwnedWith.queued_of_mem {loose : Option (OverlayRequest W)} (h : s.OwnedWith loose)
    {webState : W} {request : OverlayRequest W} (hmem : request ∈ (s.queues webState).requests) :
    s.Queued request := by
  unfold Queued
  rw [(h.queued webState request hmem).1]
  exact hmem

/-- A step that keeps the requests and their owners keeps the invariant. -/
theorem OwnedWith.kept {loose : Option (OverlayRequest W)} {s s' : System W B C}
    (h : s.OwnedWith loose) (hk : Kept s s') : s'.OwnedWith loose := by
  have hheld : ∀ b, s'.held b = s.held b := fun b => (hk.browsers b).removed
  have hqueued : ∀ request, s'.Queued request ↔ s.Queued request := by
    intro request
    unfold Queued
    rw [hk.requests]
  have hdestroyed : s'.destroyedRequests = s.destroyedRequests := by
    unfold destroyedRequests
    rw [hk.destroyed]
  refine ⟨?_, ?_, ?_, ?_, ?_, ?_, ?_, ?_⟩
  · intro webState
    rw [hk.requests]
    exact h.nodup webState
  · intro webState request hmem
    rw [hk.requests] at hmem
    rw [hk.added]
    exact h.queued webState request hmem
  · intro b request hb
    rw [hheld] at hb
    obtain ⟨hadded, hq, hd, hunique⟩ := h.held b request hb
    rw [hk.added, hqueued, hdestroyed]
    refine ⟨hadded, hq, hd, fun b' hb' => ?_⟩
    rw [hheld] at hb'
    exact hunique b' hb'
  · intro request hmem
    rw [hdestroyed] at hmem
    rw [hk.added, hqueued]
    exact h.destroyed request hmem
  · rw [hdestroyed]
    exact h.destroyedOnce
  · intro request hmem
    rw [hk.added] at hmem
    rw [hqueued, hdestroyed]
    simp only [hheld]
    exact h.located request hmem
  · intro request hl
    rw [hk.added, hqueued, hdestroyed]
    simp only [hheld]
    exact h.loose request hl
  · rw [hk.added]
    exact h.ids

/-! ## The moves of a request -/

/-- Out of its queue. -/
theorem OwnedWith.take (h : s.Owned) {webState : W} {index : Nat} {request : OverlayRequest W}
    (hget : (s.queues webState).requests[index]? = some request) :
    (s.modifyQueue webState fun queue =>
      { queue with requests := queue.requests.eraseIdx index }).OwnedWith (some request) := by
  obtain ⟨hlt, hrequest⟩ := List.getElem?_eq_some_iff.1 hget
  have hmem : request ∈ (s.queues webState).requests := List.mem_of_getElem? hget
  obtain ⟨hweb, hadded⟩ := h.queued webState request hmem
  set s' := s.modifyQueue webState fun queue =>
    { queue with requests := queue.requests.eraseIdx index } with hs'
  have hrequests : ∀ webState', (s'.queues webState').requests =
      if webState' = webState then (s.queues webState).requests.eraseIdx index
      else (s.queues webState').requests := by
    intro webState'
    rw [hs', modifyQueue_queues]
    split
    · rfl
    · rfl
  have hgone : request ∉ (s.queues webState).requests.eraseIdx index := by
    intro hin
    rw [← hrequest] at hin
    obtain ⟨j, hne, hj⟩ := List.mem_eraseIdx_iff_getElem?.1 hin
    obtain ⟨hjlt, hjget⟩ := List.getElem?_eq_some_iff.1 hj
    exact hne ((h.nodup webState).getElem_inj_iff.1 hjget)
  have hsub : ∀ request', s'.Queued request' → s.Queued request' := by
    intro request' hq
    unfold Queued at hq ⊢
    rw [hrequests] at hq
    split at hq
    next heq =>
      rw [heq]
      exact (List.eraseIdx_sublist _ _).mem hq
    next => exact hq
  have hother : ∀ request', s.Queued request' → request' = request ∨ s'.Queued request' := by
    intro request' hq
    by_cases heq : request'.queueWebState = webState
    · unfold Queued at hq
      rw [heq] at hq
      obtain ⟨j, hj, hget'⟩ := List.getElem_of_mem hq
      by_cases hindex : j = index
      · left
        subst hindex
        exact hget'.symm.trans hrequest
      · right
        unfold Queued
        rw [hrequests, if_pos heq]
        exact List.mem_eraseIdx_iff_getElem?.2 ⟨j, hindex, List.getElem?_eq_some_iff.2 ⟨hj, hget'⟩⟩
    · right
      unfold Queued
      rw [hrequests, if_neg heq]
      exact hq
  have hnot : ¬ s'.Queued request := by
    unfold Queued
    rw [hrequests, if_pos hweb]
    exact hgone
  refine ⟨?_, ?_, ?_, ?_, h.destroyedOnce, ?_, ?_, h.ids⟩
  · intro webState'
    rw [hrequests]
    split
    · exact (h.nodup webState).sublist (List.eraseIdx_sublist _ _)
    · exact h.nodup webState'
  · intro webState' request' hin
    rw [hrequests] at hin
    split at hin
    next heq =>
      rw [heq]
      exact h.queued webState request' ((List.eraseIdx_sublist _ _).mem hin)
    next => exact h.queued webState' request' hin
  · intro b request' hb
    obtain ⟨ha, hq, hd, hunique⟩ := h.held b request' hb
    exact ⟨ha, fun hq' => hq (hsub _ hq'), hd, hunique⟩
  · intro request' hd
    obtain ⟨ha, hq⟩ := h.destroyed request' hd
    exact ⟨ha, fun hq' => hq (hsub _ hq')⟩
  · intro request' ha
    rcases h.located request' ha with hl | hq | hb | hd
    · cases hl
    · rcases hother request' hq with rfl | hq'
      · exact .inl rfl
      · exact .inr (.inl hq')
    · exact .inr (.inr (.inl hb))
    · exact .inr (.inr (.inr hd))
  · rintro request' ⟨⟩
    refine ⟨hadded, hnot, fun b hb => ?_, fun hd => ?_⟩
    · exact (h.held b request hb).2.1 (h.queued_of_mem hmem)
    · exact (h.destroyed request hd).2 (h.queued_of_mem hmem)

/-- To its end. -/
theorem OwnedWith.destroyRequest {request : OverlayRequest W} (h : s.OwnedWith (some request)) :
    (s.destroyRequest request).Owned := by
  obtain ⟨hadded, hqueued, hheld, hdestroyed⟩ := h.loose request rfl
  have hrequests : (s.destroyRequest request).destroyedRequests =
      s.destroyedRequests ++ [request] := by
    unfold destroyedRequests System.destroyRequest
    rw [List.map_append]
    rfl
  refine ⟨h.nodup, h.queued, ?_, ?_, ?_, ?_, nofun, h.ids⟩
  · intro b request' hb
    obtain ⟨ha, hq, hd, hunique⟩ := h.held b request' hb
    refine ⟨ha, hq, ?_, hunique⟩
    rw [hrequests, List.mem_append, List.mem_singleton]
    rintro (hd' | rfl)
    · exact hd hd'
    · exact hheld b hb
  · intro request' hd
    rw [hrequests, List.mem_append, List.mem_singleton] at hd
    rcases hd with hd | rfl
    · exact h.destroyed request' hd
    · exact ⟨hadded, hqueued⟩
  · rw [hrequests]
    exact List.nodup_append.2 ⟨h.destroyedOnce, List.nodup_singleton request, fun a ha b hb => by
      rw [List.mem_singleton] at hb
      rintro rfl
      exact hdestroyed (hb ▸ ha)⟩
  · intro request' ha
    rw [hrequests, List.mem_append, List.mem_singleton]
    rcases h.located request' ha with hl | hq | hb | hd
    · cases hl
      exact .inr (.inr (.inr (.inr rfl)))
    · exact .inr (.inl hq)
    · exact .inr (.inr (.inl hb))
    · exact .inr (.inr (.inr (.inl hd)))

theorem modifyPresenter_held (s : System W B C) (b b' : B)
    (f : OverlayPresenterImpl W C → OverlayPresenterImpl W C) :
    (s.modifyPresenter b f).held b' =
      if b' = b then (f (s.browsers b).presenter).removedRequestAwaitingDismissal
      else s.held b' := by
  unfold held modifyPresenter
  rw [modifyBrowser_browsers]
  split
  · rfl
  · rfl

/-- Into a presenter, which drops the request it held. -/
theorem OwnedWith.setRemovedRequest {request : Option (OverlayRequest W)} (h : s.OwnedWith request)
    (b : B) : (s.setRemovedRequest b request).Owned := by
  set s' := s.modifyPresenter b ({ · with removedRequestAwaitingDismissal := request }) with hs'
  have hheld : ∀ b', s'.held b' = if b' = b then request else s.held b' :=
    fun b' => modifyPresenter_held s b b' _
  -- the one the presenter held is now on its way
  have hmoved : s'.OwnedWith (s.held b) := by
    refine ⟨h.nodup, h.queued, ?_, h.destroyed, h.destroyedOnce, ?_, ?_, h.ids⟩
    · intro b' request' hb'
      rw [hheld] at hb'
      split at hb'
      next heq =>
        obtain ⟨ha, hq, hother, hd⟩ := h.loose request' hb'
        refine ⟨ha, hq, hd, fun b'' hb'' => ?_⟩
        rw [hheld] at hb''
        split at hb''
        next heq' => rw [heq', heq]
        next => exact absurd hb'' (hother b'')
      next =>
        obtain ⟨ha, hq, hd, hunique⟩ := h.held b' request' hb'
        refine ⟨ha, hq, hd, fun b'' hb'' => ?_⟩
        rw [hheld] at hb''
        split at hb''
        next => exact absurd hb' ((h.loose request' hb'').2.2.1 b')
        next => exact hunique b'' hb''
    · intro request' ha
      rcases h.located request' ha with hl | hq | ⟨b', hb'⟩ | hd
      · exact .inr (.inr (.inl ⟨b, by rw [hheld, if_pos rfl, hl]⟩))
      · exact .inr (.inl hq)
      · by_cases heq : b' = b
        · left
          rw [← heq, hb']
        · exact .inr (.inr (.inl ⟨b', by rw [hheld, if_neg heq, hb']⟩))
      · exact .inr (.inr (.inr hd))
    · intro request' hb
      obtain ⟨ha, hq, hd, hunique⟩ := h.held b request' hb
      refine ⟨ha, hq, fun b' hb' => ?_, hd⟩
      rw [hheld] at hb'
      split at hb'
      next => exact (h.loose request' hb').2.2.1 b hb
      next hne => exact hne (hunique b' hb')
  unfold System.held at hmoved
  unfold System.setRemovedRequest
  cases hawaiting : (s.browsers b).presenter.removedRequestAwaitingDismissal with
  | none =>
    rw [hawaiting] at hmoved
    exact hmoved
  | some request' =>
    rw [hawaiting] at hmoved
    exact hmoved.destroyRequest

/-! ## The functions -/

theorem cancelRemoved_kept (s : System W B C) (b : B) (request : OverlayRequest W)
    (cancelled : Bool) : Kept s (s.cancelRemoved b request cancelled) := by
  unfold cancelRemoved
  split
  · exact modifyBrowser_kept s b (Browser.cancelOverlayUIForRequest_kept _ _)
  · exact .refl s

theorem holdRequest_kept (s : System W B C) (b : B) (webState : W) (request : OverlayRequest W) :
    Kept (s.setRemovedRequest b (some request)) (s.holdRequest b webState request) := by
  unfold holdRequest
  simp only
  split
  · exact (modifyBrowser_kept _ b ⟨rfl, rfl⟩).trans (setDelegate_kept _ webState none)
  · exact .refl _

theorem overlayRequestRemoved_owned {request : OverlayRequest W} (h : s.OwnedWith (some request))
    (b : B) (webState : W) (cancelled : Bool) :
    (s.overlayRequestRemoved b webState request cancelled).Owned := by
  unfold overlayRequestRemoved
  split
  next =>
    have hheld := (h.setRemovedRequest b).kept (holdRequest_kept s b webState request)
    exact hheld.kept (cancelRemoved_kept _ b request cancelled)
  next => exact (h.kept (cancelRemoved_kept s b request cancelled)).destroyRequest

theorem removeRequest_owned (h : s.Owned) (webState : W) (index : Nat) (cancelled : Bool) :
    (s.removeRequest webState index cancelled).Owned := by
  unfold removeRequest
  split
  next => exact h
  next request hget =>
    have htaken := OwnedWith.take h hget
    simp only
    split
    next => exact htaken.destroyRequest
    next b _ => exact overlayRequestRemoved_owned htaken b webState cancelled

theorem cancelRequest_owned (h : s.Owned) (webState : W) (request : OverlayRequest W) :
    (s.cancelRequest webState request).Owned := by
  unfold cancelRequest
  split
  · exact h
  · exact removeRequest_owned h webState _ true

theorem cancelAllLoop_owned (webState : W) (rounds : Nat) (h : s.Owned) :
    (cancelAllLoop webState rounds s).Owned := by
  induction rounds generalizing s with
  | zero => exact h
  | succ rounds ih => exact ih (removeRequest_owned h webState _ true)

variable (factory : OverlayRequestCoordinatorFactory W)

/-- A new request is put into a queue. -/
theorem OwnedWith.add (h : s.Owned) (webState : W) {index : Nat}
    (hindex : index ≤ (s.queues webState).requests.length) :
    (({ s with added := s.added ++ [⟨s.added.length, webState⟩] } : System W B C).modifyQueue
      webState fun queue => { queue with
        requests := queue.requests.insertIdx index ⟨s.added.length, webState⟩ }).Owned := by
  set request : OverlayRequest W := ⟨s.added.length, webState⟩ with hrequest
  set s' := ({ s with added := s.added ++ [request] } : System W B C).modifyQueue webState
    fun queue => { queue with requests := queue.requests.insertIdx index request } with hs'
  have hfresh : request ∉ s.added := by
    intro hmem
    obtain ⟨i, hi, hget⟩ := List.getElem_of_mem hmem
    have hid := h.ids i request (List.getElem?_eq_some_iff.2 ⟨hi, hget⟩)
    have hid' : s.added.length = i := hid
    omega
  have hrequests : ∀ webState', (s'.queues webState').requests =
      if webState' = webState then (s.queues webState).requests.insertIdx index request
      else (s.queues webState').requests := by
    intro webState'
    rw [hs', modifyQueue_queues]
    split
    · rfl
    · rfl
  have hqueued : ∀ request', s'.Queued request' ↔ request' = request ∨ s.Queued request' := by
    intro request'
    unfold Queued
    rw [hrequests]
    split
    next heq => rw [List.mem_insertIdx hindex, heq]
    next hne =>
      refine (or_iff_right ?_).symm
      rintro rfl
      exact hne rfl
  have hmem : ∀ {request'}, request' ∈ s.added → request' ∈ s'.added :=
    fun hin => List.mem_append_left _ hin
  have hold : ∀ {request'}, request' ∈ s.added → ¬ s.Queued request' → ¬ s'.Queued request' := by
    intro request' hin hq hq'
    rcases (hqueued request').1 hq' with rfl | hq''
    · exact hfresh hin
    · exact hq hq''
  refine ⟨?_, ?_, ?_, ?_, h.destroyedOnce, ?_, nofun, ?_⟩
  · intro webState'
    rw [hrequests]
    split
    · refine (List.perm_insertIdx _ _ hindex).nodup_iff.2 (List.nodup_cons.2 ⟨?_, h.nodup webState⟩)
      exact fun hin => hfresh (h.queued webState request hin).2
    · exact h.nodup webState'
  · intro webState' request' hin
    rw [hrequests] at hin
    split at hin
    next heq =>
      rcases (List.mem_insertIdx hindex).1 hin with rfl | hin
      · exact ⟨heq.symm, List.mem_append_right _ (List.mem_singleton.2 rfl)⟩
      · obtain ⟨hweb, hadded⟩ := h.queued webState request' hin
        exact ⟨hweb.trans heq.symm, hmem hadded⟩
    next =>
      obtain ⟨hweb, hadded⟩ := h.queued webState' request' hin
      exact ⟨hweb, hmem hadded⟩
  · intro b request' hb
    obtain ⟨ha, hq, hd, hunique⟩ := h.held b request' hb
    exact ⟨hmem ha, hold ha hq, hd, hunique⟩
  · intro request' hd
    obtain ⟨ha, hq⟩ := h.destroyed request' hd
    exact ⟨hmem ha, hold ha hq⟩
  · intro request' hin
    rcases List.mem_append.1 hin with ha | hnew
    · rcases h.located request' ha with hl | hq | hb | hd
      · cases hl
      · exact .inr (.inl ((hqueued request').2 (.inr hq)))
      · exact .inr (.inr (.inl hb))
      · exact .inr (.inr (.inr hd))
    · exact .inr (.inl ((hqueued request').2 (.inl (List.mem_singleton.1 hnew))))
  · intro i request' hget
    have hget' : (s.added ++ [request])[i]? = some request' := hget
    rw [List.getElem?_append] at hget'
    split at hget'
    next => exact h.ids i request' hget'
    next hge =>
      rw [List.getElem?_singleton] at hget'
      split at hget'
      next hzero =>
        cases hget'
        show s.added.length = i
        omega
      next => cases hget'

theorem insertRequest_owned (h : s.Owned) (webState : W) {index : Nat}
    (hindex : index ≤ (s.queues webState).requests.length) :
    (s.insertRequest factory webState index).Owned :=
  (OwnedWith.add h webState hindex).kept (foldl_requestAddedToQueue_kept factory _ webState _ _)

theorem webStateDestroyed_owned (h : s.Owned) (webState : W) :
    (s.webStateDestroyed webState).Owned := by
  have hkept : Kept s (s.modifyQueue webState ({ · with observers := [] })) :=
    modifyQueue_kept s webState rfl
  have hcancelled := cancelAllLoop_owned webState
    ((s.modifyQueue webState ({ · with observers := [] })).queues webState).requests.length
    (OwnedWith.kept h hkept)
  exact ⟨hcancelled.nodup, hcancelled.queued, hcancelled.held, hcancelled.destroyed,
    hcancelled.destroyedOnce, hcancelled.located, hcancelled.loose, hcancelled.ids⟩

/-- The presenter's part of the bookkeeping before the held request is dropped. -/
theorem modifyPresenter_kept (s : System W B C) (b : B)
    {f : OverlayPresenterImpl W C → OverlayPresenterImpl W C}
    (h : (f (s.browsers b).presenter).removedRequestAwaitingDismissal =
      (s.browsers b).presenter.removedRequestAwaitingDismissal) :
    Kept s (s.modifyPresenter b f) :=
  modifyBrowser_kept s b ⟨h, rfl⟩

theorem present_kept (s : System W B C) (b : B) :
    Kept s (s.modifyBrowser b (·.presentOverlayForActiveRequest factory s.queues)) :=
  modifyBrowser_kept s b (Browser.presentOverlayForActiveRequest_kept factory s.queues _)

theorem endPresentation_owned (h : s.Owned) (b : B) (request : OverlayRequest W) (queue : W)
    (reason : OverlayDismissalReason) :
    (s.endPresentation b request queue reason).Owned := by
  have hpopped : (if s.PopsFrontRequest b request queue reason then s.popFrontRequest queue
      else s).Owned := by
    split
    · exact removeRequest_owned h queue 0 false
    · exact h
  exact (OwnedWith.kept hpopped (modifyPresenter_kept _ b (f := fun presenter =>
    { presenter with
      presenting := false
      presentedRequest := none
      detachedPresentingRequestQueue := none }) rfl)).setRemovedRequest b

theorem overlayWasDismissed_owned (h : s.Owned) (b : B) (context : C) (request : OverlayRequest W)
    (queue : W) (reason : OverlayDismissalReason) :
    (s.overlayWasDismissed factory b context request queue reason).Owned := by
  unfold overlayWasDismissed
  split
  · exact h
  · split
    · have hflags := OwnedWith.kept h (modifyPresenter_kept s b (f := fun presenter =>
        { presenter with presenting := false, detachedQueueReplacedDelegate := false }) rfl)
      exact hflags.kept (present_kept factory _ b)
    · have hended := endPresentation_owned h b request queue reason
      simp only
      split
      · exact OwnedWith.kept hended (present_kept factory _ b)
      · exact hended

theorem resetRequest_owned (h : s.Owned) (b : B) (context : C) (request : OverlayRequest W) :
    (s.resetRequest factory b context request).Owned := by
  have hwrite : ∀ {s' : System W B C} (f : Browser W C → OverlayPresentationContext W),
      s'.Owned → (s'.modifyBrowser b fun br => br.setContext context (f br)).Owned :=
    fun f h' => OwnedWith.kept h' (modifyBrowser_kept _ b ⟨rfl, rfl⟩)
  unfold resetRequest
  simp only
  refine hwrite _ ?_
  split
  · exact h
  · split
    · split
      · exact hwrite _ h
      · exact overlayWasDismissed_owned factory (hwrite _ h) b context request _ _
    · exact h

theorem overlayUIWasDismissed_owned (h : s.Owned) (b : B) (context : C) :
    (s.overlayUIWasDismissed factory b context).Owned := by
  unfold overlayUIWasDismissed
  split
  · exact h
  · next shown _ =>
    have htaken : (s.modifyBrowser b fun br =>
        br.setContext context ((br.contexts context).takeCallback shown.request)).Owned :=
      OwnedWith.kept h (modifyBrowser_kept s b ⟨rfl, rfl⟩)
    have hdismissed := overlayWasDismissed_owned factory htaken b context shown.request
      shown.queue shown.reason
    simp only
    split
    · exact resetRequest_owned factory hdismissed b context shown.request
    · exact hdismissed

/-- An edit of the tabs keeps the requests and their owners. -/
theorem OwnedWith.edit (h : s.Owned) (b : B) (e : Edit W) :
    (s.edit factory b e).Owned := by
  have hcalls := OwnedWith.kept h (foldl_onCall_kept factory b
    (e.calls (s.browsers b).webStateList) s)
  unfold System.edit
  simp only
  generalize (e.calls (s.browsers b).webStateList).foldl (onCall factory b) s = s' at hcalls
  have hheld : ∀ b', (s'.modifyBrowser b
      ({ · with webStateList := e.apply (s.browsers b).webStateList })).held b' = s'.held b' := by
    intro b'
    unfold System.held
    rw [modifyBrowser_browsers]
    split
    next heq => rw [heq]
    next => rfl
  refine ⟨hcalls.nodup, hcalls.queued, ?_, hcalls.destroyed, hcalls.destroyedOnce, ?_, nofun,
    hcalls.ids⟩
  · intro b' request hb'
    rw [hheld] at hb'
    obtain ⟨ha, hq, hd, hunique⟩ := hcalls.held b' request hb'
    refine ⟨ha, hq, hd, fun b'' hb'' => ?_⟩
    rw [hheld] at hb''
    exact hunique b'' hb''
  · intro request ha
    simp only [hheld]
    exact hcalls.located request ha

/-- **Every event keeps every request in one place.** -/
theorem step_owned (h : s.Owned) {event : Event W B C} (henabled : s.Enabled event) :
    (s.step factory event).Owned := by
  cases event with
  | edit b e => exact OwnedWith.edit factory h b e
  | webStateDestroyed webState => exact webStateDestroyed_owned h webState
  | addRequest webState => exact insertRequest_owned factory h webState (Nat.le_refl _)
  | insertRequest webState index => exact insertRequest_owned factory h webState henabled.2
  | cancelRequest webState request => exact cancelRequest_owned h webState request
  | cancelAllRequests webState => exact cancelAllLoop_owned webState _ h
  | setPresentationContext b presentationContext =>
    exact OwnedWith.kept h (modifyBrowser_kept s b
      (f := (·.setPresentationContext factory s.queues presentationContext))
      (Browser.setPresentationContext_kept factory s.queues _ presentationContext))
  | updatePresentationCapabilities b context capabilities =>
    exact OwnedWith.kept h (modifyBrowser_kept s b
      (f := (·.updatePresentationCapabilities factory s.queues context capabilities))
      (Browser.updatePresentationCapabilities_kept factory s.queues _ context capabilities))
  | presentationContextReady b context =>
    exact OwnedWith.kept h (modifyBrowser_kept s b
      (f := (·.presentationContextReady factory s.queues))
      (Browser.presentationContextReady_kept factory s.queues _))
  | dismissedByUser b context =>
    exact OwnedWith.kept h (modifyBrowser_kept s b
      (f := fun br => br.setContext context (br.contexts context).dismissByUser) ⟨rfl, rfl⟩)
  | overlayUIDidFinishDismissal b context => exact overlayUIWasDismissed_owned factory h b context

theorem init_owned (h : (overlayMachine W B C factory).init s) : s.Owned := by
  obtain ⟨capabilities, rfl⟩ := h
  exact ⟨fun _ => List.nodup_nil, nofun, nofun, nofun, List.nodup_nil, nofun, nofun, nofun⟩

/-- **In every reachable state every request added is in its queue, held by one
presenter, or destroyed, and destroyed once.** -/
theorem owned_reachable (h : (overlayMachine W B C factory).Reachable s) :
    s.Owned :=
  h.invariant (fun _ => init_owned factory) fun _ _ h henabled => step_owned factory h henabled

/-- **A request is never lost, shared or destroyed twice**: in every reachable state it is
once in its queue, held by one presenter, or destroyed once, and nowhere else. -/
theorem request_in_one_place {s : System W B C}
    (h : (overlayMachine W B C factory).Reachable s) {request : OverlayRequest W}
    (hadded : request ∈ s.added) :
    (∀ webState ≠ request.queueWebState, request ∉ (s.queues webState).requests) ∧
      ((s.queues request.queueWebState).requests.count request +
          s.destroyedRequests.count request = 1 ∧ (∀ b, s.held b ≠ some request) ∨
        ¬ s.Queued request ∧ request ∉ s.destroyedRequests ∧ ∃! b, s.held b = some request) := by
  have howned := owned_reachable factory h
  refine ⟨fun webState hne hmem => hne (howned.queued webState request hmem).1.symm, ?_⟩
  rcases howned.located request hadded with hloose | hqueued | ⟨b, hb⟩ | hdestroyed
  · cases hloose
  · have hnot : request ∉ s.destroyedRequests := fun hd => (howned.destroyed request hd).2 hqueued
    rw [List.count_eq_one_of_mem (howned.nodup _) hqueued, List.count_eq_zero.2 hnot]
    exact .inl ⟨rfl, fun b hb => (howned.held b request hb).2.1 hqueued⟩
  · obtain ⟨_, hqueued, hdestroyed, hunique⟩ := howned.held b request hb
    exact .inr ⟨hqueued, hdestroyed, b, hb, hunique⟩
  · have hnot : request ∉ (s.queues request.queueWebState).requests :=
      (howned.destroyed request hdestroyed).2
    rw [List.count_eq_one_of_mem howned.destroyedOnce hdestroyed, List.count_eq_zero.2 hnot]
    exact .inl ⟨rfl, fun b hb => (howned.held b request hb).2.2.1 hdestroyed⟩

/-- A request that is cancelled. -/
theorem request_in_one_place_cancelled :
    let s := (overlayMachine Nat Bool Bool (childFactory Nat)).exec (start Nat Bool Bool)
      [.edit true (.insert 1 0 true), .addRequest 1, .cancelRequest 1 ⟨0, 1⟩]
    s.destroyedRequests.count ⟨0, 1⟩ = 1 := by
  intro s
  have hadded : (⟨0, 1⟩ : OverlayRequest Nat) ∈ s.added := by decide +kernel
  have hplace := (request_in_one_place (childFactory Nat)
    ⟨start Nat Bool Bool, _, ⟨_, rfl⟩, by decide +kernel, rfl⟩ hadded).2
  rcases hplace with hcount | hheld
  · have hqueue : (s.queues 1).requests.count ⟨0, 1⟩ = 0 := by decide +kernel
    have hsum := hcount.1
    rw [hqueue, Nat.zero_add] at hsum
    exact hsum
  · exact absurd (by decide +kernel) hheld.2.1

end System

end IosChrome.Overlays

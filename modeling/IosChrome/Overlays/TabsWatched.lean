import IosChrome.Overlays.SteadyContext

/-!
# The presenter and the tabs of its window

A presenter keeps its own pointer to the active tab and observes the queue of
each tab of its window. Both are kept by calls of the `WebStateList`, so they
can only lag behind within an edit: `Watched` says that between events the
pointer is the active tab and the queue of every tab is observed.

No other event touches the tabs, the pointers or the observers (`SameTabs`),
apart from the destruction of a tab, which is in no window then.
-/

set_option linter.unusedSectionVars false

namespace IosChrome.Overlays

open Tabs (ActiveWebStateChangeReason ObserverCall View Edit)

variable {W B C : Type} [DecidableEq W] [DecidableEq B] [DecidableEq C]
variable {factory : OverlayRequestCoordinatorFactory W}

/-! ## In one window -/

namespace Browser

/-- The tabs and the pointer to the active one are as they were. -/
structure SameTabs (br br' : Browser W C) : Prop where
  activeWebState : br'.presenter.activeWebState = br.presenter.activeWebState
  webStateList : br'.webStateList = br.webStateList

theorem SameTabs.refl (br : Browser W C) : SameTabs br br := ⟨rfl, rfl⟩

theorem present_sameTabs (queues : W → OverlayRequestQueue W B) (br : Browser W C) :
    SameTabs br (br.presentOverlayForActiveRequest factory queues) := by
  rcases presentOverlayForActiveRequest_cases factory queues br with
    ⟨context, webState, request, hshows⟩ | ⟨hsame, _⟩
  · rw [hshows.result]
    exact ⟨rfl, rfl⟩
  · rw [hsame]
    exact .refl br

theorem hideOverlayUI_sameTabs (br : Browser W C) (request : OverlayRequest W) :
    SameTabs br (br.hideOverlayUI request) :=
  ⟨by rw [hideOverlayUI_presenter], (hideOverlayUI_kept br request).tabs⟩

theorem cancelOverlayUIForRequest_sameTabs (br : Browser W C)
    (request : Option (OverlayRequest W)) : SameTabs br (br.cancelOverlayUIForRequest request) :=
  ⟨by rw [cancelOverlayUIForRequest_presenter], (cancelOverlayUIForRequest_kept br request).tabs⟩

theorem requestAddedToQueue_sameTabs (queues : W → OverlayRequestQueue W B) (br : Browser W C)
    (webState : W) (request : OverlayRequest W) :
    SameTabs br (br.requestAddedToQueue factory queues webState request) := by
  have h := requestAddedToQueue_cases factory queues br webState request
  generalize br.requestAddedToQueue factory queues webState request = br' at h
  cases h with
  | inactive => exact .refl br
  | present => exact present_sameTabs queues br
  | wait => exact .refl br
  | hide presented => exact hideOverlayUI_sameTabs br presented

theorem cancelAllOverlayUI_presenter (queues : W → OverlayRequestQueue W B) (br : Browser W C) :
    (br.cancelAllOverlayUI queues).presenter = br.presenter := by
  unfold cancelAllOverlayUI
  generalize br.webStateList.tabs = tabs
  induction tabs generalizing br with
  | nil => rfl
  | cons webState tabs ih =>
    rw [List.foldl_cons, ih, cancelOverlayUIForRequest_presenter]

theorem setPresentationContext_sameTabs (queues : W → OverlayRequestQueue W B) (br : Browser W C)
    (presentationContext : Option C) :
    SameTabs br (br.setPresentationContext factory queues presentationContext) := by
  refine ⟨?_, (setPresentationContext_kept factory queues br presentationContext).tabs⟩
  unfold setPresentationContext
  rw [(present_sameTabs queues _).activeWebState]
  show (br.cancelAllOverlayUI queues).presenter.activeWebState = _
  rw [cancelAllOverlayUI_presenter]

theorem presentationContextReady_sameTabs (queues : W → OverlayRequestQueue W B)
    (br : Browser W C) : SameTabs br (br.presentationContextReady factory queues) := by
  unfold presentationContextReady
  split
  · exact present_sameTabs queues br
  · exact .refl br

theorem updatePresentationCapabilities_sameTabs (queues : W → OverlayRequestQueue W B)
    (br : Browser W C) (context : C) (capabilities : UIPresentationCapabilities) :
    SameTabs br (br.updatePresentationCapabilities factory queues context capabilities) := by
  refine ⟨?_, (updatePresentationCapabilities_kept factory queues br context capabilities).tabs⟩
  unfold updatePresentationCapabilities
  split
  · rfl
  · split
    · rfl
    · rw [(presentationContextReady_sameTabs queues _).activeWebState]
      show (br.willChangePresentationCapabilities factory capabilities).presenter.activeWebState = _
      rw [willChangePresentationCapabilities_presenter]

/-- The pointer follows the tab it is told. -/
theorem setActiveWebState_activeWebState (queues : W → OverlayRequestQueue W B)
    (br : Browser W C) (webState : Option W) (reason : ActiveWebStateChangeReason) :
    (br.setActiveWebState factory queues webState reason).presenter.activeWebState = webState := by
  have h := setActiveWebState_cases factory queues br webState reason
  generalize br.setActiveWebState factory queues webState reason = br' at h
  cases h with
  | same hsame => exact hsame
  | ignored => rfl
  | present => exact (present_sameTabs queues _).activeWebState
  | cancel request => exact (cancelOverlayUIForRequest_sameTabs _ _).activeWebState
  | hide request => exact (hideOverlayUI_sameTabs _ _).activeWebState

end Browser

namespace System

/-! ## In the system -/

/-- The tabs, the pointers and the observers are as they were. -/
structure SameTabs (s s' : System W B C) : Prop where
  browsers : ∀ b, Browser.SameTabs (s.browsers b) (s'.browsers b)
  observers : ∀ webState, (s'.queues webState).observers = (s.queues webState).observers

theorem SameTabs.refl (s : System W B C) : SameTabs s s := ⟨fun _ => .refl _, fun _ => rfl⟩

theorem SameTabs.trans {s₁ s₂ s₃ : System W B C} (h₁ : SameTabs s₁ s₂) (h₂ : SameTabs s₂ s₃) :
    SameTabs s₁ s₃ :=
  ⟨fun b => ⟨(h₂.browsers b).activeWebState.trans (h₁.browsers b).activeWebState,
    (h₂.browsers b).webStateList.trans (h₁.browsers b).webStateList⟩,
    fun webState => (h₂.observers webState).trans (h₁.observers webState)⟩

theorem modifyBrowser_sameTabs (s : System W B C) (b : B) {f : Browser W C → Browser W C}
    (h : Browser.SameTabs (s.browsers b) (f (s.browsers b))) :
    SameTabs s (s.modifyBrowser b f) := by
  refine ⟨fun b' => ?_, fun _ => rfl⟩
  rw [modifyBrowser_browsers]
  split
  next heq =>
    rw [heq]
    exact h
  next => exact .refl _

theorem modifyPresenter_sameTabs (s : System W B C) (b : B)
    {f : OverlayPresenterImpl W C → OverlayPresenterImpl W C}
    (h : (f (s.browsers b).presenter).activeWebState = (s.browsers b).presenter.activeWebState) :
    SameTabs s (s.modifyPresenter b f) := by
  unfold modifyPresenter
  exact modifyBrowser_sameTabs s b ⟨h, rfl⟩

theorem modifyQueue_sameTabs (s : System W B C) (webState : W)
    {f : OverlayRequestQueue W B → OverlayRequestQueue W B}
    (h : (f (s.queues webState)).observers = (s.queues webState).observers) :
    SameTabs s (s.modifyQueue webState f) := by
  refine ⟨fun _ => .refl _, fun webState' => ?_⟩
  rw [modifyQueue_queues]
  split
  next heq =>
    rw [heq]
    exact h
  next => rfl

theorem setRemovedRequest_sameTabs (s : System W B C) (b : B)
    (request : Option (OverlayRequest W)) : SameTabs s (s.setRemovedRequest b request) := by
  have hwrite : SameTabs s (s.modifyPresenter b
      ({ · with removedRequestAwaitingDismissal := request })) := modifyPresenter_sameTabs s b rfl
  unfold setRemovedRequest
  simp only
  split
  · exact hwrite
  · exact hwrite.trans ⟨fun _ => .refl _, fun _ => rfl⟩

theorem setDelegate_sameTabs (s : System W B C) (webState : W) (delegate : Option B) :
    SameTabs s (s.setDelegate webState delegate) := by
  unfold setDelegate
  split
  · exact .refl s
  · split
    · exact modifyQueue_sameTabs s webState rfl
    · next b _ =>
      have hforgets : SameTabs s (s.modifyPresenter b
          (·.overlayRequestQueueWillReplaceDelegate (s.queues webState).frontRequest)) := by
        refine modifyPresenter_sameTabs s b ?_
        unfold OverlayPresenterImpl.overlayRequestQueueWillReplaceDelegate
        split <;> rfl
      exact hforgets.trans (modifyQueue_sameTabs _ webState rfl)

theorem cancelRemoved_sameTabs (s : System W B C) (b : B) (request : OverlayRequest W)
    (cancelled : Bool) : SameTabs s (s.cancelRemoved b request cancelled) := by
  unfold cancelRemoved
  split
  · exact modifyBrowser_sameTabs s b (Browser.cancelOverlayUIForRequest_sameTabs _ _)
  · exact .refl s

theorem overlayRequestRemoved_sameTabs (s : System W B C) (b : B) (webState : W)
    (request : OverlayRequest W) (cancelled : Bool) :
    SameTabs s (s.overlayRequestRemoved b webState request cancelled) := by
  have hheld : SameTabs s (s.holdRequest b webState request) := by
    unfold holdRequest
    simp only
    split
    · exact ((setRemovedRequest_sameTabs s b _).trans (modifyPresenter_sameTabs _ b rfl)).trans
        (setDelegate_sameTabs _ webState none)
    · exact setRemovedRequest_sameTabs s b _
  unfold overlayRequestRemoved
  split
  · exact hheld.trans (cancelRemoved_sameTabs _ b request cancelled)
  · exact (cancelRemoved_sameTabs s b request cancelled).trans ⟨fun _ => .refl _, fun _ => rfl⟩

theorem removeRequest_sameTabs (s : System W B C) (webState : W) (index : Nat) (cancelled : Bool) :
    SameTabs s (s.removeRequest webState index cancelled) := by
  unfold removeRequest
  split
  · exact .refl s
  next request _ =>
    have hqueue : SameTabs s (s.modifyQueue webState fun queue =>
        { queue with requests := queue.requests.eraseIdx index }) :=
      modifyQueue_sameTabs s webState rfl
    simp only
    split
    · exact hqueue.trans ⟨fun _ => .refl _, fun _ => rfl⟩
    · exact hqueue.trans (overlayRequestRemoved_sameTabs _ _ webState request cancelled)

theorem cancelAllLoop_sameTabs (webState : W) : ∀ (rounds : Nat) (s : System W B C),
    SameTabs s (cancelAllLoop webState rounds s)
  | 0, s => .refl s
  | rounds + 1, s => (removeRequest_sameTabs s webState _ true).trans
      (cancelAllLoop_sameTabs webState rounds _)

/-! ### Dismissals -/

theorem endPresentation_sameTabs (s : System W B C) (b : B) (request : OverlayRequest W) (queue : W)
    (reason : OverlayDismissalReason) :
    SameTabs s (s.endPresentation b request queue reason) := by
  have hpopped : SameTabs s
      (if s.PopsFrontRequest b request queue reason then s.popFrontRequest queue else s) := by
    split
    · exact removeRequest_sameTabs s queue 0 false
    · exact .refl s
  exact (hpopped.trans (modifyPresenter_sameTabs _ b rfl)).trans
    (setRemovedRequest_sameTabs _ b none)

variable (factory) in
theorem overlayWasDismissed_sameTabs (s : System W B C) (b : B) (context : C)
    (request : OverlayRequest W) (queue : W) (reason : OverlayDismissalReason) :
    SameTabs s (s.overlayWasDismissed factory b context request queue reason) := by
  have hpresent : ∀ s' : System W B C, SameTabs s' (s'.modifyBrowser b
      (·.presentOverlayForActiveRequest factory s'.queues)) := fun s' =>
    modifyBrowser_sameTabs s' b (Browser.present_sameTabs s'.queues _)
  have hcases := overlayWasDismissed_cases factory s b context request queue reason
  generalize s.overlayWasDismissed factory b context request queue reason = s' at hcases
  cases hcases with
  | ignored => exact .refl s
  | replaced =>
    have hleft : SameTabs s (s.leaveReplaced b) := modifyPresenter_sameTabs s b rfl
    exact hleft.trans (hpresent _)
  | next => exact (endPresentation_sameTabs s b request queue reason).trans (hpresent _)
  | unchanged => exact endPresentation_sameTabs s b request queue reason

theorem resetRequest_sameTabs (s : System W B C) (b : B) (context : C)
    (request : OverlayRequest W) : SameTabs s (s.resetRequest factory b context request) := by
  have hwrite : ∀ (s' : System W B C) (f : Browser W C → OverlayPresentationContext W),
      SameTabs s' (s'.modifyBrowser b fun br => br.setContext context (f br)) := fun s' f =>
    modifyBrowser_sameTabs s' b ⟨rfl, rfl⟩
  unfold resetRequest
  refine SameTabs.trans ?_ (hwrite _ _)
  simp only
  split
  next => exact .refl s
  next =>
    split
    next =>
      split
      next => exact hwrite s _
      next => exact (hwrite s _).trans (overlayWasDismissed_sameTabs factory _ b context request _ _)
    next => exact .refl s

variable (factory) in
theorem overlayUIWasDismissed_sameTabs (s : System W B C) (b : B) (context : C) :
    SameTabs s (s.overlayUIWasDismissed factory b context) := by
  cases hx : ((s.browsers b).contexts context).shown with
  | none =>
    unfold overlayUIWasDismissed
    rw [hx]
    exact .refl s
  | some x =>
    have htaken : SameTabs s (s.takeCallback b context x) :=
      modifyBrowser_sameTabs s b ⟨rfl, rfl⟩
    have hdismissed := htaken.trans (overlayWasDismissed_sameTabs factory
      (s.takeCallback b context x) b context x.request x.queue x.reason)
    rw [overlayUIWasDismissed_eq hx]
    split
    · exact hdismissed.trans (resetRequest_sameTabs _ b context x.request)
    · exact hdismissed

/-! ## The tabs as the presenter knows them -/

/-- In every window the tabs are distinct, the presenter points to the active
one, and it observes the queue of each. -/
structure Watched (s : System W B C) : Prop where
  wellFormed : ∀ b, (s.browsers b).webStateList.WellFormed
  active : ∀ b, (s.browsers b).presenter.activeWebState = (s.browsers b).webStateList.active
  observed : ∀ b, ∀ webState ∈ (s.browsers b).webStateList.tabs,
    b ∈ (s.queues webState).observers

theorem SameTabs.watched {s s' : System W B C} (h : SameTabs s s') (hwatched : s.Watched) :
    s'.Watched := by
  refine ⟨fun b => ?_, fun b => ?_, fun b webState hmem => ?_⟩
  · rw [(h.browsers b).webStateList]
    exact hwatched.wellFormed b
  · rw [(h.browsers b).activeWebState, (h.browsers b).webStateList]
    exact hwatched.active b
  · rw [(h.browsers b).webStateList] at hmem
    rw [h.observers]
    exact hwatched.observed b webState hmem

/-- The observers of a queue after a tab was put into a window. -/
theorem webStateAddedToBrowser_observers (s : System W B C) (b : B) (webState webState' : W)
    (b' : B) : b' ∈ ((s.webStateAddedToBrowser b webState).queues webState').observers ↔
      b' ∈ (s.queues webState').observers ∨ (webState' = webState ∧ b' = b) := by
  unfold webStateAddedToBrowser
  rw [(setDelegate_sameTabs _ webState _).observers, modifyQueue_queues]
  by_cases heq : webState' = webState
  · rw [if_pos heq, heq]
    by_cases hmem : b ∈ (s.queues webState).observers
    · simp only [hmem, if_true, true_and]
      exact ⟨.inl, fun h => h.elim id fun h => h ▸ hmem⟩
    · simp only [hmem, if_false, List.mem_append, List.mem_singleton, true_and]
  · rw [if_neg heq]
    exact ⟨.inl, fun h => h.elim id fun h => absurd h.1 heq⟩

theorem webStateRemovedFromBrowser_observers (s : System W B C) (b : B) (webState webState' : W)
    (b' : B) : b' ∈ ((s.webStateRemovedFromBrowser b webState).queues webState').observers ↔
      b' ∈ (s.queues webState').observers ∧ ¬ (webState' = webState ∧ b' = b) := by
  have hqueue : b' ∈ ((s.modifyQueue webState fun queue => { queue with
      observers := queue.observers.filter (· ≠ b) }).queues webState').observers ↔
        b' ∈ (s.queues webState').observers ∧ ¬ (webState' = webState ∧ b' = b) := by
    rw [modifyQueue_queues]
    by_cases heq : webState' = webState
    · rw [if_pos heq, heq]
      simp only [List.mem_filter, decide_eq_true_eq, ne_eq, true_and]
    · rw [if_neg heq]
      exact ⟨fun h => ⟨h, fun h' => heq h'.1⟩, And.left⟩
  rw [← hqueue]
  unfold webStateRemovedFromBrowser
  simp only
  generalize s.modifyQueue webState _ = s₁
  have hdelegate : SameTabs s₁ (if (s₁.browsers b).presenter.presentedRequest.any
      (·.queueWebState = webState) then s₁ else s₁.setDelegate webState none) := by
    split
    · exact .refl s₁
    · exact setDelegate_sameTabs s₁ webState none
  generalize (if (s₁.browsers b).presenter.presentedRequest.any
    (·.queueWebState = webState) then s₁ else s₁.setDelegate webState none) = s₂ at hdelegate
  rw [← hdelegate.observers]
  split
  · rfl
  · rfl

/-! ### Edits -/

/-- The tab an edit takes out of a window. -/
def editRemoves : Edit W → Option W
  | .replace oldWebState _ _ _ => some oldWebState
  | .detach webState _ => some webState
  | .detachActive webState _ _ _ => some webState
  | _ => none

/-- A tab that is gone from its place is gone. -/
theorem ne_of_mem_eraseIdx {l : List W} (h : l.Nodup) {index : Nat} {x y : W}
    (hx : l[index]? = some x) (hy : y ∈ l.eraseIdx index) : y ≠ x := by
  rintro rfl
  rw [List.mem_eraseIdx_iff_getElem?] at hy
  obtain ⟨i, hi, hget⟩ := hy
  obtain ⟨hlt, hat⟩ := List.getElem?_eq_some_iff.1 hget
  obtain ⟨hlt', hat'⟩ := List.getElem?_eq_some_iff.1 hx
  exact hi (h.getElem_inj_iff.1 (hat.trans hat'.symm))

/-- The tabs after a legal edit are those that stay and the one it puts in. -/
theorem mem_apply_tabs {v : View W} (h : v.WellFormed) {e : Edit W} (hlegal : e.Legal v) {w : W}
    (hw : w ∈ (e.apply v).tabs) :
    w ∈ v.tabs ∧ editRemoves e ≠ some w ∨ editInserts e = some w := by
  cases e with
  | insert webState index activating =>
    rcases (List.mem_insertIdx hlegal.2).1 hw with rfl | hmem
    · exact .inr rfl
    · exact .inl ⟨hmem, nofun⟩
  | move webState fromIndex toIndex =>
    obtain ⟨hget, hto⟩ := hlegal
    have hlength : toIndex ≤ (v.tabs.eraseIdx fromIndex).length := by
      rw [List.length_eraseIdx, if_pos (List.getElem?_eq_some_iff.1 hget).1]
      omega
    refine .inl ⟨?_, nofun⟩
    rcases (List.mem_insertIdx hlength).1 hw with rfl | hmem
    · exact List.mem_of_getElem? hget
    · exact List.mem_of_mem_eraseIdx hmem
  | replace oldWebState newWebState index activeIndex =>
    have hmem : w ∈ v.tabs.set index newWebState := hw
    rw [List.set_eq_take_append_cons_drop, if_pos (List.getElem?_eq_some_iff.1 hlegal.1).1,
      List.mem_append, List.mem_cons] at hmem
    have hstays : w ∈ v.tabs.eraseIdx index → w ∈ v.tabs ∧ some oldWebState ≠ some w := fun hin =>
      ⟨List.mem_of_mem_eraseIdx hin, fun heq =>
        ne_of_mem_eraseIdx h.nodup hlegal.1 hin (Option.some.inj heq).symm⟩
    rcases hmem with hbefore | rfl | hafter
    · refine .inl (hstays ?_)
      rw [List.eraseIdx_eq_take_drop_succ]
      exact List.mem_append_left _ hbefore
    · exact .inr rfl
    · refine .inl (hstays ?_)
      rw [List.eraseIdx_eq_take_drop_succ]
      exact List.mem_append_right _ hafter
  | detach webState index =>
    exact .inl ⟨List.mem_of_mem_eraseIdx hw, fun heq =>
      ne_of_mem_eraseIdx h.nodup hlegal.1 hw (Option.some.inj heq).symm⟩
  | detachActive webState index newActive activeIndex =>
    exact .inl ⟨List.mem_of_mem_eraseIdx hw, fun heq =>
      ne_of_mem_eraseIdx h.nodup hlegal.1 hw (Option.some.inj heq).symm⟩
  | close webState index userAction => exact .inl ⟨hw, nofun⟩
  | activate newActive activeIndex reason => exact .inl ⟨hw, nofun⟩
  | beginBatch => exact .inl ⟨hw, nofun⟩
  | endBatch => exact .inl ⟨hw, nofun⟩

theorem willDetachWebStateAt_observers (s : System W B C) (b : B) (webState webState' : W)
    (b' : B) : b' ∈ ((s.willDetachWebStateAt b webState).queues webState').observers ↔
      b' ∈ (s.queues webState').observers ∧ ¬ (webState' = webState ∧ b' = b) := by
  unfold willDetachWebStateAt
  exact webStateRemovedFromBrowser_observers _ b webState webState' b'

/-- The presenter stops observing the tab taken out, and observes the one put in. -/
theorem foldl_onCall_observers (s : System W B C) (b : B) (e : Edit W) {webState : W} {b' : B}
    (h : b' ∈ (s.queues webState).observers ∧ ¬ (editRemoves e = some webState ∧ b' = b) ∨
      editInserts e = some webState ∧ b' = b) :
    b' ∈ (((e.calls (s.browsers b).webStateList).foldl (onCall factory b) s).queues
      webState).observers := by
  have hkept : ∀ e' : Edit W, editInserts e' = none → e = e' →
      b' ∈ (s.queues webState).observers := by
    rintro e' hnone rfl
    rcases h with h | h
    · exact h.1
    · exact absurd (hnone.symm.trans h.1) nofun
  have hremoved : ∀ webState', editRemoves e = some webState' → editInserts e = none →
      b' ∈ (s.queues webState).observers ∧ ¬ (webState = webState' ∧ b' = b) := by
    intro webState' hsome hnone
    rcases h with h | h
    · exact ⟨h.1, fun heq => h.2 ⟨hsome.trans (congrArg some heq.1.symm), heq.2⟩⟩
    · exact absurd (hnone.symm.trans h.1) nofun
  cases e with
  | insert webState' index activating =>
    refine (webStateAddedToBrowser_observers s b webState' webState b').2 ?_
    exact h.imp And.left fun h => ⟨(Option.some.inj h.1).symm, h.2⟩
  | move webState' fromIndex toIndex => exact hkept _ rfl rfl
  | replace oldWebState newWebState index activeIndex =>
    refine (webStateAddedToBrowser_observers _ b newWebState webState b').2 ?_
    rw [webStateRemovedFromBrowser_observers]
    exact h.imp (fun h => ⟨h.1, fun heq => h.2 ⟨congrArg some heq.1.symm, heq.2⟩⟩)
      fun h => ⟨(Option.some.inj h.1).symm, h.2⟩
  | detach webState' index =>
    exact (willDetachWebStateAt_observers s b webState' webState b').2 (hremoved _ rfl rfl)
  | detachActive webState' index newActive activeIndex =>
    exact (willDetachWebStateAt_observers s b webState' webState b').2 (hremoved _ rfl rfl)
  | close webState' index userAction => exact hkept _ rfl rfl
  | activate newActive activeIndex reason => exact hkept _ rfl rfl
  | beginBatch => exact hkept _ rfl rfl
  | endBatch => exact hkept _ rfl rfl

/-- After the calls of an edit the pointer is the tab that is active then. -/
theorem foldl_onCall_activeWebState {s : System W B C} {b : B}
    (hactive : (s.browsers b).presenter.activeWebState = (s.browsers b).webStateList.active)
    (e : Edit W) :
    ((((e.calls (s.browsers b).webStateList).foldl (onCall factory b) s).browsers
      b).presenter).activeWebState = (e.apply (s.browsers b).webStateList).active := by
  have hset : ∀ (s' : System W B C) (newActive : Option W) (reason : ActiveWebStateChangeReason),
      ((s'.modifyBrowser b (·.setActiveWebState factory s'.queues newActive reason)).browsers
        b).presenter.activeWebState = newActive := by
    intro s' newActive reason
    rw [modifyBrowser_self]
    exact Browser.setActiveWebState_activeWebState _ _ _ _
  have hupkeeps : ∀ s' : System W B C, Upkeeps s s' →
      (s'.browsers b).presenter.activeWebState = (s.browsers b).webStateList.active := by
    intro s' h
    refine (h.keeps (P := fun s' => (s'.browsers b).presenter.activeWebState =
      (s.browsers b).presenter.activeWebState) (fun hs hupkeep => ?_) rfl).trans hactive
    exact (hupkeep.activeWebState b).trans hs
  cases e with
  | insert webState index activating =>
    exact hupkeeps _ (webStateAddedToBrowser_upkeeps s b webState)
  | move webState fromIndex toIndex => exact hactive
  | replace oldWebState newWebState index activeIndex => exact hset _ _ _
  | detach webState index => exact hupkeeps _ (willDetachWebStateAt_upkeeps s b webState)
  | detachActive webState index newActive activeIndex => exact hset _ _ _
  | close webState index userAction => exact hactive
  | activate newActive activeIndex reason => exact hset _ _ _
  | beginBatch => exact hactive
  | endBatch => exact hactive

/-- The pointers of other windows stay. -/
theorem foldl_onCall_activeWebState_of_ne {b b' : B} (h : b' ≠ b) :
    ∀ (calls : List (ObserverCall W)) (s : System W B C),
      ((calls.foldl (onCall factory b) s).browsers b').presenter.activeWebState =
        (s.browsers b').presenter.activeWebState := by
  have hupkeeps : ∀ {s s' : System W B C}, Upkeeps s s' →
      (s'.browsers b').presenter.activeWebState = (s.browsers b').presenter.activeWebState := by
    intro s s' h
    exact h.keeps (P := fun s' => (s'.browsers b').presenter.activeWebState =
      (s.browsers b').presenter.activeWebState)
      (fun hs hupkeep => (hupkeep.activeWebState b').trans hs) rfl
  intro calls
  induction calls with
  | nil => exact fun _ => rfl
  | cons call calls ih =>
    intro s
    rw [List.foldl_cons, ih]
    cases call with
    | webStateInsertedAt webState index activating =>
      exact hupkeeps (webStateAddedToBrowser_upkeeps s b webState)
    | webStateReplacedAt oldWebState newWebState index =>
      exact hupkeeps ((webStateRemovedFromBrowser_upkeeps s b oldWebState).trans
        (webStateAddedToBrowser_upkeeps _ b newWebState))
    | willDetachWebStateAt webState index =>
      exact hupkeeps (willDetachWebStateAt_upkeeps s b webState)
    | webStateActivatedAt oldWebState newWebState activeIndex reason =>
      have hother : (s.modifyBrowser b fun br =>
          br.setActiveWebState factory s.queues newWebState reason).browsers b' = s.browsers b' :=
        modifyBrowser_of_ne s h _
      exact congrArg (·.presenter.activeWebState) hother
    | webStateMoved webState fromIndex toIndex => rfl
    | webStateDetachedAt webState index => rfl
    | willCloseWebStateAt webState index userAction => rfl
    | willBeginBatchOperation => rfl
    | batchOperationEnded => rfl

/-- **A legal edit leaves the presenter with the tabs as they are.** -/
theorem edit_watched {s : System W B C} (h : s.Watched) {b : B} {e : Edit W}
    (hlegal : e.Legal (s.browsers b).webStateList) : (s.edit factory b e).Watched := by
  have hlist : ∀ b', ((((e.calls (s.browsers b).webStateList).foldl (onCall factory b) s).browsers
      b').webStateList) = (s.browsers b').webStateList := fun b' =>
    ((foldl_onCall_kept factory b _ s).browsers b').tabs
  have hobserved : ∀ b', ∀ webState ∈ (((s.edit factory b e).browsers b').webStateList).tabs,
      b' ∈ (((e.calls (s.browsers b).webStateList).foldl (onCall factory b) s).queues
        webState).observers := by
    intro b' webState hmem
    unfold edit at hmem
    simp only at hmem
    rw [modifyBrowser_browsers] at hmem
    refine foldl_onCall_observers s b e ?_
    split at hmem
    next heq =>
      rcases mem_apply_tabs (h.wellFormed b) hlegal hmem with ⟨hin, hstays⟩ | hinserted
      · exact .inl ⟨heq ▸ h.observed b webState hin, fun hgone => hstays hgone.1⟩
      · exact .inr ⟨hinserted, heq⟩
    next hne =>
      rw [hlist] at hmem
      exact .inl ⟨h.observed b' webState hmem, fun hgone => hne hgone.2⟩
  refine ⟨fun b' => ?_, fun b' => ?_, hobserved⟩
  · unfold edit
    simp only
    rw [modifyBrowser_browsers]
    split
    · exact Tabs.Edit.wellFormed_apply (h.wellFormed b) hlegal
    · rw [hlist]
      exact h.wellFormed b'
  · unfold edit
    simp only
    rw [modifyBrowser_browsers]
    split
    · exact foldl_onCall_activeWebState (h.active b) e
    next hne =>
      rw [hlist, foldl_onCall_activeWebState_of_ne hne]
      exact h.active b'

/-! ### Every event -/

theorem insertRequest_sameTabs (s : System W B C) (webState : W) (index : Nat) :
    SameTabs s (s.insertRequest factory webState index) := by
  have hadded : ∀ (request : OverlayRequest W) (observers : List B) (s : System W B C),
      SameTabs s (observers.foldl (fun s b => s.modifyBrowser b fun br =>
        br.requestAddedToQueue factory s.queues webState request) s) := by
    intro request observers
    induction observers with
    | nil => exact .refl
    | cons b observers ih =>
      intro s
      exact (modifyBrowser_sameTabs s b (Browser.requestAddedToQueue_sameTabs s.queues _ webState
        request)).trans (ih _)
  have hqueued : SameTabs s (s.withRequest webState index) := by
    unfold withRequest
    refine SameTabs.trans ?_ (modifyQueue_sameTabs _ webState rfl)
    exact ⟨fun _ => .refl _, fun _ => rfl⟩
  exact hqueued.trans (hadded _ _ _)

theorem webStateDestroyed_watched {s : System W B C} (h : s.Watched) {webState : W}
    (hfree : s.Free webState) : (s.webStateDestroyed webState).Watched := by
  have hqueue : (s.modifyQueue webState ({ · with observers := [] })).Watched := by
    refine ⟨h.wellFormed, h.active, fun b webState' hmem => ?_⟩
    have hne : webState' ≠ webState := by
      rintro rfl
      exact hfree.2 b hmem
    rw [modifyQueue_of_ne s hne]
    exact h.observed b webState' hmem
  have hcancelled : (cancelAllLoop webState ((s.modifyQueue webState
      ({ · with observers := [] })).queues webState).requests.length
        (s.modifyQueue webState ({ · with observers := [] }))).Watched :=
    (cancelAllLoop_sameTabs webState _ _).watched hqueue
  exact ⟨hcancelled.wellFormed, hcancelled.active, hcancelled.observed⟩

/-- **Between events the presenters know their tabs.** -/
theorem step_watched {s : System W B C} (h : s.Watched) {event : Event W B C}
    (henabled : s.Enabled event) : (s.step factory event).Watched := by
  cases event with
  | edit b e => exact edit_watched h henabled.1
  | webStateDestroyed webState => exact webStateDestroyed_watched h henabled
  | addRequest webState => exact (insertRequest_sameTabs s webState _).watched h
  | insertRequest webState index => exact (insertRequest_sameTabs s webState index).watched h
  | cancelRequest webState request =>
    refine SameTabs.watched ?_ h
    show SameTabs s (s.cancelRequest webState request)
    unfold cancelRequest
    split
    · exact .refl s
    · exact removeRequest_sameTabs s webState _ true
  | cancelAllRequests webState => exact (cancelAllLoop_sameTabs webState _ s).watched h
  | setPresentationContext b presentationContext =>
    have hsame : SameTabs s (s.modifyBrowser b
        (·.setPresentationContext factory s.queues presentationContext)) :=
      modifyBrowser_sameTabs s b (Browser.setPresentationContext_sameTabs s.queues _ _)
    exact hsame.watched h
  | updatePresentationCapabilities b context capabilities =>
    have hsame : SameTabs s (s.modifyBrowser b
        (·.updatePresentationCapabilities factory s.queues context capabilities)) :=
      modifyBrowser_sameTabs s b
        (Browser.updatePresentationCapabilities_sameTabs s.queues _ context capabilities)
    exact hsame.watched h
  | presentationContextReady b context =>
    have hsame : SameTabs s (s.modifyBrowser b (·.presentationContextReady factory s.queues)) :=
      modifyBrowser_sameTabs s b (Browser.presentationContextReady_sameTabs s.queues _)
    exact hsame.watched h
  | dismissedByUser b context =>
    have hsame : SameTabs s (s.modifyBrowser b fun br =>
        br.setContext context (br.contexts context).dismissByUser) :=
      modifyBrowser_sameTabs s b ⟨rfl, rfl⟩
    exact hsame.watched h
  | overlayUIDidFinishDismissal b context =>
    exact (overlayUIWasDismissed_sameTabs factory s b context).watched h

variable (factory) in
theorem init_watched {s : System W B C} (h : (overlayMachine W B C factory).init s) :
    s.Watched := by
  obtain ⟨capabilities, rfl⟩ := h
  exact ⟨fun _ => ⟨List.nodup_nil, nofun⟩, fun _ => rfl, fun _ _ => nofun⟩

end System

end IosChrome.Overlays

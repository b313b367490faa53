import IosChrome.Prerender.StateConsistent

/-!
# A cancelled prerender is not shown

What the prerendered page does can cancel it. The WebState cannot be destroyed in its own
callback, so the cancellation is a delayed selector, and `Obeyed` is what it is for: a WebState
that was cancelled is never released, and it is gone after the next turn.

The selector is on the same target as the scheduled starts, and every method that removes those
removes the cancellation too. `releasePrerenderContents` then hands out the cancelled WebState
(`releasedAfterDialog_released`), and a request for another URL keeps it until that request
starts. `Undisturbed` says of one call that it does neither, and `obeyed_of_undisturbed` that
runs of such calls keep `Obeyed` and that the first other call leads to a run that does not.
-/

namespace IosChrome.Prerender

namespace PreloadController

variable {c c' : PreloadController}

def Gone (c : PreloadController) (w : Nat) : Prop :=
  w ∈ c.destroyed ∨ w ∈ c.delayedDestruction

/-- A WebState cancelled in turn `t` is gone when turn `t + 2` begins. -/
structure Obeyed (c : PreloadController) : Prop where
  released : ∀ w t, (w, t) ∈ c.cancelled → w ∉ c.released
  gone : ∀ w t, (w, t) ∈ c.cancelled → t + 2 ≤ c.turn → c.Gone w

/-- The WebState used for prerendering. -/
def current (c : PreloadController) : Option Nat := c.webState.map (·.id)

/-- A call that comes while the current WebState is cancelled does not release it, and does not
put a later selector in the place of the cancellation. -/
def Undisturbed (c : PreloadController) (call : Call) : Prop :=
  ∀ w t, c.current = some w → (w, t) ∈ c.cancelled →
    match call with
    | .prerenderURL request _ immediately supported =>
      c.acceptsRequest request.url supported = true → immediately = true ∧ c.turn = t
    | .releasePrerenderContents => c.webState.any (·.restoreInProgress) = true
    | .prerendered trigger => c.cancels w trigger = true → c.turn = t
    | .destroyWebState other => other ∈ c.observed → c.turn = t
    | _ => True

/-- What is pending destroys the WebState cancelled in turn `t` in time. -/
def DueFor (c : PreloadController) (t : Nat) : Prop :=
  t ≤ c.turn ∧ c.turn ≤ t + 1 ∧
    ∃ perform, c.delayed = [perform] ∧ perform.delay = .zero ∧ perform.turn = t

structure CancelInv (c : PreloadController) : Prop where
  fresh : ∀ w, c.current = some w → w < c.nextID ∧ w ∉ c.released ∧ ¬ c.Gone w
  goneUsed : ∀ w, c.Gone w → w < c.nextID
  releasedUsed : ∀ w ∈ c.released, w < c.nextID
  cancelled : ∀ w t, (w, t) ∈ c.cancelled →
    w < c.nextID ∧ w ∉ c.released ∧ (c.Gone w ∨ c.current = some w ∧ c.DueFor t)

theorem CancelInv.obeyed (h : CancelInv c) : c.Obeyed where
  released := fun w t hmem => (h.cancelled w t hmem).2.1
  gone := by
    intro w t hmem hlate
    obtain hgone | ⟨-, -, hturn, -⟩ := (h.cancelled w t hmem).2.2
    · exact hgone
    · omega

/-- The cancelled WebState that is still there has its cancellation pending. -/
theorem CancelInv.dueFor (h : CancelInv c) {w t : Nat} (hcurrent : c.current = some w)
    (hmem : (w, t) ∈ c.cancelled) : c.DueFor t :=
  (h.cancelled w t hmem).2.2.elim (fun hgone => absurd hgone (h.fresh w hcurrent).2.2) And.right

/-! ## What the methods do to the WebStates -/

/-- The same WebStates are current, released and gone. -/
structure SameWebStates (c c' : PreloadController) : Prop where
  current : c'.current = c.current
  released : c'.released = c.released
  destroyed : c'.destroyed = c.destroyed
  delayedDestruction : c'.delayedDestruction = c.delayedDestruction
  nextID : c.nextID ≤ c'.nextID

theorem SameWebStates.gone_iff (h : SameWebStates c c') (w : Nat) : c'.Gone w ↔ c.Gone w := by
  unfold Gone
  rw [h.destroyed, h.delayedDestruction]

/-- Where the WebStates are the same, only those cancelled and still there need a look. -/
theorem CancelInv.of_same (h : CancelInv c) (hsame : SameWebStates c c')
    (hcancelled : ∀ w t, (w, t) ∈ c'.cancelled → (w, t) ∈ c.cancelled ∨ c.current = some w)
    (hdue : ∀ w t, c.current = some w → (w, t) ∈ c'.cancelled → c'.DueFor t) : CancelInv c' where
  fresh := by
    intro w hw
    rw [hsame.current] at hw
    obtain ⟨hlt, hreleased, hgone⟩ := h.fresh w hw
    refine ⟨Nat.lt_of_lt_of_le hlt hsame.nextID, ?_, fun h => hgone ((hsame.gone_iff w).1 h)⟩
    rwa [hsame.released]
  goneUsed := fun w hgone =>
    Nat.lt_of_lt_of_le (h.goneUsed w ((hsame.gone_iff w).1 hgone)) hsame.nextID
  releasedUsed := by
    intro w hw
    rw [hsame.released] at hw
    exact Nat.lt_of_lt_of_le (h.releasedUsed w hw) hsame.nextID
  cancelled := by
    intro w t hmem
    rw [hsame.current, hsame.released, hsame.gone_iff]
    by_cases hcurrent : c.current = some w
    · obtain ⟨hlt, hreleased, -⟩ := h.fresh w hcurrent
      exact ⟨Nat.lt_of_lt_of_le hlt hsame.nextID, hreleased,
        .inr ⟨hcurrent, hdue w t hcurrent hmem⟩⟩
    · obtain ⟨hlt, hreleased, hend⟩ :=
        h.cancelled w t ((hcancelled w t hmem).resolve_right hcurrent)
      exact ⟨Nat.lt_of_lt_of_le hlt hsame.nextID, hreleased,
        .inl (hend.resolve_right fun hdue => hcurrent hdue.1)⟩

/-- A step that leaves what is pending alone. -/
theorem CancelInv.of_unchanged (h : CancelInv c) (hsame : SameWebStates c c')
    (hcancelled : c'.cancelled = c.cancelled) (hdelayed : c'.delayed = c.delayed)
    (hturn : c'.turn = c.turn) : CancelInv c' := by
  refine h.of_same hsame (fun w t hmem => ?_) fun w t hcurrent hmem => ?_
  · rw [hcancelled] at hmem
    exact .inl hmem
  · rw [hcancelled] at hmem
    obtain ⟨hle, hlt, hpending⟩ := h.dueFor hcurrent hmem
    unfold DueFor
    rw [hdelayed, hturn]
    exact ⟨hle, hlt, hpending⟩

/-- The current WebState is destroyed, and another one may be made. -/
structure TornDown (c c' : PreloadController) : Prop where
  released : c'.released = c.released
  cancelled : c'.cancelled = c.cancelled
  gone : ∀ w, c'.Gone w ↔ c.Gone w ∨ c.current = some w
  nextID : c.nextID ≤ c'.nextID
  current : ∀ w, c'.current = some w → w = c.nextID ∧ c.nextID < c'.nextID

/-- After a teardown nothing has to be pending: all that was cancelled is gone. -/
theorem CancelInv.tornDown (h : CancelInv c) (htorn : TornDown c c') : CancelInv c' where
  fresh := by
    intro w hw
    obtain ⟨rfl, hlt⟩ := htorn.current w hw
    rw [htorn.released, htorn.gone]
    refine ⟨hlt, fun hreleased => Nat.lt_irrefl _ (h.releasedUsed _ hreleased), ?_⟩
    rintro (hgone | hcurrent)
    · exact Nat.lt_irrefl _ (h.goneUsed _ hgone)
    · exact Nat.lt_irrefl _ (h.fresh _ hcurrent).1
  goneUsed := by
    intro w hgone
    obtain hgone | hcurrent := (htorn.gone w).1 hgone
    · exact Nat.lt_of_lt_of_le (h.goneUsed w hgone) htorn.nextID
    · exact Nat.lt_of_lt_of_le (h.fresh w hcurrent).1 htorn.nextID
  releasedUsed := by
    intro w hw
    rw [htorn.released] at hw
    exact Nat.lt_of_lt_of_le (h.releasedUsed w hw) htorn.nextID
  cancelled := by
    intro w t hmem
    rw [htorn.cancelled] at hmem
    obtain ⟨hlt, hreleased, hend⟩ := h.cancelled w t hmem
    rw [htorn.released, htorn.gone]
    exact ⟨Nat.lt_of_lt_of_le hlt htorn.nextID, hreleased, .inl (hend.imp_right And.left)⟩

theorem destroyPreview_tornDown : TornDown c c.destroyPreviewContents := by
  unfold destroyPreviewContents
  split
  · next hnone =>
    have hcurrent : c.current = none := congrArg _ hnone
    exact ⟨rfl, rfl, fun w => by simp [hcurrent], Nat.le_refl _,
      fun w hw => by simp [hcurrent] at hw⟩
  · next w hw =>
    have hcurrent : c.current = some w.id := congrArg _ hw
    unfold destroyPrerenderingWebState
    split
    · refine ⟨rfl, rfl, fun x => ?_, Nat.le_refl _, fun _ h => nomatch h⟩
      show x ∈ c.destroyed ++ [w.id] ∨ x ∈ c.delayedDestruction ↔ c.Gone x ∨ _
      unfold Gone
      rw [hcurrent, List.mem_append, List.mem_singleton, Option.some_inj]
      grind
    · refine ⟨rfl, rfl, fun x => ?_, Nat.le_refl _, fun _ h => nomatch h⟩
      show x ∈ c.destroyed ∨ x ∈ c.delayedDestruction ++ [w.id] ↔ c.Gone x ∨ _
      unfold Gone
      rw [hcurrent, List.mem_append, List.mem_singleton, Option.some_inj]
      grind

theorem cancelPrerender_tornDown : TornDown c c.cancelPrerender := by
  obtain ⟨hreleased, hcancelled, hgone, hnextID, hcurrent⟩ :=
    destroyPreview_tornDown (c := c.removeScheduledPrerenderRequests)
  exact ⟨hreleased, hcancelled, hgone, hnextID, hcurrent⟩

/-- A start destroys the current WebState whatever it does afterwards. -/
theorem startPrerender_tornDown (replacement : Option Nat) (restoreInProgress : Bool) :
    TornDown c (c.startPrerender replacement restoreInProgress) := by
  obtain ⟨hreleased, hcancelled, hgone, hnextID, -⟩ := destroyPreview_tornDown (c := c)
  have hnone : (c.started replacement).webState = none := destroyPreview_webState (c := c)
  have hnextIDEq : (c.started replacement).nextID = c.nextID := by
    show c.destroyPreviewContents.nextID = c.nextID
    unfold destroyPreviewContents
    split
    · rfl
    · unfold destroyPrerenderingWebState
      split <;> rfl
  have hstarted : TornDown c (c.started replacement) := by
    refine ⟨hreleased, hcancelled, hgone, hnextID, fun w hw => ?_⟩
    unfold current at hw
    rw [hnone] at hw
    cases hw
  have hcreated : ∀ request, TornDown c
      ((c.started replacement).createWebState request restoreInProgress) := by
    intro request
    refine ⟨hreleased, hcancelled, hgone, Nat.le_trans hnextID (Nat.le_succ _), fun w hw => ?_⟩
    obtain rfl : (c.started replacement).nextID = w := Option.some.inj hw
    refine ⟨hnextIDEq, ?_⟩
    show c.nextID < (c.started replacement).nextID + 1
    omega
  unfold PreloadController.startPrerender
  rw [destroyPreview_of_none hnone]
  split
  · exact hstarted
  · split
    · exact hstarted
    · exact hcreated _

/-! ## One step -/

/-- A zero delay selector made in this turn is in time for what was cancelled in this turn. -/
theorem CancelInv.rescheduled (h : CancelInv c) (selector : Selector) (hsame : SameWebStates c c')
    (hcancelled : ∀ w t, (w, t) ∈ c'.cancelled →
      (w, t) ∈ c.cancelled ∨ c.current = some w ∧ t = c.turn)
    (hdelayed : c'.delayed = [⟨selector, .zero, c.turn⟩])
    (hturn : c'.turn = c.turn)
    (hnow : ∀ w t, c.current = some w → (w, t) ∈ c.cancelled → c.turn = t) : CancelInv c' := by
  refine h.of_same hsame (fun w t hmem => (hcancelled w t hmem).imp_right And.left)
    fun w t hcurrent hmem => ?_
  have ht : c.turn = t := by
    obtain hold | ⟨-, rfl⟩ := hcancelled w t hmem
    · exact hnow w t hcurrent hold
    · rfl
  unfold DueFor
  rw [hdelayed, hturn, ht]
  exact ⟨Nat.le_refl _, Nat.le_succ t, _, rfl, rfl, rfl⟩

theorem CancelInv.prerenderURL (h : CancelInv c) {request : PrerenderRequest}
    {currentWebState : Option Nat} {immediately supported : Bool}
    (hcondition : c.Undisturbed (.prerenderURL request currentWebState immediately supported)) :
    CancelInv (c.prerenderURL request currentWebState immediately supported) := by
  unfold PreloadController.prerenderURL
  split
  · next haccepts =>
    have hsame : SameWebStates c (c.scheduleRequest request currentWebState immediately) :=
      ⟨rfl, rfl, rfl, rfl, Nat.le_refl _⟩
    cases immediately with
    | true =>
      exact h.rescheduled .startPrerender hsame (fun w t hmem => .inl hmem) rfl rfl
        fun w t hcurrent hmem => (hcondition w t hcurrent hmem haccepts).2
    | false =>
      refine h.of_same hsame (fun w t hmem => .inl hmem) fun w t hcurrent hmem => ?_
      have himmediately := (hcondition w t hcurrent hmem haccepts).1
      cases himmediately
  · exact h

theorem CancelInv.fire (h : CancelInv c) (k : Nat) (replacement : Option Nat)
    (restoreInProgress : Bool) : CancelInv (c.fire k replacement restoreInProgress) := by
  unfold PreloadController.fire
  cases hperform : c.delayed[k]? with
  | none => exact h
  | some perform =>
    cases hselector : perform.selector with
    | startPrerender =>
      simp only [hselector]
      obtain ⟨hreleased, hcancelled, hgone, hnextID, hcurrent⟩ := startPrerender_tornDown
        (c := { c with delayed := c.delayed.eraseIdx k }) replacement restoreInProgress
      exact h.tornDown ⟨hreleased, hcancelled, hgone, hnextID, hcurrent⟩
    | cancelPrerender =>
      simp only [hselector]
      obtain ⟨hreleased, hcancelled, hgone, hnextID, hcurrent⟩ := cancelPrerender_tornDown
        (c := { c with delayed := c.delayed.eraseIdx k })
      exact h.tornDown ⟨hreleased, hcancelled, hgone, hnextID, hcurrent⟩

theorem releasePrerenderContents_of_none (h : c.webState = none) :
    c.releasePrerenderContents = c := by
  unfold releasePrerenderContents
  rw [h]

theorem releasePrerenderContents_of_restoring {w : PrerenderWebState} (h : c.webState = some w)
    (hrestore : w.restoreInProgress = true) : c.releasePrerenderContents = c := by
  unfold releasePrerenderContents
  simp only [h, if_pos hrestore]

theorem released_releasePrerenderContents {w : PrerenderWebState} (h : c.webState = some w)
    (hrestore : w.restoreInProgress = false) :
    c.releasePrerenderContents.released = c.released ++ [w.id] := by
  unfold releasePrerenderContents
  simp only [h, hrestore, Bool.false_eq_true, if_false]
  rfl

theorem CancelInv.releasePrerenderContents (h : CancelInv c)
    (hcondition : c.Undisturbed .releasePrerenderContents) :
    CancelInv c.releasePrerenderContents := by
  cases hwebState : c.webState with
  | none => rwa [releasePrerenderContents_of_none hwebState]
  | some w =>
    cases hrestore : w.restoreInProgress with
    | true => rwa [releasePrerenderContents_of_restoring hwebState hrestore]
    | false =>
      have hcurrent : c.current = some w.id := congrArg _ hwebState
      obtain ⟨hlt, hreleased, hgone⟩ := h.fresh _ hcurrent
      -- the WebState that goes was not cancelled
      have hclean : ∀ t, (w.id, t) ∉ c.cancelled := by
        intro t hmem
        have hrestoring := hcondition _ t hcurrent hmem
        rw [hwebState] at hrestoring
        exact absurd (hrestoring.symm.trans hrestore) Bool.false_ne_true.symm
      unfold PreloadController.releasePrerenderContents
      simp only [hwebState, hrestore, Bool.false_eq_true, if_false]
      refine ⟨fun _ hnone => (nomatch hnone), h.goneUsed, fun x hx => ?_, fun x t hmem => ?_⟩
      · obtain hold | hnew := List.mem_append.1 hx
        · exact h.releasedUsed x hold
        · obtain rfl := List.mem_singleton.1 hnew
          exact hlt
      · obtain ⟨hused, hkept, hend⟩ := h.cancelled x t hmem
        have hne : x ≠ w.id := by
          rintro rfl
          exact hclean t hmem
        refine ⟨hused, fun hx => ?_, .inl (hend.resolve_right fun hdue => hne ?_)⟩
        · obtain hold | hnew := List.mem_append.1 hx
          · exact hkept hold
          · exact hne (List.mem_singleton.1 hnew)
        · exact Option.some.inj (hdue.1.symm.trans hcurrent)

theorem CancelInv.prerendered (h : CancelInv c) {trigger : Trigger}
    (hcondition : c.Undisturbed (.prerendered trigger)) : CancelInv (c.prerendered trigger) := by
  unfold PreloadController.prerendered
  split
  · exact h
  · next w hw =>
    have hcurrent : c.current = some w.id := congrArg _ hw
    split
    · next hcancels =>
      refine h.rescheduled .cancelPrerender ⟨rfl, rfl, rfl, rfl, Nat.le_refl _⟩
        (fun x t hmem => ?_) rfl rfl fun x t hx hmem => ?_
      · obtain hold | hnew := List.mem_append.1 hmem
        · exact .inl hold
        · obtain ⟨rfl, rfl⟩ := Prod.mk.inj (List.mem_singleton.1 hnew)
          exact .inr ⟨hcurrent, rfl⟩
      · obtain rfl : w.id = x := Option.some.inj (hcurrent.symm.trans hx)
        exact hcondition w.id t hcurrent hmem hcancels
    · exact h

theorem CancelInv.cancelPrerender (h : CancelInv c) : CancelInv c.cancelPrerender :=
  h.tornDown cancelPrerender_tornDown

theorem CancelInv.connectionTypeChanged (h : CancelInv c) (cellular : Bool) :
    CancelInv (c.connectionTypeChanged cellular) := by
  have hchanged : CancelInv { c with isOnCellularNetwork := cellular } :=
    h.of_unchanged ⟨rfl, rfl, rfl, rfl, Nat.le_refl _⟩ rfl rfl rfl
  unfold PreloadController.connectionTypeChanged
  dsimp only
  split
  · exact hchanged.cancelPrerender
  · exact hchanged

theorem CancelInv.onPreferenceChanged (h : CancelInv c) (setting : NetworkPredictionSetting)
    (cellular : Bool) : CancelInv (c.onPreferenceChanged setting cellular) := by
  have hchanged : ∀ isOnCellularNetwork connectionTypeObserver,
      CancelInv { c with
        networkPredictionSetting := setting
        isOnCellularNetwork := isOnCellularNetwork
        connectionTypeObserver := connectionTypeObserver } := fun _ _ =>
    h.of_unchanged ⟨rfl, rfl, rfl, rfl, Nat.le_refl _⟩ rfl rfl rfl
  unfold PreloadController.onPreferenceChanged
  cases setting with
  | enabledWifiOnly =>
    dsimp only
    by_cases hobserver : c.connectionTypeObserver = true
    · rw [if_pos hobserver]
      split
      · exact (hchanged _ _).cancelPrerender
      · exact hchanged _ _
    · rw [if_neg hobserver]
      split
      · exact (hchanged _ _).cancelPrerender
      · exact hchanged _ _
  | enabledWifiAndCellular => exact hchanged _ _
  | disabled =>
    exact (hchanged c.isOnCellularNetwork c.connectionTypeObserver).cancelPrerender.of_unchanged
      ⟨rfl, rfl, rfl, rfl, Nat.le_refl _⟩ rfl rfl rfl

theorem CancelInv.destroyWebState (h : CancelInv c) {other : Nat}
    (hcondition : c.Undisturbed (.destroyWebState other)) :
    CancelInv (c.destroyWebState other) := by
  unfold PreloadController.destroyWebState
  split
  · next hobserved =>
    exact h.rescheduled .cancelPrerender ⟨rfl, rfl, rfl, rfl, Nat.le_refl _⟩
      (fun w t hmem => .inl hmem) rfl rfl
      fun w t hcurrent hmem => hcondition w t hcurrent hmem hobserved
  · exact h.of_unchanged ⟨rfl, rfl, rfl, rfl, Nat.le_refl _⟩ rfl rfl rfl

/-- A turn ends only when the cancellations made before it have fired. -/
theorem CancelInv.nextTurn (h : CancelInv c) (hpre : c.Pre .nextTurn) :
    CancelInv { c with turn := c.turn + 1 } := by
  refine h.of_same ⟨rfl, rfl, rfl, rfl, Nat.le_refl _⟩ (fun w t hmem => .inl hmem)
    fun w t hcurrent hmem => ?_
  obtain ⟨hle, -, perform, hdelayed, hzero, hturn⟩ := h.dueFor hcurrent hmem
  have hfired : c.turn ≤ perform.turn := by
    refine hpre perform ?_ hzero
    rw [hdelayed]
    exact List.mem_cons_self
  refine ⟨?_, ?_, perform, hdelayed, hzero, hturn⟩
  · show t ≤ c.turn + 1
    omega
  · show c.turn + 1 ≤ t + 1
    omega

theorem CancelInv.step {call : Call} (h : CancelInv c) (hpre : c.Pre call)
    (hcondition : c.Undisturbed call) : CancelInv (c.step call) := by
  cases call with
  | prerenderURL request currentWebState immediately supported => exact h.prerenderURL hcondition
  | fire k replacement restoreInProgress => exact h.fire k replacement restoreInProgress
  | releasePrerenderContents => exact h.releasePrerenderContents hcondition
  | prerendered trigger => exact h.prerendered hcondition
  | cancelPrerender => exact h.cancelPrerender
  | didReceiveMemoryWarning => exact h.cancelPrerender
  | connectionTypeChanged cellular => exact h.connectionTypeChanged cellular
  | onPreferenceChanged setting cellular => exact h.onPreferenceChanged setting cellular
  | browserStateDestroyed =>
    exact h.cancelPrerender.of_unchanged ⟨rfl, rfl, rfl, rfl, Nat.le_refl _⟩ rfl rfl rfl
  | restoreSession inProgress =>
    refine h.of_unchanged ⟨?_, rfl, rfl, rfl, Nat.le_refl _⟩ rfl rfl rfl
    show (c.webState.map _).map _ = c.webState.map _
    rw [Option.map_map]
    rfl
  | createWebState => exact h.of_unchanged ⟨rfl, rfl, rfl, rfl, Nat.le_succ _⟩ rfl rfl rfl
  | destroyWebState w => exact h.destroyWebState hcondition
  | nextTurn => exact h.nextTurn hpre

/-! ## The first call that disturbs a cancellation -/

/-- A cancelled WebState that outlives the next turn. -/
theorem nextTurn_shows {w t : Nat} (hmem : (w, t) ∈ c.cancelled) (hgone : ¬ c.Gone w)
    (hlate : t + 1 ≤ c.turn) : ¬ (c.step .nextTurn).Obeyed := by
  intro hobeyed
  refine hgone (hobeyed.gone w t hmem ?_)
  show t + 2 ≤ c.turn + 1
  omega

/-- A selector made in a later turn than the cancellation it replaces comes too late. -/
theorem rescheduled_shows {w t : Nat} (hmem : (w, t) ∈ c.cancelled) (hgone : ¬ c.Gone w)
    (hlate : t + 1 ≤ c.turn) (hdelayed : ∀ perform ∈ c.delayed, c.turn ≤ perform.turn) :
    machine.Run c [.nextTurn] ∧
      ¬ machine.Always (fun c call => (c.step call).Obeyed) c [.nextTurn] :=
  ⟨⟨fun perform hperform _ => hdelayed perform hperform, trivial⟩,
    fun hobeyed => nextTurn_shows hmem hgone hlate hobeyed.1⟩

/-- So does one with a delay. -/
theorem delayed_shows {w t : Nat} (hmem : (w, t) ∈ c.cancelled) (hgone : ¬ c.Gone w)
    (hle : t ≤ c.turn) (hdelayed : ∀ perform ∈ c.delayed, perform.delay = .prerenderDelay) :
    machine.Run c [.nextTurn, .nextTurn] ∧
      ¬ machine.Always (fun c call => (c.step call).Obeyed) c [.nextTurn, .nextTurn] := by
  have hnone : ∀ perform ∈ c.delayed, perform.delay ≠ .zero := by
    intro perform hperform hzero
    rw [hdelayed perform hperform] at hzero
    cases hzero
  refine ⟨⟨fun perform hperform hzero => absurd hzero (hnone perform hperform),
    fun perform hperform hzero => absurd hzero (hnone perform hperform), trivial⟩,
    fun hobeyed => ?_⟩
  exact nextTurn_shows (c := c.step .nextTurn) hmem hgone (Nat.succ_le_succ hle) hobeyed.2.1

theorem CancelInv.disturbed_shows (h : CancelInv c) {call : Call}
    (hdisturbed : ¬ c.Undisturbed call) :
    ∃ more, machine.Run (c.step call) more ∧
      ¬ machine.Always (fun c call => (c.step call).Obeyed) c (call :: more) := by
  unfold Undisturbed at hdisturbed
  simp only [Classical.not_forall, exists_prop] at hdisturbed
  obtain ⟨w, t, hcurrent, hmem, hcall⟩ := hdisturbed
  have hgone := (h.fresh w hcurrent).2.2
  obtain ⟨hle, hlt, -⟩ := h.dueFor hcurrent hmem
  -- enough that some continuation of the state after the call goes wrong
  suffices hafter : (¬ (c.step call).Obeyed) ∨ ∃ more, machine.Run (c.step call) more ∧
      ¬ machine.Always (fun c call => (c.step call).Obeyed) (c.step call) more by
    obtain hnow | ⟨more, hrun, hlater⟩ := hafter
    · exact ⟨[], trivial, fun hobeyed => hnow hobeyed.1⟩
    · exact ⟨more, hrun, fun hobeyed => hlater hobeyed.2⟩
  cases call with
  | releasePrerenderContents =>
    left
    intro hobeyed
    obtain ⟨prerendered, hwebState, rfl⟩ := Option.map_eq_some_iff.1 hcurrent
    have hrestore : prerendered.restoreInProgress = false := by
      rw [hwebState] at hcall
      exact Bool.eq_false_iff.2 hcall
    have hreleased := released_releasePrerenderContents hwebState hrestore
    have hcancelled : (prerendered.id, t) ∈ c.releasePrerenderContents.cancelled := by
      unfold PreloadController.releasePrerenderContents
      simp only [hwebState, hrestore, Bool.false_eq_true, if_false]
      exact hmem
    refine hobeyed.released _ t hcancelled ?_
    show prerendered.id ∈ c.releasePrerenderContents.released
    rw [hreleased]
    exact List.mem_append_right _ List.mem_cons_self
  | prerenderURL request currentWebState immediately supported =>
    obtain ⟨haccepts, hlate⟩ := Classical.not_imp.1 hcall
    have hstep : c.step (.prerenderURL request currentWebState immediately supported) =
        c.scheduleRequest request currentWebState immediately := by
      show c.prerenderURL request currentWebState immediately supported = _
      unfold PreloadController.prerenderURL
      rw [if_pos haccepts]
    rw [hstep]
    right
    cases immediately with
    | true =>
      have hturn : c.turn ≠ t := fun hturn => hlate ⟨rfl, hturn⟩
      refine ⟨_, rescheduled_shows (c := c.scheduleRequest request currentWebState true) hmem
        hgone ?_ fun perform hperform => ?_⟩
      · show t + 1 ≤ c.turn
        omega
      · obtain rfl := List.mem_singleton.1 hperform
        exact Nat.le_refl _
    | false =>
      refine ⟨_, delayed_shows (c := c.scheduleRequest request currentWebState false) hmem hgone
        hle fun perform hperform => ?_⟩
      obtain rfl := List.mem_singleton.1 hperform
      rfl
  | prerendered trigger =>
    obtain ⟨hcancels, hturn⟩ := Classical.not_imp.1 hcall
    obtain ⟨prerendered, hwebState, rfl⟩ := Option.map_eq_some_iff.1 hcurrent
    have hstep : c.step (.prerendered trigger) = { c.schedulePrerenderCancel with
        cancelled := c.cancelled ++ [(prerendered.id, c.turn)] } := by
      show c.prerendered trigger = _
      unfold PreloadController.prerendered
      simp only [hwebState, if_pos hcancels]
    rw [hstep]
    refine .inr ⟨_, rescheduled_shows (List.mem_append_left _ hmem) hgone ?_
      fun perform hperform => ?_⟩
    · show t + 1 ≤ c.turn
      omega
    · obtain rfl := List.mem_singleton.1 hperform
      exact Nat.le_refl _
  | destroyWebState other =>
    obtain ⟨hobserved, hturn⟩ := Classical.not_imp.1 hcall
    have hstep : c.step (.destroyWebState other) = { c.schedulePrerenderCancel with
        live := c.schedulePrerenderCancel.live.filter (· ≠ other) } := by
      show c.destroyWebState other = _
      unfold PreloadController.destroyWebState
      rw [if_pos hobserved]
      rfl
    rw [hstep]
    refine .inr ⟨_, rescheduled_shows hmem hgone ?_ fun perform hperform => ?_⟩
    · show t + 1 ≤ c.turn
      omega
    · obtain rfl := List.mem_singleton.1 hperform
      exact Nat.le_refl _
  | _ => exact absurd trivial hcall

/-! ## Runs -/

theorem CancelInv.initWithBrowserState (setting : NetworkPredictionSetting)
    (cellular delayWebStateReset : Bool) :
    CancelInv (initWithBrowserState setting cellular delayWebStateReset) where
  fresh := fun _ hnone => nomatch hnone
  goneUsed := fun _ hgone => hgone.elim (fun h => nomatch h) (fun h => nomatch h)
  releasedUsed := fun _ hmem => nomatch hmem
  cancelled := fun _ _ hmem => nomatch hmem

/-- **A cancellation that nothing disturbs is obeyed, and the first call that disturbs one leads
to a run in which it is not.** -/
theorem obeyed_of_undisturbed {setting : NetworkPredictionSetting}
    {cellular delayWebStateReset : Bool} {calls : List Call}
    (hrun : machine.Run (initWithBrowserState setting cellular delayWebStateReset) calls)
    (hundisturbed : machine.Always Undisturbed
      (initWithBrowserState setting cellular delayWebStateReset) calls) :
    machine.Always (fun c call => (c.step call).Obeyed)
        (initWithBrowserState setting cellular delayWebStateReset) calls ∧
      ∀ call, (machine.exec (initWithBrowserState setting cellular delayWebStateReset) calls).Pre
          call →
        ¬ (machine.exec (initWithBrowserState setting cellular delayWebStateReset)
            calls).Undisturbed call →
          ∃ more, machine.Run (initWithBrowserState setting cellular delayWebStateReset)
              (calls ++ call :: more) ∧
            ¬ machine.Always (fun c call => (c.step call).Obeyed)
              (initWithBrowserState setting cellular delayWebStateReset)
              (calls ++ call :: more) := by
  have hinit := CancelInv.initWithBrowserState setting cellular delayWebStateReset
  refine ⟨Lib.Machine.Guarded.always_of_invariant (I := CancelInv) (P := Undisturbed)
    (fun _ _ hinv hpre hcondition => hinv.step hpre hcondition)
    (fun _ _ hinv hpre hcondition => (hinv.step hpre hcondition).obeyed)
    hinit hrun hundisturbed, fun call hpre hdisturbed => ?_⟩
  have hinv := Lib.Machine.Guarded.invariant (I := CancelInv) (P := Undisturbed)
    (fun _ _ hinv hpre hcondition => hinv.step hpre hcondition) hinit hrun hundisturbed
  obtain ⟨more, hmore, hnot⟩ := hinv.disturbed_shows hdisturbed
  refine ⟨more, (Lib.Machine.always_append _ _ _ _).2 ⟨hrun, hpre, hmore⟩, fun hobeyed => ?_⟩
  exact hnot ((Lib.Machine.always_append _ _ _ _).1 hobeyed).2

/-- A page is prerendered to replace a tab's WebState, and shows a dialog. -/
def dialogShown : List Call :=
  [.createWebState, .prerenderURL examplePage (some 0) true true, .nextTurn, .fire 0 none false,
    .prerendered .runJavaScriptDialog]

/-- It is released in the same turn. -/
def releasedAfterDialog : List Call := dialogShown ++ [.releasePrerenderContents]

/-- It is destroyed in the next turn. Then the same happens up to the next dialog. -/
def cancelledAfterDialog : List Call :=
  dialogShown ++ [.nextTurn, .fire 0 none false, .prerenderURL examplePage (some 0) true true,
    .nextTurn, .fire 0 none false, .prerendered .runJavaScriptDialog]

theorem obeyed_of_undisturbed_dialog :
    machine.Always (fun c call => (c.step call).Obeyed)
        (initWithBrowserState .enabledWifiAndCellular false true) cancelledAfterDialog ∧
      ∀ call, (machine.exec (initWithBrowserState .enabledWifiAndCellular false true)
            cancelledAfterDialog).Pre call →
        ¬ (machine.exec (initWithBrowserState .enabledWifiAndCellular false true)
            cancelledAfterDialog).Undisturbed call →
          ∃ more, machine.Run (initWithBrowserState .enabledWifiAndCellular false true)
              (cancelledAfterDialog ++ call :: more) ∧
            ¬ machine.Always (fun c call => (c.step call).Obeyed)
              (initWithBrowserState .enabledWifiAndCellular false true)
              (cancelledAfterDialog ++ call :: more) := by
  refine @obeyed_of_undisturbed .enabledWifiAndCellular false true cancelledAfterDialog
    (by decide) ?_
  have hnone : ∀ {w : Nat}, (none : Option Nat) ≠ some w := fun h => nomatch h
  refine ⟨fun _ _ h => absurd h hnone, fun _ _ h => absurd h hnone, fun _ _ h => absurd h hnone,
    fun _ _ h => absurd h hnone, fun _ _ _ hmem => absurd hmem List.not_mem_nil,
    fun _ _ _ _ => trivial, fun _ _ _ _ => trivial, fun _ _ h => absurd h hnone,
    fun _ _ h => absurd h hnone, fun _ _ h => absurd h hnone, fun w t hcurrent hmem => ?_, trivial⟩
  -- only the first page has been cancelled by then
  obtain rfl : 2 = w := Option.some.inj hcurrent
  have hfirst : (2, t) = (1, 1) := List.mem_singleton.1 hmem
  cases hfirst

/-- The cancelled WebState is handed out, and its cancellation is no longer pending. -/
theorem releasedAfterDialog_released :
    machine.Run (initWithBrowserState .enabledWifiAndCellular false true) releasedAfterDialog ∧
      (let c := machine.exec (initWithBrowserState .enabledWifiAndCellular false true)
        releasedAfterDialog
       c.cancelled = [(1, 1)] ∧ c.released = [1] ∧ c.delayed = [] ∧ c.turn = 1) ∧
      ¬ machine.Always (fun c call => (c.step call).Obeyed)
        (initWithBrowserState .enabledWifiAndCellular false true) releasedAfterDialog := by
  refine ⟨by decide, by decide, fun hobeyed => ?_⟩
  have hreleased := hobeyed.2.2.2.2.2.1.released 1 1 (by decide)
  exact hreleased (by decide)

end PreloadController

end IosChrome.Prerender

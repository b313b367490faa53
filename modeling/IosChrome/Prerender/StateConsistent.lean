import IosChrome.Prerender.PreloadController

/-!
# The five pieces of the controller's state agree

`Consistent` is what holds between events: there is a prerendered URL exactly when there is a
prerendered WebState, a scheduled URL exactly when a start is pending, and the WebState to
replace is one of a tab and is observed.

`startPrerender` sets the prerendered URL, and when neither the request nor the delegate has a
WebState to replace it relies on `destroyPreviewContents` to reset it. That method returns
early, since there is no WebState yet, although it is said to reset the URL. So the URL stays,
and later requests for it are ignored (`noReplacement_stays`). `consistent_iff` says that a run
goes wrong exactly when a start fires with no WebState to replace.
-/

namespace IosChrome.Prerender

namespace PreloadController

variable {c : PreloadController}

structure Consistent (c : PreloadController) : Prop where
  prerendered : c.prerenderedURL.isEmpty = false ↔ c.webState.isSome = true
  scheduled : c.scheduledURL.isEmpty = false ↔
    ∃ perform ∈ c.delayed, perform.selector = .startPrerender
  toReplace : ∀ w, c.webStateToReplace = some w → w ∈ c.live ∧ w ∈ c.observed

/-- A start does not fire with no WebState to replace. -/
def HasReplacement (c : PreloadController) (call : Call) : Prop :=
  match call with
  | .fire k replacement _ => (∃ perform, c.delayed[k]? = some perform ∧
      perform.selector = .startPrerender) → c.webStateToReplace = none → replacement ≠ none
  | _ => True

/-- The request, the delayed selectors and the WebState to replace. -/
structure Planned (c : PreloadController) : Prop where
  request : ∀ request, c.scheduledRequest = some request → canPrerenderURL request.url = true
  start : ∀ request, c.scheduledRequest = some request →
    ∃ perform, c.delayed = [perform] ∧ perform.selector = .startPrerender
  idle : c.scheduledRequest = none → c.webStateToReplace = none ∧
    ∀ perform ∈ c.delayed, perform.selector = .cancelPrerender
  observed : c.observed = c.webStateToReplace.toList
  live : ∀ w, c.webStateToReplace = some w → w ∈ c.live

structure Inv (c : PreloadController) : Prop extends Planned c where
  prerendered : c.prerenderedURL.isEmpty = false ↔ c.webState.isSome = true

theorem Inv.consistent (h : Inv c) : c.Consistent where
  prerendered := h.prerendered
  scheduled := by
    unfold scheduledURL
    cases hrequest : c.scheduledRequest with
    | none =>
      refine ⟨fun hempty => absurd hempty Bool.noConfusion, fun ⟨perform, hmem, hstart⟩ => ?_⟩
      rw [(h.idle hrequest).2 perform hmem] at hstart
      cases hstart
    | some request =>
      obtain ⟨perform, hdelayed, hstart⟩ := h.start request hrequest
      refine ⟨fun _ => ⟨perform, ?_, hstart⟩,
        fun _ => isEmpty_of_canPrerenderURL (h.request request hrequest)⟩
      rw [hdelayed]
      exact List.mem_cons_self
  toReplace := by
    intro w hw
    refine ⟨h.live w hw, ?_⟩
    rw [h.observed, hw]
    exact List.mem_cons_self

/-! ## The teardown methods -/

theorem Planned.observedWithout_eq (h : Planned c) : c.observedWithoutToReplace = [] := by
  unfold observedWithoutToReplace
  cases hw : c.webStateToReplace with
  | none => exact h.observed.trans (congrArg Option.toList hw)
  | some w =>
    have hobserved : c.observed = [w] := h.observed.trans (congrArg Option.toList hw)
    show c.observed.filter (· ≠ w) = []
    rw [hobserved]
    simp

/-- What the teardown of the WebState does not touch. -/
theorem destroyPreview_frame : c.destroyPreviewContents.scheduledRequest = c.scheduledRequest ∧
    c.destroyPreviewContents.delayed = c.delayed ∧ c.destroyPreviewContents.live = c.live ∧
    c.destroyPreviewContents.observed = c.observed ∧
    c.destroyPreviewContents.webStateToReplace = c.webStateToReplace := by
  unfold destroyPreviewContents
  split
  · exact ⟨rfl, rfl, rfl, rfl, rfl⟩
  · unfold destroyPrerenderingWebState
    split <;> exact ⟨rfl, rfl, rfl, rfl, rfl⟩

theorem destroyPreview_webState : c.destroyPreviewContents.webState = none := by
  unfold destroyPreviewContents
  split
  · assumption
  · unfold destroyPrerenderingWebState
    split <;> rfl

/-- The URL is reset together with the WebState, and only then. -/
theorem destroyPreview_url
    (h : c.prerenderedURL.isEmpty = false ↔ c.webState.isSome = true) :
    c.destroyPreviewContents.prerenderedURL.isEmpty = true := by
  unfold destroyPreviewContents
  split
  · next hnone =>
    rw [hnone] at h
    by_contra hfull
    exact absurd (h.1 (Bool.eq_false_iff.2 hfull)) Bool.false_ne_true
  · unfold destroyPrerenderingWebState
    split <;> rfl

theorem Planned.congr {c' : PreloadController} (h : Planned c)
    (hrequest : c'.scheduledRequest = c.scheduledRequest) (hdelayed : c'.delayed = c.delayed)
    (hlive : c'.live = c.live) (hobserved : c'.observed = c.observed)
    (htoReplace : c'.webStateToReplace = c.webStateToReplace) : Planned c' := by
  obtain ⟨h₁, h₂, h₃, h₄, h₅⟩ := h
  constructor
  · rwa [hrequest]
  · rwa [hrequest, hdelayed]
  · rwa [hrequest, htoReplace, hdelayed]
  · rw [hobserved, htoReplace]
    exact h₄
  · rwa [htoReplace, hlive]

/-- With no request and no WebState to replace, at most a cancellation is pending. -/
theorem Planned.of_idle (hrequest : c.scheduledRequest = none)
    (htoReplace : c.webStateToReplace = none) (hobserved : c.observed = [])
    (hdelayed : ∀ perform ∈ c.delayed, perform.selector = .cancelPrerender) : Planned c where
  request := by
    rw [hrequest]
    exact fun _ h => nomatch h
  start := by
    rw [hrequest]
    exact fun _ h => nomatch h
  idle := fun _ => ⟨htoReplace, hdelayed⟩
  observed := by
    rw [hobserved, htoReplace]
    rfl
  live := by
    rw [htoReplace]
    exact fun _ h => nomatch h

theorem Inv.removeScheduled (h : Inv c) : Inv c.removeScheduledPrerenderRequests where
  toPlanned := .of_idle rfl rfl h.observedWithout_eq fun _ hmem => nomatch hmem
  prerendered := h.prerendered

theorem Inv.destroyPreview (h : Inv c) : Inv c.destroyPreviewContents where
  toPlanned := by
    obtain ⟨hrequest, hdelayed, hlive, hobserved, htoReplace⟩ := destroyPreview_frame (c := c)
    exact h.toPlanned.congr hrequest hdelayed hlive hobserved htoReplace
  prerendered := by
    rw [destroyPreview_url h.prerendered, destroyPreview_webState]
    exact ⟨fun h => (nomatch h), fun h => (nomatch h)⟩

theorem Inv.cancelPrerender (h : Inv c) : Inv c.cancelPrerender :=
  h.removeScheduled.destroyPreview

theorem Inv.schedulePrerenderCancel (h : Inv c) : Inv c.schedulePrerenderCancel where
  toPlanned := by
    refine .of_idle rfl rfl h.observedWithout_eq fun perform hmem => ?_
    have hmem : perform ∈ [] ++ [Perform.mk .cancelPrerender .zero c.turn] := hmem
    obtain rfl := List.mem_singleton.1 hmem
    rfl
  prerendered := h.prerendered

/-! ## Requests -/

theorem Inv.scheduleRequest (h : Inv c) {request : PrerenderRequest}
    (hrequest : canPrerenderURL request.url = true) {currentWebState : Option Nat}
    (hlive : ∀ w ∈ currentWebState.toList, w ∈ c.live) (immediately : Bool) :
    Inv (c.scheduleRequest request currentWebState immediately) where
  request := by
    intro other hother
    obtain rfl := Option.some.inj hother
    exact hrequest
  start := fun _ _ => ⟨_, rfl, rfl⟩
  idle := fun hnone => nomatch hnone
  observed := by
    show c.observedWithoutToReplace ++ currentWebState.toList = currentWebState.toList
    rw [h.observedWithout_eq]
    rfl
  live := by
    intro w hw
    exact hlive w (Option.mem_toList.2 hw)
  prerendered := h.prerendered

theorem Inv.prerenderURL (h : Inv c) {request : PrerenderRequest} {currentWebState : Option Nat}
    (hlive : ∀ w ∈ currentWebState.toList, w ∈ c.live) (immediately supported : Bool) :
    Inv (c.prerenderURL request currentWebState immediately supported) := by
  unfold PreloadController.prerenderURL
  split
  · next haccepts =>
    unfold acceptsRequest at haccepts
    have hrequest := (Bool.and_eq_true_iff.1 (Bool.and_eq_true_iff.1 haccepts).1).2
    exact h.scheduleRequest hrequest hlive immediately
  · exact h

/-! ## Selectors that fire -/

/-- A cancellation that fires was the only thing pending. -/
theorem Inv.fire_cancel (h : Inv c) {k : Nat} {perform : Perform}
    (hperform : c.delayed[k]? = some perform) (hselector : perform.selector = .cancelPrerender)
    (replacement : Option Nat) (restoreInProgress : Bool) :
    Inv (c.fire k replacement restoreInProgress) := by
  unfold PreloadController.fire
  simp only [hperform, hselector]
  have hidle : c.scheduledRequest = none := by
    cases hrequest : c.scheduledRequest with
    | none => rfl
    | some request =>
      obtain ⟨start, hdelayed, hstart⟩ := h.start request hrequest
      have hmem := List.mem_of_getElem? hperform
      rw [hdelayed] at hmem
      obtain rfl := List.mem_singleton.1 hmem
      rw [hselector] at hstart
      cases hstart
  obtain ⟨htoReplace, hdelayed⟩ := h.idle hidle
  have hobserved : c.observed = [] := h.observed.trans (congrArg Option.toList htoReplace)
  have hrest : Inv { c with delayed := c.delayed.eraseIdx k } :=
    { toPlanned := .of_idle hidle htoReplace hobserved fun other hmem =>
        hdelayed other (List.mem_of_mem_eraseIdx hmem)
      prerendered := h.prerendered }
  exact hrest.cancelPrerender

/-- A start that fires has a request, and is all that was pending. -/
theorem Inv.request_of_start (h : Inv c) {k : Nat} {perform : Perform}
    (hperform : c.delayed[k]? = some perform) (hselector : perform.selector = .startPrerender) :
    ∃ request, c.scheduledRequest = some request ∧ c.delayed.eraseIdx k = [] := by
  have hmem := List.mem_of_getElem? hperform
  cases hrequest : c.scheduledRequest with
  | none =>
    have hcancel := (h.idle hrequest).2 perform hmem
    rw [hselector] at hcancel
    cases hcancel
  | some request =>
    obtain ⟨start, hdelayed, -⟩ := h.start request hrequest
    rw [hdelayed] at hperform ⊢
    cases k with
    | zero => exact ⟨request, rfl, rfl⟩
    | succ k => cases hperform

theorem destroyPreview_of_none (h : c.webState = none) : c.destroyPreviewContents = c := by
  unfold destroyPreviewContents
  rw [h]

/-- What a start leaves, in both of its ends. -/
structure Started (request : PrerenderRequest) (c c' : PreloadController) : Prop where
  scheduledRequest : c'.scheduledRequest = none
  delayed : c'.delayed = c.delayed
  live : c'.live = c.live
  observed : c'.observed = c.observedWithoutToReplace
  webStateToReplace : c'.webStateToReplace = none
  prerenderedURL : c'.prerenderedURL = request.url

/-- A start with a request: it makes a WebState when there is one to replace, and without one it
leaves the URL set. -/
theorem startPrerender_spec {request : PrerenderRequest}
    (hrequest : c.scheduledRequest = some request) (hvalid : request.url.isValid = true)
    (replacement : Option Nat) (restoreInProgress : Bool) :
    Started request c (c.startPrerender replacement restoreInProgress) ∧
      ((c.startPrerender replacement restoreInProgress).webState.isSome = true ↔
        (c.webStateToReplace.or replacement).isSome = true) := by
  have hurl : c.scheduledURL = request.url := by
    unfold scheduledURL
    rw [hrequest]
  obtain ⟨-, hdelayed, hlive, -, -⟩ := destroyPreview_frame (c := c)
  have hgone := destroyPreview_webState (c := c)
  have hnone : (c.started replacement).webState = none := hgone
  have hstarted : (c.started replacement).prerenderedURL.isValid = true := by
    rw [show (c.started replacement).prerenderedURL = request.url from hurl]
    exact hvalid
  unfold PreloadController.startPrerender
  simp only [hrequest, hstarted, Bool.not_true, Bool.false_or]
  cases hreplace : c.webStateToReplace.or replacement with
  | none =>
    rw [if_pos (by rw [show (c.started replacement).webStateToReplace = none from hreplace]; rfl),
      destroyPreview_of_none hnone]
    refine ⟨⟨rfl, hdelayed, hlive, rfl, hreplace, hurl⟩, ?_⟩
    rw [hnone]
    exact Iff.rfl
  | some w =>
    rw [if_neg (by
      rw [show (c.started replacement).webStateToReplace = some w from hreplace]
      exact Bool.false_ne_true)]
    exact ⟨⟨rfl, hdelayed, hlive, rfl, rfl, hurl⟩, fun _ => rfl, fun _ => rfl⟩

theorem Inv.fire_start (h : Inv c) {k : Nat} {perform : Perform}
    (hperform : c.delayed[k]? = some perform) (hselector : perform.selector = .startPrerender)
    (replacement : Option Nat) (restoreInProgress : Bool) :
    Planned (c.fire k replacement restoreInProgress) ∧
      (c.fire k replacement restoreInProgress).prerenderedURL.isEmpty = false ∧
      ((c.fire k replacement restoreInProgress).webState.isSome = true ↔
        (c.webStateToReplace.or replacement).isSome = true) := by
  obtain ⟨request, hrequest, hrest⟩ := h.request_of_start hperform hselector
  have hurl := h.request request hrequest
  have hvalid : request.url.isValid = true := (Bool.and_eq_true_iff.1 hurl).1
  have hfire : c.fire k replacement restoreInProgress =
      ({ c with delayed := c.delayed.eraseIdx k } : PreloadController).startPrerender replacement
        restoreInProgress := by
    unfold PreloadController.fire
    simp only [hperform, hselector]
  rw [hfire]
  obtain ⟨hstarted, hwebState⟩ := startPrerender_spec
    (c := { c with delayed := c.delayed.eraseIdx k }) hrequest hvalid replacement restoreInProgress
  refine ⟨.of_idle hstarted.scheduledRequest hstarted.webStateToReplace
    (hstarted.observed.trans h.observedWithout_eq) fun other hmem => ?_, ?_, hwebState⟩
  · have hpending : other ∈ c.delayed.eraseIdx k := by
      rw [hstarted.delayed] at hmem
      exact hmem
    rw [hrest] at hpending
    cases hpending
  · rw [hstarted.prerenderedURL]
    exact isEmpty_of_canPrerenderURL hurl

/-! ## The other events -/

theorem Inv.releasePrerenderContents (h : Inv c) : Inv c.releasePrerenderContents := by
  unfold PreloadController.releasePrerenderContents
  split
  · exact h
  · split
    · exact h
    · exact
        { toPlanned := .of_idle rfl rfl h.observedWithout_eq fun _ hmem => (nomatch hmem)
          prerendered := ⟨fun hurl => (nomatch hurl), fun hwebState => (nomatch hwebState)⟩ }

theorem Inv.prerendered_trigger (h : Inv c) (trigger : Trigger) : Inv (c.prerendered trigger) := by
  unfold PreloadController.prerendered
  split
  · exact h
  · split
    · have hcancel := h.schedulePrerenderCancel
      exact ⟨hcancel.toPlanned.congr rfl rfl rfl rfl rfl, hcancel.prerendered⟩
    · exact h

theorem Inv.connectionTypeChanged (h : Inv c) (cellular : Bool) :
    Inv (c.connectionTypeChanged cellular) := by
  have hchanged : Inv { c with isOnCellularNetwork := cellular } :=
    ⟨h.toPlanned.congr rfl rfl rfl rfl rfl, h.prerendered⟩
  unfold PreloadController.connectionTypeChanged
  dsimp only
  split
  · exact hchanged.cancelPrerender
  · exact hchanged

theorem Inv.onPreferenceChanged (h : Inv c) (setting : NetworkPredictionSetting)
    (cellular : Bool) : Inv (c.onPreferenceChanged setting cellular) := by
  have hchanged : ∀ isOnCellularNetwork connectionTypeObserver,
      Inv { c with
        networkPredictionSetting := setting
        isOnCellularNetwork := isOnCellularNetwork
        connectionTypeObserver := connectionTypeObserver } := fun _ _ =>
    ⟨h.toPlanned.congr rfl rfl rfl rfl rfl, h.prerendered⟩
  unfold PreloadController.onPreferenceChanged
  cases setting with
  | enabledWifiOnly =>
    dsimp only
    by_cases hobserver : c.connectionTypeObserver = true
    · rw [if_pos hobserver]
      split
      · exact (hchanged _ _).cancelPrerender
      · exact hchanged _ _
    · rw [if_neg hobserver]
      split
      · exact (hchanged _ _).cancelPrerender
      · exact hchanged _ _
  | enabledWifiAndCellular => exact hchanged _ _
  | disabled =>
    have hcancel := (hchanged c.isOnCellularNetwork c.connectionTypeObserver).cancelPrerender
    exact ⟨hcancel.toPlanned.congr rfl rfl rfl rfl rfl, hcancel.prerendered⟩

theorem Inv.destroyWebState (h : Inv c) (w : Nat) : Inv (c.destroyWebState w) := by
  unfold PreloadController.destroyWebState
  split
  · -- the WebState to replace goes, and the request with it
    have hcancel := h.schedulePrerenderCancel
    refine ⟨.of_idle rfl rfl h.observedWithout_eq (hcancel.idle rfl).2, hcancel.prerendered⟩
  · next hother =>
    refine ⟨⟨h.request, h.start, h.idle, h.observed, fun x hx => ?_⟩, h.prerendered⟩
    have hobserved : c.observed = [x] := h.observed.trans (congrArg Option.toList hx)
    refine List.mem_filter.2 ⟨h.live x hx, decide_eq_true ?_⟩
    rintro rfl
    rw [hobserved] at hother
    exact hother List.mem_cons_self

/-! ## Runs -/

theorem Inv.fire_iff (h : Inv c) {k : Nat} {replacement : Option Nat} {restoreInProgress : Bool}
    (hpre : c.Pre (.fire k replacement restoreInProgress)) :
    ((c.fire k replacement restoreInProgress).Consistent ↔
      c.HasReplacement (.fire k replacement restoreInProgress)) ∧
    (c.HasReplacement (.fire k replacement restoreInProgress) →
      Inv (c.fire k replacement restoreInProgress)) := by
  cases hperform : c.delayed[k]? with
  | none =>
    have hdue := hpre.1
    rw [hperform] at hdue
    exact absurd hdue Bool.false_ne_true
  | some perform =>
    cases hselector : perform.selector with
    | cancelPrerender =>
      have hinv := h.fire_cancel hperform hselector replacement restoreInProgress
      refine ⟨⟨fun _ => ?_, fun _ => hinv.consistent⟩, fun _ => hinv⟩
      rintro ⟨other, hother, hstart⟩
      obtain rfl : perform = other := Option.some.inj (hperform.symm.trans hother)
      rw [hselector] at hstart
      cases hstart
    | startPrerender =>
      obtain ⟨hplanned, hurl, hwebState⟩ :=
        h.fire_start hperform hselector replacement restoreInProgress
      have hinv : c.HasReplacement (.fire k replacement restoreInProgress) →
          Inv (c.fire k replacement restoreInProgress) := by
        intro hhas
        refine ⟨hplanned, fun _ => hwebState.2 ?_, fun _ => hurl⟩
        cases hreplace : c.webStateToReplace with
        | none =>
          obtain ⟨w, rfl⟩ := Option.ne_none_iff_exists'.1
            (hhas ⟨perform, hperform, hselector⟩ hreplace)
          rfl
        | some w => rfl
      refine ⟨⟨fun hconsistent _ hnone hnil => ?_, fun hhas => (hinv hhas).consistent⟩, hinv⟩
      have hsome := hwebState.1 (hconsistent.prerendered.1 hurl)
      rw [hnone, hnil] at hsome
      cases hsome

theorem Inv.step_other {call : Call} (h : Inv c) (hpre : c.Pre call)
    (hother : ∀ k replacement restoreInProgress, call ≠ .fire k replacement restoreInProgress) :
    Inv (c.step call) := by
  cases call with
  | prerenderURL request currentWebState immediately supported =>
    exact h.prerenderURL hpre immediately supported
  | fire k replacement restoreInProgress => exact absurd rfl (hother k replacement _)
  | releasePrerenderContents => exact h.releasePrerenderContents
  | prerendered trigger => exact h.prerendered_trigger trigger
  | cancelPrerender => exact h.cancelPrerender
  | didReceiveMemoryWarning => exact h.cancelPrerender
  | connectionTypeChanged cellular => exact h.connectionTypeChanged cellular
  | onPreferenceChanged setting cellular => exact h.onPreferenceChanged setting cellular
  | browserStateDestroyed =>
    have hcancel := h.cancelPrerender
    exact ⟨hcancel.toPlanned.congr rfl rfl rfl rfl rfl, hcancel.prerendered⟩
  | restoreSession inProgress =>
    refine ⟨h.toPlanned.congr rfl rfl rfl rfl rfl, ?_⟩
    show c.prerenderedURL.isEmpty = false ↔ (c.webState.map _).isSome = true
    rw [Option.isSome_map]
    exact h.prerendered
  | createWebState =>
    exact ⟨⟨h.request, h.start, h.idle, h.observed, fun w hw =>
      List.mem_append_left _ (h.live w hw)⟩, h.prerendered⟩
  | destroyWebState w => exact h.destroyWebState w
  | nextTurn => exact ⟨h.toPlanned.congr rfl rfl rfl rfl rfl, h.prerendered⟩

theorem Inv.step_iff {call : Call} (h : Inv c) (hpre : c.Pre call) :
    ((c.step call).Consistent ↔ c.HasReplacement call) ∧
      (c.HasReplacement call → Inv (c.step call)) := by
  by_cases hfire : ∃ k replacement restoreInProgress,
      call = .fire k replacement restoreInProgress
  · obtain ⟨k, replacement, restoreInProgress, rfl⟩ := hfire
    exact h.fire_iff hpre
  · have hinv := h.step_other hpre fun k replacement restoreInProgress heq =>
      hfire ⟨k, replacement, restoreInProgress, heq⟩
    have hhas : c.HasReplacement call := by
      cases call with
      | fire k replacement restoreInProgress =>
        exact absurd ⟨k, replacement, restoreInProgress, rfl⟩ hfire
      | _ => trivial
    exact ⟨⟨fun _ => hhas, fun _ => hinv.consistent⟩, fun _ => hinv⟩

theorem Inv.initWithBrowserState (setting : NetworkPredictionSetting)
    (cellular delayWebStateReset : Bool) :
    Inv (initWithBrowserState setting cellular delayWebStateReset) where
  toPlanned := .of_idle rfl rfl rfl fun _ hmem => nomatch hmem
  prerendered := ⟨fun hurl => (nomatch hurl), fun hwebState => (nomatch hwebState)⟩

/-- **The state goes wrong exactly when a start fires with no WebState to replace.** -/
theorem consistent_iff {setting : NetworkPredictionSetting} {cellular delayWebStateReset : Bool}
    {calls : List Call}
    (hrun : machine.Run (initWithBrowserState setting cellular delayWebStateReset) calls) :
    machine.Always (fun c call => (c.step call).Consistent)
        (initWithBrowserState setting cellular delayWebStateReset) calls ↔
      machine.Always HasReplacement
        (initWithBrowserState setting cellular delayWebStateReset) calls :=
  Lib.Machine.always_iff_of_invariant (I := Inv)
    (fun _ _ hinv hpre => (hinv.step_iff hpre).1)
    (fun _ _ hinv hpre hconsistent =>
      (hinv.step_iff hpre).2 ((hinv.step_iff hpre).1.1 hconsistent))
    (Inv.initWithBrowserState setting cellular delayWebStateReset) hrun

/-- A page to prerender. -/
def examplePage : PrerenderRequest :=
  ⟨⟨"https://example.com/", true, "https", fun _ => by decide⟩, 0, ""⟩

/-- A request without a current WebState, for a delegate that has none either; the same request
again. -/
def noReplacement : List Call :=
  [.prerenderURL examplePage none true true, .nextTurn, .fire 0 none false,
    .prerenderURL examplePage none true true]

theorem consistent_iff_noReplacement :
    machine.Always (fun c call => (c.step call).Consistent)
        (initWithBrowserState .enabledWifiAndCellular false true) noReplacement ↔
      machine.Always HasReplacement
        (initWithBrowserState .enabledWifiAndCellular false true) noReplacement :=
  @consistent_iff .enabledWifiAndCellular false true noReplacement (by decide)

/-- The URL is left set with no WebState, and the second request is ignored. -/
theorem noReplacement_stays :
    machine.Run (initWithBrowserState .enabledWifiAndCellular false true) noReplacement ∧
      (let c := machine.exec (initWithBrowserState .enabledWifiAndCellular false true)
        noReplacement
       c.prerenderedURL = examplePage.url ∧ c.webState = none ∧ c.delayed = []) ∧
      ¬ machine.Always (fun c call => (c.step call).Consistent)
        (initWithBrowserState .enabledWifiAndCellular false true) noReplacement := by
  refine ⟨by decide, by decide, fun hconsistent => ?_⟩
  have hprerendered := hconsistent.2.2.1.prerendered
  exact absurd (hprerendered.1 (by decide)) (by decide)

end PreloadController

end IosChrome.Prerender

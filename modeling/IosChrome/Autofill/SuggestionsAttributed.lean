import IosChrome.Autofill.FormSuggestionController

/-!
# Where suggestions go

A list handed to an update block should have been retrieved for the form, the field and the
frame of the call that installed the block, by the first provider that declared to have some
(`HandOut.Fits`). A suggestion that is selected should go back to its provider, together with
the form, the field and the frame it was retrieved for (`Message.Fits`).

The search for a provider is never at fault: `Request.Asked` is kept by every step. But a
retrieval answers without saying for what, and is combined with the state there is by then; the
comment in `onSuggestionsReady:` asks for the check that is missing. `attributed_iff` says
exactly which answers and which selections are wrong, and `answeredForAnotherField` is a run in
which the suggestions for one field are handed out, and sent back, as those for another.
-/

namespace IosChrome.Autofill

variable {P S : Type}

/-! ## What is claimed -/

/-- The provider is the first in order that has declared to have suggestions. -/
def HandOut.FromFirst (providers : List P) (h : HandOut P S) : Prop :=
  ∃ index provider, h.request.answers = List.replicate index false ++ [true] ∧
    providers[index]? = some provider ∧ h.provider = some provider

structure HandOut.Fits (providers : List P) (h : HandOut P S) : Prop where
  place : h.request.query.place = h.block.place
  first : h.FromFirst providers

/-- What is sent goes to where the suggestion came from, for what it was retrieved for. -/
structure Message.Fits (m : Message P S) : Prop where
  provider : m.origin.provider = some m.provider
  place : m.origin.request.query.place = m.place

/-- The answers of a request: `false` from the providers before the one that is asked. -/
def Request.Asked (providers : Nat) (request : Request) : Prop :=
  match request.stage with
  | .checking index => request.answers = List.replicate index false ∧ index < providers
  | .retrieving index =>
    request.answers = List.replicate index false ++ [true] ∧ index < providers
  | .idle => True

namespace FormSuggestionController

variable {c c' : FormSuggestionController P S}

structure Attributed (c : FormSuggestionController P S) : Prop where
  handed : ∀ h ∈ c.handed, h.suggestions ≠ [] → h.Fits c.suggestionProviders
  sent : ∀ m ∈ c.sent, m.Fits

/-- An answer with suggestions is for what the state is for, if there is a state. A suggestion
selected while there is a provider is one the provider has retrieved for what the state is
for. -/
def InTime (c : FormSuggestionController P S) (call : Call P S) : Prop :=
  match call with
  | .retrievalCompletes r suggestions => suggestions ≠ [] →
    ∀ state request, c.suggestionState = some state → c.requests[r]? = some request →
      request.query.place = state.place
  | .didSelectSuggestion origin _ => ∀ state provider, c.suggestionState = some state →
    c.provider = some provider →
      origin.provider = some provider ∧ origin.request.query.place = state.place
  | _ => True

/-- What the search and the state keep, whatever is handed out. -/
structure Sound (c : FormSuggestionController P S) : Prop where
  asked : ∀ request ∈ c.requests, request.Asked c.suggestionProviders.length
  block : ∀ state, c.suggestionState = some state →
    ∃ block, c.accessoryViewUpdateBlock = some block ∧ block.place = state.place

structure Inv (c : FormSuggestionController P S) : Prop extends Sound c where
  attributed : c.Attributed

/-! ## The search -/

/-- What a search may change: requests stay in order, and at most an empty list is handed
out. -/
structure Searched (c c' : FormSuggestionController P S) : Prop where
  providers : c'.suggestionProviders = c.suggestionProviders
  block : c'.accessoryViewUpdateBlock = c.accessoryViewUpdateBlock
  state : c'.suggestionState = c.suggestionState
  sent : c'.sent = c.sent
  handed : ∀ h ∈ c'.handed, h ∈ c.handed ∨ h.suggestions = []
  requests : ∀ request ∈ c'.requests,
    request ∈ c.requests ∨ request.Asked c.suggestionProviders.length

theorem searched_setRequest {r : Nat} (request : Request)
    (hasked : request.Asked c.suggestionProviders.length) :
    Searched c (c.setRequest r request) where
  providers := rfl
  block := rfl
  state := rfl
  sent := rfl
  handed := fun _ hmem => .inl hmem
  requests := by
    intro other hother
    obtain hold | rfl := List.mem_or_eq_of_mem_set hother
    · exact .inl hold
    · exact .inr hasked

theorem Searched.onNoSuggestionsAvailable (h : Searched c c') (request : Request) :
    Searched c (c'.onNoSuggestionsAvailable request) := by
  unfold FormSuggestionController.onNoSuggestionsAvailable updateKeyboardWithSuggestions
  split
  · exact h
  · refine { h with handed := ?_ }
    intro handOut hmem
    obtain hold | hnew := List.mem_append.1 hmem
    · exact h.handed handOut hold
    · obtain rfl := List.mem_singleton.1 hnew
      exact .inr rfl

theorem searched_completion {r : Nat} {request : Request} {providerIndex : Option Nat}
    (hasked : ∀ index, providerIndex = some index →
      Request.Asked c.suggestionProviders.length { request with stage := .retrieving index }) :
    Searched c (c.completion r request providerIndex) := by
  unfold completion
  split
  · exact searched_setRequest { request with stage := .idle } trivial
  · cases providerIndex with
    | none =>
      exact (searched_setRequest { request with stage := .idle }
        trivial).onNoSuggestionsAvailable request
    | some index => exact searched_setRequest _ (hasked index rfl)

theorem searched_runSearchPipeline (r : Nat) {fromIndex : Nat} {request : Request}
    (hanswers : request.answers = List.replicate fromIndex false)
    (hindex : fromIndex ≤ c.suggestionProviders.length) :
    Searched c (c.runSearchPipeline r request fromIndex) := by
  unfold runSearchPipeline
  split
  · exact searched_completion fun index hindex => nomatch hindex
  · next hmore => exact searched_setRequest _ ⟨hanswers, Nat.lt_of_le_of_ne hindex hmore⟩

/-- The provider that answers is the next in order. -/
theorem Inv.searched_checkCompletes (h : Inv c) (r : Nat) (success : Bool) :
    Searched c (c.checkCompletes r success) := by
  have hsame : Searched c c :=
    ⟨rfl, rfl, rfl, rfl, fun _ hmem => .inl hmem, fun _ hmem => .inl hmem⟩
  unfold checkCompletes
  split
  · exact hsame
  · next request hrequest =>
    split
    · next index hstage =>
      have hasked := h.asked request (List.mem_of_getElem? hrequest)
      unfold Request.Asked at hasked
      rw [hstage] at hasked
      obtain ⟨hanswers, hindex⟩ := hasked
      cases success with
      | true =>
        show Searched c (c.completion r _ (some index))
        refine searched_completion fun found hfound => ?_
        obtain rfl := Option.some.inj hfound
        exact ⟨congrArg (· ++ [true]) hanswers, hindex⟩
      | false =>
        refine searched_runSearchPipeline _ ?_ hindex
        show request.answers ++ [false] = _
        rw [hanswers, List.replicate_succ']
    · exact hsame

theorem Searched.attributed (h : Searched c c') (hc : Attributed c) : Attributed c' := by
  refine ⟨fun handOut hmem hnonempty => ?_, fun m hmem => hc.sent m (h.sent ▸ hmem)⟩
  obtain hold | hempty := h.handed handOut hmem
  · rw [h.providers]
    exact hc.handed handOut hold hnonempty
  · exact absurd hempty hnonempty

theorem Searched.asked (h : Searched c c')
    (hc : ∀ request ∈ c.requests, request.Asked c.suggestionProviders.length) :
    ∀ request ∈ c'.requests, request.Asked c'.suggestionProviders.length := by
  intro request hmem
  rw [h.providers]
  obtain hold | hnew := h.requests request hmem
  · exact hc request hold
  · exact hnew

theorem Searched.sound (h : Searched c c') (hc : Sound c) : Sound c' where
  asked := h.asked hc.asked
  block := by
    rw [h.state, h.block]
    exact hc.block

theorem Searched.inv (h : Searched c c') (hc : Inv c) : Inv c' :=
  ⟨h.sound hc.toSound, h.attributed hc.attributed⟩

/-- The search of a new request begins before the first provider. -/
theorem searched_startSearch (params : FormActivityParams) (typedValue : String) :
    Searched c (c.startSearch params typedValue) := by
  unfold startSearch
  have hsearch := searched_runSearchPipeline
    (c := { c with
      requestIdentifier := c.requestIdentifier + 1
      requests := c.requests ++ [c.newRequest params typedValue] })
    c.requests.length (show (c.newRequest params typedValue).answers = _ from rfl) (Nat.zero_le _)
  refine { hsearch with requests := fun request hmem => ?_ }
  obtain hold | hasked := hsearch.requests request hmem
  · obtain hold | hnew := List.mem_append.1 hold
    · exact .inl hold
    · obtain rfl := List.mem_singleton.1 hnew
      exact .inr trivial
  · exact .inr hasked

theorem Inv.retrieveSuggestionsForForm (h : Inv c) (params : FormActivityParams) :
    Inv (c.retrieveSuggestionsForForm params) := by
  refine (searched_startSearch params params.value).inv
    ⟨⟨h.asked, ?_⟩, h.attributed.handed, h.attributed.sent⟩
  intro state hstate
  obtain rfl := Option.some.inj hstate
  exact ⟨params, rfl, rfl⟩

/-! ## Answers and selections -/

theorem Inv.processPage (h : Inv c) : Inv c.processPage :=
  ⟨⟨h.asked, fun _ hstate => nomatch hstate⟩, h.attributed.handed, h.attributed.sent⟩

theorem Inv.inputAccessoryViewControllerDidReset (h : Inv c) :
    Inv c.inputAccessoryViewControllerDidReset :=
  ⟨⟨h.asked, fun _ hstate => nomatch hstate⟩, h.attributed.handed, h.attributed.sent⟩

/-- An answer that comes after the state was reset is ignored. -/
theorem onSuggestionsReady_none {r : Nat} {set : Request} (hstate : c.suggestionState = none)
    (request : Request) (suggestions : List S) (provider : P) :
    (c.setRequest r set).onSuggestionsReady request suggestions provider = c.setRequest r set := by
  have hnone : (c.setRequest r set).suggestionState = none := hstate
  unfold FormSuggestionController.onSuggestionsReady
  simp only [hnone]

/-- What an answer does when there is a state: it hands out its list. -/
theorem Inv.onSuggestionsReady (h : Inv c) {state : AutofillSuggestionState S}
    (hstate : c.suggestionState = some state) (request : Request) (suggestions : List S)
    (provider : P) : ∃ block, block.place = state.place ∧
      c.onSuggestionsReady request suggestions provider =
        { c with
          provider := some provider
          suggestionState := some { state with suggestions := some suggestions }
          handed := c.handed ++ [⟨block, request, some provider, suggestions⟩] } := by
  obtain ⟨block, hblock, hplace⟩ := h.block state hstate
  refine ⟨block, hplace, ?_⟩
  unfold FormSuggestionController.onSuggestionsReady updateKeyboardWithSuggestions
  simp only [hstate, hblock]

/-- A retrieval under way was begun after the providers before its own had declined. -/
theorem Inv.retrievalCompletes (h : Inv c) {r : Nat} {suggestions : List S}
    (hpre : c.Pre (.retrievalCompletes r suggestions)) :
    ∃ request index provider, c.requests[r]? = some request ∧
      request.answers = List.replicate index false ++ [true] ∧
      c.suggestionProviders[index]? = some provider ∧
      c.retrievalCompletes r suggestions =
        (c.setRequest r { request with stage := .idle }).onSuggestionsReady
          { request with stage := .idle } suggestions provider := by
  have hwaits : (c.requests[r]?.any fun request => request.stage.isRetrieving) = true := hpre
  cases hrequest : c.requests[r]? with
  | none =>
    rw [hrequest] at hwaits
    exact absurd hwaits Bool.false_ne_true
  | some request =>
    rw [hrequest] at hwaits
    have hasked := h.asked request (List.mem_of_getElem? hrequest)
    unfold Request.Asked at hasked
    cases hstage : request.stage with
    | retrieving index =>
      rw [hstage] at hasked
      obtain ⟨hanswers, hindex⟩ := hasked
      have hprovider := List.getElem?_eq_getElem hindex
      refine ⟨request, index, _, rfl, hanswers, hprovider, ?_⟩
      unfold FormSuggestionController.retrievalCompletes
      simp only [hrequest, hstage, hprovider]
    | checking index =>
      have hnot : request.stage.isRetrieving = true := hwaits
      rw [hstage] at hnot
      exact absurd hnot Bool.false_ne_true
    | idle =>
      have hnot : request.stage.isRetrieving = true := hwaits
      rw [hstage] at hnot
      exact absurd hnot Bool.false_ne_true

/-- Once an answer is no longer under way nothing more is asked for it. -/
theorem Inv.setRequest_idle (h : Inv c) (r : Nat) (request : Request) :
    Inv (c.setRequest r { request with stage := .idle }) :=
  (searched_setRequest { request with stage := .idle } trivial).inv h

theorem Inv.retrievalCompletes_iff (h : Inv c) {r : Nat} {suggestions : List S}
    (hpre : c.Pre (.retrievalCompletes r suggestions)) :
    (c.retrievalCompletes r suggestions).Attributed ↔
      c.InTime (.retrievalCompletes r suggestions) := by
  obtain ⟨request, index, provider, hrequest, hanswers, hprovider, heq⟩ :=
    h.retrievalCompletes hpre
  have hidle := h.setRequest_idle r request
  rw [heq]
  cases hstate : c.suggestionState with
  | none =>
    rw [onSuggestionsReady_none hstate]
    refine ⟨fun _ _ state _ hsome => ?_, fun _ => hidle.attributed⟩
    rw [hstate] at hsome
    cases hsome
  | some state =>
    obtain ⟨block, hplace, hready⟩ := hidle.onSuggestionsReady hstate
      { request with stage := .idle } suggestions provider
    rw [hready]
    constructor
    · intro hattributed hnonempty current asked hcurrent hasked
      obtain rfl : state = current := Option.some.inj (hstate.symm.trans hcurrent)
      obtain rfl : request = asked := Option.some.inj (hrequest.symm.trans hasked)
      have hfits := hattributed.handed _ (List.mem_append_right _ List.mem_cons_self) hnonempty
      exact hfits.place.trans hplace
    · intro hintime
      refine ⟨fun handOut hmem hnonempty => ?_, hidle.attributed.sent⟩
      obtain hold | hnew := List.mem_append.1 hmem
      · exact hidle.attributed.handed handOut hold hnonempty
      · obtain rfl := List.mem_singleton.1 hnew
        exact ⟨(hintime hnonempty state request hstate hrequest).trans hplace.symm,
          index, provider, hanswers, hprovider, rfl⟩

theorem Inv.sound_retrievalCompletes (h : Inv c) {r : Nat} {suggestions : List S}
    (hpre : c.Pre (.retrievalCompletes r suggestions)) :
    Sound (c.retrievalCompletes r suggestions) := by
  obtain ⟨request, index, provider, hrequest, hanswers, hprovider, heq⟩ :=
    h.retrievalCompletes hpre
  have hidle := h.setRequest_idle r request
  rw [heq]
  cases hstate : c.suggestionState with
  | none =>
    rw [onSuggestionsReady_none hstate]
    exact hidle.toSound
  | some state =>
    obtain ⟨block, hplace, hready⟩ := hidle.onSuggestionsReady hstate
      { request with stage := .idle } suggestions provider
    rw [hready]
    refine ⟨hidle.asked, fun current hcurrent => ?_⟩
    obtain rfl := Option.some.inj hcurrent
    exact hidle.block state hstate

theorem Inv.didSelectSuggestion_iff (h : Inv c) (origin : HandOut P S) (suggestion : S) :
    (c.didSelectSuggestion origin suggestion).Attributed ↔
      c.InTime (.didSelectSuggestion origin suggestion) := by
  unfold FormSuggestionController.didSelectSuggestion InTime
  split
  · next state provider hstate hprovider =>
    constructor
    · intro hattributed current asked hcurrent hasked
      obtain rfl : state = current := Option.some.inj (hstate.symm.trans hcurrent)
      obtain rfl : provider = asked := Option.some.inj (hprovider.symm.trans hasked)
      have hfits := hattributed.sent _ (List.mem_append_right _ List.mem_cons_self)
      exact ⟨hfits.provider, hfits.place⟩
    · intro hintime
      refine ⟨h.attributed.handed, fun m hmem => ?_⟩
      obtain hold | hnew := List.mem_append.1 hmem
      · exact h.attributed.sent m hold
      · obtain rfl := List.mem_singleton.1 hnew
        obtain ⟨horigin, hplace⟩ := hintime state provider hstate hprovider
        exact ⟨horigin, hplace⟩
  · next hnone =>
    exact ⟨fun _ state provider hstate hprovider => absurd hprovider (hnone state provider hstate),
      fun _ => h.attributed⟩

theorem Sound.didSelectSuggestion (h : Sound c) (origin : HandOut P S) (suggestion : S) :
    Sound (c.didSelectSuggestion origin suggestion) := by
  unfold FormSuggestionController.didSelectSuggestion
  split
  · exact ⟨h.asked, h.block⟩
  · exact ⟨h.asked, h.block⟩

/-! ## Runs -/

theorem Inv.step_iff {call : Call P S} (h : Inv c) (hpre : c.Pre call) :
    (c.step call).Attributed ↔ c.InTime call := by
  cases call with
  | retrieveSuggestionsForForm params =>
    exact ⟨fun _ => trivial, fun _ => (h.retrieveSuggestionsForForm params).attributed⟩
  | didLoadPage => exact ⟨fun _ => trivial, fun _ => h.processPage.attributed⟩
  | inputAccessoryViewControllerDidReset =>
    exact ⟨fun _ => trivial, fun _ => h.inputAccessoryViewControllerDidReset.attributed⟩
  | checkCompletes r success =>
    exact ⟨fun _ => trivial, fun _ => ((h.searched_checkCompletes r success).inv h).attributed⟩
  | retrievalCompletes r suggestions => exact h.retrievalCompletes_iff hpre
  | didSelectSuggestion origin suggestion => exact h.didSelectSuggestion_iff origin suggestion

theorem Inv.sound_step {call : Call P S} (h : Inv c) (hpre : c.Pre call) :
    Sound (c.step call) := by
  cases call with
  | retrieveSuggestionsForForm params => exact (h.retrieveSuggestionsForForm params).toSound
  | didLoadPage => exact h.processPage.toSound
  | inputAccessoryViewControllerDidReset => exact h.inputAccessoryViewControllerDidReset.toSound
  | checkCompletes r success => exact (h.searched_checkCompletes r success).sound h.toSound
  | retrievalCompletes r suggestions => exact h.sound_retrievalCompletes hpre
  | didSelectSuggestion origin suggestion => exact h.toSound.didSelectSuggestion origin suggestion

theorem Inv.initWithProviders (providers : List P) :
    Inv (initWithProviders providers : FormSuggestionController P S) where
  attributed := ⟨fun _ hmem => (nomatch hmem), fun _ hmem => (nomatch hmem)⟩
  asked := fun _ hmem => nomatch hmem
  block := fun _ hstate => nomatch hstate

/-- **Suggestions go astray exactly when an answer or a selection comes too late.** -/
theorem attributed_iff {providers : List P} {calls : List (Call P S)}
    (hrun : (machine providers).Run (initWithProviders providers) calls) :
    (machine providers).Always (fun c call => (c.step call).Attributed)
        (initWithProviders providers) calls ↔
      (machine providers).Always InTime (initWithProviders providers) calls :=
  Lib.Machine.always_iff_of_invariant (M := machine providers) (I := Inv)
    (fun _ _ hinv hpre => hinv.step_iff hpre)
    (fun _ _ hinv hpre hattributed => ⟨hinv.sound_step hpre, hattributed⟩)
    (Inv.initWithProviders providers) hrun

/-- Focus on a field of a form. -/
def focus (fieldIdentifier : String) (uniqueFieldID : UInt32) : FormActivityParams where
  formName := "checkout"
  uniqueFormID := 1
  fieldIdentifier := fieldIdentifier
  uniqueFieldID := uniqueFieldID
  fieldType := "text"
  type := "focus"
  value := ""
  frameID := "frame"
  isMainFrame := true
  hasUserGesture := true

/-- The provider found for the name field answers when the street field has the focus, and is
the provider found for it too. -/
def answeredForAnotherField : List (Call Nat String) :=
  [.retrieveSuggestionsForForm (focus "name" 2), .checkCompletes 0 true,
    .retrieveSuggestionsForForm (focus "street" 3), .retrievalCompletes 0 ["Ada"]]

theorem attributed_iff_answeredForAnotherField :
    (machine [0]).Always (fun c call => (c.step call).Attributed) (initWithProviders [0])
        answeredForAnotherField ↔
      (machine [0]).Always InTime (initWithProviders [0]) answeredForAnotherField :=
  @attributed_iff _ _ [0] answeredForAnotherField (by decide)

/-- The block for the street is handed the suggestions for the name. When one is selected, it
is sent back as one for the street. -/
theorem answeredForAnotherField_astray :
    (machine [0]).Run (initWithProviders [0]) answeredForAnotherField ∧
      ((machine [0]).exec (initWithProviders [0]) answeredForAnotherField).handed.map
          (fun h => (h.block.fieldIdentifier, h.request.query.fieldIdentifier, h.suggestions)) =
        [("street", "name", ["Ada"])] ∧
      (∀ origin, (((machine [0]).exec (initWithProviders [0])
          answeredForAnotherField).didSelectSuggestion origin "Ada").sent.map
            (fun m => (m.provider, m.place.fieldIdentifier)) = [(0, "street")]) ∧
      ¬ (machine [0]).Always (fun c call => (c.step call).Attributed) (initWithProviders [0])
        answeredForAnotherField := by
  refine ⟨by decide, by decide, fun _ => rfl, fun hattributed => ?_⟩
  have hlast := hattributed.2.2.2.1.handed _ List.mem_cons_self (List.cons_ne_nil _ _)
  exact absurd (congrArg Place.uniqueFieldID hlast.place) (by decide)

end FormSuggestionController

end IosChrome.Autofill

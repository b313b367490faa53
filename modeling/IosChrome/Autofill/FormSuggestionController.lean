import IosChrome.Lib.Machine

/-!
# FormSuggestionController

The controller asks its providers, in their order, whether they have suggestions for a field
(`RunSearchPipeline`), asks the first one that has for them, and hands what it gets to the
block the accessory view has installed. Each provider answers when it likes, so the searches
and the retrievals of several calls may be under way together; `requests` holds them all.

`providers` are objects of any type `P`, and suggestions of any type `S`. A provider passes
itself to the completion of a retrieval. A block is known by the parameters of the call that
installed it. All completions are in tail position: a provider that answers within the call
that asks it is one that answers next.
-/

namespace IosChrome.Autofill

/-- What of an `autofill::FormActivityParams` the controller reads. -/
structure FormActivityParams where
  formName : String
  uniqueFormID : UInt32
  fieldIdentifier : String
  uniqueFieldID : UInt32
  fieldType : String
  type : String
  value : String
  frameID : String
  isMainFrame : Bool
  hasUserGesture : Bool
  deriving DecidableEq

structure FormSuggestionProviderQuery where
  formName : String
  uniqueFormID : UInt32
  fieldIdentifier : String
  uniqueFieldID : UInt32
  fieldType : String
  type : String
  typedValue : String
  frameID : String
  deriving DecidableEq

/-- A form, a field of it and the frame they are in. -/
structure Place where
  formName : String
  uniqueFormID : UInt32
  fieldIdentifier : String
  uniqueFieldID : UInt32
  frameID : String
  deriving DecidableEq

def FormActivityParams.place (params : FormActivityParams) : Place where
  formName := params.formName
  uniqueFormID := params.uniqueFormID
  fieldIdentifier := params.fieldIdentifier
  uniqueFieldID := params.uniqueFieldID
  frameID := params.frameID

def FormSuggestionProviderQuery.place (query : FormSuggestionProviderQuery) : Place where
  formName := query.formName
  uniqueFormID := query.uniqueFormID
  fieldIdentifier := query.fieldIdentifier
  uniqueFieldID := query.uniqueFieldID
  frameID := query.frameID

structure AutofillSuggestionState (S : Type) where
  formName : String
  uniqueFormID : UInt32
  fieldIdentifier : String
  uniqueFieldID : UInt32
  frameIdentifier : String
  typedValue : String
  /-- `none` is nil. -/
  suggestions : Option (List S)
  deriving DecidableEq

variable {P S : Type}

def AutofillSuggestionState.place (state : AutofillSuggestionState S) : Place where
  formName := state.formName
  uniqueFormID := state.uniqueFormID
  fieldIdentifier := state.fieldIdentifier
  uniqueFieldID := state.uniqueFieldID
  frameID := state.frameIdentifier

/-- What a request waits for: the check or the retrieval of the provider at an index. -/
inductive Stage where
  | checking (index : Nat)
  | retrieving (index : Nat)
  | idle
  deriving DecidableEq

def Stage.isChecking : Stage → Bool
  | .checking _ => true
  | _ => false

def Stage.isRetrieving : Stage → Bool
  | .retrieving _ => true
  | _ => false

/-- One call of `retrieveSuggestionsForForm:webState:`, as its blocks have captured it, and
what the providers it has asked have answered. -/
structure Request where
  requestIdentifier : UInt64
  query : FormSuggestionProviderQuery
  isMainFrame : Bool
  hasUserGesture : Bool
  stage : Stage
  answers : List Bool
  deriving DecidableEq

/-- A list of suggestions passed to an update block: the block, the request that got the
suggestions and the provider it got them from, if there is one. -/
structure HandOut (P S : Type) where
  block : FormActivityParams
  request : Request
  provider : Option P
  suggestions : List S
  deriving DecidableEq

/-- A `didSelectSuggestion:form:…` message, and where the suggestion was handed out. -/
structure Message (P S : Type) where
  provider : P
  suggestion : S
  place : Place
  origin : HandOut P S
  deriving DecidableEq

structure FormSuggestionController (P S : Type) where
  suggestionProviders : List P
  accessoryViewUpdateBlock : Option FormActivityParams
  suggestionState : Option (AutofillSuggestionState S)
  provider : Option P
  requestIdentifier : UInt64
  requests : List Request
  handed : List (HandOut P S)
  sent : List (Message P S)
  deriving DecidableEq

namespace FormSuggestionController

def initWithProviders (providers : List P) : FormSuggestionController P S where
  suggestionProviders := providers
  accessoryViewUpdateBlock := none
  suggestionState := none
  provider := none
  requestIdentifier := 0
  requests := []
  handed := []
  sent := []

variable (c : FormSuggestionController P S)

def resetSuggestionState : FormSuggestionController P S :=
  { c with provider := none, suggestionState := none }

/-- `webState:didLoadPageWithSuccess:`. -/
def processPage : FormSuggestionController P S :=
  c.resetSuggestionState

/-- The update block is run, when there is one. -/
def updateKeyboardWithSuggestions (request : Request) (provider : Option P)
    (suggestions : List S) : FormSuggestionController P S :=
  match c.accessoryViewUpdateBlock with
  | none => c
  | some block => { c with handed := c.handed ++ [⟨block, request, provider, suggestions⟩] }

def onNoSuggestionsAvailable (request : Request) : FormSuggestionController P S :=
  c.updateKeyboardWithSuggestions request none []

/-- The results carry no identity: they go with whatever state there is. -/
def onSuggestionsReady (request : Request) (suggestions : List S) (provider : P) :
    FormSuggestionController P S :=
  match c.suggestionState with
  | none => c
  | some state =>
    { c with
      provider := some provider
      suggestionState :=
        some { state with
          suggestions := some suggestions } }.updateKeyboardWithSuggestions request
      (some provider) suggestions

def setRequest (r : Nat) (request : Request) : FormSuggestionController P S :=
  { c with requests := c.requests.set r request }

/-- The block run when the search is over; `none` is `NSNotFound`. -/
def completion (r : Nat) (request : Request) (providerIndex : Option Nat) :
    FormSuggestionController P S :=
  if c.requestIdentifier ≠ request.requestIdentifier then
    c.setRequest r { request with stage := .idle }
  else
    match providerIndex with
    | none => (c.setRequest r { request with stage := .idle }).onNoSuggestionsAvailable request
    | some index => c.setRequest r { request with stage := .retrieving index }

/-- Asks the provider at `fromIndex`, or ends the search when there is none. -/
def runSearchPipeline (r : Nat) (request : Request) (fromIndex : Nat) :
    FormSuggestionController P S :=
  if fromIndex = c.suggestionProviders.length then c.completion r request none
  else c.setRequest r { request with stage := .checking fromIndex }

/-- The completion of the availability check of the provider at `index`. -/
def checkCompletes (r : Nat) (success : Bool) : FormSuggestionController P S :=
  match c.requests[r]? with
  | none => c
  | some request =>
    match request.stage with
    | .checking index =>
      let answered := { request with answers := request.answers ++ [success] }
      if success then c.completion r answered (some index)
      else c.runSearchPipeline r answered (index + 1)
    | _ => c

/-- The completion of a retrieval. -/
def retrievalCompletes (r : Nat) (suggestions : List S) : FormSuggestionController P S :=
  match c.requests[r]? with
  | none => c
  | some request =>
    match request.stage with
    | .retrieving index =>
      match c.suggestionProviders[index]? with
      | none => c
      | some provider =>
        (c.setRequest r { request with stage := .idle }).onSuggestionsReady
          { request with stage := .idle } suggestions provider
    | _ => c

/-- What the blocks of `retrieveSuggestionsForForm:webState:` capture. -/
def newRequest (params : FormActivityParams) (typedValue : String) : Request where
  requestIdentifier := c.requestIdentifier + 1
  query :=
    { formName := params.formName
      uniqueFormID := params.uniqueFormID
      fieldIdentifier := params.fieldIdentifier
      uniqueFieldID := params.uniqueFieldID
      fieldType := params.fieldType
      type := params.type
      typedValue := typedValue
      frameID := params.frameID }
  isMainFrame := params.isMainFrame
  hasUserGesture := params.hasUserGesture
  stage := .idle
  answers := []

/-- `retrieveSuggestionsForForm:webState:`, for the typed value of the suggestion state. -/
def startSearch (params : FormActivityParams) (typedValue : String) :
    FormSuggestionController P S :=
  { c with
    requestIdentifier := c.requestIdentifier + 1
    requests := c.requests ++ [c.newRequest params typedValue] }.runSearchPipeline
      c.requests.length (c.newRequest params typedValue) 0

/-- `retrieveSuggestionsForForm:webState:accessoryViewUpdateBlock:`. -/
def retrieveSuggestionsForForm (params : FormActivityParams) : FormSuggestionController P S :=
  { c.processPage with
    suggestionState := some
      { formName := params.formName
        uniqueFormID := params.uniqueFormID
        fieldIdentifier := params.fieldIdentifier
        uniqueFieldID := params.uniqueFieldID
        frameIdentifier := params.frameID
        typedValue := params.value
        suggestions := none }
    accessoryViewUpdateBlock := some params }.startSearch params params.value

def inputAccessoryViewControllerDidReset : FormSuggestionController P S :=
  { c with accessoryViewUpdateBlock := none }.resetSuggestionState

/-- A message to a nil provider is sent to nobody. -/
def didSelectSuggestion (origin : HandOut P S) (suggestion : S) : FormSuggestionController P S :=
  match c.suggestionState, c.provider with
  | some state, some provider =>
    { c with sent := c.sent ++ [⟨provider, suggestion, state.place, origin⟩] }
  | _, _ => c

/-- What reaches the controller. A check or a retrieval is known by its request. -/
inductive Call (P S : Type) where
  | retrieveSuggestionsForForm (params : FormActivityParams)
  | didLoadPage
  | inputAccessoryViewControllerDidReset
  | checkCompletes (r : Nat) (success : Bool)
  | retrievalCompletes (r : Nat) (suggestions : List S)
  | didSelectSuggestion (origin : HandOut P S) (suggestion : S)
  deriving DecidableEq

def step (call : Call P S) : FormSuggestionController P S :=
  match call with
  | .retrieveSuggestionsForForm params => c.retrieveSuggestionsForForm params
  | .didLoadPage => c.processPage
  | .inputAccessoryViewControllerDidReset => c.inputAccessoryViewControllerDidReset
  | .checkCompletes r success => c.checkCompletes r success
  | .retrievalCompletes r suggestions => c.retrievalCompletes r suggestions
  | .didSelectSuggestion origin suggestion => c.didSelectSuggestion origin suggestion

/-- An answer is to a question under way, so it comes once; a suggestion that is selected has
been handed out. -/
def Pre (call : Call P S) : Prop :=
  match call with
  | .checkCompletes r _ => (c.requests[r]?.any fun request => request.stage.isChecking) = true
  | .retrievalCompletes r _ =>
    (c.requests[r]?.any fun request => request.stage.isRetrieving) = true
  | .didSelectSuggestion origin suggestion =>
    origin ∈ c.handed ∧ suggestion ∈ origin.suggestions
  | _ => True

instance [DecidableEq P] [DecidableEq S] (call : Call P S) : Decidable (c.Pre call) := by
  unfold Pre
  cases call <;> infer_instance

def machine (providers : List P) : Lib.Machine (FormSuggestionController P S) (Call P S) where
  init c := c = initWithProviders providers
  pre := Pre
  step := step

instance [DecidableEq P] [DecidableEq S] (providers : List P)
    (c : FormSuggestionController P S) (call : Call P S) :
    Decidable ((machine providers).pre c call) :=
  inferInstanceAs (Decidable (c.Pre call))

end FormSuggestionController

end IosChrome.Autofill

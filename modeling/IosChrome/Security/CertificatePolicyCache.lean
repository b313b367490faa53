import IosChrome.Lib.Machine

/-!
# Certificate exceptions and their clean-ups

A certificate the user accepted for a host is an allowance. Each tab keeps its own in a session
cache, and the windows of a browser state share one `CertificatePolicyCache`, which lives on the IO
thread. A window that goes to the background or away cleans the shared cache: it posts a task that
clears the whole of it, with a reply that registers the allowances of its own tabs anew.

The IO thread runs its tasks, and the UI thread the replies, in the order they were posted. A
`CancelableTaskTracker` runs neither a task nor a reply once it was cancelled. On the UI thread
everything else waits while a window disconnects; the IO thread does not, so the two ends of
`disconnect` are calls of their own.

Of a certificate the chain and its fingerprint matter, and a tab is an identity.
-/

namespace IosChrome.Security

abbrev CertStatus := UInt32

structure X509Certificate (B : Type) where
  certBuffer : B
  intermediateBuffers : List B
  deriving DecidableEq, Repr

/-! ## `CertPolicy` and `CertificatePolicyCache` -/

inductive Judgment where
  | unknown
  | allowed
  | denied
  deriving DecidableEq, Repr

/-- `allowed_`: the fingerprints of allowed certificates, with the errors they were allowed for. -/
abbrev CertPolicy (F : Type) := F → Option CertStatus

section

variable {F : Type}

def CertPolicy.check (policy : CertPolicy F) (fingerprint : F) (error : CertStatus) : Judgment :=
  match policy fingerprint with
  | none => .unknown
  | some allowed =>
    if allowed &&& error ≠ 0 ∧ ~~~(allowed &&& error) ^^^ ~~~error = 0 then .allowed else .unknown

/-- All errors of `error` are allowed ones. -/
abbrev AllowsErrors (allowed error : CertStatus) : Prop := allowed &&& error = error

theorem CertPolicy.check_of_allowsErrors {policy : CertPolicy F} {fingerprint : F}
    {allowed error : CertStatus} (h : policy fingerprint = some allowed)
    (hallows : AllowsErrors allowed error) (hne : error ≠ 0) :
    policy.check fingerprint error = .allowed := by
  unfold CertPolicy.check
  rw [h]
  simp only
  rw [hallows]
  exact if_pos ⟨hne, UInt32.xor_self⟩

/-- Another status of the same certificate is replaced. -/
def CertPolicy.allow [DecidableEq F] (policy : CertPolicy F) (fingerprint : F)
    (error : CertStatus) : CertPolicy F :=
  fun f => if f = fingerprint then some error else policy f

/-- `cert_policy_for_host_`; a host that is not there has an empty policy. -/
abbrev CertificatePolicyCache (F : Type) := String → CertPolicy F

namespace CertificatePolicyCache

variable (cache : CertificatePolicyCache F)

def allowCertForHost [DecidableEq F] (fingerprint : F) (host : String) (error : CertStatus) :
    CertificatePolicyCache F :=
  fun h => if h = host then (cache h).allow fingerprint error else cache h

def queryPolicy (fingerprint : F) (host : String) (error : CertStatus) : Judgment :=
  (cache host).check fingerprint error

def clearCertificatePolicies (_ : CertificatePolicyCache F) : CertificatePolicyCache F :=
  fun _ _ => none

end CertificatePolicyCache

end

/-! ## Tabs and windows -/

/-- `CRWSessionCertificateStorage`. -/
structure SessionCertificate (B : Type) where
  certificate : X509Certificate B
  host : String
  status : CertStatus
  deriving DecidableEq, Repr

/-- A window. `canceled` is its task tracker's, and `hasBrowserState` is false when the window is
not connected. -/
structure TabModel (T : Type) where
  hasBrowserState : Bool := false
  webStates : List T := []
  savedSessionDuringBackgrounding : Bool := false
  canceled : Bool := false

/-- A task of the IO thread. The clearing belongs to a window's tracker and replies to it. -/
inductive IOTask (W B : Type) where
  | clearCertificatePolicies (tabModel : W)
  | allowCerts (allowedCerts : List (SessionCertificate B))
  deriving DecidableEq, Repr

/-- The windows of a browser state, the session caches of the tabs, the shared cache, and what is
posted. -/
structure BrowserStatePolicies (W T B F : Type) where
  tabModels : W → TabModel T
  allowedCerts : T → List (SessionCertificate B)
  policyCache : CertificatePolicyCache F
  ioTasks : List (IOTask W B)
  replies : List W
  disconnecting : Option W

namespace BrowserStatePolicies

variable {W T B F : Type} [DecidableEq W] [DecidableEq T] [DecidableEq B] [DecidableEq F]
  (fingerprint : X509Certificate B → F) (s : BrowserStatePolicies W T B F)

def setTabModel (w : W) (tabModel : TabModel T) : BrowserStatePolicies W T B F :=
  { s with tabModels := fun w' => if w' = w then tabModel else s.tabModels w' }

def postTask (task : IOTask W B) : BrowserStatePolicies W T B F :=
  { s with ioTasks := s.ioTasks ++ [task] }

/-! ### `SessionCertificatePolicyCache` -/

def setAllowedCerts (webState : T) (allowedCerts : List (SessionCertificate B)) :
    BrowserStatePolicies W T B F :=
  { s with allowedCerts := fun t => if t = webState then allowedCerts else s.allowedCerts t }

def updateCertificatePolicyCache (webState : T) : BrowserStatePolicies W T B F :=
  s.postTask (.allowCerts (s.allowedCerts webState))

/-- Intermediates are ignored. -/
def registerAllowedCertificate (webState : T) (certificate : X509Certificate B) (host : String)
    (status : CertStatus) : BrowserStatePolicies W T B F :=
  let allowance := ⟨{ certificate with intermediateBuffers := [] }, host, status⟩
  (s.setAllowedCerts webState ((s.allowedCerts webState).insert allowance)).postTask
    (.allowCerts [allowance])

/-! ### `TabModel` -/

def initWithBrowser (w : W) : BrowserStatePolicies W T B F :=
  s.setTabModel w { hasBrowserState := true }

/-- A new tab has no allowances; one restored from a session has its own, which go to the shared
cache too. -/
def insertWebState (w : W) (webState : T) (allowedCerts : List (SessionCertificate B)) :
    BrowserStatePolicies W T B F :=
  let tabModel := s.tabModels w
  ((s.setTabModel w { tabModel with webStates := tabModel.webStates ++ [webState] }).setAllowedCerts
    webState allowedCerts).updateCertificatePolicyCache webState

def closeWebState (w : W) (webState : T) : BrowserStatePolicies W T B F :=
  let tabModel := s.tabModels w
  s.setTabModel w { tabModel with webStates := tabModel.webStates.erase webState }

/-- `CleanCertificatePolicyCache`, by `saveSessionOnBackgroundingOrTermination`. -/
def saveSessionOnBackgroundingOrTermination (w : W) : BrowserStatePolicies W T B F :=
  if (s.tabModels w).hasBrowserState then s.postTask (.clearCertificatePolicies w) else s

def setSavedSessionDuringBackgrounding (w : W) (saved : Bool) : BrowserStatePolicies W T B F :=
  s.setTabModel w { s.tabModels w with savedSessionDuringBackgrounding := saved }

def applicationDidEnterBackground (w : W) : BrowserStatePolicies W T B F :=
  (s.saveSessionOnBackgroundingOrTermination w).setSavedSessionDuringBackgrounding w true

def applicationWillEnterForeground (w : W) : BrowserStatePolicies W T B F :=
  s.setSavedSessionDuringBackgrounding w false

/-- `disconnect`, up to the closing of the tabs. -/
def disconnect (w : W) : BrowserStatePolicies W T B F :=
  if (s.tabModels w).hasBrowserState then
    let s :=
      if (s.tabModels w).savedSessionDuringBackgrounding then s
      else (s.saveSessionOnBackgroundingOrTermination w).setSavedSessionDuringBackgrounding w true
    { s.setTabModel w { s.tabModels w with hasBrowserState := false, webStates := [] } with
      disconnecting := some w }
  else s

/-- The end of `disconnect`. -/
def tryCancelAll : BrowserStatePolicies W T B F :=
  match s.disconnecting with
  | none => s
  | some w =>
    { s.setTabModel w { s.tabModels w with canceled := true } with disconnecting := none }

/-! ### Tasks and replies -/

def allowCerts (cache : CertificatePolicyCache F) (allowedCerts : List (SessionCertificate B)) :
    CertificatePolicyCache F :=
  allowedCerts.foldl
    (fun cache cert => cache.allowCertForHost (fingerprint cert.certificate) cert.host cert.status)
    cache

/-- A cancelled task does nothing, and its reply is posted all the same. -/
def runFirstTask : BrowserStatePolicies W T B F :=
  match s.ioTasks with
  | [] => s
  | .clearCertificatePolicies w :: rest =>
    { s with
      ioTasks := rest
      replies := s.replies ++ [w]
      policyCache :=
        if (s.tabModels w).canceled then s.policyCache else s.policyCache.clearCertificatePolicies }
  | .allowCerts allowedCerts :: rest =>
    { s with
      ioTasks := rest
      policyCache := allowCerts fingerprint s.policyCache allowedCerts }

def restoreCertificatePolicyCacheFromModel (w : W) : BrowserStatePolicies W T B F :=
  (s.tabModels w).webStates.foldl updateCertificatePolicyCache s

def runFirstReply : BrowserStatePolicies W T B F :=
  match s.replies with
  | [] => s
  | w :: rest =>
    if (s.tabModels w).canceled then { s with replies := rest }
    else { s with replies := rest }.restoreCertificatePolicyCacheFromModel w

end BrowserStatePolicies

/-! ## Runs -/

inductive PolicyCall (W T B : Type) where
  | initWithBrowser (w : W)
  | insertWebState (w : W) (webState : T) (allowedCerts : List (SessionCertificate B))
  | closeWebState (w : W) (webState : T)
  | registerAllowedCertificate (webState : T) (certificate : X509Certificate B) (host : String)
      (status : CertStatus)
  | applicationDidEnterBackground (w : W)
  | applicationWillEnterForeground (w : W)
  | disconnect (w : W)
  | tryCancelAll
  | runFirstTask
  | runFirstReply

namespace BrowserStatePolicies

variable {W T B F : Type} [DecidableEq W] [DecidableEq T] [DecidableEq B] [DecidableEq F]
  (fingerprint : X509Certificate B → F) (s : BrowserStatePolicies W T B F)

def step : PolicyCall W T B → BrowserStatePolicies W T B F
  | .initWithBrowser w => s.initWithBrowser w
  | .insertWebState w webState allowedCerts => s.insertWebState w webState allowedCerts
  | .closeWebState w webState => s.closeWebState w webState
  | .registerAllowedCertificate webState certificate host status =>
    s.registerAllowedCertificate webState certificate host status
  | .applicationDidEnterBackground w => s.applicationDidEnterBackground w
  | .applicationWillEnterForeground w => s.applicationWillEnterForeground w
  | .disconnect w => s.disconnect w
  | .tryCancelAll => s.tryCancelAll
  | .runFirstTask => s.runFirstTask fingerprint
  | .runFirstReply => s.runFirstReply

/-- Only the IO thread goes on while a window disconnects. A window is connected once, and only a
connected one gets tabs. -/
def Pre : PolicyCall W T B → Prop
  | .runFirstTask => True
  | .tryCancelAll => s.disconnecting ≠ none
  | .initWithBrowser w => s.disconnecting = none ∧ (s.tabModels w).hasBrowserState = false ∧
    (s.tabModels w).canceled = false
  | .insertWebState w _ _ => s.disconnecting = none ∧ (s.tabModels w).hasBrowserState = true
  | _ => s.disconnecting = none

/-- No window yet, and an empty cache. -/
def machine (W T : Type) {B F : Type} [DecidableEq W] [DecidableEq T] [DecidableEq B]
    [DecidableEq F] (fingerprint : X509Certificate B → F) :
    Lib.Machine (BrowserStatePolicies W T B F) (PolicyCall W T B) where
  init s := (∀ w, s.tabModels w = {}) ∧ (∀ host f, s.policyCache host f = none) ∧
    s.ioTasks = [] ∧ s.replies = [] ∧ s.disconnecting = none
  pre s call := s.Pre call
  step s call := s.step fingerprint call

/-! ## What is asked of the clean-ups -/

/-- The shared cache has a policy for the certificate and the host of an allowance, and allows the
certificate there for the errors of the allowance. For no error it allows nothing. -/
def Present (allowance : SessionCertificate B) : Prop :=
  (s.policyCache allowance.host (fingerprint allowance.certificate)).isSome = true ∧
    (allowance.status ≠ 0 →
      s.policyCache.queryPolicy (fingerprint allowance.certificate) allowance.host allowance.status =
        .allowed)

/-- **Once nothing is outstanding, every allowance of a tab in a connected window is present.** -/
def AllowancesPresent : Prop :=
  s.ioTasks = [] → s.replies = [] → ∀ w, (s.tabModels w).hasBrowserState = true →
    ∀ webState ∈ (s.tabModels w).webStates, ∀ allowance ∈ s.allowedCerts webState,
      s.Present fingerprint allowance

/-- The window will still register the allowances of its tabs: a clean-up of its own is under way
behind the first task. -/
def CleansUpAfter (rest : List (IOTask W B)) (w : W) : Prop :=
  .clearCertificatePolicies w ∈ rest ∨ w ∈ s.replies

/-- A task that is queued registers the allowance. -/
def RegisteredBy (rest : List (IOTask W B)) (allowance : SessionCertificate B) : Prop :=
  ∃ allowedCerts, .allowCerts allowedCerts ∈ rest ∧ allowance ∈ allowedCerts

/-- The condition. When the shared cache is cleared for a window, every other connected window has
a clean-up of its own under way, or the allowances of its tabs are to be registered after it. When
allowances are registered, each allowance of a tab in a connected window is to be registered after
it in one of these ways, or no other status of its certificate for its host takes its errors away. -/
def SparesOthers : PolicyCall W T B → Prop
  | .runFirstTask =>
    (∀ w rest, s.ioTasks = .clearCertificatePolicies w :: rest → (s.tabModels w).canceled = false →
      ∀ w' ≠ w, (s.tabModels w').hasBrowserState = true → s.CleansUpAfter rest w' ∨
        ∀ webState ∈ (s.tabModels w').webStates, ∀ allowance ∈ s.allowedCerts webState,
          RegisteredBy rest allowance) ∧
    ∀ allowedCerts rest, s.ioTasks = .allowCerts allowedCerts :: rest →
      ∀ w, (s.tabModels w).hasBrowserState = true → s.CleansUpAfter rest w ∨
        ∀ webState ∈ (s.tabModels w).webStates, ∀ allowance ∈ s.allowedCerts webState,
          RegisteredBy rest allowance ∨ ∀ cert ∈ allowedCerts, cert.host = allowance.host →
            fingerprint cert.certificate = fingerprint allowance.certificate →
            AllowsErrors cert.status allowance.status
  | _ => True

end BrowserStatePolicies

end IosChrome.Security

import IosChrome.Security.CertificatePolicyCache

/-!
# `CRWCertVerificationController`

The user's decisions to proceed with a bad certificate are kept with its leaf and the host. Both
they and the queries for a rejected trust are tasks of the IO thread, which runs them in the order
they were posted, and so does the clearing of the cache.

`Allowed` says when a trust has been accepted, in terms of the tasks that ran before its query
did: the last allowance of its leaf certificate and its host since the cache was cleared was for
errors that include the present ones. `accepted_iff` says that the controller reports just that.
No intermediate certificate occurs in it.

The trust is evaluated on another thread, in any order; a query starts with the result of that.
The certificates, their errors and their fingerprint are `net`'s.
-/

namespace IosChrome.Security

inductive SecTrustResultType where
  | invalid
  | proceed
  | deny
  | unspecified
  | recoverableTrustFailure
  | fatalTrustFailure
  | otherError
  deriving DecidableEq

inductive CertAcceptPolicy where
  | nonRecoverableError
  | recoverableErrorUndecidedByUser
  | recoverableErrorAcceptedByUser
  | allow
  deriving DecidableEq

/-- `net::CERT_STATUS_ALL_ERRORS`. -/
def allErrors : CertStatus := 0xFF00FFFF

def certStatusAuthorityInvalid : CertStatus := 0x4

def certStatusInvalid : CertStatus := 0x80

def isCertStatusError (status : CertStatus) : Bool := allErrors &&& status ≠ 0

/-- What `net` says of certificates `S` of the system, with the buffers `B`, and of errors `E`. -/
structure CertEnv (S B E F : Type) where
  createX509CertificateFromSecCertificate : S → Option B
  getCertFailureStatusFromError : E → CertStatus
  calculateChainFingerprint256 : X509Certificate B → F

/-- An evaluated trust, with its chain, leaf first. -/
structure ServerTrust (S E : Type) where
  trustResult : SecTrustResultType
  trustError : E
  certificates : List S

inductive CertTask (S B E : Type) where
  | allowCertForHost (cert : X509Certificate B) (host : String) (status : CertStatus)
  | clearCertificatePolicies
  | loadPolicyForRejectedTrustResult (trust : ServerTrust S E) (host : String)

/-- A call of a completion handler, with the tasks run before its query. -/
structure PolicyDecision (S B E : Type) where
  trust : ServerTrust S E
  host : String
  policy : CertAcceptPolicy
  certStatus : CertStatus
  before : List (CertTask S B E)

/-- `executed` and `decisions` are logs. -/
structure CertVerificationController (S B E F : Type) where
  certPolicyCache : CertificatePolicyCache F
  ioTasks : List (CertTask S B E)
  executed : List (CertTask S B E)
  decisions : List (PolicyDecision S B E)

section

variable {S B E F : Type} (env : CertEnv S B E F)

def CertEnv.certStatusFromTrustResult (trustResult : SecTrustResultType) (trustError : E) :
    CertStatus :=
  match trustResult with
  | .proceed => 0
  | .unspecified => 0
  | .deny => certStatusAuthorityInvalid
  | _ =>
    let certStatus := env.getCertFailureStatusFromError trustError
    if isCertStatusError certStatus then certStatus else certStatus ||| certStatusInvalid

/-- The leaf certificate without intermediates, if there is one. -/
def CertEnv.leafCert (trust : ServerTrust S E) : Option (X509Certificate B) :=
  (trust.certificates.head?.bind env.createX509CertificateFromSecCertificate).map fun leaf =>
    ⟨leaf, []⟩

namespace CertVerificationController

variable (c : CertVerificationController S B E F)

def postTask (task : CertTask S B E) : CertVerificationController S B E F :=
  { c with ioTasks := c.ioTasks ++ [task] }

/-- Intermediates are ignored. -/
def allowCert (cert : X509Certificate B) (host : String) (status : CertStatus) :
    CertVerificationController S B E F :=
  let cert := if cert.intermediateBuffers ≠ [] then ⟨cert.certBuffer, []⟩ else cert
  c.postTask (.allowCertForHost cert host status)

/-- `decideLoadPolicyForTrust`, when the trust has been evaluated. -/
def decideLoadPolicyForTrust (trust : ServerTrust S E) (host : String) :
    CertVerificationController S B E F :=
  if trust.trustResult = .proceed ∨ trust.trustResult = .unspecified then
    { c with decisions := c.decisions ++ [⟨trust, host, .allow, 0, c.executed⟩] }
  else c.postTask (.loadPolicyForRejectedTrustResult trust host)

def loadPolicyForRejectedTrustResult (trust : ServerTrust S E) (host : String)
    (certStatus : CertStatus) : CertAcceptPolicy :=
  if trust.trustResult ≠ .recoverableTrustFailure ∨ trust.certificates.length = 0 then
    .nonRecoverableError
  else
    match env.leafCert trust with
    | none => .nonRecoverableError
    | some leafCert =>
      let judgment := c.certPolicyCache.queryPolicy (env.calculateChainFingerprint256 leafCert) host
        certStatus
      if judgment = .allowed then .recoverableErrorAcceptedByUser
      else .recoverableErrorUndecidedByUser

def runTask [DecidableEq F] : CertTask S B E → CertVerificationController S B E F
  | .allowCertForHost cert host status =>
    { c with
      certPolicyCache := c.certPolicyCache.allowCertForHost (env.calculateChainFingerprint256 cert)
        host status }
  | .clearCertificatePolicies =>
    { c with certPolicyCache := c.certPolicyCache.clearCertificatePolicies }
  | .loadPolicyForRejectedTrustResult trust host =>
    let certStatus := env.certStatusFromTrustResult trust.trustResult trust.trustError
    { c with
      decisions := c.decisions ++ [⟨trust, host,
        c.loadPolicyForRejectedTrustResult env trust host certStatus, certStatus, c.executed⟩] }

def runFirstTask [DecidableEq F] : CertVerificationController S B E F :=
  match c.ioTasks with
  | [] => c
  | task :: rest =>
    { c.runTask env task with
      ioTasks := rest
      executed := c.executed ++ [task] }

inductive Call (S B E : Type) where
  | allowCert (cert : X509Certificate B) (host : String) (status : CertStatus)
  | clearCertificatePolicies
  | decideLoadPolicyForTrust (trust : ServerTrust S E) (host : String)
  | runFirstTask

def step [DecidableEq F] : Call S B E → CertVerificationController S B E F
  | .allowCert cert host status => c.allowCert cert host status
  | .clearCertificatePolicies => c.postTask .clearCertificatePolicies
  | .decideLoadPolicyForTrust trust host => c.decideLoadPolicyForTrust trust host
  | .runFirstTask => c.runFirstTask env

/-- An empty cache. -/
def machine [DecidableEq F] :
    Lib.Machine (CertVerificationController S B E F) (Call S B E) where
  init c := c = ⟨fun _ _ => none, [], [], []⟩
  pre _ _ := True
  step c call := c.step env call

end CertVerificationController

/-! ## What the user has accepted -/

section

variable [DecidableEq B]

/-- What a task leaves of the last allowance of a leaf certificate for a host. -/
def CertTask.allowance (leaf : B) (host : String) (last : Option CertStatus) :
    CertTask S B E → Option CertStatus
  | .allowCertForHost cert host' status =>
    if cert.certBuffer = leaf ∧ host' = host then some status else last
  | .clearCertificatePolicies => none
  | .loadPolicyForRejectedTrustResult _ _ => last

/-- The last allowance since the cache was cleared. -/
def lastAllowance (leaf : B) (host : String) (tasks : List (CertTask S B E)) : Option CertStatus :=
  tasks.foldl (CertTask.allowance leaf host) none

/-- The user has accepted the trust: its failure is recoverable, and the last allowance of its
leaf certificate includes its errors, of which there is one. -/
def CertEnv.Allowed (tasks : List (CertTask S B E)) (trust : ServerTrust S E) (host : String) :
    Prop :=
  trust.trustResult = .recoverableTrustFailure ∧
    ∃ leaf allowed, env.leafCert trust = some leaf ∧
      lastAllowance leaf.certBuffer host tasks = some allowed ∧
      let errors := allErrors &&& env.certStatusFromTrustResult trust.trustResult trust.trustError
      errors &&& allowed = errors ∧ errors ≠ 0

/-- Every decision is about a trust as it was when its query ran. -/
def CertEnv.AcceptedByUser (c : CertVerificationController S B E F) : Prop :=
  ∀ d ∈ c.decisions, d.before <+: c.executed ∧
    (d.policy = .recoverableErrorAcceptedByUser ↔ env.Allowed d.before d.trust d.host)

end

/-! ## A query -/

theorem CertPolicy.check_eq_allowed_iff {policy : CertPolicy F} {fingerprint : F}
    {error : CertStatus} : policy.check fingerprint error = .allowed ↔
      ∃ allowed, policy fingerprint = some allowed ∧ error &&& allowed = error ∧ error ≠ 0 := by
  unfold CertPolicy.check
  cases policy fingerprint with
  | none => simp
  | some allowed =>
    -- The two complements are equal where the allowed errors include the present ones.
    have hbits : ~~~(allowed &&& error) ^^^ ~~~error = 0 ↔ error &&& allowed = error := by
      rw [UInt32.xor_eq_zero_iff, UInt32.not_inj, UInt32.and_comm]
    simp only [hbits, Option.some.injEq, exists_eq_left']
    split
    · rename_i h
      have hne : error ≠ 0 := by
        rintro rfl
        exact h.1 (by simp)
      simp [h.2, hne]
    · rename_i h
      simp only [reduceCtorEq, false_iff]
      rintro ⟨hand, hne⟩
      refine h ⟨?_, hand⟩
      rwa [UInt32.and_comm, hand]

/-- A certificate status has error bits only, as soon as a failure has. -/
theorem CertEnv.certStatus_isError
    (herrors : ∀ error, allErrors &&& env.getCertFailureStatusFromError error =
      env.getCertFailureStatusFromError error) (trustResult : SecTrustResultType)
    (trustError : E) :
    allErrors &&& env.certStatusFromTrustResult trustResult trustError =
      env.certStatusFromTrustResult trustResult trustError := by
  have hfailure : ∀ status, allErrors &&& status = status →
      allErrors &&& (if isCertStatusError status then status else status ||| certStatusInvalid) =
        if isCertStatusError status then status else status ||| certStatusInvalid := by
    intro status hstatus
    split
    · exact hstatus
    · rw [← UInt32.toBitVec_inj] at hstatus ⊢
      rw [UInt32.toBitVec_and, UInt32.toBitVec_or, BitVec.and_or_distrib_left,
        ← UInt32.toBitVec_and, hstatus]
      rfl
  cases trustResult with
  | proceed => exact UInt32.and_zero
  | unspecified => exact UInt32.and_zero
  | deny =>
    show allErrors &&& certStatusAuthorityInvalid = certStatusAuthorityInvalid
    decide
  | invalid => exact hfailure _ (herrors trustError)
  | recoverableTrustFailure => exact hfailure _ (herrors trustError)
  | fatalTrustFailure => exact hfailure _ (herrors trustError)
  | otherError => exact hfailure _ (herrors trustError)

theorem CertVerificationController.loadPolicy_eq_accepted_iff [DecidableEq B]
    {c : CertVerificationController S B E F} {tasks : List (CertTask S B E)}
    (herrors : ∀ error, allErrors &&& env.getCertFailureStatusFromError error =
      env.getCertFailureStatusFromError error)
    (hcache : ∀ leaf host, c.certPolicyCache host (env.calculateChainFingerprint256 ⟨leaf, []⟩) =
      lastAllowance leaf host tasks) (trust : ServerTrust S E) (host : String) :
    c.loadPolicyForRejectedTrustResult env trust host
        (env.certStatusFromTrustResult trust.trustResult trust.trustError) =
      .recoverableErrorAcceptedByUser ↔ env.Allowed tasks trust host := by
  unfold CertVerificationController.loadPolicyForRejectedTrustResult CertEnv.Allowed
  simp only [env.certStatus_isError herrors]
  by_cases hresult : trust.trustResult = .recoverableTrustFailure
  · cases hleaf : env.leafCert trust with
    | none => simp
    | some leaf =>
      have hchain : trust.certificates.length ≠ 0 := by
        intro hnil
        rw [CertEnv.leafCert, List.eq_nil_of_length_eq_zero hnil] at hleaf
        cases hleaf
      obtain ⟨buffer, rfl⟩ : ∃ buffer, leaf = ⟨buffer, []⟩ := by
        obtain ⟨buffer, -, rfl⟩ := Option.map_eq_some_iff.1 hleaf
        exact ⟨buffer, rfl⟩
      have hcheck := @CertPolicy.check_eq_allowed_iff F (c.certPolicyCache host)
        (env.calculateChainFingerprint256 ⟨buffer, []⟩)
        (env.certStatusFromTrustResult trust.trustResult trust.trustError)
      rw [hcache] at hcheck
      simp only [hresult] at hcheck ⊢
      simp [hchain, CertificatePolicyCache.queryPolicy, hcheck]
  · simp [hresult]

/-! ## Every run -/

namespace CertVerificationController

variable [DecidableEq B] {env}

/-- The certificates of posted allowances have no intermediates. -/
def LeafOnly : CertTask S B E → Prop
  | .allowCertForHost cert _ _ => cert.intermediateBuffers = []
  | _ => True

/-- The cache is the last allowances of what was run, and the decisions are right. -/
structure Inv (env : CertEnv S B E F) (c : CertVerificationController S B E F) : Prop where
  cache : ∀ leaf host, c.certPolicyCache host (env.calculateChainFingerprint256 ⟨leaf, []⟩) =
    lastAllowance leaf host c.executed
  tasks : ∀ task ∈ c.ioTasks, LeafOnly task
  decisions : env.AcceptedByUser c

variable {c : CertVerificationController S B E F}

theorem Inv.postTask (h : c.Inv env) {task : CertTask S B E} (htask : LeafOnly task) :
    (c.postTask task).Inv env where
  cache := h.cache
  tasks task' hmem := by
    rcases List.mem_append.1 hmem with hmem | hmem
    · exact h.tasks task' hmem
    · rw [List.mem_singleton.1 hmem]
      exact htask
  decisions := h.decisions

/-- A task does to the cache what it does to the last allowances. -/
theorem runTask_cache [DecidableEq F] (hinjective : Function.Injective fun leaf : B =>
      env.calculateChainFingerprint256 ⟨leaf, []⟩) {task : CertTask S B E} (htask : LeafOnly task)
    (leaf : B) (host : String) :
    (c.runTask env task).certPolicyCache host (env.calculateChainFingerprint256 ⟨leaf, []⟩) =
      CertTask.allowance leaf host
        (c.certPolicyCache host (env.calculateChainFingerprint256 ⟨leaf, []⟩)) task := by
  cases task with
  | allowCertForHost cert host' status =>
    obtain ⟨buffer, intermediates⟩ := cert
    obtain rfl : intermediates = [] := htask
    have hfingerprint : env.calculateChainFingerprint256 ⟨leaf, []⟩ =
        env.calculateChainFingerprint256 ⟨buffer, []⟩ ↔ buffer = leaf :=
      ⟨fun heq => (hinjective heq).symm, fun heq => by rw [heq]⟩
    simp only [runTask, CertTask.allowance, CertificatePolicyCache.allowCertForHost]
    by_cases hhost : host = host'
    · by_cases hleaf : buffer = leaf
      · simp [CertPolicy.allow, hhost, hleaf]
      · simp [CertPolicy.allow, hhost, hleaf, hfingerprint]
    · simp [hhost, Ne.symm hhost]
  | clearCertificatePolicies => rfl
  | loadPolicyForRejectedTrustResult trust host' => rfl

theorem Inv.step [DecidableEq F] (hinjective : Function.Injective fun leaf : B =>
      env.calculateChainFingerprint256 ⟨leaf, []⟩)
    (herrors : ∀ error, allErrors &&& env.getCertFailureStatusFromError error =
      env.getCertFailureStatusFromError error)
    (h : c.Inv env) (call : Call S B E) : (c.step env call).Inv env := by
  cases call with
  | allowCert cert host status =>
    refine h.postTask ?_
    split
    · rfl
    · rename_i hnil
      exact not_not.1 hnil
  | clearCertificatePolicies => exact h.postTask trivial
  | decideLoadPolicyForTrust trust host =>
    simp only [CertVerificationController.step, decideLoadPolicyForTrust]
    split
    · rename_i hresult
      refine ⟨h.cache, h.tasks, fun d hd => ?_⟩
      rcases List.mem_append.1 hd with hd | hd
      · exact h.decisions d hd
      · obtain rfl := List.mem_singleton.1 hd
        refine ⟨List.prefix_refl _, ?_⟩
        rcases hresult with hresult | hresult <;> simp [CertEnv.Allowed, hresult]
    · exact h.postTask trivial
  | runFirstTask =>
    simp only [CertVerificationController.step, runFirstTask]
    split
    · exact h
    · rename_i task rest htasks
      have htask : LeafOnly task := h.tasks task (by simp [htasks])
      refine ⟨fun leaf host => ?_, fun task' hmem => h.tasks task' (by simp [htasks, hmem]), ?_⟩
      · have hrun := runTask_cache (c := c) hinjective htask leaf host
        rw [h.cache] at hrun
        rw [lastAllowance, List.foldl_append]
        exact hrun
      · intro d hd
        have hmono : ∀ d ∈ c.decisions, d.before <+: c.executed ++ [task] ∧
            (d.policy = .recoverableErrorAcceptedByUser ↔ env.Allowed d.before d.trust d.host) :=
          fun d hd => ⟨(h.decisions d hd).1.trans (List.prefix_append _ _), (h.decisions d hd).2⟩
        cases task with
        | allowCertForHost cert host status => exact hmono d hd
        | clearCertificatePolicies => exact hmono d hd
        | loadPolicyForRejectedTrustResult trust host =>
          rcases List.mem_append.1 hd with hd | hd
          · exact hmono d hd
          · obtain rfl := List.mem_singleton.1 hd
            exact ⟨List.prefix_append _ _,
              loadPolicy_eq_accepted_iff env herrors h.cache trust host⟩

/-- **A trust is reported as accepted exactly when the user has accepted its errors**, for its leaf
certificate and its host and since the cache was last cleared. -/
theorem accepted_iff [DecidableEq F] (hinjective : Function.Injective fun leaf : B =>
      env.calculateChainFingerprint256 ⟨leaf, []⟩)
    (herrors : ∀ error, allErrors &&& env.getCertFailureStatusFromError error =
      env.getCertFailureStatusFromError error)
    {c : CertVerificationController S B E F} {calls : List (Call S B E)}
    (hinit : (machine env).init c) (hrun : (machine env).Run c calls) :
    env.AcceptedByUser ((machine env).exec c calls) := by
  have hinv : c.Inv env := by
    obtain rfl := hinit
    exact ⟨fun _ _ => rfl, by simp, by simp [CertEnv.AcceptedByUser]⟩
  exact (Lib.Machine.Run.invariant (fun c call h _ => h.step hinjective herrors call) hinv
    hrun).decisions

/-- An environment of numbers, where every failure is of the name. -/
def nameErrors : CertEnv Nat Nat Unit (X509Certificate Nat) where
  createX509CertificateFromSecCertificate := some
  getCertFailureStatusFromError _ := 1
  calculateChainFingerprint256 := id

theorem accepted_iff_nameErrors :
    let c : CertVerificationController Nat Nat Unit (X509Certificate Nat) :=
      ⟨fun _ _ => none, [], [], []⟩
    let trust : ServerTrust Nat Unit := ⟨.recoverableTrustFailure, (), [1, 3]⟩
    let calls : List (Call Nat Nat Unit) :=
      [.allowCert ⟨1, [2]⟩ "host" 5, .decideLoadPolicyForTrust trust "host", .runFirstTask,
        .runFirstTask]
    ((machine nameErrors).exec c calls).decisions.map PolicyDecision.policy =
        [.recoverableErrorAcceptedByUser] ∧
      nameErrors.AcceptedByUser ((machine nameErrors).exec c calls) := by
  intro c trust calls
  refine ⟨by decide, accepted_iff (fun leaf leaf' heq => ?_) (fun () => by decide) rfl
    ⟨trivial, trivial, trivial, trivial, trivial⟩⟩
  exact congrArg X509Certificate.certBuffer heq

end CertVerificationController

end

end IosChrome.Security

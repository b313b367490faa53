import IosChrome.Security.CertificatePolicyCache
import Mathlib.Data.List.Nodup

/-!
# The allowances of a session, saved and restored

`SessionCertificatePolicyCacheImpl` keeps what a tab's user allowed in an `NSMutableSet` of
`CRWSessionCertificateStorage` objects. A restored tab gets the set of its session, a saved one
hands a copy of its set to the session.

Two things go wrong. A session that was decoded without a certificate policy cache has no set,
the cache of its tab then has none either, and what is registered with it is sent to nil: it
reaches the shared cache and is not saved. `ExtractSessionState` means to make a new cache in
that case, but tests a pointer that is never null. And the class of the elements does not define
`isEqual:`, so a set tells objects apart and not what they hold: an allowance that is registered
again is there twice.

`buildStorage_exact_iff` says that nothing else goes wrong.
-/

namespace IosChrome.Security

/-- A `CRWSessionCertificateStorage` that was allocated; `object` is its identity. -/
structure CertificateObject (B : Type) where
  object : Nat
  storage : SessionCertificate B
  deriving DecidableEq, Repr

/-- An `NSSet` of them, in any order. -/
abbrev CertificateSet (B : Type) := List (CertificateObject B)

namespace CertificateSet

variable {B : Type}

/-- An identity that no object of the set has. -/
def newObject (set : CertificateSet B) : Nat :=
  (set.map CertificateObject.object).foldr max 0 + 1

/-- Elements are compared as `NSObject` compares them, by identity. -/
def addObject (set : CertificateSet B) (element : CertificateObject B) : CertificateSet B :=
  if ∃ other ∈ set, other.object = element.object then set else set ++ [element]

end CertificateSet

/-- `CRWSessionCertificatePolicyCacheStorage`. -/
structure CertificatePolicyCacheStorage (B : Type) where
  /-- `none` is nil. -/
  certificateStorages : Option (CertificateSet B)

/-- `allowed_certs_`, and what was posted to the shared cache. -/
structure SessionCertificatePolicyCache (B : Type) where
  /-- `none` is nil. -/
  allowedCerts : Option (CertificateSet B)
  posted : List (SessionCertificate B)

namespace SessionCertificatePolicyCache

variable {B : Type} (cache : SessionCertificatePolicyCache B)

def new : SessionCertificatePolicyCache B where
  allowedCerts := some []
  posted := []

/-- The `mutableCopy` of nil is nil. -/
def setAllowedCerts (allowedCerts : Option (CertificateSet B)) :
    SessionCertificatePolicyCache B :=
  { cache with allowedCerts := allowedCerts }

/-- The leaf of a certificate: intermediates are ignored. -/
def leaf (certificate : X509Certificate B) : X509Certificate B :=
  { certificate with intermediateBuffers := [] }

/-- A message to nil does nothing. -/
def registerAllowedCertificate (certificate : X509Certificate B) (host : String)
    (status : CertStatus) : SessionCertificatePolicyCache B :=
  let storage : SessionCertificate B := ⟨leaf certificate, host, status⟩
  { cache with
    allowedCerts := cache.allowedCerts.map fun set => set.addObject ⟨set.newObject, storage⟩
    posted := cache.posted ++ [storage] }

/-- `SessionCertificatePolicyCacheStorageBuilder::BuildStorage`. `setWithSet:` of nil is empty. -/
def buildStorage : CertificatePolicyCacheStorage B where
  certificateStorages := some (cache.allowedCerts.getD [])

/-- `BuildSessionCertificatePolicyCache`. A property of nil is nil. -/
def buildSessionCertificatePolicyCache (cacheStorage : Option (CertificatePolicyCacheStorage B)) :
    Option (SessionCertificatePolicyCache B) :=
  some (new.setAllowedCerts (cacheStorage.bind CertificatePolicyCacheStorage.certificateStorages))

/-- What `ExtractSessionState` makes the tab's cache, from the session's
`certPolicyCacheStorage`. -/
def extractSessionState (certPolicyCacheStorage : Option (CertificatePolicyCacheStorage B)) :
    SessionCertificatePolicyCache B :=
  match buildSessionCertificatePolicyCache certPolicyCacheStorage with
  | some certPolicyCache => certPolicyCache
  | none => new

/-- The calls of `RegisterAllowedCertificate`, in order. -/
def registerAll (registrations : List (SessionCertificate B)) : SessionCertificatePolicyCache B :=
  registrations.foldl
    (fun cache cert => cache.registerAllowedCertificate cert.certificate cert.host cert.status)
    cache

end SessionCertificatePolicyCache

open SessionCertificatePolicyCache

variable {B : Type}

/-! ## What is stored -/

/-- The leaf, the host and the status of an allowance. -/
def SessionCertificate.triple (cert : SessionCertificate B) : B × String × CertStatus :=
  (cert.certificate.certBuffer, cert.host, cert.status)

def CertificateSet.triples (set : CertificateSet B) : List (B × String × CertStatus) :=
  set.map fun element => element.storage.triple

/-- The triples of a session; one without a set has none. -/
def storedTriples (certPolicyCacheStorage : Option (CertificatePolicyCacheStorage B)) :
    List (B × String × CertStatus) :=
  ((certPolicyCacheStorage.bind CertificatePolicyCacheStorage.certificateStorages).getD []).triples

theorem CertificateSet.object_lt_newObject (set : CertificateSet B) :
    ∀ element ∈ set, element.object < set.newObject := by
  induction set with
  | nil => exact fun _ h => absurd h List.not_mem_nil
  | cons first rest ih =>
    intro element hmem
    simp only [newObject, List.map_cons, List.foldr_cons]
    rcases List.mem_cons.1 hmem with rfl | hrest
    · omega
    · have hlt := ih element hrest
      simp only [newObject] at hlt
      omega

/-- What was just allocated is a new element, whatever it holds. -/
theorem CertificateSet.addObject_newObject (set : CertificateSet B)
    (storage : SessionCertificate B) :
    set.addObject ⟨set.newObject, storage⟩ = set ++ [⟨set.newObject, storage⟩] := by
  unfold addObject
  refine if_neg ?_
  rintro ⟨other, hmem, hsame⟩
  exact absurd hsame (Nat.ne_of_lt (set.object_lt_newObject other hmem))

theorem triples_registerAll (registrations : List (SessionCertificate B)) :
    ∀ cache : SessionCertificatePolicyCache B,
      (cache.registerAll registrations).allowedCerts.map CertificateSet.triples =
        cache.allowedCerts.map fun set =>
          set.triples ++ registrations.map SessionCertificate.triple := by
  induction registrations with
  | nil => simp [registerAll]
  | cons cert registrations ih =>
    intro cache
    have hstep := ih (cache.registerAllowedCertificate cert.certificate cert.host cert.status)
    rw [registerAll, List.foldl_cons]
    rw [registerAll] at hstep
    rw [hstep]
    cases hset : cache.allowedCerts with
    | none => simp [registerAllowedCertificate, hset]
    | some set =>
      simp [registerAllowedCertificate, hset, CertificateSet.addObject_newObject,
        CertificateSet.triples, SessionCertificate.triple, leaf]

/-- A restoration, the registrations that follow, and the next saving. -/
def savedAgain (certPolicyCacheStorage : Option (CertificatePolicyCacheStorage B))
    (registrations : List (SessionCertificate B)) : CertificatePolicyCacheStorage B :=
  ((extractSessionState certPolicyCacheStorage).registerAll registrations).buildStorage

/-- What is saved: a tab whose session had a set adds to it, another one has nothing. -/
theorem storedTriples_savedAgain (certPolicyCacheStorage : Option (CertificatePolicyCacheStorage B))
    (registrations : List (SessionCertificate B)) :
    storedTriples (some (savedAgain certPolicyCacheStorage registrations)) =
      match certPolicyCacheStorage.bind CertificatePolicyCacheStorage.certificateStorages with
      | none => []
      | some set => set.triples ++ registrations.map SessionCertificate.triple := by
  have hregistered := triples_registerAll registrations
    (extractSessionState certPolicyCacheStorage)
  have hextract : (extractSessionState certPolicyCacheStorage).allowedCerts =
      certPolicyCacheStorage.bind CertificatePolicyCacheStorage.certificateStorages := rfl
  rw [hextract] at hregistered
  show (((extractSessionState certPolicyCacheStorage).registerAll
    registrations).allowedCerts.getD []).triples = _
  cases hset : certPolicyCacheStorage.bind CertificatePolicyCacheStorage.certificateStorages with
  | none =>
    rw [hset, Option.map_none, Option.map_eq_none_iff] at hregistered
    rw [hregistered]
    rfl
  | some set =>
    rw [hset, Option.map_some] at hregistered
    obtain ⟨set', hset', htriples⟩ := Option.map_eq_some_iff.1 hregistered
    rw [hset']
    exact htriples

/-! ## What is asked of a session -/

/-- The saved session has each of the triples once, and no others. -/
def SavedExactly [DecidableEq B] (expected : List (B × String × CertStatus))
    (saved : CertificatePolicyCacheStorage B) : Prop :=
  ∀ triple, (storedTriples (some saved)).count triple = if triple ∈ expected then 1 else 0

/-- **A session that is restored and saved has exactly what it had and what was registered, each
allowance once, exactly when it had a set or nothing is registered, and no allowance is there or
registered a second time.** -/
theorem buildStorage_exact_iff [DecidableEq B]
    (certPolicyCacheStorage : Option (CertificatePolicyCacheStorage B))
    (registrations : List (SessionCertificate B)) :
    SavedExactly
        (storedTriples certPolicyCacheStorage ++ registrations.map SessionCertificate.triple)
        (savedAgain certPolicyCacheStorage registrations) ↔
      (certPolicyCacheStorage.bind CertificatePolicyCacheStorage.certificateStorages = none →
        registrations = []) ∧
      (storedTriples certPolicyCacheStorage ++
        registrations.map SessionCertificate.triple).Nodup := by
  unfold SavedExactly
  rw [storedTriples_savedAgain]
  unfold storedTriples
  cases certPolicyCacheStorage.bind CertificatePolicyCacheStorage.certificateStorages with
  | none =>
    simp only [Option.getD_none, CertificateSet.triples, List.map_nil, List.nil_append,
      List.count_nil, forall_const]
    constructor
    · intro h
      have hempty : registrations.map SessionCertificate.triple = [] := by
        refine List.eq_nil_iff_forall_not_mem.2 fun triple hmem => ?_
        have hcount := h triple
        rw [if_pos hmem] at hcount
        cases hcount
      rw [hempty]
      exact ⟨List.map_eq_nil_iff.1 hempty, List.nodup_nil⟩
    · rintro ⟨rfl, -⟩ triple
      rfl
  | some set =>
    simp only [Option.getD_some, reduceCtorEq, false_implies, true_and]
    constructor
    · intro h
      refine List.nodup_iff_count_eq_one.2 fun triple hmem => ?_
      rw [h triple, if_pos hmem]
    · intro hnodup triple
      exact hnodup.count

/-- A session decoded without a certificate policy cache: what the user allows in the restored tab
reaches the shared cache and is not saved. -/
theorem decodedWithoutCache_forgets :
    let cert : SessionCertificate Nat := ⟨⟨7, []⟩, "example.com", 1⟩
    ((extractSessionState (B := Nat) none).registerAll [cert]).posted = [cert] ∧
      storedTriples (some (savedAgain none [cert])) = [] ∧
      ¬ SavedExactly (storedTriples none ++ [cert].map SessionCertificate.triple)
        (savedAgain none [cert]) := by
  refine ⟨by decide, by decide, fun h => ?_⟩
  exact absurd (h (7, "example.com", 1)) (by decide)

end IosChrome.Security

import IosChrome.Lib.Machine
import IosChrome.Cookies.SystemCookieStore
import IosChrome.Cookies.SystemCookieUtil

/-!
# Deleting cookies through `CookieStoreIOS`

Every delete of `CookieStoreIOS` is one operation with a predicate on canonical
cookies: it takes the sorted cookies of the system store, and a later task goes
through them, makes each canonical with its creation time and deletes those the
predicate holds of. The predicate sees the cookie object of the snapshot; what
is deleted is whatever the store has under its identity by then.

`SweepExact` is what such a task owes its caller: it removes a cookie only if
the cookie it removes satisfies the predicate, and it counts the cookies it
removed. A task owes nothing else if no cookie of its snapshot was replaced by
one the predicate does not hold of, or deleted, since (`SnapshotCurrent`):
`sweepExact_of_stillMatches` is the loop, `deletes_exact` the runs.
-/

namespace IosChrome.Cookies

open IosChrome.Lib

namespace CookieLibrary

variable {Info : Type} (net : CookieLibrary Info)

/-! ## The task of a delete -/

/-- Whether the predicate holds of a cookie created at a time. -/
def satisfiesAt (predicate : CanonicalCookie → Bool) (cookie : NSHTTPCookie) (t : Time) : Bool :=
  match net.canonicalCookieFromSystemCookie cookie t with
  | none => false
  | some canonicalCookie => predicate canonicalCookie

/-- One turn of the loop over the snapshot: the store, and `to_delete_count`. -/
def deleteIfMatching (predicate : CanonicalCookie → Bool)
    (store : NSHTTPSystemCookieStore × Nat) (cookie : NSHTTPCookie) :
    NSHTTPSystemCookieStore × Nat :=
  let (weakSystemStore, creationTime) := store.1.getCookieCreationTime cookie
  match net.canonicalCookieFromSystemCookie cookie creationTime with
  | none => (weakSystemStore, store.2)
  | some canonicalCookie =>
    if predicate canonicalCookie then (weakSystemStore.deleteCookie cookie, store.2 + 1)
    else (weakSystemStore, store.2)

/-- The loop, driven by the cookies of the snapshot. -/
def sweep (predicate : CanonicalCookie → Bool) :
    Machine (NSHTTPSystemCookieStore × Nat) NSHTTPCookie where
  init store := store.2 = 0
  pre _ _ := True
  step := net.deleteIfMatching predicate

/-- The block of `DeleteCookiesMatchingPredicateAsync`: the store afterwards, and
the count for the callback. -/
def deleteCookiesMatchingPredicate (predicate : CanonicalCookie → Bool)
    (store : NSHTTPSystemCookieStore) (cookies : List NSHTTPCookie) :
    NSHTTPSystemCookieStore × Nat :=
  (net.sweep predicate).exec (store, 0) cookies

end CookieLibrary

/-! ## `CookieStoreIOS` -/

/-- A task of the sequence the callbacks run on. -/
inductive CookieTask where
  | runCallback
  | deleteMatching (predicate : CanonicalCookie → Bool) (cookies : List NSHTTPCookie)

structure CookieStoreIOS where
  systemStore : NSHTTPSystemCookieStore
  tasks : List CookieTask

inductive CookieStoreCall (Info : Type) where
  /-- `nonCryptographic` is the access scheme of the source URL, `now` the time
  of the call. -/
  | setCanonicalCookieAsync (cookie : CanonicalCookie) (nonCryptographic callback : Bool)
      (now : Time)
  | deleteCanonicalCookieAsync (cookie : CanonicalCookie)
  | deleteAllCreatedInTimeRangeAsync (start finish : Time)
  | deleteAllMatchingInfoAsync (deleteInfo : Info)
  | deleteSessionCookiesAsync
  | deleteMatchingCookiesAsync (predicate : CanonicalCookie → Bool)
  | runTask

namespace CookieStoreIOS

variable {Info : Type} (net : CookieLibrary Info)

/-- `RunCookieCallback`: a null callback is no task. -/
def runCookieCallback (s : CookieStoreIOS) (callback : Bool) : CookieStoreIOS :=
  if callback then { s with tasks := s.tasks ++ [.runCallback] } else s

def setCanonicalCookieAsync (s : CookieStoreIOS) (cookie : CanonicalCookie)
    (nonCryptographic callback : Bool) (now : Time) : CookieStoreIOS :=
  if cookie.isSecure && nonCryptographic then s
  else
    match net.systemCookieFromCanonicalCookie cookie with
    | none => s
    | some nsCookie =>
      runCookieCallback
        { s with systemStore := s.systemStore.setCookie nsCookie (some cookie.creationDate) now }
        callback

def deleteCookiesMatchingPredicateAsync (s : CookieStoreIOS) (predicate : CanonicalCookie → Bool) :
    CookieStoreIOS :=
  let (systemStore, cookies) := s.systemStore.getAllCookies
  { systemStore := systemStore, tasks := s.tasks ++ [.deleteMatching predicate cookies] }

def deleteCookiesMatchingInfoAsync (s : CookieStoreIOS) (deleteInfo : Info) : CookieStoreIOS :=
  s.deleteCookiesMatchingPredicateAsync fun cc => net.infoMatches deleteInfo cc

def deleteCanonicalCookieAsync (s : CookieStoreIOS) (cookie : CanonicalCookie) : CookieStoreIOS :=
  s.deleteCookiesMatchingPredicateAsync fun cc =>
    net.isEquivalent cc cookie && cc.value == cookie.value

def deleteAllCreatedInTimeRangeAsync (s : CookieStoreIOS) (start finish : Time) : CookieStoreIOS :=
  s.deleteCookiesMatchingInfoAsync net (net.timeRangeInfo start finish)

def deleteAllMatchingInfoAsync (s : CookieStoreIOS) (deleteInfo : Info) : CookieStoreIOS :=
  s.deleteCookiesMatchingInfoAsync net deleteInfo

def deleteSessionCookiesAsync (s : CookieStoreIOS) : CookieStoreIOS :=
  s.deleteCookiesMatchingInfoAsync net net.sessionCookiesInfo

def deleteMatchingCookiesAsync (s : CookieStoreIOS) (predicate : CanonicalCookie → Bool) :
    CookieStoreIOS :=
  s.deleteCookiesMatchingPredicateAsync predicate

/-- The first task runs. -/
def runTask (s : CookieStoreIOS) : CookieStoreIOS :=
  match s.tasks with
  | [] => s
  | .runCallback :: rest => { s with tasks := rest }
  | .deleteMatching predicate cookies :: rest =>
    { systemStore := (net.deleteCookiesMatchingPredicate predicate s.systemStore cookies).1
      tasks := rest }

def step (s : CookieStoreIOS) : CookieStoreCall Info → CookieStoreIOS
  | .setCanonicalCookieAsync cookie nonCryptographic callback now =>
    s.setCanonicalCookieAsync net cookie nonCryptographic callback now
  | .deleteCanonicalCookieAsync cookie => s.deleteCanonicalCookieAsync net cookie
  | .deleteAllCreatedInTimeRangeAsync start finish =>
    s.deleteAllCreatedInTimeRangeAsync net start finish
  | .deleteAllMatchingInfoAsync deleteInfo => s.deleteAllMatchingInfoAsync net deleteInfo
  | .deleteSessionCookiesAsync => s.deleteSessionCookiesAsync net
  | .deleteMatchingCookiesAsync predicate => s.deleteMatchingCookiesAsync predicate
  | .runTask => s.runTask net

end CookieStoreIOS

/-- `CookieStoreIOS` over a store with any cookies and any recorded times. -/
def cookieStoreMachine {Info : Type} (net : CookieLibrary Info) :
    Machine CookieStoreIOS (CookieStoreCall Info) where
  init s := Stored s.systemStore.cookieStore ∧ s.tasks = []
  pre _ _ := True
  step := CookieStoreIOS.step net

/-! ## What a delete owes its caller -/

namespace CookieLibrary

variable {Info : Type} (net : CookieLibrary Info) (predicate : CanonicalCookie → Bool)

/-- Whether the predicate holds of a cookie, with its creation time now. -/
def satisfies (store : NSHTTPSystemCookieStore) (cookie : NSHTTPCookie) : Bool :=
  net.satisfiesAt predicate cookie (store.getCookieCreationTime cookie).2

/-- If the loop deletes at this turn, the cookie the store has under the
identity satisfies the predicate. -/
def RemovalMatches (store : NSHTTPSystemCookieStore × Nat) (cookie : NSHTTPCookie) : Prop :=
  net.satisfies predicate store.1 cookie = true →
    ∀ stored ∈ storedCookie store.1.cookieStore cookie.identity,
      net.satisfies predicate (store.1.getCookieCreationTime cookie).1 stored = true

instance (store : NSHTTPSystemCookieStore × Nat) (cookie : NSHTTPCookie) :
    Decidable (net.RemovalMatches predicate store cookie) :=
  inferInstanceAs (Decidable (_ → _))

/-- Only cookies that satisfy the predicate are removed, and the count is the
number of cookies removed. -/
structure SweepExact (store : NSHTTPSystemCookieStore) (cookies : List NSHTTPCookie) : Prop where
  removals : (net.sweep predicate).Always (net.RemovalMatches predicate) (store, 0) cookies
  count :
    (net.deleteCookiesMatchingPredicate predicate store cookies).1.cookieStore.length +
      (net.deleteCookiesMatchingPredicate predicate store cookies).2 = store.cookieStore.length

instance (store : NSHTTPSystemCookieStore) (cookies : List NSHTTPCookie) :
    Decidable (net.SweepExact predicate store cookies) :=
  decidable_of_iff (_ ∧ _) ⟨fun h => ⟨h.1, h.2⟩, fun h => ⟨h.removals, h.count⟩⟩

/-- The times `GetCreationTime` may give a cookie: the recorded one, or with
none recorded its native time or one after it. -/
def CreationTimeOf (store : NSHTTPSystemCookieStore) (cookie : NSHTTPCookie) (t : Time) : Prop :=
  match store.creationTimeManager.recorded cookie with
  | some recorded => t = recorded
  | none => CookieCreationTimeManager.getCreationTimeFromObject cookie ≤ t

/-- If the predicate holds of the snapshot's version of a cookie, the store has
the cookie, in a version it holds of as well. -/
def StillMatches (store : NSHTTPSystemCookieStore) (cookie : NSHTTPCookie) : Prop :=
  ∀ t, CreationTimeOf store cookie t → net.satisfiesAt predicate cookie t = true →
    ∃ stored ∈ store.cookieStore, stored.identity = cookie.identity ∧
      net.satisfiesAt predicate stored t = true

/-- A cookie that is still stored as it was in the snapshot is no trouble. -/
theorem stillMatches_of_mem {store : NSHTTPSystemCookieStore} {cookie : NSHTTPCookie}
    (h : cookie ∈ store.cookieStore) : net.StillMatches predicate store cookie :=
  fun _ _ hsat => ⟨cookie, h, rfl, hsat⟩

/-! ## One turn of the loop -/

theorem creationTimeOf_getCookieCreationTime (store : NSHTTPSystemCookieStore)
    (cookie : NSHTTPCookie) :
    CreationTimeOf store cookie (store.getCookieCreationTime cookie).2 := by
  unfold CreationTimeOf
  show match store.creationTimeManager.recorded cookie with
    | some recorded => (store.creationTimeManager.getCreationTime cookie).2 = recorded
    | none => _ ≤ (store.creationTimeManager.getCreationTime cookie).2
  unfold CookieCreationTimeManager.getCreationTime
  cases store.creationTimeManager.recorded cookie with
  | some recorded => exact rfl
  | none => exact store.creationTimeManager.makeUniqueCreationTime_ge _

/-- What a turn does: the time of the cookie is recorded, and if the predicate
holds of it then, its identity is deleted and counted. -/
theorem deleteIfMatching_eq (store : NSHTTPSystemCookieStore × Nat) (cookie : NSHTTPCookie) :
    net.deleteIfMatching predicate store cookie =
      if net.satisfies predicate store.1 cookie = true then
        ((store.1.getCookieCreationTime cookie).1.deleteCookie cookie, store.2 + 1)
      else ((store.1.getCookieCreationTime cookie).1, store.2) := by
  unfold deleteIfMatching satisfies satisfiesAt
  show (match net.canonicalCookieFromSystemCookie cookie (store.1.getCookieCreationTime cookie).2 with
    | none => _ | some canonicalCookie => _) = _
  cases net.canonicalCookieFromSystemCookie cookie (store.1.getCookieCreationTime cookie).2 with
  | none => rfl
  | some canonicalCookie => rfl

theorem deleteIfMatching_stored {store : NSHTTPSystemCookieStore × Nat}
    (h : Stored store.1.cookieStore) (cookie : NSHTTPCookie) :
    Stored (net.deleteIfMatching predicate store cookie).1.cookieStore := by
  rw [deleteIfMatching_eq]
  split
  · exact h.remove _
  · exact h

/-- A turn for one cookie leaves the others, and their times, alone. -/
theorem deleteIfMatching_frame (store : NSHTTPSystemCookieStore × Nat)
    {cookie other : NSHTTPCookie} (hne : other.identity ≠ cookie.identity) :
    (net.deleteIfMatching predicate store cookie).1.creationTimeManager.recorded other =
        store.1.creationTimeManager.recorded other ∧
      ∀ stored ∈ store.1.cookieStore, stored.identity = other.identity →
        stored ∈ (net.deleteIfMatching predicate store cookie).1.cookieStore := by
  have hrecorded : (store.1.getCookieCreationTime cookie).1.creationTimeManager.recorded other =
      store.1.creationTimeManager.recorded other :=
    (store.1.creationTimeManager.recorded_getCreationTime cookie other).trans (if_neg hne)
  rw [deleteIfMatching_eq]
  split
  · constructor
    · refine (CookieCreationTimeManager.recorded_deleteCreationTime _ cookie other).trans ?_
      rw [if_neg hne]
      exact hrecorded
    · intro stored hstored hid
      exact Keyed.mem_remove.2 ⟨hstored, fun he => hne (hid ▸ he)⟩
  · exact ⟨hrecorded, fun stored hstored _ => hstored⟩

theorem StillMatches.deleteIfMatching {store : NSHTTPSystemCookieStore × Nat}
    {cookie other : NSHTTPCookie} (h : net.StillMatches predicate store.1 other)
    (hne : other.identity ≠ cookie.identity) :
    net.StillMatches predicate (net.deleteIfMatching predicate store cookie).1 other := by
  obtain ⟨hrecorded, hstored⟩ := net.deleteIfMatching_frame predicate store hne
  intro t ht hsat
  unfold CreationTimeOf at ht
  rw [hrecorded] at ht
  obtain ⟨stored, hmem, hid, hsat'⟩ := h t ht hsat
  exact ⟨stored, hstored stored hmem hid, hid, hsat'⟩

/-- The time of the cookie the store has is by then the one just recorded under
their identity. -/
theorem satisfies_recorded (store : NSHTTPSystemCookieStore) {cookie stored : NSHTTPCookie}
    (hid : stored.identity = cookie.identity) :
    net.satisfies predicate (store.getCookieCreationTime cookie).1 stored =
      net.satisfiesAt predicate stored (store.getCookieCreationTime cookie).2 := by
  have hrecorded : (store.creationTimeManager.getCreationTime cookie).1.recorded stored =
      some (store.creationTimeManager.getCreationTime cookie).2 :=
    (store.creationTimeManager.recorded_getCreationTime cookie stored).trans (if_pos hid)
  show net.satisfiesAt predicate stored
    ((store.creationTimeManager.getCreationTime cookie).1.getCreationTime stored).2 = _
  rw [CookieCreationTimeManager.getCreationTime_of_recorded hrecorded]
  rfl

theorem removalMatches_of_stillMatches {store : NSHTTPSystemCookieStore × Nat}
    (hstored : Stored store.1.cookieStore) {cookie : NSHTTPCookie}
    (h : net.StillMatches predicate store.1 cookie) :
    net.RemovalMatches predicate store cookie := by
  intro hsat stored hlookup
  obtain ⟨stored', hmem, hid, hsat'⟩ :=
    h _ (creationTimeOf_getCookieCreationTime store.1 cookie) hsat
  -- the store has one cookie under the identity
  obtain rfl : stored = stored' := hstored.eq_of_mem (Keyed.mem_of_lookup hlookup) hmem
    ((Keyed.key_of_lookup hlookup).trans hid.symm)
  rw [net.satisfies_recorded predicate store.1 hid]
  exact hsat'

/-- A turn counts one cookie exactly if it takes one. -/
theorem deleteIfMatching_count {store : NSHTTPSystemCookieStore × Nat}
    (hstored : Stored store.1.cookieStore) {cookie : NSHTTPCookie}
    (h : net.StillMatches predicate store.1 cookie) :
    (net.deleteIfMatching predicate store cookie).1.cookieStore.length +
      (net.deleteIfMatching predicate store cookie).2 =
      store.1.cookieStore.length + store.2 := by
  rw [deleteIfMatching_eq]
  by_cases hsat : net.satisfies predicate store.1 cookie = true
  · obtain ⟨stored, hmem, hid, _⟩ :=
      h _ (creationTimeOf_getCookieCreationTime store.1 cookie) hsat
    have hlength : (dropCookie store.1.cookieStore cookie).length + 1 =
        store.1.cookieStore.length := by
      unfold dropCookie
      rw [← hid]
      exact Keyed.length_remove hstored hmem
    rw [if_pos hsat]
    show (dropCookie store.1.cookieStore cookie).length + (store.2 + 1) = _
    omega
  · rw [if_neg hsat]
    rfl

/-! ## The loop -/

theorem sweep_exact {cookies : List NSHTTPCookie} (hcookies : Stored cookies) :
    ∀ {store : NSHTTPSystemCookieStore × Nat}, Stored store.1.cookieStore →
      (∀ cookie ∈ cookies, net.StillMatches predicate store.1 cookie) →
      (net.sweep predicate).Always (net.RemovalMatches predicate) store cookies ∧
      ((net.sweep predicate).exec store cookies).1.cookieStore.length +
        ((net.sweep predicate).exec store cookies).2 =
        store.1.cookieStore.length + store.2 := by
  induction cookies with
  | nil => intro store _ _; exact ⟨trivial, rfl⟩
  | cons cookie rest ih =>
    intro store hstored hstill
    obtain ⟨hnew, hrest⟩ := List.nodup_cons.1 hcookies
    have hhead := hstill cookie List.mem_cons_self
    -- the turn for the first cookie leaves those of the others as they were
    have hothers : ∀ other ∈ rest,
        net.StillMatches predicate (net.deleteIfMatching predicate store cookie).1 other := by
      intro other hother
      have hne : other.identity ≠ cookie.identity := fun he =>
        hnew (he ▸ List.mem_map_of_mem hother)
      exact StillMatches.deleteIfMatching net predicate
        (hstill other (List.mem_cons_of_mem _ hother)) hne
    obtain ⟨halways, hcount⟩ :=
      ih hrest (net.deleteIfMatching_stored predicate hstored cookie) hothers
    refine ⟨⟨net.removalMatches_of_stillMatches predicate hstored hhead, halways⟩, ?_⟩
    exact hcount.trans (net.deleteIfMatching_count predicate hstored hhead)

/-- **A sweep whose snapshot still matches is exact.** -/
theorem sweepExact_of_stillMatches {store : NSHTTPSystemCookieStore} {cookies : List NSHTTPCookie}
    (hstored : Stored store.cookieStore) (hcookies : Stored cookies)
    (h : ∀ cookie ∈ cookies, net.StillMatches predicate store cookie) :
    net.SweepExact predicate store cookies := by
  obtain ⟨halways, hcount⟩ : (net.sweep predicate).Always _ (store, 0) cookies ∧ _ :=
    net.sweep_exact predicate hcookies hstored h
  exact ⟨halways, hcount⟩

end CookieLibrary

/-! ## Runs -/

namespace CookieStoreIOS

variable {Info : Type} (net : CookieLibrary Info)

/-- The task that runs, if it is a delete's, is exact. -/
def DeletesExact (s : CookieStoreIOS) : CookieStoreCall Info → Prop
  | .runTask =>
    match s.tasks with
    | .deleteMatching predicate cookies :: _ => net.SweepExact predicate s.systemStore cookies
    | _ => True
  | _ => True

/-- When a delete's task runs, each cookie of its snapshot that the predicate
holds of is still stored, in the same version or another one it holds of. -/
def SnapshotCurrent (s : CookieStoreIOS) : CookieStoreCall Info → Prop
  | .runTask =>
    match s.tasks with
    | .deleteMatching predicate cookies :: _ =>
      ∀ cookie ∈ cookies, net.StillMatches predicate s.systemStore cookie
    | _ => True
  | _ => True

/-- The system store and every snapshot have one cookie for an identity. -/
structure Identified (s : CookieStoreIOS) : Prop where
  stored : Stored s.systemStore.cookieStore
  snapshots : ∀ predicate cookies, .deleteMatching predicate cookies ∈ s.tasks → Stored cookies

variable {s : CookieStoreIOS}

theorem Identified.runCookieCallback (h : s.Identified) (callback : Bool) :
    (s.runCookieCallback callback).Identified := by
  unfold CookieStoreIOS.runCookieCallback
  split
  · refine ⟨h.stored, fun predicate cookies hmem => ?_⟩
    rcases List.mem_append.1 hmem with hold | hnew
    · exact h.snapshots predicate cookies hold
    · cases List.mem_singleton.1 hnew
  · exact h

theorem Identified.setCanonicalCookieAsync (h : s.Identified) (cookie : CanonicalCookie)
    (nonCryptographic callback : Bool) (now : Time) :
    (s.setCanonicalCookieAsync net cookie nonCryptographic callback now).Identified := by
  unfold CookieStoreIOS.setCanonicalCookieAsync
  split
  · exact h
  · split
    · exact h
    · next nsCookie _ =>
      have hset : Identified
          { s with
            systemStore := s.systemStore.setCookie nsCookie (some cookie.creationDate) now } :=
        ⟨h.stored.put nsCookie, h.snapshots⟩
      exact hset.runCookieCallback callback

/-- A snapshot is the cookies of the store in another order. -/
theorem Identified.deleteCookiesMatchingPredicateAsync (h : s.Identified)
    (predicate : CanonicalCookie → Bool) :
    (s.deleteCookiesMatchingPredicateAsync predicate).Identified := by
  refine ⟨h.stored, fun predicate' cookies hmem => ?_⟩
  rcases List.mem_append.1 hmem with hold | hnew
  · exact h.snapshots predicate' cookies hold
  · cases List.mem_singleton.1 hnew
    exact h.stored.perm (sortedArrayUsingFunction_perm _ _)

theorem Identified.runTask (h : s.Identified) : (s.runTask net).Identified := by
  have hrest : ∀ {first : CookieTask} {rest : List CookieTask}, s.tasks = first :: rest →
      ∀ predicate cookies, .deleteMatching predicate cookies ∈ rest → Stored cookies := by
    intro first rest htasks predicate cookies hmem
    exact h.snapshots predicate cookies (htasks ▸ List.mem_cons_of_mem _ hmem)
  unfold CookieStoreIOS.runTask
  split
  · exact h
  · next rest htasks => exact ⟨h.stored, hrest htasks⟩
  · next predicate cookies rest htasks =>
    refine ⟨?_, hrest htasks⟩
    exact Machine.Run.invariant (M := net.sweep predicate) (I := fun store => Stored store.1.cookieStore)
      (fun _ cookie h _ => net.deleteIfMatching_stored predicate h cookie) h.stored
      ((net.sweep predicate).always_of_forall (fun _ _ => trivial) _ cookies)

theorem Identified.step (h : s.Identified) (call : CookieStoreCall Info) :
    (s.step net call).Identified := by
  cases call with
  | setCanonicalCookieAsync cookie nonCryptographic callback now =>
    exact h.setCanonicalCookieAsync net cookie nonCryptographic callback now
  | deleteCanonicalCookieAsync cookie => exact h.deleteCookiesMatchingPredicateAsync _
  | deleteAllCreatedInTimeRangeAsync start finish =>
    exact h.deleteCookiesMatchingPredicateAsync _
  | deleteAllMatchingInfoAsync deleteInfo => exact h.deleteCookiesMatchingPredicateAsync _
  | deleteSessionCookiesAsync => exact h.deleteCookiesMatchingPredicateAsync _
  | deleteMatchingCookiesAsync predicate => exact h.deleteCookiesMatchingPredicateAsync _
  | runTask => exact h.runTask net

theorem deletesExact_of_snapshotCurrent (h : s.Identified) (call : CookieStoreCall Info)
    (hcurrent : s.SnapshotCurrent net call) : s.DeletesExact net call := by
  cases call with
  | runTask =>
    unfold DeletesExact
    unfold SnapshotCurrent at hcurrent
    cases htasks : s.tasks with
    | nil => trivial
    | cons first rest =>
      rw [htasks] at hcurrent
      cases first with
      | runCallback => trivial
      | deleteMatching predicate cookies =>
        have hcookies := h.snapshots predicate cookies (htasks ▸ List.mem_cons_self)
        exact net.sweepExact_of_stillMatches predicate h.stored hcookies hcurrent
  | _ => trivial

/-- **Runs whose snapshots are current delete exactly what they should.** -/
theorem deletes_exact {calls : List (CookieStoreCall Info)}
    (hinit : (cookieStoreMachine net).init s)
    (hcurrent : (cookieStoreMachine net).Always (SnapshotCurrent net) s calls) :
    (cookieStoreMachine net).Always (DeletesExact net) s calls := by
  obtain ⟨hstored, htasks⟩ := hinit
  have hidentified : s.Identified :=
    ⟨hstored, fun _ _ hmem => absurd (htasks ▸ hmem) List.not_mem_nil⟩
  have hrun : (cookieStoreMachine net).Run s calls :=
    (cookieStoreMachine net).always_of_forall (fun _ _ => trivial) s calls
  have halways := Machine.always_of_invariant (M := cookieStoreMachine net) (I := Identified)
    (Q := fun s call => s.SnapshotCurrent net call → s.DeletesExact net call)
    (fun s call h _ => h.step net call)
    (fun s call h _ => deletesExact_of_snapshotCurrent net h call) hidentified hrun
  exact (halways.and hcurrent).mono fun s call h => h.1 h.2

/-! ## A write between the request and its task -/

instance (s : CookieStoreIOS) : (call : CookieStoreCall Info) → Decidable (s.DeletesExact net call)
  | .runTask =>
    match h : s.tasks with
    | .deleteMatching predicate cookies :: _ =>
      decidable_of_iff (net.SweepExact predicate s.systemStore cookies)
        (by unfold DeletesExact; rw [h])
    | .runCallback :: _ => isTrue (by unfold DeletesExact; rw [h]; trivial)
    | [] => isTrue (by unfold DeletesExact; rw [h]; trivial)
  | .setCanonicalCookieAsync .. => isTrue trivial
  | .deleteCanonicalCookieAsync _ => isTrue trivial
  | .deleteAllCreatedInTimeRangeAsync _ _ => isTrue trivial
  | .deleteAllMatchingInfoAsync _ => isTrue trivial
  | .deleteSessionCookiesAsync => isTrue trivial
  | .deleteMatchingCookiesAsync _ => isTrue trivial

private def emptyStore : CookieStoreIOS where
  systemStore := { cookieStore := [], creationTimeManager := .empty }
  tasks := []

private def login (value : String) (creationDate : Time) : CanonicalCookie where
  name := "id".toUTF8
  value := value.toUTF8
  domain := "a.b".toUTF8
  path := "/".toUTF8
  creationDate := creationDate
  expiryDate := 0
  isSecure := false
  isHttpOnly := false
  sameSite := .laxMode

/-- The cookies the next task goes through. -/
private def snapshotOf (s : CookieStoreIOS) : List NSHTTPCookie :=
  match s.tasks with
  | .deleteMatching _ cookies :: _ => cookies
  | _ => []

private def requested : CookieStoreIOS :=
  (cookieStoreMachine plainLibrary).exec emptyStore
    [.setCanonicalCookieAsync (login "1" 10) false false 10,
      .deleteCanonicalCookieAsync (login "1" 10)]

private theorem requested_kept :
    ∀ cookie ∈ snapshotOf requested, cookie ∈ requested.systemStore.cookieStore := by
  decide +kernel

/-- The cookie is deleted, its task runs, and nothing came between. -/
theorem deletes_exact_untouched :
    (cookieStoreMachine plainLibrary).Always (DeletesExact plainLibrary) emptyStore
      [.setCanonicalCookieAsync (login "1" 10) false false 10,
        .deleteCanonicalCookieAsync (login "1" 10), .runTask] :=
  deletes_exact plainLibrary ⟨List.nodup_nil, rfl⟩
    ⟨trivial, trivial, fun cookie hcookie =>
      plainLibrary.stillMatches_of_mem _ (requested_kept cookie hcookie), trivial⟩

/-- The cookie with the value `1` is to be deleted; it is written anew with the
value `2` before the task runs, and the task deletes that. -/
theorem writtenAnew_notExact :
    ¬ (cookieStoreMachine plainLibrary).Always (DeletesExact plainLibrary) emptyStore
      [.setCanonicalCookieAsync (login "1" 10) false false 10,
        .deleteCanonicalCookieAsync (login "1" 10),
        .setCanonicalCookieAsync (login "2" 20) false false 20, .runTask] := by
  decide +kernel

end CookieStoreIOS

end IosChrome.Cookies

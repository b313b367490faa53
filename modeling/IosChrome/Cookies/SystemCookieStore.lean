import IosChrome.Cookies.CookieCreationTimeManager

/-!
# Sorting cookies, and the store in `NSHTTPCookieStorage`

`SystemCookieStore::CompareCookies` orders cookies by path length and creation
time, and both kinds of system store sort what they hand out with it. The
comparison records a time for a cookie that has none, so a sort is not free.
Foundation does not say which comparisons its sort makes; any sort compares the
neighbours of its result with each other, which is what decides which times are
recorded.

`NSHTTPSystemCookieStore` keeps storage and times together: every operation
does both at once, on one thread.
-/

namespace IosChrome.Cookies

open IosChrome.Lib

/-! ## A sort whose comparison has a context -/

section Sorting

variable {σ α : Type} (compare : σ → α → α → σ × Ordering)

def insertSorted (a : α) : σ → List α → σ × List α
  | context, [] => (context, [a])
  | context, b :: rest =>
    match compare context a b with
    | (context', .gt) =>
      let (context'', sorted) := insertSorted a context' rest
      (context'', b :: sorted)
    | (context', _) => (context', a :: b :: rest)

def sortedArrayUsingFunction : σ → List α → σ × List α
  | context, [] => (context, [])
  | context, a :: rest =>
    let (context', sorted) := sortedArrayUsingFunction context rest
    insertSorted compare a context' sorted

variable {compare}

theorem insertSorted_perm (a : α) : ∀ (context : σ) (items : List α),
    (insertSorted compare a context items).2.Perm (a :: items)
  | _, [] => List.Perm.refl _
  | context, b :: rest => by
    unfold insertSorted
    split
    · next context' _ =>
      exact ((insertSorted_perm a context' rest).cons b).trans (List.Perm.swap a b rest)
    · exact List.Perm.refl _

/-- **A sort hands out what it was given.** -/
theorem sortedArrayUsingFunction_perm : ∀ (context : σ) (items : List α),
    (sortedArrayUsingFunction compare context items).2.Perm items
  | _, [] => List.Perm.refl _
  | context, a :: rest =>
    (insertSorted_perm a _ _).trans ((sortedArrayUsingFunction_perm context rest).cons a)

/-- What every comparison of two of the items keeps, the insertion keeps. -/
theorem insertSorted_keeps {P : σ → Prop} {a : α} : ∀ {items : List α},
    (∀ context, ∀ b ∈ items, P context → P (compare context a b).1) →
    ∀ {context : σ}, P context → P (insertSorted compare a context items).1
  | [], _, _, h => h
  | b :: rest, hkeep, context, h => by
    have hb := hkeep context b List.mem_cons_self h
    unfold insertSorted
    split
    · next context' hc =>
      rw [hc] at hb
      exact insertSorted_keeps (fun context d hd => hkeep context d (List.mem_cons_of_mem _ hd)) hb
    · next context' _ _ hc =>
      rw [hc] at hb
      exact hb

/-- **What every comparison of two of the items keeps, the sort keeps.** -/
theorem sortedArrayUsingFunction_keeps {P : σ → Prop} : ∀ {items : List α},
    (∀ context, ∀ a ∈ items, ∀ b ∈ items, P context → P (compare context a b).1) →
    ∀ {context : σ}, P context → P (sortedArrayUsingFunction compare context items).1
  | [], _, _, h => h
  | a :: rest, hkeep, context, h => by
    have hrest : P (sortedArrayUsingFunction compare context rest).1 :=
      sortedArrayUsingFunction_keeps (fun context b hb d hd =>
        hkeep context b (List.mem_cons_of_mem _ hb) d (List.mem_cons_of_mem _ hd)) h
    refine insertSorted_keeps (fun context' b hb h' => ?_) hrest
    have hmem := (sortedArrayUsingFunction_perm context rest).mem_iff.1 hb
    exact hkeep context' a List.mem_cons_self b (List.mem_cons_of_mem _ hmem) h'

end Sorting

/-! ## Comparing cookies -/

def compareTimes (a b : Time) : Ordering := if a < b then .lt else if a > b then .gt else .eq

/-- `SystemCookieStore::CompareCookies`: the longer path first, then the older
cookie. -/
def compareCookies (manager : CookieCreationTimeManager) (a b : NSHTTPCookie) :
    CookieCreationTimeManager × Ordering :=
  if nsLength a.path < nsLength b.path then (manager, .gt)
  else if nsLength b.path < nsLength a.path then (manager, .lt)
  else
    let (manager', createdA) := manager.getCreationTime a
    let (manager'', createdB) := manager'.getCreationTime b
    (manager'', compareTimes createdA createdB)

/-- The times of a table after some of these cookies' times were asked for. -/
structure RecordedFor (cookies : List NSHTTPCookie) (m m' : CookieCreationTimeManager) : Prop where
  kept : ∀ cookie t, m.recorded cookie = some t → m'.recorded cookie = some t
  new : ∀ cookie, m.recorded cookie = none → m'.recorded cookie ≠ none →
    ∃ c ∈ cookies, c.identity = cookie.identity

namespace RecordedFor

variable {cookies : List NSHTTPCookie} {m m' m'' : CookieCreationTimeManager}

theorem refl (cookies : List NSHTTPCookie) (m : CookieCreationTimeManager) :
    RecordedFor cookies m m :=
  ⟨fun _ _ h => h, fun _ h h' => absurd h h'⟩

theorem trans (h : RecordedFor cookies m m') (h' : RecordedFor cookies m' m'') :
    RecordedFor cookies m m'' where
  kept cookie t ht := h'.kept cookie t (h.kept cookie t ht)
  new cookie hnone hsome := by
    by_cases hm' : m'.recorded cookie = none
    · exact h'.new cookie hm' hsome
    · exact h.new cookie hnone hm'

theorem getCreationTime {cookie : NSHTTPCookie} (hc : cookie ∈ cookies)
    (m : CookieCreationTimeManager) : RecordedFor cookies m (m.getCreationTime cookie).1 where
  kept other t ht := by
    rw [m.recorded_getCreationTime]
    by_cases he : other.identity = cookie.identity
    · rw [if_pos he, CookieCreationTimeManager.getCreationTime_of_recorded
        (m.recorded_eq_of_identity he ▸ ht)]
    · rw [if_neg he]
      exact ht
  new other hnone hsome := by
    rw [m.recorded_getCreationTime] at hsome
    by_cases he : other.identity = cookie.identity
    · exact ⟨cookie, hc, he.symm⟩
    · rw [if_neg he] at hsome
      exact absurd hnone hsome

end RecordedFor

theorem compareCookies_frame {cookies : List NSHTTPCookie} {a b : NSHTTPCookie} (ha : a ∈ cookies)
    (hb : b ∈ cookies) (m : CookieCreationTimeManager) :
    RecordedFor cookies m (compareCookies m a b).1 := by
  unfold compareCookies
  split
  · exact .refl _ _
  · split
    · exact .refl _ _
    · exact (RecordedFor.getCreationTime ha m).trans (.getCreationTime hb _)

/-- **A sort of cookies only records times for the cookies it was given.** -/
theorem sortedCookies_frame (cookies : List NSHTTPCookie) (m : CookieCreationTimeManager) :
    RecordedFor cookies m (sortedArrayUsingFunction compareCookies m cookies).1 :=
  sortedArrayUsingFunction_keeps
    (fun m' _ ha _ hb h => h.trans (compareCookies_frame ha hb m')) (.refl cookies m)

/-! ## `NSHTTPSystemCookieStore` -/

structure NSHTTPSystemCookieStore where
  cookieStore : List NSHTTPCookie
  creationTimeManager : CookieCreationTimeManager
  deriving DecidableEq

namespace NSHTTPSystemCookieStore

/-- The array handed to the callback, and the store after the sort. -/
def getAllCookies (store : NSHTTPSystemCookieStore) :
    NSHTTPSystemCookieStore × List NSHTTPCookie :=
  let (manager, cookies) :=
    sortedArrayUsingFunction compareCookies store.creationTimeManager store.cookieStore
  ({ store with creationTimeManager := manager }, cookies)

def deleteCookie (store : NSHTTPSystemCookieStore) (cookie : NSHTTPCookie) :
    NSHTTPSystemCookieStore where
  cookieStore := dropCookie store.cookieStore cookie
  creationTimeManager := store.creationTimeManager.deleteCreationTime cookie

/-- `now` is `base::Time::Now()`; a null creation time counts as none. -/
def setCookie (store : NSHTTPSystemCookieStore) (cookie : NSHTTPCookie)
    (optionalCreationTime : Option Time) (now : Time) : NSHTTPSystemCookieStore :=
  let cookieTime := match optionalCreationTime with
    | none => now
    | some t => if t = 0 then now else t
  { cookieStore := storeCookie store.cookieStore cookie
    creationTimeManager := store.creationTimeManager.setUniqueCreationTime cookie cookieTime }

/-- `SystemCookieStore::GetCookieCreationTime`. -/
def getCookieCreationTime (store : NSHTTPSystemCookieStore) (cookie : NSHTTPCookie) :
    NSHTTPSystemCookieStore × Time :=
  let (manager, t) := store.creationTimeManager.getCreationTime cookie
  ({ store with creationTimeManager := manager }, t)

end NSHTTPSystemCookieStore

end IosChrome.Cookies

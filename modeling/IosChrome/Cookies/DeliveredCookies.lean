import IosChrome.Cookies.CookieStoreIOS

/-!
# The order of the delivered cookies

`GetAllCookiesAsync` and `GetCookieListWithOptionsAsync` sort the cookies of the
system store at once and deliver them in a later task, which asks for each
creation time again. The sort records the times it compares, so right after it
the list is in its order by the recorded times (`InOrder`), and no two cookies
have one time.

By the time the list is delivered a cookie of it may have been written with
another creation date, or deleted and given its native time again, and the list
keeps the place the cookie had (`writtenMeanwhile_unordered`). Where the recorded
times of a list are still those it was sorted with (`TimesKept`), it is delivered
by decreasing path length and increasing creation date (`delivered_inOrder`).
-/

namespace IosChrome.Cookies

open IosChrome.Lib

/-! ## The lists -/

namespace NSHTTPSystemCookieStore

/-- `GetCookiesForURL`; `forURL` are the cookies of `cookiesForURL:`. -/
def getCookiesForURL (store : NSHTTPSystemCookieStore) (forURL : NSHTTPCookie → Bool) :
    NSHTTPSystemCookieStore × List NSHTTPCookie :=
  let (manager, cookies) := sortedArrayUsingFunction compareCookies store.creationTimeManager
    (store.cookieStore.filter forURL)
  ({ store with creationTimeManager := manager }, cookies)

end NSHTTPSystemCookieStore

namespace CookieLibrary

variable {Info : Type} (net : CookieLibrary Info)

/-- Both conversions: the access results of the other one are all alike. -/
def canonicalCookieListFromSystemCookies (store : NSHTTPSystemCookieStore) :
    List NSHTTPCookie → NSHTTPSystemCookieStore × List CanonicalCookie
  | [] => (store, [])
  | cookie :: rest =>
    let (store', created) := store.getCookieCreationTime cookie
    let (store'', cookieList) := canonicalCookieListFromSystemCookies store' rest
    match net.canonicalCookieFromSystemCookie cookie created with
    | some canonicalCookie => (store'', canonicalCookie :: cookieList)
    | none => (store'', cookieList)

end CookieLibrary

/-! ## The store with its readers -/

/-- A task of the sequence: one of the writes and deletes, or the delivery of a
list. `sortedWith` are the recorded times after the sort; no function of the
store reads them. -/
inductive DeliveryTask where
  | ofStore (task : CookieTask)
  | runCallbackOnSystemCookies (cookies : List NSHTTPCookie) (callback : Bool)
      (sortedWith : CookieCreationTimeManager)

structure ReadCookieStore where
  systemStore : NSHTTPSystemCookieStore
  tasks : List DeliveryTask
  delivered : List (List CanonicalCookie)

inductive CookieReadCall (Info Url : Type) where
  | ofStore (call : CookieStoreCall Info)
  | getAllCookiesAsync (callback : Bool)
  | getCookieListWithOptionsAsync (url : Url) (callback : Bool)
  | runTask

namespace ReadCookieStore

variable {Info Url : Type} (net : CookieLibrary Info) (cookiesForURL : Url → NSHTTPCookie → Bool)

/-- What the store does at once, and the tasks it posts. -/
def ofStore (s : ReadCookieStore) (call : CookieStoreCall Info) : ReadCookieStore :=
  let after := CookieStoreIOS.step net { systemStore := s.systemStore, tasks := [] } call
  { s with
    systemStore := after.systemStore
    tasks := s.tasks ++ after.tasks.map .ofStore }

def deliverLater (s : ReadCookieStore) (callback : Bool)
    (listed : NSHTTPSystemCookieStore × List NSHTTPCookie) : ReadCookieStore :=
  { s with
    systemStore := listed.1
    tasks := s.tasks ++
      [.runCallbackOnSystemCookies listed.2 callback listed.1.creationTimeManager] }

def getAllCookiesAsync (s : ReadCookieStore) (callback : Bool) : ReadCookieStore :=
  s.deliverLater callback s.systemStore.getAllCookies

def getCookieListWithOptionsAsync (s : ReadCookieStore) (url : Url) (callback : Bool) :
    ReadCookieStore :=
  s.deliverLater callback (s.systemStore.getCookiesForURL (cookiesForURL url))

/-- The first task runs; a null callback is given nothing. -/
def runTask (s : ReadCookieStore) : ReadCookieStore :=
  match s.tasks with
  | [] => s
  | .ofStore task :: rest =>
    let after := CookieStoreIOS.runTask net { systemStore := s.systemStore, tasks := [task] }
    { s with systemStore := after.systemStore, tasks := rest }
  | .runCallbackOnSystemCookies cookies callback _ :: rest =>
    if callback then
      let (systemStore, cookieList) :=
        net.canonicalCookieListFromSystemCookies s.systemStore cookies
      { systemStore := systemStore, tasks := rest, delivered := s.delivered ++ [cookieList] }
    else { s with tasks := rest }

def step (s : ReadCookieStore) : CookieReadCall Info Url → ReadCookieStore
  | .ofStore call => s.ofStore net call
  | .getAllCookiesAsync callback => s.getAllCookiesAsync callback
  | .getCookieListWithOptionsAsync url callback =>
    s.getCookieListWithOptionsAsync cookiesForURL url callback
  | .runTask => s.runTask net

end ReadCookieStore

/-- `CookieStoreIOS` over a store with any cookies, any number of them without a
recorded time, before anything was asked of it. -/
def readCookieMachine {Info Url : Type} (net : CookieLibrary Info)
    (cookiesForURL : Url → NSHTTPCookie → Bool) :
    Machine ReadCookieStore (CookieReadCall Info Url) where
  init s := Stored s.systemStore.cookieStore ∧ s.tasks = [] ∧ s.delivered = []
  pre _ _ := True
  step := ReadCookieStore.step net cookiesForURL

/-! ## What is promised -/

/-- The length of the path, as the comparison takes it. -/
def CanonicalCookie.pathLength (cookie : CanonicalCookie) : Nat :=
  ((sysUTF8ToNSString cookie.path).map nsLength).getD 0

/-- By longest path, then earliest creation date, and no two dates alike. -/
structure DeliveredInOrder (cookieList : List CanonicalCookie) : Prop where
  ordered : cookieList.Pairwise fun a b => b.pathLength < a.pathLength ∨
    b.pathLength = a.pathLength ∧ a.creationDate < b.creationDate
  distinct : (cookieList.map CanonicalCookie.creationDate).Nodup

namespace ReadCookieStore

variable {Info Url : Type}

/-- When a list is delivered, its cookies have the times it was sorted with. -/
def TimesKept (s : ReadCookieStore) : CookieReadCall Info Url → Prop
  | .runTask =>
    match s.tasks with
    | .runCallbackOnSystemCookies cookies true sortedWith :: _ =>
      ∀ cookie ∈ cookies, ∀ t, sortedWith.recorded cookie = some t →
        s.systemStore.creationTimeManager.recorded cookie = some t
    | _ => True
  | _ => True

end ReadCookieStore

/-! ## The recorded times of a sorted list -/

namespace CookieCreationTimeManager

/-- **No two cookies have one time.** -/
theorem identity_of_recorded {m : CookieCreationTimeManager} {a b : NSHTTPCookie} {t : Time}
    (ha : m.recorded a = some t) (hb : m.recorded b = some t) : a.identity = b.identity := by
  have hnodup : (m.creationTimes.map Prod.snd).Nodup :=
    m.times.nodup_iff.1 (m.sorted.imp fun hlt => ne_of_lt hlt)
  obtain ⟨entryA, hlookupA, hta⟩ := Option.map_eq_some_iff.1 ha
  obtain ⟨entryB, hlookupB, htb⟩ := Option.map_eq_some_iff.1 hb
  have hentry : entryA = entryB :=
    List.inj_on_of_nodup_map hnodup (Keyed.mem_of_lookup hlookupA) (Keyed.mem_of_lookup hlookupB)
      (hta.trans htb.symm)
  rw [← getCookieUniqueID_eq_iff, ← Keyed.key_of_lookup hlookupA, ← Keyed.key_of_lookup hlookupB,
    hentry]

/-- A cookie before another: it has the longer path, or the earlier time. -/
def InOrder (m : CookieCreationTimeManager) (a b : NSHTTPCookie) : Prop :=
  nsLength b.path < nsLength a.path ∨
    nsLength b.path = nsLength a.path ∧
      ∃ ta tb, m.recorded a = some ta ∧ m.recorded b = some tb ∧ ta < tb

theorem InOrder.trans {m : CookieCreationTimeManager} {a b c : NSHTTPCookie} (h : m.InOrder a b)
    (h' : m.InOrder b c) : m.InOrder a c := by
  rcases h with hlt | ⟨heq, ta, tb, hta, htb, hab⟩
  · rcases h' with hlt' | ⟨heq', -⟩
    · exact .inl (hlt'.trans hlt)
    · exact .inl (heq'.symm ▸ hlt)
  · rcases h' with hlt' | ⟨heq', tb', tc, htb', htc, hbc⟩
    · exact .inl (heq ▸ hlt')
    · obtain rfl : tb = tb' := Option.some.inj (htb.symm.trans htb')
      exact .inr ⟨heq'.trans heq, ta, tc, hta, htc, hab.trans hbc⟩

/-- Recording more times leaves what is in order in order. -/
theorem InOrder.mono {m m' : CookieCreationTimeManager} {a b : NSHTTPCookie}
    (ha : ∀ t, m.recorded a = some t → m'.recorded a = some t)
    (hb : ∀ t, m.recorded b = some t → m'.recorded b = some t) (h : m.InOrder a b) :
    m'.InOrder a b := by
  rcases h with hlt | ⟨heq, ta, tb, hta, htb, hab⟩
  · exact .inl hlt
  · exact .inr ⟨heq, ta, tb, ha ta hta, hb tb htb, hab⟩

end CookieCreationTimeManager

open CookieCreationTimeManager

/-- **What a comparison says holds of the times it leaves.** -/
theorem inOrder_compareCookies {m : CookieCreationTimeManager} {a b : NSHTTPCookie}
    (hne : a.identity ≠ b.identity) :
    if (compareCookies m a b).2 = .gt then (compareCookies m a b).1.InOrder b a
    else (compareCookies m a b).1.InOrder a b := by
  unfold compareCookies
  by_cases hlt : nsLength a.path < nsLength b.path
  · rw [if_pos hlt, if_pos rfl]
    exact .inl hlt
  · by_cases hgt : nsLength b.path < nsLength a.path
    · rw [if_neg hlt, if_pos hgt, if_neg (fun h => nomatch h)]
      exact .inl hgt
    · rw [if_neg hlt, if_neg hgt]
      have hlength : nsLength b.path = nsLength a.path :=
        le_antisymm (not_lt.1 hlt) (not_lt.1 hgt)
      -- both times are recorded once they were asked for
      rcases hfirst : m.getCreationTime a with ⟨m', ta⟩
      rcases hsecond : m'.getCreationTime b with ⟨m'', tb⟩
      have ha' := m.recorded_getCreationTime a a
      have ha := m'.recorded_getCreationTime b a
      have hb := m'.recorded_getCreationTime b b
      rw [hfirst, if_pos rfl] at ha'
      rw [hsecond, if_neg hne, ha'] at ha
      rw [hsecond, if_pos rfl] at hb
      have htimes : ta ≠ tb := fun heq => hne (identity_of_recorded ha (heq ▸ hb))
      simp only [hsecond]
      unfold compareTimes
      by_cases hab : ta < tb
      · rw [if_pos hab, if_neg (fun h => nomatch h)]
        exact .inr ⟨hlength, ta, tb, ha, hb, hab⟩
      · have hba : tb < ta := lt_of_le_of_ne (not_lt.1 hab) htimes.symm
        rw [if_neg hab, if_pos hba, if_pos rfl]
        exact .inr ⟨hlength.symm, tb, ta, hb, ha, hba⟩

/-- A cookie that none of the sorted ones has the identity of comes to its place. -/
theorem insertSorted_inOrder {a : NSHTTPCookie} : ∀ {m : CookieCreationTimeManager}
    {cookies : List NSHTTPCookie}, (∀ b ∈ cookies, a.identity ≠ b.identity) →
      cookies.Pairwise m.InOrder →
      (insertSorted compareCookies a m cookies).2.Pairwise
        (insertSorted compareCookies a m cookies).1.InOrder
  | m, [], _, _ => List.pairwise_singleton _ a
  | m, b :: rest, hne, h => by
    have hcompare := inOrder_compareCookies (m := m) (hne b List.mem_cons_self)
    have hkept := (compareCookies_frame (List.mem_cons_self (a := a) (l := [b]))
      (List.mem_cons_of_mem a (List.mem_singleton_self b)) m).kept
    unfold insertSorted
    split
    next m' hcmp =>
      rw [hcmp, if_pos rfl] at hcompare
      rw [hcmp] at hkept
      obtain ⟨hb, hrest⟩ := List.pairwise_cons.1
        (h.imp fun {c d} hcd => hcd.mono (hkept c) (hkept d))
      have ih := insertSorted_inOrder (m := m') (fun c hc => hne c (List.mem_cons_of_mem _ hc)) hrest
      -- the insertion records more times, and every cookie of its result comes after `b`
      have hkept' : ∀ c t, m'.recorded c = some t →
          (insertSorted compareCookies a m' rest).1.recorded c = some t := by
        intro c t ht
        refine insertSorted_keeps (P := fun m : CookieCreationTimeManager => m.recorded c = some t) (fun m d hd hm => ?_) ht
        exact (compareCookies_frame (List.mem_cons_self (a := a) (l := [d]))
          (List.mem_cons_of_mem a (List.mem_singleton_self d)) m).kept c t hm
      refine List.pairwise_cons.2 ⟨fun c hc => ?_, ih⟩
      have horder : m'.InOrder b c := by
        rcases List.mem_cons.1 ((insertSorted_perm a m' rest).mem_iff.1 hc) with rfl | hc
        · exact hcompare
        · exact hb c hc
      exact horder.mono (hkept' b) (hkept' c)
    next m' order hnot hcmp =>
      have hgt : order ≠ .gt := fun heq => hnot heq
      rw [hcmp, if_neg hgt] at hcompare
      rw [hcmp] at hkept
      have hmono := h.imp fun {c d} hcd => hcd.mono (hkept c) (hkept d)
      refine List.pairwise_cons.2 ⟨fun c hc => ?_, hmono⟩
      rcases List.mem_cons.1 hc with rfl | hc
      · exact hcompare
      · exact hcompare.trans ((List.pairwise_cons.1 hmono).1 c hc)

/-- **A sorted list is in order by the times the sort leaves.** -/
theorem sortedCookies_inOrder : ∀ (m : CookieCreationTimeManager) {cookies : List NSHTTPCookie},
    Stored cookies → (sortedArrayUsingFunction compareCookies m cookies).2.Pairwise
      (sortedArrayUsingFunction compareCookies m cookies).1.InOrder
  | m, [], _ => List.Pairwise.nil
  | m, a :: rest, h => by
    obtain ⟨hnew, hrest⟩ := List.nodup_cons.1 h
    refine insertSorted_inOrder (fun b hb heq => ?_) (sortedCookies_inOrder m hrest)
    have hmem := (sortedArrayUsingFunction_perm m rest).mem_iff.1 hb
    exact hnew (heq ▸ List.mem_map_of_mem hmem)

/-! ## A delivery -/

namespace CookieLibrary

variable {Info : Type} (net : CookieLibrary Info)

/-- The dates of a delivered cookie and its path are the system cookie's. -/
theorem canonicalCookie_fields {cookie : NSHTTPCookie} {t : Time} {canonicalCookie : CanonicalCookie}
    (h : net.canonicalCookieFromSystemCookie cookie t = some canonicalCookie) :
    canonicalCookie.creationDate = t ∧ canonicalCookie.pathLength = nsLength cookie.path := by
  unfold canonicalCookieFromSystemCookie fromStorage at h
  split at h
  · obtain rfl := Option.some.inj h
    refine ⟨rfl, ?_⟩
    unfold CanonicalCookie.pathLength
    obtain ⟨text, htext, hbytes⟩ := exists_sysUTF8ToNSString cookie.path.isValidUTF8
    have hpath : text = cookie.path := String.toByteArray_inj.1 hbytes
    show ((sysUTF8ToNSString cookie.path.toByteArray).map nsLength).getD 0 = _
    rw [htext, hpath]
    rfl
  · cases h

/-- **A delivered list is the canonical cookies of its list**, each with the time
that is recorded for it afterwards. -/
theorem canonicalCookieList_eq : ∀ (store : NSHTTPSystemCookieStore) (cookies : List NSHTTPCookie),
    (net.canonicalCookieListFromSystemCookies store cookies).2 = cookies.filterMap (fun cookie =>
      ((net.canonicalCookieListFromSystemCookies store cookies).1.creationTimeManager.recorded
        cookie).bind (net.canonicalCookieFromSystemCookie cookie)) ∧
    ∀ cookie t, store.creationTimeManager.recorded cookie = some t →
      (net.canonicalCookieListFromSystemCookies store cookies).1.creationTimeManager.recorded
        cookie = some t
  | store, [] => ⟨rfl, fun _ _ h => h⟩
  | store, cookie :: rest => by
    have hasked := store.creationTimeManager.recorded_getCreationTime cookie cookie
    rw [if_pos rfl] at hasked
    obtain ⟨hlist, hkept⟩ := canonicalCookieList_eq (store.getCookieCreationTime cookie).1 rest
    have hrecorded := hkept cookie _ hasked
    have hstore : (net.canonicalCookieListFromSystemCookies store (cookie :: rest)).1 =
        (net.canonicalCookieListFromSystemCookies (store.getCookieCreationTime cookie).1 rest).1 := by
      conv_lhs => unfold canonicalCookieListFromSystemCookies
      dsimp only
      split <;> rfl
    rw [hstore]
    refine ⟨?_, fun other t ht => hkept other t ?_⟩
    · conv_lhs => unfold canonicalCookieListFromSystemCookies
      dsimp only
      rw [List.filterMap_cons, hrecorded, Option.bind_some]
      change (match net.canonicalCookieFromSystemCookie cookie
        (store.creationTimeManager.getCreationTime cookie).2 with
        | some canonicalCookie => _
        | none => _ : NSHTTPSystemCookieStore × List CanonicalCookie).2 = _
      cases net.canonicalCookieFromSystemCookie cookie
          (store.creationTimeManager.getCreationTime cookie).2 with
      | some canonicalCookie => exact congrArg (canonicalCookie :: ·) hlist
      | none => exact hlist
    · exact (RecordedFor.getCreationTime (List.mem_singleton_self cookie) _).kept other t ht

theorem cookieStore_canonicalCookieList : ∀ (store : NSHTTPSystemCookieStore)
    (cookies : List NSHTTPCookie),
      (net.canonicalCookieListFromSystemCookies store cookies).1.cookieStore = store.cookieStore
  | store, [] => rfl
  | store, cookie :: rest => by
    unfold canonicalCookieListFromSystemCookies
    have ih := cookieStore_canonicalCookieList (store.getCookieCreationTime cookie).1 rest
    dsimp only
    split
    · exact ih
    · exact ih

/-- **A list that is in order by the recorded times is delivered in order.** -/
theorem deliveredInOrder {store : NSHTTPSystemCookieStore} {cookies : List NSHTTPCookie}
    (hcookies : Stored cookies) (h : cookies.Pairwise store.creationTimeManager.InOrder) :
    DeliveredInOrder (net.canonicalCookieListFromSystemCookies store cookies).2 := by
  obtain ⟨hlist, hkept⟩ := net.canonicalCookieList_eq store cookies
  rw [hlist]
  generalize (net.canonicalCookieListFromSystemCookies store cookies).1.creationTimeManager = m
    at hkept
  -- what a delivered cookie comes from
  have hfrom : ∀ {cookie : NSHTTPCookie} {canonicalCookie : CanonicalCookie},
      (m.recorded cookie).bind (net.canonicalCookieFromSystemCookie cookie) = some canonicalCookie →
        m.recorded cookie = some canonicalCookie.creationDate ∧
          canonicalCookie.pathLength = nsLength cookie.path := by
    intro cookie canonicalCookie hsome
    obtain ⟨t, ht, hcanonical⟩ := Option.bind_eq_some_iff.1 hsome
    obtain ⟨hdate, hpath⟩ := net.canonicalCookie_fields hcanonical
    exact ⟨hdate.symm ▸ ht, hpath⟩
  constructor
  · rw [List.pairwise_filterMap]
    refine h.imp fun {a b} hab a' ha' b' hb' => ?_
    obtain ⟨hta, hpa⟩ := hfrom ha'
    obtain ⟨htb, hpb⟩ := hfrom hb'
    rw [hpa, hpb]
    rcases hab.mono (hkept a) (hkept b) with hlt | ⟨heq, ta, tb, hta', htb', hlt⟩
    · exact .inl hlt
    · obtain rfl : ta = a'.creationDate := Option.some.inj (hta'.symm.trans hta)
      obtain rfl : tb = b'.creationDate := Option.some.inj (htb'.symm.trans htb)
      exact .inr ⟨heq, hlt⟩
  · unfold List.Nodup
    rw [List.pairwise_map, List.pairwise_filterMap]
    refine (List.pairwise_map.1 hcookies).imp fun {a b} hne a' ha' b' hb' hdate => hne ?_
    exact identity_of_recorded (hfrom ha').1 (hdate ▸ (hfrom hb').1)

end CookieLibrary

/-! ## Runs -/

namespace ReadCookieStore

variable {Info Url : Type} {net : CookieLibrary Info} {cookiesForURL : Url → NSHTTPCookie → Bool}
  {s : ReadCookieStore}

/-- One cookie for an identity, in the store and in every list; the lists on their
way are in order by the times they were sorted with. -/
structure Listed (s : ReadCookieStore) : Prop where
  stored : Stored s.systemStore.cookieStore
  snapshots : ∀ predicate cookies, .ofStore (.deleteMatching predicate cookies) ∈ s.tasks →
    Stored cookies
  lists : ∀ cookies callback sortedWith,
    .runCallbackOnSystemCookies cookies callback sortedWith ∈ s.tasks →
      Stored cookies ∧ cookies.Pairwise sortedWith.InOrder
  delivered : ∀ cookieList ∈ s.delivered, DeliveredInOrder cookieList

theorem Listed.ofStore (h : s.Listed) (call : CookieStoreCall Info) :
    (s.ofStore net call).Listed := by
  have hidentified : CookieStoreIOS.Identified { systemStore := s.systemStore, tasks := [] } :=
    ⟨h.stored, fun _ _ hmem => absurd hmem List.not_mem_nil⟩
  have hafter := hidentified.step net call
  refine ⟨hafter.stored, fun predicate cookies hmem => ?_,
    fun cookies callback sortedWith hmem => ?_, h.delivered⟩
  · rcases List.mem_append.1 hmem with hold | hnew
    · exact h.snapshots predicate cookies hold
    · obtain ⟨task, htask, heq⟩ := List.mem_map.1 hnew
      cases heq
      exact hafter.snapshots predicate cookies htask
  · rcases List.mem_append.1 hmem with hold | hnew
    · exact h.lists cookies callback sortedWith hold
    · obtain ⟨task, -, heq⟩ := List.mem_map.1 hnew
      cases heq

theorem Listed.deliverLater (h : s.Listed) (callback : Bool) {m : CookieCreationTimeManager}
    {cookies : List NSHTTPCookie} (hcookies : Stored cookies) (horder : cookies.Pairwise m.InOrder) :
    (s.deliverLater callback
      ({ s.systemStore with creationTimeManager := m }, cookies)).Listed := by
  refine ⟨h.stored, fun predicate cookies' hmem => ?_,
    fun cookies' callback' sortedWith hmem => ?_, h.delivered⟩
  · rcases List.mem_append.1 hmem with hold | hnew
    · exact h.snapshots predicate cookies' hold
    · cases List.mem_singleton.1 hnew
  · rcases List.mem_append.1 hmem with hold | hnew
    · exact h.lists cookies' callback' sortedWith hold
    · cases List.mem_singleton.1 hnew
      exact ⟨hcookies, horder⟩

theorem Listed.getCookies (h : s.Listed) (callback : Bool) {cookies : List NSHTTPCookie}
    (hcookies : Stored cookies) :
    (s.deliverLater callback
      ({ s.systemStore with
          creationTimeManager := (sortedArrayUsingFunction compareCookies
            s.systemStore.creationTimeManager cookies).1 },
        (sortedArrayUsingFunction compareCookies
          s.systemStore.creationTimeManager cookies).2)).Listed :=
  h.deliverLater callback (hcookies.perm (sortedArrayUsingFunction_perm _ _))
    (sortedCookies_inOrder _ hcookies)

theorem Listed.runTask (h : s.Listed)
    (hkept : s.TimesKept (.runTask : CookieReadCall Info Url)) : (s.runTask net).Listed := by
  unfold ReadCookieStore.runTask
  unfold TimesKept at hkept
  cases htasks : s.tasks with
  | nil => exact h
  | cons first rest =>
    have hrest : ∀ task ∈ rest, task ∈ s.tasks := fun task hmem =>
      htasks ▸ List.mem_cons_of_mem _ hmem
    have hfirst : first ∈ s.tasks := htasks ▸ List.mem_cons_self
    simp only [htasks] at hkept
    cases first with
    | ofStore task =>
      have hidentified : CookieStoreIOS.Identified
          { systemStore := s.systemStore, tasks := [task] } := by
        refine ⟨h.stored, fun predicate cookies hmem => ?_⟩
        exact h.snapshots predicate cookies (List.mem_singleton.1 hmem ▸ hfirst)
      exact ⟨(hidentified.runTask net).stored,
        fun predicate cookies hmem => h.snapshots predicate cookies (hrest _ hmem),
        fun cookies callback sortedWith hmem =>
          h.lists cookies callback sortedWith (hrest _ hmem), h.delivered⟩
    | runCallbackOnSystemCookies cookies callback sortedWith =>
      obtain ⟨hcookies, horder⟩ := h.lists cookies callback sortedWith hfirst
      have hsnapshots : ∀ predicate cookies',
          .ofStore (.deleteMatching predicate cookies') ∈ rest → Stored cookies' :=
        fun predicate cookies' hmem => h.snapshots predicate cookies' (hrest _ hmem)
      have hlists : ∀ cookies' callback' sortedWith',
          .runCallbackOnSystemCookies cookies' callback' sortedWith' ∈ rest →
            Stored cookies' ∧ cookies'.Pairwise sortedWith'.InOrder :=
        fun cookies' callback' sortedWith' hmem =>
          h.lists cookies' callback' sortedWith' (hrest _ hmem)
      cases callback with
      | false => exact ⟨h.stored, hsnapshots, hlists, h.delivered⟩
      | true =>
        -- the order the list was sorted in is the order now
        have hnow : cookies.Pairwise s.systemStore.creationTimeManager.InOrder :=
          horder.imp_of_mem fun {a b} ha hb hab => hab.mono (hkept a ha) (hkept b hb)
        refine ⟨?_, hsnapshots, hlists, fun cookieList hmem => ?_⟩
        · show Stored (net.canonicalCookieListFromSystemCookies s.systemStore cookies).1.cookieStore
          rw [net.cookieStore_canonicalCookieList]
          exact h.stored
        · rcases List.mem_append.1 hmem with hold | hnew
          · exact h.delivered cookieList hold
          · obtain rfl := List.mem_singleton.1 hnew
            exact net.deliveredInOrder hcookies hnow

theorem Listed.step (h : s.Listed) (call : CookieReadCall Info Url) (hkept : s.TimesKept call) :
    (s.step net cookiesForURL call).Listed := by
  cases call with
  | ofStore call => exact h.ofStore call
  | getAllCookiesAsync callback => exact h.getCookies callback h.stored
  | getCookieListWithOptionsAsync url callback =>
    exact h.getCookies callback (List.Nodup.sublist (List.filter_sublist.map _) h.stored)
  | runTask => exact h.runTask hkept

/-- **Where no list's times changed while it was on its way, every delivered list is
in order and its creation dates are distinct.** -/
theorem delivered_inOrder {calls : List (CookieReadCall Info Url)}
    (hinit : (readCookieMachine net cookiesForURL).init s)
    (hkept : (readCookieMachine net cookiesForURL).Always TimesKept s calls) :
    ∀ cookieList ∈ ((readCookieMachine net cookiesForURL).exec s calls).delivered,
      DeliveredInOrder cookieList := by
  obtain ⟨hstored, htasks, hdelivered⟩ := hinit
  have hlisted : s.Listed :=
    { stored := hstored
      snapshots := fun _ _ hmem => absurd (htasks ▸ hmem) List.not_mem_nil
      lists := fun _ _ _ hmem => absurd (htasks ▸ hmem) List.not_mem_nil
      delivered := fun _ hmem => absurd (hdelivered ▸ hmem) List.not_mem_nil }
  exact (Machine.Guarded.invariant (M := readCookieMachine net cookiesForURL) (I := Listed)
    (fun _ call h _ hkept => h.step call hkept) hlisted
    ((readCookieMachine net cookiesForURL).always_of_forall (fun _ _ => trivial) s calls)
    hkept).delivered

/-- A list that is delivered before anything else runs has its times. -/
theorem timesKept_atOnce (h : s.tasks = []) (callback : Bool) :
    (s.getAllCookiesAsync callback).TimesKept (.runTask : CookieReadCall Info Url) := by
  have htasks : (s.getAllCookiesAsync callback).tasks =
      [.runCallbackOnSystemCookies s.systemStore.getAllCookies.2 callback
        s.systemStore.getAllCookies.1.creationTimeManager] := by
    show s.tasks ++ _ = _
    rw [h]
    rfl
  unfold TimesKept
  simp only [htasks]
  cases callback with
  | true => exact fun _ _ _ ht => ht
  | false => trivial

/-! ## A write before the delivery -/

instance (cookieList : List CanonicalCookie) : Decidable (DeliveredInOrder cookieList) :=
  decidable_of_iff (_ ∧ _) ⟨fun h => ⟨h.1, h.2⟩, fun h => ⟨h.ordered, h.distinct⟩⟩

private def noCookies : ReadCookieStore where
  systemStore := { cookieStore := [], creationTimeManager := .empty }
  tasks := []
  delivered := []

private def everywhere : Unit → NSHTTPCookie → Bool := fun _ _ => true

/-- The cookie `name` of `a.b` is set, created at a time. -/
private def setNamed (name : String) (creationDate : Time) : CookieReadCall Unit Unit :=
  .ofStore (.setCanonicalCookieAsync
    { name := name.toUTF8
      value := "1".toUTF8
      domain := "a.b".toUTF8
      path := "/".toUTF8
      creationDate := creationDate
      expiryDate := 0
      isSecure := false
      isHttpOnly := false
      sameSite := .laxMode } false false creationDate)

/-- Two cookies are set, asked for and delivered. -/
theorem delivered_inOrder_atOnce :
    ((readCookieMachine plainLibrary everywhere).exec noCookies
      [setNamed "x" 10, setNamed "y" 20, .getAllCookiesAsync true, .runTask]).delivered ≠ [] ∧
    ∀ cookieList ∈ ((readCookieMachine plainLibrary everywhere).exec noCookies
      [setNamed "x" 10, setNamed "y" 20, .getAllCookiesAsync true, .runTask]).delivered,
      DeliveredInOrder cookieList :=
  ⟨by decide +kernel, delivered_inOrder ⟨List.nodup_nil, rfl, rfl⟩
    ⟨trivial, trivial, trivial, timesKept_atOnce (by decide +kernel) true, trivial⟩⟩

/-- The first of the two is written anew before they are delivered: it comes first,
with the later date. -/
theorem writtenMeanwhile_unordered :
    ¬ ∀ cookieList ∈ ((readCookieMachine plainLibrary everywhere).exec noCookies
      [setNamed "x" 10, setNamed "y" 20, .getAllCookiesAsync true, setNamed "x" 30,
        .runTask]).delivered, DeliveredInOrder cookieList := by
  decide +kernel

end ReadCookieStore

end IosChrome.Cookies

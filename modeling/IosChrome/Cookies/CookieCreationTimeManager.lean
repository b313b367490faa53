import Mathlib.Data.List.Sort
import Mathlib.Data.List.TakeWhile
import IosChrome.Cookies.SystemCookie

/-!
# The creation times

`CookieCreationTimeManager` and the comparison of cookies that reads it. The
system stores keep no creation time, or one that is good to a second, so it is
recorded beside them: under the cookie's unique id, no two cookies with one
time. The table carries that as its invariant: `unique_times_` is exactly the
recorded times, in their order, without a repetition.

`MakeUniqueCreationTime` gives a time nothing has yet
(`makeUniqueCreationTime_notMem`), which is what `SetCreationTime` asks for.
Reading a time may write one: `GetCreationTime` records a time for a cookie
that has none, and so does a sort that compares it.
-/

namespace IosChrome.Cookies

open IosChrome.Lib

/-! ## Sorted times -/

/-- `std::set::insert`. -/
def insertTime (times : List Int) (t : Int) : List Int := times.orderedInsert (· ≤ ·) t

theorem pairwise_insertTime {times : List Int} (h : times.Pairwise (· < ·)) {t : Int}
    (ht : t ∉ times) : (insertTime times t).Pairwise (· < ·) := by
  induction times with
  | nil => exact List.pairwise_singleton _ t
  | cons u times ih =>
    obtain ⟨hu, hrest⟩ := List.pairwise_cons.1 h
    have hne : t ≠ u := fun he => ht (he ▸ List.mem_cons_self)
    unfold insertTime
    rw [List.orderedInsert_cons]
    by_cases hle : t ≤ u
    · rw [if_pos hle]
      refine List.pairwise_cons.2 ⟨fun v hv => ?_, h⟩
      rcases List.mem_cons.1 hv with rfl | hv
      · omega
      · have := hu v hv
        omega
    · rw [if_neg hle]
      refine List.pairwise_cons.2 ⟨fun v hv => ?_, ih hrest fun hm => ht (List.mem_cons_of_mem _ hm)⟩
      rcases (List.mem_orderedInsert _).1 hv with rfl | hv
      · omega
      · exact hu v hv

/-- The loop of `MakeUniqueCreationTime`, at a time that is taken: `later` are
the taken times behind it. -/
def nextFreeTime (t : Int) : List Int → Int
  | [] => t + 1
  | u :: later => if u = t + 1 then nextFreeTime (t + 1) later else t + 1

theorem nextFreeTime_gt : ∀ (later : List Int) (t : Int), t < nextFreeTime t later
  | [], t => by show t < t + 1; omega
  | u :: later, t => by
    unfold nextFreeTime
    split
    · have := nextFreeTime_gt later (t + 1)
      omega
    · omega

theorem nextFreeTime_notMem : ∀ {later : List Int} {t : Int}, (t :: later).Pairwise (· < ·) →
    nextFreeTime t later ∉ later
  | [], _, _ => List.not_mem_nil
  | u :: later, t, h => by
    obtain ⟨ht, hlater⟩ := List.pairwise_cons.1 h
    have htu : t < u := ht u List.mem_cons_self
    unfold nextFreeTime
    split
    · -- the time after is taken as well: on from there
      next hu =>
      subst hu
      intro hm
      rcases List.mem_cons.1 hm with he | hm
      · have := nextFreeTime_gt later (t + 1)
        omega
      · exact nextFreeTime_notMem hlater hm
    · -- the times behind are all later than the free one
      next hu =>
      intro hm
      rcases List.mem_cons.1 hm with he | hm
      · exact hu he.symm
      · have := (List.pairwise_cons.1 hlater).1 _ hm
        omega

/-! ## The table -/

structure CookieCreationTimeManager where
  creationTimes : List (String × Time)
  uniqueTimes : List Time
  ids : Keyed.Unique Prod.fst creationTimes
  sorted : uniqueTimes.Pairwise (· < ·)
  times : uniqueTimes.Perm (creationTimes.map Prod.snd)
  deriving DecidableEq

namespace CookieCreationTimeManager

/-- The table of a new manager, and what `Clear` leaves. -/
def empty : CookieCreationTimeManager where
  creationTimes := []
  uniqueTimes := []
  ids := List.nodup_nil
  sorted := List.Pairwise.nil
  times := List.Perm.nil

def clear (_ : CookieCreationTimeManager) : CookieCreationTimeManager := empty

/-- The time recorded for a cookie. -/
def recorded (manager : CookieCreationTimeManager) (cookie : NSHTTPCookie) : Option Time :=
  (Keyed.lookup Prod.fst manager.creationTimes (getCookieUniqueID cookie)).map Prod.snd

/-- The taken times once the cookie's own is given up. -/
def timesWithout (manager : CookieCreationTimeManager) (cookie : NSHTTPCookie) : List Time :=
  match manager.recorded cookie with
  | none => manager.uniqueTimes
  | some t => manager.uniqueTimes.erase t

theorem timesWithout_perm (manager : CookieCreationTimeManager) (cookie : NSHTTPCookie) :
    (manager.timesWithout cookie).Perm
      ((Keyed.remove Prod.fst manager.creationTimes (getCookieUniqueID cookie)).map Prod.snd) := by
  unfold timesWithout recorded
  cases hl : Keyed.lookup Prod.fst manager.creationTimes (getCookieUniqueID cookie) with
  | none =>
    rw [Keyed.remove_of_lookup_none hl]
    exact manager.times
  | some entry =>
    have hperm := Keyed.perm_remove manager.ids (Keyed.mem_of_lookup hl)
    rw [Keyed.key_of_lookup hl] at hperm
    have htimes := (manager.times.trans (hperm.map Prod.snd)).erase entry.2
    simpa using htimes

theorem timesWithout_sublist (manager : CookieCreationTimeManager) (cookie : NSHTTPCookie) :
    (manager.timesWithout cookie).Sublist manager.uniqueTimes := by
  unfold timesWithout
  split
  · exact List.Sublist.refl _
  · exact List.erase_sublist

/-- `creation_time` must be unique: not in use. -/
def setCreationTime (manager : CookieCreationTimeManager) (cookie : NSHTTPCookie) (t : Time)
    (ht : t ∉ manager.uniqueTimes) : CookieCreationTimeManager where
  creationTimes := Keyed.put Prod.fst manager.creationTimes (getCookieUniqueID cookie, t)
  uniqueTimes := insertTime (manager.timesWithout cookie) t
  ids := manager.ids.put _
  sorted := pairwise_insertTime (manager.sorted.sublist (manager.timesWithout_sublist cookie))
    fun hm => ht ((manager.timesWithout_sublist cookie).subset hm)
  times := by
    refine (List.perm_orderedInsert _ t _).trans ?_
    refine ((manager.timesWithout_perm cookie).cons t).trans ?_
    unfold Keyed.put
    rw [List.map_append]
    exact (List.perm_append_singleton _ _).symm

def makeUniqueCreationTime (manager : CookieCreationTimeManager) (t : Time) : Time :=
  match manager.uniqueTimes.dropWhile (· ≠ t) with
  | [] => t
  | taken :: later => nextFreeTime taken later

/-- **A unique time is one nothing has.** -/
theorem makeUniqueCreationTime_notMem (manager : CookieCreationTimeManager) (t : Time) :
    manager.makeUniqueCreationTime t ∉ manager.uniqueTimes := by
  unfold makeUniqueCreationTime
  have hsplit := List.takeWhile_append_dropWhile (p := (· ≠ t)) (l := manager.uniqueTimes)
  have hsorted := manager.sorted
  cases hd : manager.uniqueTimes.dropWhile (· ≠ t) with
  | nil =>
    -- nothing has the time itself
    rw [hd, List.append_nil] at hsplit
    intro hm
    rw [← hsplit] at hm
    simpa using List.mem_takeWhile_imp hm
  | cons taken later =>
    have hsuffix : (taken :: later).Pairwise (· < ·) :=
      hd ▸ hsorted.sublist (List.dropWhile_sublist _)
    rw [← hsplit, hd] at hsorted ⊢
    intro hm
    have hgt := nextFreeTime_gt later taken
    rcases List.mem_append.1 hm with hm | hm
    · have hlt := (List.pairwise_append.1 hsorted).2.2 _ hm taken List.mem_cons_self
      exact lt_asymm hgt hlt
    · rcases List.mem_cons.1 hm with he | hm
      · exact hgt.ne he.symm
      · exact nextFreeTime_notMem hsuffix hm

/-- It is the asked time or one after it. -/
theorem makeUniqueCreationTime_ge (manager : CookieCreationTimeManager) (t : Time) :
    t ≤ manager.makeUniqueCreationTime t := by
  unfold makeUniqueCreationTime
  cases hd : manager.uniqueTimes.dropWhile (· ≠ t) with
  | nil => exact le_refl t
  | cons taken later =>
    -- the walk starts at the asked time
    have hhead := List.head?_dropWhile_not (· ≠ t) manager.uniqueTimes
    rw [hd] at hhead
    obtain rfl : taken = t := by simpa using hhead
    exact (nextFreeTime_gt later taken).le

/-- `SetCreationTime(cookie, MakeUniqueCreationTime(creation_time))`. -/
def setUniqueCreationTime (manager : CookieCreationTimeManager) (cookie : NSHTTPCookie) (t : Time) :
    CookieCreationTimeManager :=
  manager.setCreationTime cookie (manager.makeUniqueCreationTime t)
    (manager.makeUniqueCreationTime_notMem t)

def deleteCreationTime (manager : CookieCreationTimeManager) (cookie : NSHTTPCookie) :
    CookieCreationTimeManager where
  creationTimes := Keyed.remove Prod.fst manager.creationTimes (getCookieUniqueID cookie)
  uniqueTimes := manager.timesWithout cookie
  ids := manager.ids.remove _
  sorted := manager.sorted.sublist (manager.timesWithout_sublist cookie)
  times := manager.timesWithout_perm cookie

/-- `base::Time::FromCFAbsoluteTime`: from 2001 to the epoch of `base::Time`. -/
def fromCFAbsoluteTime (microseconds : Int) : Time := microseconds + 12622780800000000

/-- A date property below two seconds is what `initWithProperties:` makes up. -/
def getCreationTimeFromObject (cookie : NSHTTPCookie) : Time :=
  match cookie.created with
  | none => 0
  | some microseconds => if microseconds < 2000000 then 0 else fromCFAbsoluteTime microseconds

/-- The time of a cookie, and the table after it was asked for. -/
def getCreationTime (manager : CookieCreationTimeManager) (cookie : NSHTTPCookie) :
    CookieCreationTimeManager × Time :=
  match manager.recorded cookie with
  | some t => (manager, t)
  | none =>
    let nativeCreationTime := manager.makeUniqueCreationTime (getCreationTimeFromObject cookie)
    (manager.setUniqueCreationTime cookie (getCreationTimeFromObject cookie), nativeCreationTime)

/-! ## What each call does to the recorded times -/

theorem recorded_eq_of_identity (manager : CookieCreationTimeManager) {a b : NSHTTPCookie}
    (h : a.identity = b.identity) : manager.recorded a = manager.recorded b := by
  unfold recorded
  rw [getCookieUniqueID_eq_iff.2 h]

theorem recorded_setCreationTime (manager : CookieCreationTimeManager) (cookie other : NSHTTPCookie)
    (t : Time) (ht : t ∉ manager.uniqueTimes) :
    (manager.setCreationTime cookie t ht).recorded other =
      if other.identity = cookie.identity then some t else manager.recorded other := by
  show (Keyed.lookup Prod.fst (Keyed.put Prod.fst manager.creationTimes
    (getCookieUniqueID cookie, t)) (getCookieUniqueID other)).map Prod.snd = _
  by_cases h : other.identity = cookie.identity
  · rw [if_pos h, getCookieUniqueID_eq_iff.2 h]
    exact congrArg (Option.map Prod.snd) (Keyed.lookup_put_same _ (getCookieUniqueID cookie, t))
  · have hne : getCookieUniqueID other ≠ getCookieUniqueID cookie :=
      fun he => h (getCookieUniqueID_eq_iff.1 he)
    rw [if_neg h]
    exact congrArg (Option.map Prod.snd)
      (Keyed.lookup_put_of_ne (a := (getCookieUniqueID cookie, t)) _ hne)

theorem recorded_setUniqueCreationTime (manager : CookieCreationTimeManager)
    (cookie other : NSHTTPCookie) (t : Time) :
    (manager.setUniqueCreationTime cookie t).recorded other =
      if other.identity = cookie.identity then some (manager.makeUniqueCreationTime t)
      else manager.recorded other :=
  recorded_setCreationTime manager cookie other _ _

theorem recorded_deleteCreationTime (manager : CookieCreationTimeManager)
    (cookie other : NSHTTPCookie) :
    (manager.deleteCreationTime cookie).recorded other =
      if other.identity = cookie.identity then none else manager.recorded other := by
  unfold recorded deleteCreationTime
  by_cases h : other.identity = cookie.identity
  · rw [if_pos h, getCookieUniqueID_eq_iff.2 h]
    exact congrArg (Option.map Prod.snd) (Keyed.lookup_remove_same _ _)
  · rw [if_neg h, Keyed.lookup_remove_of_ne _ fun he => h (getCookieUniqueID_eq_iff.1 he)]

/-- Asking for a time records it, and no other. -/
theorem recorded_getCreationTime (manager : CookieCreationTimeManager)
    (cookie other : NSHTTPCookie) :
    (manager.getCreationTime cookie).1.recorded other =
      if other.identity = cookie.identity then some (manager.getCreationTime cookie).2
      else manager.recorded other := by
  unfold getCreationTime
  cases hr : manager.recorded cookie with
  | none => exact recorded_setUniqueCreationTime manager cookie other _
  | some t =>
    by_cases h : other.identity = cookie.identity
    · rw [if_pos h]
      exact (manager.recorded_eq_of_identity h).trans hr
    · exact (if_neg h).symm

theorem getCreationTime_of_recorded {manager : CookieCreationTimeManager} {cookie : NSHTTPCookie}
    {t : Time} (h : manager.recorded cookie = some t) :
    manager.getCreationTime cookie = (manager, t) := by
  unfold getCreationTime
  rw [h]

end CookieCreationTimeManager

end IosChrome.Cookies

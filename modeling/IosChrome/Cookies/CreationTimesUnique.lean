import IosChrome.Cookies.CookieCreationTimeManager
import IosChrome.Lib.Machine
import Mathlib.Order.Bounds.Defs

/-!
# The two containers of the creation times

`CookieCreationTimeManager` as the source has it: a map and a set, written by each call in turn,
with nothing said about how they go together (`CreationTimeTables`). The manager with its
invariant simulates it (`step_toTables`), so what the invariant says holds of the two containers
after every sequence of calls: the set has the recorded times and no others, once each.

A time that `MakeUniqueCreationTime` gives is the least one that is free from the asked time on
(`makeUniqueCreationTime_isLeast`). So it stays in range whenever a free time in range is left.
-/

namespace IosChrome.Cookies

open IosChrome.Lib

/-- The walk stops at the first free time. -/
theorem nextFreeTime_le {u : Int} : ∀ {later : List Int} {t : Int}, t < u → u ∉ later →
    nextFreeTime t later ≤ u
  | [], t, hlt, _ => by
    show t + 1 ≤ u
    omega
  | v :: later, t, hlt, hfree => by
    unfold nextFreeTime
    split
    next hv =>
      have hne : u ≠ v := fun heq => hfree (heq ▸ List.mem_cons_self)
      exact nextFreeTime_le (by omega) fun hmem => hfree (List.mem_cons_of_mem _ hmem)
    next => omega

/-! ## The containers -/

/-- `creation_times_` and `unique_times_`. -/
structure CreationTimeTables where
  creationTimes : List (String × Time) := []
  uniqueTimes : List Time := []
  deriving DecidableEq, Repr

namespace CreationTimeTables

variable (s : CreationTimeTables)

def find (cookie : NSHTTPCookie) : Option Time :=
  (Keyed.lookup Prod.fst s.creationTimes (getCookieUniqueID cookie)).map Prod.snd

/-- `std::set` leaves a time alone that it has. -/
def insertUniqueTime (times : List Time) (t : Time) : List Time :=
  if t ∈ times then times else insertTime times t

def setCreationTime (cookie : NSHTTPCookie) (t : Time) : CreationTimeTables where
  uniqueTimes := insertUniqueTime
    (match s.find cookie with
      | none => s.uniqueTimes
      | some old => s.uniqueTimes.erase old) t
  creationTimes := Keyed.put Prod.fst s.creationTimes (getCookieUniqueID cookie, t)

def makeUniqueCreationTime (t : Time) : Time :=
  match s.uniqueTimes.dropWhile (· ≠ t) with
  | [] => t
  | taken :: later => nextFreeTime taken later

def getCreationTime (cookie : NSHTTPCookie) : CreationTimeTables × Time :=
  match s.find cookie with
  | some t => (s, t)
  | none =>
    let nativeCreationTime := s.makeUniqueCreationTime
      (CookieCreationTimeManager.getCreationTimeFromObject cookie)
    (s.setCreationTime cookie nativeCreationTime, nativeCreationTime)

def deleteCreationTime (cookie : NSHTTPCookie) : CreationTimeTables :=
  match s.find cookie with
  | none => s
  | some old =>
    { uniqueTimes := s.uniqueTimes.erase old
      creationTimes := Keyed.remove Prod.fst s.creationTimes (getCookieUniqueID cookie) }

end CreationTimeTables

/-- `setCreationTime cookie t` is `SetCreationTime(cookie, MakeUniqueCreationTime(t))`. -/
inductive CreationTimeCall where
  | setCreationTime (cookie : NSHTTPCookie) (t : Time)
  | getCreationTime (cookie : NSHTTPCookie)
  | deleteCreationTime (cookie : NSHTTPCookie)
  | clear

namespace CreationTimeTables

def step (s : CreationTimeTables) : CreationTimeCall → CreationTimeTables
  | .setCreationTime cookie t => s.setCreationTime cookie (s.makeUniqueCreationTime t)
  | .getCreationTime cookie => (s.getCreationTime cookie).1
  | .deleteCreationTime cookie => s.deleteCreationTime cookie
  | .clear => {}

def machine : Machine CreationTimeTables CreationTimeCall where
  init s := s = {}
  pre _ _ := True
  step s call := s.step call

end CreationTimeTables

/-- The cookie is neither set nor deleted by the call, and the manager not cleared. -/
def CreationTimeCall.Keeps (cookie : NSHTTPCookie) : CreationTimeCall → Prop
  | .setCreationTime other _ => other.identity ≠ cookie.identity
  | .getCreationTime _ => True
  | .deleteCreationTime other => other.identity ≠ cookie.identity
  | .clear => False

/-! ## The manager simulates them -/

namespace CookieCreationTimeManager

variable (manager : CookieCreationTimeManager)

def toTables : CreationTimeTables := ⟨manager.creationTimes, manager.uniqueTimes⟩

def step : CreationTimeCall → CookieCreationTimeManager
  | .setCreationTime cookie t => manager.setUniqueCreationTime cookie t
  | .getCreationTime cookie => (manager.getCreationTime cookie).1
  | .deleteCreationTime cookie => manager.deleteCreationTime cookie
  | .clear => manager.clear

theorem toTables_setUniqueCreationTime (cookie : NSHTTPCookie) (t : Time) :
    (manager.setUniqueCreationTime cookie t).toTables =
      manager.toTables.setCreationTime cookie (manager.makeUniqueCreationTime t) := by
  have hfree : manager.makeUniqueCreationTime t ∉ manager.timesWithout cookie := fun hmem =>
    manager.makeUniqueCreationTime_notMem t ((manager.timesWithout_sublist cookie).subset hmem)
  have hinsert : CreationTimeTables.insertUniqueTime (manager.timesWithout cookie)
      (manager.makeUniqueCreationTime t) =
        insertTime (manager.timesWithout cookie) (manager.makeUniqueCreationTime t) :=
    if_neg hfree
  unfold CreationTimeTables.setCreationTime
  show CreationTimeTables.mk _ (insertTime _ _) =
    CreationTimeTables.mk _ (CreationTimeTables.insertUniqueTime (manager.timesWithout cookie) _)
  rw [hinsert]
  rfl

theorem toTables_getCreationTime (cookie : NSHTTPCookie) :
    manager.toTables.getCreationTime cookie =
      ((manager.getCreationTime cookie).1.toTables, (manager.getCreationTime cookie).2) := by
  have hfind : manager.toTables.find cookie = manager.recorded cookie := rfl
  unfold CreationTimeTables.getCreationTime getCreationTime
  rw [hfind]
  cases manager.recorded cookie with
  | some t => rfl
  | none =>
    simp only [toTables_setUniqueCreationTime]
    rfl

theorem toTables_deleteCreationTime (cookie : NSHTTPCookie) :
    (manager.deleteCreationTime cookie).toTables =
      manager.toTables.deleteCreationTime cookie := by
  have hfind : manager.toTables.find cookie = manager.recorded cookie := rfl
  show CreationTimeTables.mk (Keyed.remove Prod.fst manager.creationTimes
    (getCookieUniqueID cookie)) (manager.timesWithout cookie) = _
  unfold CreationTimeTables.deleteCreationTime timesWithout
  rw [hfind]
  cases hrecorded : manager.recorded cookie with
  | some t => rfl
  | none =>
    -- nothing is recorded, so nothing is removed
    have hlookup : Keyed.lookup Prod.fst manager.creationTimes (getCookieUniqueID cookie) = none :=
      Option.map_eq_none_iff.1 hrecorded
    rw [Keyed.remove_of_lookup_none hlookup]
    rfl

/-- **Each call does to the containers what it does to the manager's.** -/
theorem step_toTables (call : CreationTimeCall) :
    (manager.step call).toTables = manager.toTables.step call := by
  cases call with
  | setCreationTime cookie t => exact manager.toTables_setUniqueCreationTime cookie t
  | getCreationTime cookie =>
    exact (congrArg Prod.fst (manager.toTables_getCreationTime cookie)).symm
  | deleteCreationTime cookie => exact manager.toTables_deleteCreationTime cookie
  | clear => rfl

theorem foldl_step_toTables (calls : List CreationTimeCall) :
    ∀ manager : CookieCreationTimeManager, (calls.foldl step manager).toTables =
      CreationTimeTables.machine.exec manager.toTables calls := by
  induction calls with
  | nil =>
    intro manager
    rfl
  | cons call calls ih =>
    intro manager
    rw [List.foldl_cons, ih, step_toTables]
    rfl

/-! ## The times -/

/-- **A unique time is the least one that is free from the asked time on.** -/
theorem makeUniqueCreationTime_isLeast (t : Time) :
    IsLeast {u | t ≤ u ∧ u ∉ manager.uniqueTimes} (manager.makeUniqueCreationTime t) := by
  refine ⟨⟨manager.makeUniqueCreationTime_ge t, manager.makeUniqueCreationTime_notMem t⟩, ?_⟩
  rintro u ⟨hle, hfree⟩
  unfold makeUniqueCreationTime
  cases hd : manager.uniqueTimes.dropWhile (· ≠ t) with
  | nil => exact hle
  | cons taken later =>
    have hhead := List.head?_dropWhile_not (· ≠ t) manager.uniqueTimes
    rw [hd] at hhead
    obtain rfl : taken = t := by simpa using hhead
    have hsub : ∀ v ∈ taken :: later, v ∈ manager.uniqueTimes := fun v hv =>
      (List.dropWhile_sublist (· ≠ taken)).subset (hd ▸ hv)
    have hne : u ≠ taken := fun heq => hfree (heq ▸ hsub taken List.mem_cons_self)
    refine nextFreeTime_le (lt_of_le_of_ne hle hne.symm) fun hmem => ?_
    exact hfree (hsub u (List.mem_cons_of_mem _ hmem))

/-- A recorded time stays, until its cookie is set, deleted or all are cleared. -/
theorem recorded_step {cookie : NSHTTPCookie} {t : Time}
    (hrecorded : manager.recorded cookie = some t) {call : CreationTimeCall} (hkeeps : call.Keeps cookie) :
    (manager.step call).recorded cookie = some t := by
  cases call with
  | setCreationTime other t' =>
    show (manager.setUniqueCreationTime other t').recorded cookie = some t
    rw [recorded_setUniqueCreationTime, if_neg fun heq => hkeeps heq.symm, hrecorded]
  | getCreationTime other =>
    show (manager.getCreationTime other).1.recorded cookie = some t
    rw [recorded_getCreationTime]
    split
    next heq =>
      have hother : manager.recorded other = some t :=
        (manager.recorded_eq_of_identity heq).symm.trans hrecorded
      rw [getCreationTime_of_recorded hother]
    next => exact hrecorded
  | deleteCreationTime other =>
    show (manager.deleteCreationTime other).recorded cookie = some t
    rw [recorded_deleteCreationTime, if_neg fun heq => hkeeps heq.symm, hrecorded]
  | clear => exact hkeeps.elim

theorem recorded_foldl_step {cookie : NSHTTPCookie} {t : Time} {calls : List CreationTimeCall} :
    ∀ {manager : CookieCreationTimeManager}, manager.recorded cookie = some t →
      (∀ call ∈ calls, call.Keeps cookie) →
      (calls.foldl step manager).recorded cookie = some t := by
  induction calls with
  | nil =>
    intro manager hrecorded _
    exact hrecorded
  | cons call calls ih =>
    intro manager hrecorded hkeeps
    exact ih (manager.recorded_step hrecorded (hkeeps call List.mem_cons_self))
      fun call' hmem => hkeeps call' (List.mem_cons_of_mem _ hmem)

end CookieCreationTimeManager

/-- **The containers after every sequence of calls**: the set has exactly the recorded times, and
each of them once, in order; no two cookies have one time; a unique time is the least free one;
and a cookie keeps its time until it is set or deleted, or all are cleared. -/
theorem creationTimes_unique (calls : List CreationTimeCall) :
    let s := CreationTimeTables.machine.exec {} calls
    (∀ t, t ∈ s.uniqueTimes ↔ ∃ id, (id, t) ∈ s.creationTimes) ∧
    s.uniqueTimes.Pairwise (· < ·) ∧
    (s.creationTimes.map Prod.fst).Nodup ∧ (s.creationTimes.map Prod.snd).Nodup ∧
    (∀ t, IsLeast {u | t ≤ u ∧ u ∉ s.uniqueTimes} (s.makeUniqueCreationTime t)) ∧
    ∀ cookie calls', (∀ call ∈ calls', CreationTimeCall.Keeps cookie call) →
      ((CreationTimeTables.machine.exec (s.getCreationTime cookie).1 calls').getCreationTime
        cookie).2 = (s.getCreationTime cookie).2 := by
  intro s
  have hs : s = (calls.foldl CookieCreationTimeManager.step .empty).toTables :=
    (CookieCreationTimeManager.foldl_step_toTables calls .empty).symm
  rw [hs]
  generalize calls.foldl CookieCreationTimeManager.step .empty = manager
  refine ⟨fun t => ?_, manager.sorted, manager.ids, ?_, manager.makeUniqueCreationTime_isLeast, ?_⟩
  · show t ∈ manager.uniqueTimes ↔ _
    rw [manager.times.mem_iff, List.mem_map]
    constructor
    · rintro ⟨⟨id, _⟩, hmem, rfl⟩
      exact ⟨id, hmem⟩
    · rintro ⟨id, hmem⟩
      exact ⟨(id, t), hmem, rfl⟩
  · exact manager.times.nodup_iff.1 (manager.sorted.imp ne_of_lt)
  · intro cookie calls' hkeeps
    have hrecorded : (manager.getCreationTime cookie).1.recorded cookie =
        some (manager.getCreationTime cookie).2 := by
      rw [CookieCreationTimeManager.recorded_getCreationTime, if_pos rfl]
    have hstays := CookieCreationTimeManager.recorded_foldl_step hrecorded hkeeps
    rw [manager.toTables_getCreationTime, ← CookieCreationTimeManager.foldl_step_toTables,
      CookieCreationTimeManager.toTables_getCreationTime,
      CookieCreationTimeManager.getCreationTime_of_recorded hstays]

end IosChrome.Cookies

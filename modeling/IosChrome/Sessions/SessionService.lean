import IosChrome.Lib.Machine
import IosChrome.Lib.Requests

/-!
# `SessionServiceIOS`: the delayed saves

One service object saves the sessions of all windows. A save is requested for
a path, with a factory that will produce the session; `_pendingSessions` maps
each path to the factory of its last request, and a delayed save is a
`performSelector:afterDelay:` of the service on itself, with the path as its
argument. Two structures describe the same thing, a pending save, and no code
keeps them together:

* a delayed save schedules a perform only if the path was not in the map;
* an immediate save cancels *all* the performs of the service, whatever path
  they are for, and takes only its own path out of the map.

So a path that was pending when another path was saved immediately stays in the
map with nothing scheduled for it, and later delayed saves for it do nothing
(`immediateSave_losesOther`). `noLostSave_exact` says when no run loses a save:
exactly when each immediate save finds no other path pending. In such a run,
once the timers have fired, in any order, every request was served
(`Lib.Settled`).

`history` is not part of the service. It records the calls and the performs, so
that the theorems can speak of what was requested and served. The factories are
weak references, taken to stay alive; what `sessionForSaving` returns depends on
the window at that moment, so each step carries it.
-/

namespace IosChrome.Sessions

open Lib (Entry Settled Faithful owed)

/-! ## Paths -/

/-- `base::FilePath`, by components. -/
abbrev FilePath := List String

def kSessions : String := "Sessions"
def kSessionFileName : String := "session.plist"

/-- `SessionPathForDirectory`. -/
def sessionPathForDirectory (directory : FilePath) (sessionIdentifier name : String) : FilePath :=
  if sessionIdentifier.length = 0 then directory ++ [name]
  else directory ++ [kSessions, sessionIdentifier, name]

/-- `sessionPathForSessionID:directory:`. -/
def sessionPathForSessionID (sessionID : String) (directory : FilePath) : FilePath :=
  sessionPathForDirectory directory sessionID kSessionFileName

/-! ## The service -/

/-- The service: the pending factories by path, and the paths of the scheduled
performs. -/
structure SessionService (F S : Type) where
  pendingSessions : FilePath → Option F := fun _ => none
  performRequests : List FilePath := []
  history : List (Entry FilePath F (Option S)) := []

namespace SessionService

variable {F S : Type}

/-- `performSaveToPathInBackground:`. `sessionForSaving` is what the factories
return now; a session that is nil is not written. -/
def performSaveToPathInBackground (sessionForSaving : F → Option S) (service : SessionService F S)
    (sessionPath : FilePath) : SessionService F S :=
  let factory := service.pendingSessions sessionPath
  { service with
    pendingSessions := fun path =>
      if path = sessionPath then none else service.pendingSessions path
    history := service.history ++ [.answer sessionPath factory (factory.bind sessionForSaving)] }

/-- `saveSession:sessionID:directory:immediately:`. -/
def saveSession (sessionForSaving : F → Option S) (service : SessionService F S) (factory : F)
    (sessionID : String) (directory : FilePath) (immediately : Bool) : SessionService F S :=
  let sessionPath := sessionPathForSessionID sessionID directory
  let hadPendingSession := (service.pendingSessions sessionPath).isSome
  let service :=
    { service with
      pendingSessions := fun path =>
        if path = sessionPath then some factory else service.pendingSessions path
      history := service.history ++ [.request sessionPath factory] }
  if immediately then
    -- `cancelPreviousPerformRequestsWithTarget:self` names no selector and no path
    performSaveToPathInBackground sessionForSaving { service with performRequests := [] } sessionPath
  else if !hadPendingSession then
    { service with performRequests := service.performRequests ++ [sessionPath] }
  else service

/-- What can happen: a save is requested, or the timer of a scheduled perform
fires. -/
inductive Event (F S : Type) where
  | saveSession (sessionForSaving : F → Option S) (factory : F) (sessionID : String)
      (directory : FilePath) (immediately : Bool)
  | timerFired (sessionForSaving : F → Option S) (sessionPath : FilePath)

/-- The service under calls and timers, which fire in any order. -/
def machine (F S : Type) : Lib.Machine (SessionService F S) (Event F S) where
  init service := service = {}
  pre service event := match event with
    | .saveSession _ _ sessionID _ _ => sessionID.length ≠ 0
    | .timerFired _ sessionPath => sessionPath ∈ service.performRequests
  step service event := match event with
    | .saveSession sessionForSaving factory sessionID directory immediately =>
      service.saveSession sessionForSaving factory sessionID directory immediately
    | .timerFired sessionForSaving sessionPath =>
      performSaveToPathInBackground sessionForSaving
        { service with performRequests := service.performRequests.erase sessionPath } sessionPath

instance (service : SessionService F S) (event : Event F S) :
    Decidable ((machine F S).pre service event) :=
  match event with
  | .saveSession _ _ sessionID _ _ => inferInstanceAs (Decidable (sessionID.length ≠ 0))
  | .timerFired _ sessionPath => inferInstanceAs (Decidable (sessionPath ∈ service.performRequests))

/-! ## The map is what the history owes -/

/-- The bookkeeping of `_pendingSessions`. -/
structure LedgerInv (service : SessionService F S) : Prop where
  pending : service.pendingSessions = owed service.history
  faithful : Faithful service.history

theorem performSaveToPathInBackground_ledger (sessionForSaving : F → Option S)
    {service : SessionService F S} (h : LedgerInv service) (sessionPath : FilePath) :
    LedgerInv (performSaveToPathInBackground sessionForSaving service sessionPath) := by
  refine ⟨?_, ?_⟩
  · show _ = owed (service.history ++ [_])
    rw [Lib.owed_append_singleton, ← h.pending]
    rfl
  · show Faithful (service.history ++ [.answer sessionPath (service.pendingSessions sessionPath) _])
    rw [h.pending]
    exact Lib.faithful_append_answer h.faithful sessionPath _

theorem saveSession_ledger (sessionForSaving : F → Option S) {service : SessionService F S}
    (h : LedgerInv service) (factory : F) (sessionID : String) (directory : FilePath)
    (immediately : Bool) :
    LedgerInv (service.saveSession sessionForSaving factory sessionID directory immediately) := by
  have hrequest : ∀ performRequests, LedgerInv
      { pendingSessions := fun path =>
          if path = sessionPathForSessionID sessionID directory then some factory
          else service.pendingSessions path
        performRequests := performRequests
        history := service.history ++
          [.request (sessionPathForSessionID sessionID directory) factory] } := by
    intro performRequests
    refine ⟨?_, Lib.faithful_append_request h.faithful _ _⟩
    rw [Lib.owed_append_singleton, ← h.pending]
    rfl
  unfold saveSession
  simp only
  split
  · exact performSaveToPathInBackground_ledger sessionForSaving (hrequest []) _
  · split
    · exact hrequest _
    · exact hrequest _

theorem step_ledger (service : SessionService F S) (event : Event F S) (h : LedgerInv service) :
    LedgerInv ((machine F S).step service event) := by
  cases event with
  | saveSession sessionForSaving factory sessionID directory immediately =>
    exact saveSession_ledger sessionForSaving h factory sessionID directory immediately
  | timerFired sessionForSaving sessionPath =>
    have hfired : LedgerInv { service with
        performRequests := service.performRequests.erase sessionPath } := ⟨h.pending, h.faithful⟩
    exact performSaveToPathInBackground_ledger sessionForSaving hfired _

/-! ## When no save is lost -/

/-- Every pending path has a perform scheduled. -/
def NoLostSave (service : SessionService F S) : Prop :=
  ∀ path, (service.pendingSessions path).isSome → path ∈ service.performRequests

/-- An immediate save finds no other path pending. -/
def SavesAlone (service : SessionService F S) : Event F S → Prop
  | .saveSession _ _ sessionID directory true =>
    ∀ path, path ≠ sessionPathForSessionID sessionID directory →
      service.pendingSessions path = none
  | _ => True

/-- **One step keeps every pending path scheduled exactly when it is not an
immediate save beside another pending path.** -/
theorem noLostSave_step_iff {service : SessionService F S} (h : NoLostSave service)
    (event : Event F S) : NoLostSave ((machine F S).step service event) ↔ SavesAlone service event := by
  cases event with
  | saveSession sessionForSaving factory sessionID directory immediately =>
    cases immediately with
    | true =>
      -- everything is cancelled, and only this path leaves the map
      constructor
      · intro hnext path hne
        have hpath := hnext path
        by_contra hpending
        have hsome : (service.pendingSessions path).isSome := Option.isSome_iff_ne_none.2 hpending
        refine absurd (hpath ?_) (List.not_mem_nil)
        show (if path = _ then none else if path = _ then some factory
          else service.pendingSessions path).isSome
        rw [if_neg hne, if_neg hne]
        exact hsome
      · intro halone path hsome
        exfalso
        change (if path = _ then none else if path = _ then some factory
          else service.pendingSessions path).isSome at hsome
        by_cases hpath : path = sessionPathForSessionID sessionID directory
        · rw [if_pos hpath] at hsome
          exact absurd hsome (by simp)
        · rw [if_neg hpath, if_neg hpath, halone path hpath] at hsome
          exact absurd hsome (by simp)
    | false =>
      refine iff_of_true ?_ trivial
      have hstep : (machine F S).step service
          (.saveSession sessionForSaving factory sessionID directory false) =
          { pendingSessions := fun path =>
              if path = sessionPathForSessionID sessionID directory then some factory
              else service.pendingSessions path
            performRequests :=
              if (service.pendingSessions (sessionPathForSessionID sessionID directory)).isSome then
                service.performRequests
              else service.performRequests ++ [sessionPathForSessionID sessionID directory]
            history := service.history ++
              [.request (sessionPathForSessionID sessionID directory) factory] } := by
        show service.saveSession sessionForSaving factory sessionID directory false = _
        cases hp : (service.pendingSessions (sessionPathForSessionID sessionID directory)).isSome
        · simp [saveSession, hp]
        · simp [saveSession, hp]
      rw [hstep]
      intro path hsome
      by_cases hpath : path = sessionPathForSessionID sessionID directory
      · rw [hpath]
        show _ ∈ if _ then _ else _
        split
        next hpending => exact h _ hpending
        next => simp
      · change (if path = _ then some factory else service.pendingSessions path).isSome at hsome
        rw [if_neg hpath] at hsome
        show _ ∈ if _ then _ else _
        split
        next => exact h path hsome
        next => exact List.mem_append_left _ (h path hsome)
  | timerFired sessionForSaving sessionPath =>
    refine iff_of_true ?_ trivial
    intro path hsome
    change (if path = sessionPath then none else service.pendingSessions path).isSome at hsome
    by_cases hpath : path = sessionPath
    · rw [if_pos hpath] at hsome
      exact absurd hsome (by simp)
    · rw [if_neg hpath] at hsome
      exact (List.mem_erase_of_ne hpath).2 (h path hsome)

theorem init_ledger : LedgerInv ({} : SessionService F S) where
  pending := rfl
  faithful pre _ _ _ _ h := absurd h (by simp)

/-- When no pending path is unscheduled and no timer is left, everything that
was requested was served. -/
theorem settled_of_noLostSave {service : SessionService F S} (hledger : LedgerInv service)
    (h : NoLostSave service) (hfired : service.performRequests = []) (path : FilePath) :
    Settled service.history path := by
  refine Lib.settled_of_owed_none hledger.faithful ?_
  rw [← hledger.pending]
  by_contra hpending
  have hmem := h path (Option.isSome_iff_ne_none.2 hpending)
  rw [hfired] at hmem
  exact absurd hmem List.not_mem_nil

/-- The timers that are left can fire in any order, and then none is left. -/
theorem timers_fire (timers : List (FilePath × (F → Option S))) :
    ∀ service : SessionService F S, (timers.map (·.1)).Perm service.performRequests →
      (machine F S).Run service (timers.map fun timer => .timerFired timer.2 timer.1) ∧
      ((machine F S).exec service
        (timers.map fun timer => .timerFired timer.2 timer.1)).performRequests = [] := by
  induction timers with
  | nil =>
    intro service hperm
    exact ⟨trivial, (List.nil_perm.1 hperm)⟩
  | cons timer timers ih =>
    intro service hperm
    have hmem : timer.1 ∈ service.performRequests := hperm.mem_iff.1 (by simp)
    have hperm' : (timers.map (·.1)).Perm (service.performRequests.erase timer.1) := by
      have := hperm.erase timer.1
      rwa [List.map_cons, List.erase_cons_head] at this
    obtain ⟨hrun, hdone⟩ := ih ((machine F S).step service (.timerFired timer.2 timer.1)) hperm'
    exact ⟨⟨hmem, hrun⟩, hdone⟩

/-- Timers alone lose nothing. -/
theorem timers_savesAlone (timers : List (FilePath × (F → Option S))) :
    ∀ service : SessionService F S, (machine F S).Always SavesAlone service
      (timers.map fun timer => .timerFired timer.2 timer.1) := by
  induction timers with
  | nil => intro _; trivial
  | cons timer timers ih => intro service; exact ⟨trivial, ih _⟩

/-- **No save is lost in a run exactly when each immediate save of the run finds
no other path pending**; and after such a run, once the timers have fired in
any order, each request was followed by a later one for its path, or served by
a perform with its factory. -/
theorem noLostSave_exact {service : SessionService F S} (hs : (machine F S).init service)
    {events : List (Event F S)} (hr : (machine F S).Run service events) :
    ((machine F S).Always (fun service event => NoLostSave ((machine F S).step service event))
        service events ↔
      (machine F S).Always SavesAlone service events) ∧
    ((machine F S).Always SavesAlone service events →
      ∀ timers : List (FilePath × (F → Option S)),
        (timers.map (·.1)).Perm ((machine F S).exec service events).performRequests →
        let fired := timers.map fun timer => Event.timerFired timer.2 timer.1
        (machine F S).Run service (events ++ fired) ∧
        ∀ path, Settled ((machine F S).exec service (events ++ fired)).history path) := by
  have hinit : LedgerInv service ∧ NoLostSave service := by
    rw [show service = {} from hs]
    exact ⟨init_ledger, fun _ h => absurd h (by simp)⟩
  refine ⟨Lib.Machine.always_iff_of_invariant
    (I := fun service => LedgerInv service ∧ NoLostSave service)
    (fun service event h _ => noLostSave_step_iff h.2 event)
    (fun service event h _ hnext => ⟨step_ledger service event h.1, hnext⟩) hinit hr, ?_⟩
  intro halone timers hperm fired
  obtain ⟨hfire, hdone⟩ := timers_fire timers _ hperm
  have hall : (machine F S).Run service (events ++ fired) :=
    (Lib.Machine.always_append _ _ _ _).2 ⟨hr, hfire⟩
  have halone' : (machine F S).Always SavesAlone service (events ++ fired) :=
    (Lib.Machine.always_append _ _ _ _).2 ⟨halone, timers_savesAlone timers _⟩
  have hend := Lib.Machine.Guarded.invariant (I := fun service => LedgerInv service ∧ NoLostSave service)
    (P := SavesAlone) (fun service event h _ hevent =>
      ⟨step_ledger service event h.1, (noLostSave_step_iff h.2 event).2 hevent⟩) hinit hall halone'
  refine ⟨hall, fun path => settled_of_noLostSave hend.1 hend.2 ?_ path⟩
  rw [Lib.Machine.exec_append]
  exact hdone

/-- A delayed save of one window, fired, then an immediate save of another. -/
theorem noLostSave_exact_fired :
    let session : Nat → Option Nat := some
    let service : SessionService Nat Nat := {}
    let events := [Event.saveSession session 1 "A" ["root"] false,
      .timerFired session ["root", "Sessions", "A", "session.plist"],
      .saveSession session 2 "B" ["root"] true]
    ((machine Nat Nat).Always
        (fun service event => NoLostSave ((machine Nat Nat).step service event)) service events ↔
      (machine Nat Nat).Always SavesAlone service events) ∧
    ((machine Nat Nat).Always SavesAlone service events →
      ∀ timers : List (FilePath × (Nat → Option Nat)),
        (timers.map (·.1)).Perm ((machine Nat Nat).exec service events).performRequests →
        let fired := timers.map fun timer => Event.timerFired timer.2 timer.1
        (machine Nat Nat).Run service (events ++ fired) ∧
        ∀ path, Settled ((machine Nat Nat).exec service (events ++ fired)).history path) :=
  noLostSave_exact rfl (by decide)

/-- Window A asks for a delayed save, window B is saved immediately, then A asks
again: no timer is left, A is still in the map, and A was never saved. -/
theorem immediateSave_losesOther :
    ¬ ∀ events : List (Event Nat Nat), (machine Nat Nat).Run {} events →
      NoLostSave ((machine Nat Nat).exec {} events) ∧
      (((machine Nat Nat).exec {} events).performRequests = [] →
        ∀ path, Settled ((machine Nat Nat).exec {} events).history path) := by
  intro h
  obtain ⟨hlost, hsettled⟩ := h [.saveSession some 1 "A" ["root"] false,
    .saveSession some 2 "B" ["root"] true, .saveSession some 1 "A" ["root"] false] (by decide)
  rcases hsettled rfl ["root", "Sessions", "A", "session.plist"]
    [.request ["root", "Sessions", "A", "session.plist"] 1,
      .request ["root", "Sessions", "B", "session.plist"] 2,
      .answer ["root", "Sessions", "B", "session.plist"] (some 2) (some 2)] 1 [] rfl with
    ⟨_, hlater⟩ | ⟨_, hserved⟩
  · exact absurd hlater List.not_mem_nil
  · exact absurd hserved List.not_mem_nil

end SessionService

end IosChrome.Sessions

import Mathlib.Order.Lattice

/-!
# The Omaha service

`OmahaService` pings the update server every few hours and, when a ping fails,
again after a back-off. What it needs to go on is written to the user defaults, and
`StartInternal` reads it back when the application starts again. A one-off check
(`CheckNow`) borrows the ping that is in flight, or sends one beside the timer of
the next.

Times are in microseconds, and one call reads the clock once. How long
`net::BackoffEntry` waits depends on the number of tries and on a random jitter, so
`getBackOff` is a parameter. The contents of the messages are left out, but for what
they do to the state.
-/

namespace IosChrome.Omaha

/-! ## Settings, responses and events -/

/-- `base::Time`. -/
abbrev Time := Int

def second : Time := 1000000

/-- `base::TimeDelta::FromHours`. -/
def fromHours (hours : Int) : Time := hours * 3600 * second

def kHoursBetweenRequests : Int := 5

/-- What does not change while the application runs. `J` is the jitter. -/
structure OmahaConfig (V J : Type) where
  currentVersion : V
  /-- The server URL of the provider is valid. -/
  urlIsValid : Bool
  schedule : Bool
  getBackOff : Nat → J → Time

structure UpgradeRecommendedDetails where
  isUpToDate : Bool
  nextVersion : String
  upgradeUrl : String
  deriving DecidableEq

inductive ServerResponse where
  | networkFailure
  /-- The response is no XML, or `ResponseParser` finds it incorrect. -/
  | malformed
  /-- A response with an `updatecheck` has details, an acknowledged install event has
  none. -/
  | correct (serverDate : Int) (details : Option UpgradeRecommendedDetails)
  deriving DecidableEq

inductive OmahaEvent where
  | checked (callback : Nat)
  | sent (time nextTriesTime : Time)
  /-- A ping takes the place of one in flight. -/
  | replaced
  | responded (response : ServerResponse)
  | ranOneOff (callback : Nat) (details : UpgradeRecommendedDetails)
  | ranUpgradeRecommended (details : UpgradeRecommendedDetails)
  deriving DecidableEq

/-! ## The service -/

/-- What `PersistStates` writes. -/
structure PersistedStates (V : Type) where
  nextTriesTime : Time
  currentPingTime : Time
  numberOfTries : Nat
  lastSentVersion : V
  lastSentTime : Time
  lastServerDate : Int
  deriving DecidableEq

/-- The members of `OmahaService`: `urlLoader` tells whether a ping is in flight,
`timer` when the next is due, and `oneOffCheckCallback` numbers the callback. `defaults`
are the user defaults. -/
structure OmahaService (V : Type) extends PersistedStates V where
  urlLoader : Bool
  timer : Option Time
  sendingInstallEvent : Bool
  scheduledPingCanceled : Bool
  oneOffCheckCallback : Option Nat
  defaults : PersistedStates V
  deriving DecidableEq

/-- The service and what has happened: `starting` tells that the call `Start` posts has
not run, `scheduled` that `SendOrScheduleNextPing` has been called, and `checks` how
often `CheckNow` has been. -/
structure OmahaRun (V : Type) extends OmahaService V where
  starting : Bool
  scheduled : Bool
  checks : Nat
  log : List OmahaEvent
  deriving DecidableEq

variable {V J : Type} [LinearOrder V]

namespace OmahaRun

def persistStates (s : OmahaRun V) : OmahaRun V :=
  { s with defaults := s.toPersistedStates }

def sendPing (config : OmahaConfig V J) (now : Time) (jitter : J) (s : OmahaRun V) :
    OmahaRun V :=
  -- a scheduled ping that comes during a one-off check is dropped
  if s.urlLoader && s.oneOffCheckCallback.isSome then { s with scheduledPingCanceled := true }
  else if config.urlIsValid then
    let tries : Nat := if s.numberOfTries < 30 then s.numberOfTries + 1 else s.numberOfTries
    let next : Time := now + config.getBackOff tries jitter
    let tried : OmahaRun V :=
      persistStates { s with numberOfTries := tries, nextTriesTime := next }
    { tried with
      urlLoader := true,
      sendingInstallEvent := decide (s.lastSentVersion < config.currentVersion),
      log := s.log ++ (if s.urlLoader then [.replaced] else []) ++ [.sent now next] }
  else s

def sendOrScheduleNextPing (config : OmahaConfig V J) (now : Time) (jitter : J)
    (s : OmahaRun V) : OmahaRun V :=
  let called : OmahaRun V := { s with scheduled := true }
  if s.nextTriesTime ≤ now then sendPing config now jitter called
  else if config.schedule then { called with timer := some s.nextTriesTime }
  else called

/-- The call that `Start` posts. -/
def runStartCall (config : OmahaConfig V J) (now : Time) (jitter : J) (s : OmahaRun V) :
    OmahaRun V :=
  sendOrScheduleNextPing config now jitter { s with starting := false }

def timerFires (config : OmahaConfig V J) (now : Time) (jitter : J) (s : OmahaRun V) :
    OmahaRun V :=
  sendPing config now jitter { s with timer := none }

def checkNow (config : OmahaConfig V J) (now : Time) (jitter : J) (s : OmahaRun V) :
    OmahaRun V :=
  let asked : OmahaRun V :=
    { s with
      oneOffCheckCallback := some s.checks,
      checks := s.checks + 1,
      log := s.log ++ [.checked s.checks] }
  if s.urlLoader then { asked with scheduledPingCanceled := true }
  else sendPing config now jitter asked

/-- A correct response: the time of the next ping, and what the server has to know of
this one. -/
def handleSuccess (config : OmahaConfig V J) (now : Time) (serverDate : Int)
    (s : OmahaRun V) : OmahaRun V :=
  let next : Time :=
    if s.sendingInstallEvent then now else now + fromHours kHoursBetweenRequests
  persistStates
    { s with
      numberOfTries := 0,
      nextTriesTime := next,
      currentPingTime := next,
      lastSentTime := now,
      lastSentVersion := config.currentVersion,
      sendingInstallEvent := false,
      lastServerDate := serverDate }

/-- The details are for the one-off check, if there is one, and only a scheduled ping
that it canceled is scheduled again. -/
def handleDetails (config : OmahaConfig V J) (now : Time) (jitter : J)
    (details : UpgradeRecommendedDetails) (s : OmahaRun V) : OmahaRun V :=
  match s.oneOffCheckCallback with
  | some callback =>
    let ran : OmahaRun V :=
      { s with
        oneOffCheckCallback := none,
        scheduledPingCanceled := false,
        log := s.log ++ [.ranOneOff callback details] }
    if s.scheduledPingCanceled then sendOrScheduleNextPing config now jitter ran else ran
  | none =>
    let told : OmahaRun V :=
      { s with
        log := s.log ++ if details.isUpToDate then [] else [.ranUpgradeRecommended details] }
    sendOrScheduleNextPing config now jitter told

def onURLLoadComplete (config : OmahaConfig V J) (now : Time) (jitter : J)
    (response : ServerResponse) (s : OmahaRun V) : OmahaRun V :=
  let loaded : OmahaRun V :=
    { s with urlLoader := false, log := s.log ++ [.responded response] }
  match response with
  | .networkFailure => sendOrScheduleNextPing config now jitter loaded
  | .malformed => sendOrScheduleNextPing config now jitter loaded
  | .correct serverDate none =>
    sendOrScheduleNextPing config now jitter (handleSuccess config now serverDate loaded)
  | .correct serverDate (some details) =>
    handleDetails config now jitter details (handleSuccess config now serverDate loaded)

variable {config : OmahaConfig V J} {s : OmahaRun V}

theorem handleDetails_none (h : s.oneOffCheckCallback = none) (now : Time) (jitter : J)
    (details : UpgradeRecommendedDetails) : s.handleDetails config now jitter details =
      sendOrScheduleNextPing config now jitter { s with
        log := s.log ++
          if details.isUpToDate then [] else [.ranUpgradeRecommended details] } := by
  unfold handleDetails
  simp only [h]

theorem handleDetails_canceled {callback : Nat} (h : s.oneOffCheckCallback = some callback)
    (hcanceled : s.scheduledPingCanceled = true) (now : Time) (jitter : J)
    (details : UpgradeRecommendedDetails) : s.handleDetails config now jitter details =
      sendOrScheduleNextPing config now jitter { s with
        oneOffCheckCallback := none,
        scheduledPingCanceled := false,
        log := s.log ++ [.ranOneOff callback details] } := by
  unfold handleDetails
  simp only [h]
  exact if_pos hcanceled

theorem handleDetails_kept {callback : Nat} (h : s.oneOffCheckCallback = some callback)
    (hcanceled : ¬ s.scheduledPingCanceled = true) (now : Time) (jitter : J)
    (details : UpgradeRecommendedDetails) : s.handleDetails config now jitter details =
      { s with
        oneOffCheckCallback := none,
        scheduledPingCanceled := false,
        log := s.log ++ [.ranOneOff callback details] } := by
  unfold handleDetails
  simp only [h]
  exact if_neg hcanceled

end OmahaRun

/-! ## The start of the application -/

namespace PersistedStates

/-- `last_sent_time_`, which is not in the future. -/
def sentTimeAt (states : PersistedStates V) (now : Time) : Time :=
  if states.lastSentTime > now then now else states.lastSentTime

/-- `next_tries_time_`, which is at most `kHoursBetweenRequests` away. -/
def triesTimeAt (states : PersistedStates V) (now : Time) : Time :=
  if states.nextTriesTime - now > fromHours kHoursBetweenRequests then
    states.sentTimeAt now + fromHours kHoursBetweenRequests
  else states.nextTriesTime

end PersistedStates

/-- `StartInternal` in a new process. The history goes on. -/
def OmahaRun.startInternal (config : OmahaConfig V J) (now : Time) (s : OmahaRun V) :
    OmahaRun V :=
  let read : PersistedStates V := s.defaults
  let serverDate : Int := if read.lastServerDate = 0 then -2 else read.lastServerDate
  let checked : PersistedStates V :=
    { read with
      lastSentTime := read.sentTimeAt now,
      nextTriesTime := read.triesTimeAt now,
      lastServerDate := serverDate }
  -- a new version is reported as early as possible
  let updated : PersistedStates V :=
    if read.lastSentVersion < config.currentVersion then
      { checked with nextTriesTime := now - second, numberOfTries := 0 }
    else checked
  let persistAgain : Bool :=
    read.lastSentTime > now || read.nextTriesTime - now > fromHours kHoursBetweenRequests ||
      read.lastSentVersion < config.currentVersion
  { toPersistedStates := updated,
    urlLoader := false, timer := none, sendingInstallEvent := false,
    scheduledPingCanceled := false, oneOffCheckCallback := none,
    defaults := if persistAgain then updated else read,
    starting := true, scheduled := false, checks := s.checks, log := s.log }

end IosChrome.Omaha

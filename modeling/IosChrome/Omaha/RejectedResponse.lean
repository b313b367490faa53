import Mathlib.Order.Nat
import IosChrome.Omaha.ResponseGrammar

/-!
# A response that is rejected

`OnURLLoadComplete` gives the body of a response to `ResponseParser` and goes on only
when that has found it correct. Here the service comes with the two user defaults the
service's own states leave out: whether the application is up to date, which the parser
writes while it reads, and the identifier an install event is sent again with.

`onURLLoadComplete_run` takes these away again. `rejected_kept` says what a rejected
response leaves: nothing but the next ping, which is sent at once where the time for it
has come.
-/

namespace IosChrome.Omaha

open ResponseParser

/-! ## The service and all it has written -/

/-- The body of a response. `parse` of an `NSXMLParser` tells the delegate of the
elements before an error, too. -/
inductive ResponseBody where
  /-- There is no body: the load has failed. -/
  | missing
  | xml (elements : List XmlElement) (wellFormed : Bool)
  deriving DecidableEq

/-- `retryRequestId` is the user default `kRetryRequestIdKey`, `upToDateKey` is
`kIOSChromeUpToDateKey`. -/
structure StoredRun (V R : Type) extends OmahaRun V where
  upToDateKey : Option Bool
  retryRequestId : Option R
  deriving DecidableEq

/-- The notifications of an upgrade, of either kind. -/
def notifications (log : List OmahaEvent) : List OmahaEvent :=
  log.filter fun
    | .ranOneOff _ _ => true
    | .ranUpgradeRecommended _ => true
    | .checked _ => false
    | .sent _ _ => false
    | .replaced => false
    | .responded _ => false

theorem notifications_append (log events : List OmahaEvent) :
    notifications (log ++ events) = notifications log ++ notifications events :=
  List.filter_append _ _

variable {V J R : Type} [LinearOrder V]

namespace StoredRun

omit [LinearOrder V] in
/-- An install event is sent again under the identifier it was first sent with. -/
def getNextPingRequestId (randomId : R) (s : StoredRun V R) : StoredRun V R :=
  match s.retryRequestId with
  | some _ => s
  | none =>
    if s.sendingInstallEvent then { s with retryRequestId := some randomId } else s

def sendPing (config : OmahaConfig V J) (now : Time) (jitter : J) (randomId : R)
    (s : StoredRun V R) : StoredRun V R :=
  let sent : StoredRun V R := { s with toOmahaRun := s.toOmahaRun.sendPing config now jitter }
  -- nothing is sent, and no identifier needed
  if s.urlLoader && s.oneOffCheckCallback.isSome then sent
  else if config.urlIsValid then sent.getNextPingRequestId randomId
  else sent

def sendOrScheduleNextPing (config : OmahaConfig V J) (now : Time) (jitter : J) (randomId : R)
    (s : StoredRun V R) : StoredRun V R :=
  if s.nextTriesTime ≤ now then
    sendPing config now jitter randomId { s with scheduled := true }
  else { s with toOmahaRun := s.toOmahaRun.sendOrScheduleNextPing config now jitter }

def handleSuccess (config : OmahaConfig V J) (now : Time) (serverDate : Int)
    (s : StoredRun V R) : StoredRun V R :=
  { s with
    toOmahaRun := s.toOmahaRun.handleSuccess config now serverDate,
    retryRequestId := none }

def handleDetails (config : OmahaConfig V J) (now : Time) (jitter : J) (randomId : R)
    (details : UpgradeRecommendedDetails) (s : StoredRun V R) : StoredRun V R :=
  match s.oneOffCheckCallback with
  | some callback =>
    let ran : StoredRun V R :=
      { s with
        oneOffCheckCallback := none,
        scheduledPingCanceled := false,
        log := s.log ++ [.ranOneOff callback details] }
    if s.scheduledPingCanceled then sendOrScheduleNextPing config now jitter randomId ran
    else ran
  | none =>
    let told : StoredRun V R :=
      { s with
        log := s.log ++ if details.isUpToDate then [] else [.ranUpgradeRecommended details] }
    sendOrScheduleNextPing config now jitter randomId told

omit [LinearOrder V] in
/-- The loader is reset. -/
def loaded (response : ServerResponse) (s : StoredRun V R) : StoredRun V R :=
  { s with urlLoader := false, log := s.log ++ [.responded response] }

/-- `none` where the parser reaches for details it does not have. -/
def onURLLoadComplete (env : ParserEnv) (config : OmahaConfig V J) (now : Time) (jitter : J)
    (randomId : R) (body : ResponseBody) (s : StoredRun V R) : Option (StoredRun V R) :=
  match body with
  | .missing =>
    some ((s.loaded .networkFailure).sendOrScheduleNextPing config now jitter randomId)
  | .xml elements wellFormed =>
    ((initWithAppId s.upToDateKey).parse env elements).map fun delegate =>
      let read : StoredRun V R := { s with upToDateKey := delegate.upToDateKey }
      if !wellFormed || !delegate.isCorrect then
        (read.loaded .malformed).sendOrScheduleNextPing config now jitter randomId
      else
        let details := delegate.upgradeRecommendedDetails
        let succeeded := (read.loaded (.correct delegate.serverDate details)).handleSuccess config
          now delegate.serverDate
        match details with
        | some details => succeeded.handleDetails config now jitter randomId details
        | none => succeeded.sendOrScheduleNextPing config now jitter randomId

/-! ## The service without the two -/

variable {config : OmahaConfig V J} {env : ParserEnv} {s t : StoredRun V R}

omit [LinearOrder V] in
@[simp] theorem getNextPingRequestId_run (randomId : R) (s : StoredRun V R) :
    (s.getNextPingRequestId randomId).toOmahaRun = s.toOmahaRun := by
  unfold getNextPingRequestId
  split
  · rfl
  · split <;> rfl

@[simp] theorem sendPing_run (now : Time) (jitter : J) (randomId : R) (s : StoredRun V R) :
    (s.sendPing config now jitter randomId).toOmahaRun =
      s.toOmahaRun.sendPing config now jitter := by
  unfold sendPing
  simp only
  split
  · rfl
  · split
    · exact getNextPingRequestId_run _ _
    · rfl

@[simp] theorem sendOrScheduleNextPing_run (now : Time) (jitter : J) (randomId : R)
    (s : StoredRun V R) :
    (s.sendOrScheduleNextPing config now jitter randomId).toOmahaRun =
      s.toOmahaRun.sendOrScheduleNextPing config now jitter := by
  unfold sendOrScheduleNextPing
  by_cases hdue : s.nextTriesTime ≤ now
  · rw [if_pos hdue, sendPing_run]
    unfold OmahaRun.sendOrScheduleNextPing
    exact (if_pos hdue).symm
  · rw [if_neg hdue]

@[simp] theorem handleDetails_run (now : Time) (jitter : J) (randomId : R)
    (details : UpgradeRecommendedDetails) (s : StoredRun V R) :
    (s.handleDetails config now jitter randomId details).toOmahaRun =
      s.toOmahaRun.handleDetails config now jitter details := by
  unfold handleDetails OmahaRun.handleDetails
  cases s.oneOffCheckCallback with
  | some callback =>
    simp only
    split
    · exact sendOrScheduleNextPing_run _ _ _ _
    · rfl
  | none => exact sendOrScheduleNextPing_run _ _ _ _

end StoredRun

/-! ## What the service makes of a body -/

/-- The response the service takes a body for. -/
def ResponseBody.serverResponse (env : ParserEnv) (key : Option Bool) :
    ResponseBody → Option ServerResponse
  | .missing => some .networkFailure
  | .xml elements wellFormed => ((initWithAppId key).parse env elements).map fun delegate =>
    if !wellFormed || !delegate.isCorrect then .malformed
    else .correct delegate.serverDate delegate.upgradeRecommendedDetails

namespace StoredRun

variable {config : OmahaConfig V J} {env : ParserEnv} {s t : StoredRun V R}

/-- The service with the two user defaults runs as the service does. -/
theorem onURLLoadComplete_run (now : Time) (jitter : J) (randomId : R) (body : ResponseBody)
    (s : StoredRun V R) :
    (s.onURLLoadComplete env config now jitter randomId body).map (·.toOmahaRun) =
      (body.serverResponse env s.upToDateKey).map fun response =>
        s.toOmahaRun.onURLLoadComplete config now jitter response := by
  cases body with
  | missing => exact congrArg some (sendOrScheduleNextPing_run _ _ _ _)
  | xml elements wellFormed =>
    unfold onURLLoadComplete ResponseBody.serverResponse
    simp only [Option.map_map]
    congr 1
    funext delegate
    simp only [Function.comp_apply]
    by_cases hrejected : (!wellFormed || !delegate.isCorrect) = true
    · rw [if_pos hrejected, if_pos hrejected]
      exact sendOrScheduleNextPing_run _ _ _ _
    · rw [if_neg hrejected, if_neg hrejected]
      cases delegate.upgradeRecommendedDetails with
      | none => exact sendOrScheduleNextPing_run _ _ _ _
      | some details => exact handleDetails_run _ _ _ _ _

end StoredRun

/-! ## What a rejection leaves -/

/-- The load failed, the body is no XML, or its elements are not the ones of a
response. -/
def ResponseBody.IsRejected (env : ParserEnv) (key : Option Bool) : ResponseBody → Prop
  | .missing => True
  | .xml elements wellFormed => wellFormed = false ∨
    ∃ delegate, (initWithAppId key).parse env elements = some delegate ∧
      delegate.isCorrect = false

/-- Nothing that is stored is changed, but by a ping that is due, which writes what
`SendPing` does, and nobody is notified. -/
structure KeptButForPing (config : OmahaConfig V J) (now : Time) (jitter : J) (randomId : R)
    (s t : StoredRun V R) : Prop where
  notDue : now < s.nextTriesTime ∨ config.urlIsValid = false →
    t.defaults = s.defaults ∧ t.retryRequestId = s.retryRequestId
  due : s.nextTriesTime ≤ now → config.urlIsValid = true →
    let tries : Nat := if s.numberOfTries < 30 then s.numberOfTries + 1 else s.numberOfTries
    t.defaults = { s.toPersistedStates with
      numberOfTries := tries, nextTriesTime := now + config.getBackOff tries jitter } ∧
    t.retryRequestId =
      if s.retryRequestId = none ∧ s.lastSentVersion < config.currentVersion then some randomId
      else s.retryRequestId
  notified : notifications t.log = notifications s.log
  waiting : t.oneOffCheckCallback = s.oneOffCheckCallback

namespace StoredRun

variable {config : OmahaConfig V J} {env : ParserEnv} {s t : StoredRun V R}

omit [LinearOrder V] in
theorem getNextPingRequestId_retryRequestId (randomId : R) (s : StoredRun V R) :
    (s.getNextPingRequestId randomId).retryRequestId =
      if s.retryRequestId = none ∧ s.sendingInstallEvent = true then some randomId
      else s.retryRequestId := by
  unfold getNextPingRequestId
  cases hstored : s.retryRequestId with
  | some stored =>
    simp only [reduceCtorEq, false_and, if_false]
    exact hstored
  | none =>
    by_cases hinstall : s.sendingInstallEvent = true
    · simp only [hinstall, and_self, if_true]
    · simp only [hinstall]
      exact hstored

/-- With a valid URL and no other ping in flight, the ping is sent. -/
theorem sendPing_sent (hfree : s.urlLoader = false) (hvalid : config.urlIsValid = true)
    (now : Time) (jitter : J) (randomId : R) :
    s.sendPing config now jitter randomId =
      StoredRun.getNextPingRequestId randomId
        { s with toOmahaRun := s.toOmahaRun.sendPing config now jitter } := by
  unfold sendPing
  simp only [hfree, Bool.false_and, Bool.false_eq_true, if_false, hvalid, if_true]

theorem sendPing_invalid (hvalid : config.urlIsValid = false) (now : Time) (jitter : J)
    (randomId : R) : s.sendPing config now jitter randomId =
      { s with toOmahaRun := s.toOmahaRun.sendPing config now jitter } := by
  unfold sendPing
  simp only [hvalid, Bool.false_eq_true, if_false, ite_self]

end StoredRun

namespace OmahaRun

variable {config : OmahaConfig V J} {s : OmahaRun V}

theorem sendPing_invalid (hfree : s.urlLoader = false) (hvalid : config.urlIsValid = false)
    (now : Time) (jitter : J) : s.sendPing config now jitter = s := by
  unfold sendPing
  simp only [hfree, hvalid, Bool.false_and, Bool.false_eq_true, if_false]

theorem sendPing_sent (hfree : s.urlLoader = false) (hvalid : config.urlIsValid = true)
    (now : Time) (jitter : J) :
    let tries : Nat := if s.numberOfTries < 30 then s.numberOfTries + 1 else s.numberOfTries
    (s.sendPing config now jitter).defaults = { s.toPersistedStates with
      numberOfTries := tries, nextTriesTime := now + config.getBackOff tries jitter } ∧
    (s.sendPing config now jitter).sendingInstallEvent =
      decide (s.lastSentVersion < config.currentVersion) := by
  unfold sendPing
  simp only [hfree, Bool.false_and, Bool.false_eq_true, if_false, hvalid, if_true]
  exact ⟨rfl, trivial⟩

/-- What is sent and what is replaced is no notification. -/
theorem notifications_sendPing (now : Time) (jitter : J) (s : OmahaRun V) :
    notifications (s.sendPing config now jitter).log = notifications s.log := by
  unfold sendPing
  split
  · rfl
  · split
    · simp only
      rw [notifications_append, notifications_append]
      split <;> simp [notifications]
    · rfl

theorem oneOffCheckCallback_sendPing (now : Time) (jitter : J) (s : OmahaRun V) :
    (s.sendPing config now jitter).oneOffCheckCallback = s.oneOffCheckCallback := by
  unfold sendPing
  split
  · rfl
  · split <;> rfl

end OmahaRun

namespace StoredRun

variable {config : OmahaConfig V J} {env : ParserEnv} {s t : StoredRun V R}

theorem sendPing_kept (hfree : s.urlLoader = false) {now : Time}
    (hdue : s.nextTriesTime ≤ now) (jitter : J) (randomId : R) :
    KeptButForPing config now jitter randomId s (s.sendPing config now jitter randomId) := by
  refine ⟨?_, fun _ hvalid => ?_, ?_, ?_⟩
  · rintro (hearly | hvalid)
    · exact absurd hdue (Int.not_le.mpr hearly)
    · rw [sendPing_invalid hvalid]
      exact ⟨by rw [OmahaRun.sendPing_invalid hfree hvalid], rfl⟩
  · -- the ping is sent under the identifier that is stored, or under a new one
    have hsent := OmahaRun.sendPing_sent hfree hvalid now jitter
    rw [sendPing_sent hfree hvalid, getNextPingRequestId_retryRequestId]
    refine ⟨?_, ?_⟩
    · rw [getNextPingRequestId_run]
      exact hsent.1
    · simp only [hsent.2, decide_eq_true_eq]
  · rw [sendPing_run]
    exact OmahaRun.notifications_sendPing _ _ _
  · rw [sendPing_run]
    exact OmahaRun.oneOffCheckCallback_sendPing _ _ _

/-- Where no ping is in flight, the next ping leaves what a rejection may. -/
theorem sendOrScheduleNextPing_kept (hfree : s.urlLoader = false) (now : Time) (jitter : J)
    (randomId : R) : KeptButForPing config now jitter randomId s
      (s.sendOrScheduleNextPing config now jitter randomId) := by
  unfold sendOrScheduleNextPing
  by_cases hdue : s.nextTriesTime ≤ now
  · rw [if_pos hdue]
    have hcalled := @sendPing_kept _ _ _ _ config
      { s with scheduled := true } hfree now hdue jitter randomId
    exact ⟨hcalled.notDue, hcalled.due, hcalled.notified, hcalled.waiting⟩
  · rw [if_neg hdue]
    have hsame : ∀ {u : OmahaRun V}, u.defaults = s.defaults → u.log = s.log →
        u.oneOffCheckCallback = s.oneOffCheckCallback →
        KeptButForPing config now jitter randomId s { s with toOmahaRun := u } :=
      fun hdefaults hlog hwaiting => ⟨fun _ => ⟨hdefaults, rfl⟩, fun h => absurd h hdue,
        by rw [hlog], hwaiting⟩
    unfold OmahaRun.sendOrScheduleNextPing
    rw [if_neg hdue]
    -- the timer is started, if there is one
    by_cases hschedule : config.schedule = true
    · rw [if_pos hschedule]
      exact hsame rfl rfl rfl
    · rw [if_neg hschedule]
      exact hsame rfl rfl rfl

/-- The response that ends the load is no notification. -/
theorem loaded_kept {response : ServerResponse} {now : Time} {jitter : J} {randomId : R}
    (h : KeptButForPing config now jitter randomId (s.loaded response) t) :
    KeptButForPing config now jitter randomId s t := by
  refine { h with notified := h.notified.trans ?_ }
  unfold loaded
  rw [notifications_append]
  exact List.append_nil _

/-- **A response that is rejected** changes nothing that the service has stored and
notifies nobody, but for the next ping where that is due. -/
theorem rejected_kept {now : Time} {jitter : J} {randomId : R} {body : ResponseBody}
    (hrejected : body.IsRejected env s.upToDateKey)
    (hends : s.onURLLoadComplete env config now jitter randomId body = some t) :
    KeptButForPing config now jitter randomId s t := by
  cases body with
  | missing =>
    obtain rfl := Option.some.inj hends
    exact loaded_kept (sendOrScheduleNextPing_kept rfl now jitter randomId)
  | xml elements wellFormed =>
    obtain ⟨delegate, hparse, hends⟩ := Option.map_eq_some_iff.mp hends
    have hfails : (!wellFormed || !delegate.isCorrect) = true := by
      obtain hwrong | ⟨other, hother, hincorrect⟩ := hrejected
      · rw [hwrong]
        rfl
      · obtain rfl := Option.some.inj (hparse.symm.trans hother)
        rw [hincorrect, Bool.not_false, Bool.or_true]
    simp only at hends
    rw [if_pos hfails] at hends
    subst hends
    have hread : KeptButForPing config now jitter randomId
        { s with upToDateKey := delegate.upToDateKey } _ :=
      @loaded_kept _ _ _ _ _ _ _ .malformed _ _ _
        (sendOrScheduleNextPing_kept rfl now jitter randomId)
    exact ⟨hread.notDue, hread.due, hread.notified, hread.waiting⟩

/-! ## A response that comes late -/

private def anHourApart : OmahaConfig Nat Unit where
  currentVersion := 91
  urlIsValid := true
  schedule := true
  getBackOff := fun _ _ => fromHours 1

/-- The ping of a new installation, in flight since hour 0: it may be sent again after
an hour. -/
private def installSent : StoredRun Nat Nat :=
  let states : PersistedStates Nat :=
    { nextTriesTime := 0, currentPingTime := 0, numberOfTries := 0, lastSentVersion := 90,
      lastSentTime := 0, lastServerDate := 4088 }
  let started : OmahaRun Nat := OmahaRun.startInternal anHourApart 0
    { toPersistedStates := states, urlLoader := false, timer := none,
      sendingInstallEvent := false, scheduledPingCanceled := false,
      oneOffCheckCallback := none, defaults := states, starting := true, scheduled := false,
      checks := 0, log := [] }
  StoredRun.sendOrScheduleNextPing anHourApart 0 () 7
    { toOmahaRun := { started with starting := false }, upToDateKey := none,
      retryRequestId := none }

private def anyParserEnv : ParserEnv where
  appId := "app"
  isValidUrl := fun _ => true

/-- A response that goes wrong at its last element. -/
private def pingRefused : ResponseBody :=
  .xml [⟨"response", [("protocol", "3.0"), ("server", "prod")]⟩,
    ⟨"daystart", [("elapsed_days", "4089")]⟩, ⟨"app", [("status", "ok"), ("appid", "app")]⟩,
    ⟨"updatecheck", [("status", "noupdate")]⟩, ⟨"ping", [("status", "error")]⟩] true

/-- It comes within the hour, and what is stored stays. -/
theorem rejected_kept_early :
    ∃ t, installSent.onURLLoadComplete anyParserEnv anHourApart (fromHours 1 - second) () 8
        pingRefused = some t ∧
      t.defaults = installSent.defaults ∧ t.retryRequestId = some 7 := by
  obtain ⟨t, ht⟩ := Option.isSome_iff_exists.1 (by decide +kernel :
    (installSent.onURLLoadComplete anyParserEnv anHourApart (fromHours 1 - second) () 8
      pingRefused).isSome = true)
  have hrejected : pingRefused.IsRejected anyParserEnv installSent.upToDateKey :=
    .inr ⟨_, rfl, by decide +kernel⟩
  have hkept := rejected_kept hrejected ht
  obtain ⟨hdefaults, hid⟩ := hkept.notDue (.inl (by decide +kernel))
  exact ⟨t, ht, hdefaults, hid.trans (by decide +kernel)⟩

/-- **The load fails after two hours**: the next ping is due, and is counted as the
second try. -/
theorem lateRejection_pings :
    ResponseBody.missing.IsRejected anyParserEnv installSent.upToDateKey ∧
    ∃ t, installSent.onURLLoadComplete anyParserEnv anHourApart (fromHours 2) () 8 .missing =
        some t ∧
      installSent.defaults.numberOfTries = 1 ∧ t.defaults.numberOfTries = 2 ∧
      t.defaults ≠ installSent.defaults :=
  ⟨trivial, _, rfl, by decide +kernel, by decide +kernel, by decide +kernel⟩

end StoredRun

end IosChrome.Omaha

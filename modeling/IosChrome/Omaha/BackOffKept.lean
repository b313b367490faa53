import Mathlib.Algebra.Group.Int.Defs
import Mathlib.Order.Nat
import IosChrome.Lib.EventLog
import IosChrome.Lib.Machine
import IosChrome.Omaha.OmahaService

/-!
# No ping before its time

`SendPing` computes when the next ping may be sent at the earliest, in case this one
fails, and writes it down before anything is sent. While the process runs, the time
is kept: the timer is started for it (`KeepsBackOff`). A process that starts reads
it back, and takes one that is more than `kHoursBetweenRequests` away for the work
of a clock that was changed. The longest back-off is an hour more than that, so after
four failures in a row a restart can send the next ping at once
(`restartedEarly_pings`).

`backOff_kept` says that nothing else does: in a run each of whose restarts leaves
the time where it is, or moves it to one that is not before the back-off computed
for the last failure, no ping is sent before it.
-/

namespace IosChrome.Omaha

open IosChrome.Lib

/-! ## The runs of an application -/

variable {V J : Type} [LinearOrder V]

/-- The service of the process that runs, and the clock. -/
structure AppRun (V : Type) where
  service : OmahaRun V
  clock : Time
  deriving DecidableEq

inductive AppCall (J : Type) where
  /-- The process ends, and the next one calls `StartInternal`. -/
  | restart (now : Time)
  /-- The call that `Start` posts. -/
  | start (now : Time) (jitter : J)
  | timerFires (now : Time) (jitter : J)
  | response (response : ServerResponse) (now : Time) (jitter : J)
  deriving DecidableEq

namespace AppCall

def now : AppCall J → Time
  | .restart now => now
  | .start now _ => now
  | .timerFires now _ => now
  | .response _ now _ => now

end AppCall

namespace AppRun

def step (config : OmahaConfig V J) (s : AppRun V) (call : AppCall J) : AppRun V :=
  { clock := call.now,
    service :=
      match call with
      | .restart now => s.service.startInternal config now
      | .start now jitter => s.service.runStartCall config now jitter
      | .timerFires now jitter => s.service.timerFires config now jitter
      | .response response now jitter => s.service.onURLLoadComplete config now jitter response }

omit [LinearOrder V] in
/-- The clock does not go backwards, and a timer does not fire early. -/
def Pre (s : AppRun V) (call : AppCall J) : Prop :=
  s.clock ≤ call.now ∧
  match call with
  | .restart _ => True
  | .start _ _ => s.service.starting = true
  | .timerFires now _ => s.service.timer.any (fun due => decide (due ≤ now)) = true
  | .response _ _ _ => s.service.urlLoader = true

instance (s : AppRun V) (call : AppCall J) : Decidable (s.Pre call) := by
  unfold Pre
  cases call <;> infer_instance

end AppRun

/-- The runs of an application, from the first `StartInternal` on. -/
def appMachine (config : OmahaConfig V J) : Machine (AppRun V) (AppCall J) :=
  { init := fun s => ∃ s₀ now, s₀.log = [] ∧ s = ⟨OmahaRun.startInternal config now s₀, now⟩,
    pre := AppRun.Pre, step := AppRun.step config }

instance (config : OmahaConfig V J) (s : AppRun V) (call : AppCall J) :
    Decidable ((appMachine config).pre s call) :=
  inferInstanceAs (Decidable (s.Pre call))

/-! ## What is owed to a failed ping -/

def backOffStep (owed : Option Time) : OmahaEvent → Option Time
  | .sent _ nextTriesTime => some nextTriesTime
  | .responded (.correct _ _) => none
  | .responded .networkFailure => owed
  | .responded .malformed => owed
  | .checked _ => owed
  | .replaced => owed
  | .ranOneOff _ _ => owed
  | .ranUpgradeRecommended _ => owed

/-- The `next_tries_time_` computed for the last ping, unless that has succeeded. -/
def backOffOf (log : List OmahaEvent) : Option Time := log.foldl backOffStep none

theorem backOffOf_concat (log : List OmahaEvent) (event : OmahaEvent) :
    backOffOf (log ++ [event]) = backOffStep (backOffOf log) event := by
  unfold backOffOf
  rw [List.foldl_append]
  rfl

/-- No ping was sent before the time computed for the failed one before it. -/
def BackOffKept (log : List OmahaEvent) : Prop :=
  ∀ time nextTriesTime, WhenLogged log (.sent time nextTriesTime) fun before =>
    ∀ due, backOffOf before = some due → due ≤ time

/-- A restart after a failed ping does not move the next one before its time: neither
does the check of the clock, nor is there a version to report. -/
def RestartsInTime (config : OmahaConfig V J) (s : AppRun V) : AppCall J → Prop
  | .restart now => ∀ due, backOffOf s.service.log = some due →
    if s.service.defaults.lastSentVersion < config.currentVersion then due ≤ now - second
    else s.service.defaults.nextTriesTime - now > fromHours kHoursBetweenRequests →
      due ≤ s.service.defaults.sentTimeAt now + fromHours kHoursBetweenRequests
  | .start _ _ => True
  | .timerFires _ _ => True
  | .response _ _ _ => True

/-! ## The time is kept -/

structure KeepsBackOff (s : OmahaRun V) : Prop where
  kept : BackOffKept s.log
  next : ∀ due, backOffOf s.log = some due → due ≤ s.nextTriesTime
  written : s.defaults.nextTriesTime = s.nextTriesTime ∨ backOffOf s.log = none
  timer : ∀ due, s.timer = some due → due = s.nextTriesTime
  alone : s.urlLoader = true → s.timer = none
  starting : s.starting = true → s.urlLoader = false ∧ s.timer = none
  noCheck : s.oneOffCheckCallback = none

namespace KeepsBackOff

variable {config : OmahaConfig V J} {s : OmahaRun V}

/-- A ping is sent, once the time has come. -/
theorem sendPing (h : KeepsBackOff s) {now : Time} (hdue : ∀ due, backOffOf s.log = some due →
    due ≤ now) (hfree : s.urlLoader = false) (htimer : s.timer = none)
    (hstarted : s.starting = false) (jitter : J) : KeepsBackOff (s.sendPing config now jitter) := by
  unfold OmahaRun.sendPing
  rw [if_neg (by rw [hfree]; exact Bool.false_ne_true)]
  by_cases hvalid : config.urlIsValid = true
  · rw [if_pos hvalid]
    simp only [hfree, Bool.false_eq_true, if_false, List.append_nil]
    refine ⟨fun time next => ?_, fun due howed => ?_, Or.inl rfl, fun due hsome => ?_,
      fun _ => htimer, fun hstarting => ?_, h.noCheck⟩
    · by_cases hnow : now = time
      · exact (h.kept time next).concat (hnow ▸ hdue)
      · exact (h.kept time next).concat_of_ne fun hsame => hnow (OmahaEvent.sent.inj hsame).1
    · rw [backOffOf_concat] at howed
      exact Int.le_of_eq (Option.some.inj howed).symm
    · rw [htimer] at hsome
      exact nomatch hsome
    · rw [hstarted] at hstarting
      exact nomatch hstarting
  · rw [if_neg hvalid]
    exact h

theorem sendOrScheduleNextPing (h : KeepsBackOff s) (hfree : s.urlLoader = false)
    (htimer : s.timer = none) (hstarted : s.starting = false) (now : Time) (jitter : J) :
    KeepsBackOff (s.sendOrScheduleNextPing config now jitter) := by
  have hcalled : KeepsBackOff { s with scheduled := true } :=
    ⟨h.kept, h.next, h.written, h.timer, h.alone, h.starting, h.noCheck⟩
  unfold OmahaRun.sendOrScheduleNextPing
  by_cases hdue : s.nextTriesTime ≤ now
  · rw [if_pos hdue]
    exact hcalled.sendPing (fun due howed => Int.le_trans (h.next due howed) hdue) hfree htimer
      hstarted jitter
  · rw [if_neg hdue]
    by_cases hschedule : config.schedule = true
    · rw [if_pos hschedule]
      refine ⟨h.kept, h.next, h.written, fun due hsome => ?_, fun hloads => ?_,
        fun hstarting => ?_, h.noCheck⟩
      · exact (Option.some.inj hsome).symm
      · exact absurd (hfree.symm.trans hloads) Bool.false_ne_true
      · exact absurd (hstarted.symm.trans hstarting) Bool.false_ne_true
    · rw [if_neg hschedule]
      exact hcalled

theorem runStartCall (h : KeepsBackOff s) (hstarting : s.starting = true) (now : Time)
    (jitter : J) : KeepsBackOff (s.runStartCall config now jitter) := by
  obtain ⟨hfree, htimer⟩ := h.starting hstarting
  have hcalled : KeepsBackOff { s with starting := false } :=
    ⟨h.kept, h.next, h.written, h.timer, h.alone, fun hnever => (nomatch hnever), h.noCheck⟩
  exact hcalled.sendOrScheduleNextPing hfree htimer rfl now jitter

theorem timerFires (h : KeepsBackOff s) {now : Time}
    (hfires : s.timer.any (fun due => decide (due ≤ now)) = true) (jitter : J) :
    KeepsBackOff (s.timerFires config now jitter) := by
  cases hsome : s.timer with
  | none =>
    rw [hsome] at hfires
    exact nomatch hfires
  | some due =>
    have hnow : due ≤ now := by
      rw [hsome] at hfires
      exact of_decide_eq_true hfires
    have hnext : due = s.nextTriesTime := h.timer due hsome
    -- neither a ping is in flight nor is the first call still to come
    have hfree : s.urlLoader = false := by
      cases hloads : s.urlLoader with
      | false => rfl
      | true => exact nomatch hsome.symm.trans (h.alone hloads)
    have hstarted : s.starting = false := by
      cases hstarting : s.starting with
      | false => rfl
      | true => exact nomatch hsome.symm.trans (h.starting hstarting).2
    have hfired : KeepsBackOff { s with timer := none } :=
      ⟨h.kept, h.next, h.written, fun _ hnone => (nomatch hnone), fun _ => rfl,
        fun hstarting => ⟨(h.starting hstarting).1, rfl⟩, h.noCheck⟩
    refine hfired.sendPing (fun owed howed => ?_) hfree rfl hstarted jitter
    exact Int.le_trans (h.next owed howed) (hnext ▸ hnow)

omit [LinearOrder V] in
/-- A response that is not correct leaves what is owed. -/
theorem respond (h : KeepsBackOff s) (response : ServerResponse)
    (hkeeps : backOffStep (backOffOf s.log) (.responded response) = backOffOf s.log) :
    KeepsBackOff { s with urlLoader := false, log := s.log ++ [.responded response] } := by
  have howed : backOffOf (s.log ++ [.responded response]) = backOffOf s.log :=
    (backOffOf_concat _ _).trans hkeeps
  refine ⟨fun time next => (h.kept time next).concat_of_ne fun hsame => (nomatch hsame),
    fun due hdue => h.next due (howed.symm.trans hdue), ?_, h.timer,
    fun hloads => (nomatch hloads), fun hstarting => ⟨rfl, (h.starting hstarting).2⟩, h.noCheck⟩
  exact h.written.imp id howed.trans

omit [LinearOrder V] in
/-- After a correct response nothing is owed. -/
theorem handleSuccess (h : KeepsBackOff s) (config : OmahaConfig V J) (htimer : s.timer = none) (now : Time)
    (serverDate : Int) (details : Option UpgradeRecommendedDetails) :
    KeepsBackOff (OmahaRun.handleSuccess config now serverDate
      { s with urlLoader := false, log := s.log ++ [.responded (.correct serverDate details)] }) := by
  have hnone : backOffOf (s.log ++ [.responded (.correct serverDate details)]) = none :=
    backOffOf_concat _ _
  refine ⟨fun time next => (h.kept time next).concat_of_ne fun hsame => (nomatch hsame),
    fun due hdue => ?_, Or.inr hnone, fun due hsome => ?_, fun hloads => (nomatch hloads),
    fun hstarting => ⟨rfl, (h.starting hstarting).2⟩, h.noCheck⟩
  · exact nomatch hnone.symm.trans hdue
  · exact nomatch htimer.symm.trans hsome

omit [LinearOrder V] in
/-- Nor does it matter whether an update is recommended. -/
theorem tell (h : KeepsBackOff s) (details : UpgradeRecommendedDetails) :
    KeepsBackOff { s with
      log := s.log ++ if details.isUpToDate then [] else [.ranUpgradeRecommended details] } := by
  cases details.isUpToDate with
  | true =>
    rw [if_pos rfl, List.append_nil]
    exact h
  | false =>
    rw [if_neg Bool.false_ne_true]
    have howed : backOffOf (s.log ++ [.ranUpgradeRecommended details]) = backOffOf s.log :=
      backOffOf_concat _ _
    exact ⟨fun time next => (h.kept time next).concat_of_ne fun hsame => (nomatch hsame),
      fun due hdue => h.next due (howed.symm.trans hdue), h.written.imp id howed.trans, h.timer,
      h.alone, h.starting, h.noCheck⟩

theorem onURLLoadComplete (h : KeepsBackOff s) (hloads : s.urlLoader = true) (now : Time)
    (jitter : J) (response : ServerResponse) :
    KeepsBackOff (s.onURLLoadComplete config now jitter response) := by
  have htimer : s.timer = none := h.alone hloads
  have hstarted : s.starting = false := by
    cases hstarting : s.starting with
    | false => rfl
    | true => exact absurd ((h.starting hstarting).1.symm.trans hloads) Bool.false_ne_true
  cases response with
  | networkFailure =>
    exact (h.respond .networkFailure rfl).sendOrScheduleNextPing rfl htimer hstarted now jitter
  | malformed =>
    exact (h.respond .malformed rfl).sendOrScheduleNextPing rfl htimer hstarted now jitter
  | correct serverDate answer =>
    have hsuccess := h.handleSuccess config htimer now serverDate answer
    cases answer with
    | none => exact hsuccess.sendOrScheduleNextPing rfl htimer hstarted now jitter
    | some details =>
      show KeepsBackOff (OmahaRun.handleDetails config now jitter details _)
      rw [OmahaRun.handleDetails_none hsuccess.noCheck]
      exact (hsuccess.tell _).sendOrScheduleNextPing rfl htimer hstarted now jitter

/-- The next process goes on with a time that is not before the one owed. -/
theorem startInternal (h : KeepsBackOff s) {now : Time}
    (hintime : ∀ due, backOffOf s.log = some due →
      if s.defaults.lastSentVersion < config.currentVersion then due ≤ now - second
      else s.defaults.nextTriesTime - now > fromHours kHoursBetweenRequests →
        due ≤ s.defaults.sentTimeAt now + fromHours kHoursBetweenRequests) :
    KeepsBackOff (s.startInternal config now) := by
  have hnext : ∀ due, backOffOf s.log = some due →
      due ≤ (s.startInternal config now).nextTriesTime := by
    intro due howed
    have hcondition := hintime due howed
    have hwritten : s.defaults.nextTriesTime = s.nextTriesTime := by
      rcases h.written with hsame | hnone
      · exact hsame
      · exact nomatch hnone.symm.trans howed
    have hbefore : due ≤ s.defaults.nextTriesTime := hwritten ▸ h.next due howed
    unfold OmahaRun.startInternal
    by_cases hversion : s.defaults.lastSentVersion < config.currentVersion
    · rw [if_pos hversion] at hcondition
      simp only [if_pos hversion]
      exact hcondition
    · rw [if_neg hversion] at hcondition
      simp only [if_neg hversion]
      unfold PersistedStates.triesTimeAt
      by_cases hfar : s.defaults.nextTriesTime - now > fromHours kHoursBetweenRequests
      · rw [if_pos hfar]
        exact hcondition hfar
      · rw [if_neg hfar]
        exact hbefore
  refine ⟨h.kept, hnext, Or.inl ?_, fun _ hnone => (nomatch hnone), fun hloads => (nomatch hloads),
    fun _ => ⟨rfl, rfl⟩, rfl⟩
  -- what is not written again was read as it is
  unfold OmahaRun.startInternal
  by_cases hpersist : (decide (s.defaults.lastSentTime > now) ||
      decide (s.defaults.nextTriesTime - now > fromHours kHoursBetweenRequests) ||
      decide (s.defaults.lastSentVersion < config.currentVersion)) = true
  · simp only [if_pos hpersist]
  · simp only [if_neg hpersist]
    obtain ⟨hboth, hversion⟩ := Bool.or_eq_false_iff.1 (Bool.eq_false_iff.2 hpersist)
    obtain ⟨-, hfar⟩ := Bool.or_eq_false_iff.1 hboth
    rw [if_neg (of_decide_eq_false hversion)]
    exact (if_neg (of_decide_eq_false hfar)).symm

end KeepsBackOff

theorem keepsBackOff_step {config : OmahaConfig V J} {s : AppRun V} (h : KeepsBackOff s.service)
    {call : AppCall J} (hpre : s.Pre call) (hintime : RestartsInTime config s call) :
    KeepsBackOff (s.step config call).service := by
  cases call with
  | restart now => exact h.startInternal hintime
  | start now jitter => exact h.runStartCall hpre.2 now jitter
  | timerFires now jitter => exact h.timerFires hpre.2 jitter
  | response response now jitter => exact h.onURLLoadComplete hpre.2 now jitter response

/-- **In a run whose restarts come in time, no ping is sent before the time computed
for the failed one before it**, however many have failed. -/
theorem backOff_kept {config : OmahaConfig V J} {s : AppRun V} (hinit : (appMachine config).init s)
    {calls : List (AppCall J)} (hrun : (appMachine config).Run s calls)
    (hintime : (appMachine config).Always (RestartsInTime config) s calls) :
    BackOffKept ((appMachine config).exec s calls).service.log := by
  refine (Machine.Guarded.invariant (I := fun s => KeepsBackOff s.service)
    (fun s call h hpre hcall => keepsBackOff_step h hpre hcall) ?_ hrun hintime).kept
  obtain ⟨s₀, now, hlog, rfl⟩ := hinit
  have hstart : (OmahaRun.startInternal config now s₀).log = [] := hlog
  refine ⟨fun time next => ?_, fun due howed => ?_, Or.inr ?_, fun _ hnone => (nomatch hnone),
    fun hloads => (nomatch hloads), fun _ => ⟨rfl, rfl⟩, rfl⟩
  · exact WhenLogged.of_notMem (hstart ▸ List.not_mem_nil)
  · rw [hstart] at howed
    exact nomatch howed
  · rw [hstart]
    rfl

/-! ## Two runs -/

/-- The back-off without jitter: an hour, doubled with each further failure, and six
hours at most. -/
private def doubling : OmahaConfig Nat Unit :=
  { currentVersion := 91, urlIsValid := true, schedule := true,
    getBackOff := fun tries _ => min (fromHours (2 ^ (tries - 1))) (fromHours 6) }

/-- The last successful ping was sent five hours ago. -/
private def pingedFiveHoursAgo : AppRun Nat :=
  let states : PersistedStates Nat :=
    { nextTriesTime := fromHours 5, currentPingTime := fromHours 5, numberOfTries := 0,
      lastSentVersion := 91, lastSentTime := 0, lastServerDate := 4088 }
  { clock := fromHours 5,
    service := OmahaRun.startInternal doubling (fromHours 5)
      { toPersistedStates := states, urlLoader := false, timer := none,
        sendingInstallEvent := false, scheduledPingCanceled := false,
        oneOffCheckCallback := none, defaults := states, starting := true, scheduled := false,
        checks := 0, log := [] } }

/-- Four pings that fail, the last after twelve hours: the next may be sent after
eighteen. -/
private def fourFailures : List (AppCall Unit) :=
  [.start (fromHours 5) (), .response .networkFailure (fromHours 5) (),
    .timerFires (fromHours 6) (), .response .networkFailure (fromHours 6) (),
    .timerFires (fromHours 8) (), .response .networkFailure (fromHours 8) (),
    .timerFires (fromHours 12) (), .response .networkFailure (fromHours 12) ()]

/-- A restart two hours later leaves the time as it is. -/
theorem backOff_kept_restart :
    let calls : List (AppCall Unit) := fourFailures ++
      [.restart (fromHours 14), .start (fromHours 14) (), .timerFires (fromHours 18) ()]
    let s := (appMachine doubling).exec pingedFiveHoursAgo calls
    s.service.urlLoader = true ∧ BackOffKept s.service.log := by
  intro calls s
  refine ⟨by decide +kernel, backOff_kept ⟨_, _, rfl, rfl⟩ (by decide +kernel) ?_⟩
  refine ⟨trivial, trivial, trivial, trivial, trivial, trivial, trivial, trivial, ?_, trivial,
    trivial, trivial⟩
  intro due howed
  obtain rfl : fromHours 18 = due := Option.some.inj howed
  decide +kernel

/-- **A restart right after the fourth failure**: the time that is six hours away is
given up, and the next ping is sent at once. -/
theorem restartedEarly_pings :
    let calls : List (AppCall Unit) := fourFailures ++
      [.restart (fromHours 12 + second), .start (fromHours 12 + second) ()]
    let s := (appMachine doubling).exec pingedFiveHoursAgo calls
    (appMachine doubling).init pingedFiveHoursAgo ∧
    (appMachine doubling).Run pingedFiveHoursAgo calls ∧ ¬ BackOffKept s.service.log := by
  intro calls s
  refine ⟨⟨_, _, rfl, rfl⟩, by decide +kernel, fun hkept => ?_⟩
  have hlast : s.service.log = ((appMachine doubling).exec pingedFiveHoursAgo
      fourFailures).service.log ++
        .sent (fromHours 12 + second) (fromHours 18 + second) :: [] := by
    decide +kernel
  have hle : fromHours 18 ≤ fromHours 12 + second :=
    hkept _ _ _ _ hlast (fromHours 18) (by decide +kernel)
  exact absurd hle (by decide)

end IosChrome.Omaha

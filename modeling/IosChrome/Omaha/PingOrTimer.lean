import Mathlib.Data.List.Count
import Mathlib.Order.Nat
import IosChrome.Lib.EventLog
import IosChrome.Lib.Machine
import IosChrome.Omaha.OmahaService

/-!
# A ping in flight, or a timer for the next

Whether the service goes on depends on six flags (`Control`), which move by
themselves whatever the times and the contents of the responses are
(`control_step`). In every state between two calls a ping is in flight with a timer
running only for a one-off check, and a scheduled ping that was canceled leaves no
timer beside a ping in flight (`Control.Inv`). So a ping never takes the place of
another, and every response that does not end a one-off check schedules the next
ping.

A response that does end one leaves the schedule to the timer or to the canceled
ping. When a failed check has been kept for the next scheduled ping, there is
neither: `ping_or_timer_iff` says that this is all that stops the service, and
`keptCheck_stops` is a run in which it does.
-/

namespace IosChrome.Omaha

open IosChrome.Lib

/-! ## The calls -/

inductive OmahaCall (J : Type) where
  /-- The call that `Start` posts. -/
  | start (now : Time) (jitter : J)
  | timerFires (now : Time) (jitter : J)
  | checkNow (now : Time) (jitter : J)
  | response (response : ServerResponse) (now : Time) (jitter : J)
  deriving DecidableEq

variable {V J : Type} [LinearOrder V]

namespace OmahaRun

def step (config : OmahaConfig V J) (s : OmahaRun V) : OmahaCall J → OmahaRun V
  | .start now jitter => s.runStartCall config now jitter
  | .timerFires now jitter => s.timerFires config now jitter
  | .checkNow now jitter => s.checkNow config now jitter
  | .response response now jitter => s.onURLLoadComplete config now jitter response

omit [LinearOrder V] in
/-- A timer that runs fires, a ping in flight is answered, and one check is made at a
time. -/
def Pre (s : OmahaRun V) : OmahaCall J → Prop
  | .start _ _ => s.starting = true
  | .timerFires _ _ => s.timer.isSome = true
  | .checkNow _ _ => s.oneOffCheckCallback = none
  | .response _ _ _ => s.urlLoader = true

instance (s : OmahaRun V) (call : OmahaCall J) : Decidable (s.Pre call) := by
  unfold Pre
  cases call <;> infer_instance

end OmahaRun

/-- The runs of one process, from what `StartInternal` finds. -/
def omahaMachine (config : OmahaConfig V J) : Machine (OmahaRun V) (OmahaCall J) :=
  { init := fun s =>
      ∃ s₀ now, s₀.log = [] ∧ s₀.checks = 0 ∧ s = OmahaRun.startInternal config now s₀,
    pre := OmahaRun.Pre, step := OmahaRun.step config }

instance (config : OmahaConfig V J) (s : OmahaRun V) (call : OmahaCall J) :
    Decidable ((omahaMachine config).pre s call) :=
  inferInstanceAs (Decidable (s.Pre call))

/-! ## The promise -/

def OmahaEvent.isRunOf (callback : Nat) : OmahaEvent → Bool
  | .ranOneOff other _ => other = callback
  | .checked _ => false
  | .sent _ _ => false
  | .replaced => false
  | .responded _ => false
  | .ranUpgradeRecommended _ => false

/-- The details came with a response after the check. -/
def AnsweredSince (callback : Nat) (details : UpgradeRecommendedDetails)
    (log : List OmahaEvent) : Prop :=
  ∃ before since serverDate, log = before ++ .checked callback :: since ∧
    .responded (.correct serverDate (some details)) ∈ since

namespace OmahaRun

structure Promise (s : OmahaRun V) : Prop where
  pingOrTimer : s.scheduled = true → s.urlLoader = true ∨ s.timer.isSome = true
  onePing : .replaced ∉ s.log
  once : ∀ callback, s.log.countP (OmahaEvent.isRunOf callback) ≤ 1
  answered : ∀ callback details,
    WhenLogged s.log (.ranOneOff callback details) (AnsweredSince callback details)

/-- Details that end a one-off check come while the timer runs, or after a scheduled
ping was canceled. -/
def KeepsSchedule (s : OmahaRun V) : OmahaCall J → Prop
  | .response (.correct _ (some _)) _ _ => s.scheduled = true →
    s.oneOffCheckCallback.isSome = true → s.timer.isSome = true ∨ s.scheduledPingCanceled = true
  | .response (.correct _ none) _ _ => True
  | .response .networkFailure _ _ => True
  | .response .malformed _ _ => True
  | .start _ _ => True
  | .timerFires _ _ => True
  | .checkNow _ _ => True

end OmahaRun

/-! ## The flags -/

/-- What decides whether a ping is sent or scheduled. -/
structure Control where
  urlLoader : Bool
  timer : Bool
  oneOff : Bool
  canceled : Bool
  starting : Bool
  scheduled : Bool

inductive ControlCall where
  | start
  | timerFires
  | checkNow
  | response (details : Bool)

namespace Control

def sendPing (c : Control) : Control :=
  if c.urlLoader && c.oneOff then { c with canceled := true } else { c with urlLoader := true }

/-- `due` tells whether the time of the next ping has come. -/
def sendOrScheduleNextPing (due : Bool) (c : Control) : Control :=
  if due then sendPing { c with scheduled := true } else { c with scheduled := true, timer := true }

def step (due : Bool) (c : Control) : ControlCall → Control
  | .start => sendOrScheduleNextPing due { c with starting := false }
  | .timerFires => sendPing { c with timer := false }
  | .checkNow =>
    if c.urlLoader then { c with oneOff := true, canceled := true }
    else sendPing { c with oneOff := true }
  | .response details =>
    if details && c.oneOff then
      if c.canceled then
        sendOrScheduleNextPing due { c with urlLoader := false, oneOff := false, canceled := false }
      else { c with urlLoader := false, oneOff := false, canceled := false }
    else sendOrScheduleNextPing due { c with urlLoader := false }

def pre (c : Control) : ControlCall → Bool
  | .start => c.starting
  | .timerFires => c.timer
  | .checkNow => !c.oneOff
  | .response _ => c.urlLoader

def pingOrTimer (c : Control) : Bool := !c.scheduled || c.urlLoader || c.timer

def keepsSchedule (c : Control) : ControlCall → Bool
  | .response true => !c.scheduled || !c.oneOff || c.timer || c.canceled
  | .response false => true
  | .start => true
  | .timerFires => true
  | .checkNow => true

/-- What holds of the flags between two calls. -/
structure Inv (c : Control) : Prop where
  beside : c.urlLoader = true → c.timer = true → c.oneOff = true
  canceled : c.canceled = true → c.oneOff = true
  canceledTimer : c.canceled = true → c.urlLoader = true → c.timer = false
  /-- Before the first call of `SendOrScheduleNextPing`, only a check sends pings. -/
  starting : c.starting = true → (c.urlLoader = true → c.oneOff = true ∧ c.timer = false) ∧
    (c.timer = true → c.oneOff = true) ∧ c.canceled = false

theorem inv_iff (c : Control) : c.Inv ↔
    (c.urlLoader = true → c.timer = true → c.oneOff = true) ∧
    (c.canceled = true → c.oneOff = true) ∧
    (c.canceled = true → c.urlLoader = true → c.timer = false) ∧
    (c.starting = true → (c.urlLoader = true → c.oneOff = true ∧ c.timer = false) ∧
      (c.timer = true → c.oneOff = true) ∧ c.canceled = false) :=
  ⟨fun h => ⟨h.beside, h.canceled, h.canceledTimer, h.starting⟩,
    fun h => ⟨h.1, h.2.1, h.2.2.1, h.2.2.2⟩⟩

instance (c : Control) : Decidable c.Inv := decidable_of_iff' _ c.inv_iff

/-- A call keeps what holds of the flags; there is a ping or a timer after it if it keeps the
schedule. -/
theorem inv_step {c : Control} (h : c.Inv) (due : Bool) {call : ControlCall}
    (hpre : c.pre call = true) : (c.step due call).Inv ∧
      (c.pingOrTimer = true → (c.step due call).pingOrTimer = c.keepsSchedule call) := by
  obtain ⟨urlLoader, timer, oneOff, canceled, starting, scheduled⟩ := c
  revert h hpre
  cases call with
  | start => revert due urlLoader timer oneOff canceled starting scheduled; decide
  | timerFires => revert due urlLoader timer oneOff canceled starting scheduled; decide
  | checkNow => revert due urlLoader timer oneOff canceled starting scheduled; decide
  | response details =>
    revert details due urlLoader timer oneOff canceled starting scheduled; decide

end Control

def OmahaCall.control : OmahaCall J → ControlCall
  | .start _ _ => .start
  | .timerFires _ _ => .timerFires
  | .checkNow _ _ => .checkNow
  | .response (.correct _ (some _)) _ _ => .response true
  | .response (.correct _ none) _ _ => .response false
  | .response .networkFailure _ _ => .response false
  | .response .malformed _ _ => .response false

namespace OmahaRun

def control (s : OmahaRun V) : Control :=
  { urlLoader := s.urlLoader,
    timer := s.timer.isSome,
    oneOff := s.oneOffCheckCallback.isSome,
    canceled := s.scheduledPingCanceled,
    starting := s.starting,
    scheduled := s.scheduled }

variable {config : OmahaConfig V J} {s : OmahaRun V}

/-- The state in which the details of a correct response are handled. -/
def succeeded (config : OmahaConfig V J) (now : Time) (response : ServerResponse)
    (serverDate : Int) (s : OmahaRun V) : OmahaRun V :=
  handleSuccess config now serverDate
    { s with urlLoader := false, log := s.log ++ [.responded response] }

/-! ## The flags move by themselves -/

theorem control_sendPing (hvalid : config.urlIsValid = true) (now : Time) (jitter : J)
    (s : OmahaRun V) : (s.sendPing config now jitter).control = s.control.sendPing := by
  unfold sendPing Control.sendPing
  by_cases hdropped : (s.urlLoader && s.oneOffCheckCallback.isSome) = true
  · have hdropped' : (s.control.urlLoader && s.control.oneOff) = true := hdropped
    rw [if_pos hdropped, if_pos hdropped']
    rfl
  · have hdropped' : ¬ (s.control.urlLoader && s.control.oneOff) = true := hdropped
    rw [if_neg hdropped, if_neg hdropped', if_pos hvalid]
    rfl

theorem control_sendOrScheduleNextPing (hvalid : config.urlIsValid = true)
    (hschedule : config.schedule = true) (now : Time) (jitter : J) (s : OmahaRun V) :
    ∃ due, (s.sendOrScheduleNextPing config now jitter).control =
      s.control.sendOrScheduleNextPing due := by
  unfold sendOrScheduleNextPing
  by_cases hdue : s.nextTriesTime ≤ now
  · refine ⟨true, ?_⟩
    rw [if_pos hdue, control_sendPing hvalid]
    rfl
  · refine ⟨false, ?_⟩
    rw [if_neg hdue, if_pos hschedule]
    rfl

/-- **Every call moves the flags as it moves those of `Control`.** -/
theorem control_step (hvalid : config.urlIsValid = true) (hschedule : config.schedule = true)
    (s : OmahaRun V) (call : OmahaCall J) :
    ∃ due, (s.step config call).control = s.control.step due call.control := by
  have hschedules := control_sendOrScheduleNextPing hvalid hschedule
  cases call with
  | start now jitter => exact hschedules now jitter { s with starting := false }
  | timerFires now jitter => exact ⟨true, control_sendPing hvalid now jitter _⟩
  | checkNow now jitter =>
    refine ⟨true, ?_⟩
    show (s.checkNow config now jitter).control = _
    unfold checkNow OmahaCall.control Control.step
    by_cases hloads : s.urlLoader = true
    · rw [if_pos hloads]
      exact (if_pos hloads).symm
    · rw [if_neg hloads, control_sendPing hvalid]
      exact (if_neg hloads).symm
  | response response now jitter =>
    cases response with
    | networkFailure => exact hschedules now jitter _
    | malformed => exact hschedules now jitter _
    | correct serverDate answer =>
      cases answer with
      | none => exact hschedules now jitter _
      | some details =>
        show ∃ due, (handleDetails config now jitter details
          (s.succeeded config now (.correct serverDate (some details)) serverDate)).control = _
        cases hcallback : s.oneOffCheckCallback with
        | none =>
          have hnone : ¬ (true && s.control.oneOff) = true := by
            show ¬ s.oneOffCheckCallback.isSome = true
            rw [hcallback]
            exact Bool.false_ne_true
          rw [handleDetails_none (s := s.succeeded config now _ serverDate) hcallback]
          obtain ⟨due, hdue⟩ := hschedules now jitter _
          exact ⟨due, hdue.trans (if_neg hnone).symm⟩
        | some callback =>
          have hsome : (true && s.control.oneOff) = true := by
            show s.oneOffCheckCallback.isSome = true
            rw [hcallback]
            rfl
          by_cases hcanceled : s.scheduledPingCanceled = true
          · rw [handleDetails_canceled (s := s.succeeded config now _ serverDate) hcallback hcanceled]
            obtain ⟨due, hdue⟩ := hschedules now jitter _
            refine ⟨due, hdue.trans ?_⟩
            show _ = if true && s.control.oneOff then _ else _
            rw [if_pos hsome]
            exact (if_pos hcanceled).symm
          · rw [handleDetails_kept (s := s.succeeded config now _ serverDate) hcallback hcanceled]
            refine ⟨true, ?_⟩
            show _ = if true && s.control.oneOff then _ else _
            rw [if_pos hsome]
            exact (if_neg hcanceled).symm

omit [LinearOrder V] in
theorem control_pre {call : OmahaCall J} (hpre : s.Pre call) :
    s.control.pre call.control = true := by
  cases call with
  | start now jitter => exact hpre
  | timerFires now jitter => exact hpre
  | checkNow now jitter =>
    have hnone : s.oneOffCheckCallback = none := hpre
    show (!s.oneOffCheckCallback.isSome) = true
    rw [hnone]
    rfl
  | response response now jitter =>
    have hloads : s.urlLoader = true := hpre
    cases response with
    | networkFailure => exact hloads
    | malformed => exact hloads
    | correct serverDate answer => cases answer <;> exact hloads

omit [LinearOrder V] in
theorem control_keepsSchedule {call : OmahaCall J} :
    s.control.keepsSchedule call.control = true ↔ s.KeepsSchedule call := by
  cases call with
  | start now jitter => exact iff_of_true rfl trivial
  | timerFires now jitter => exact iff_of_true rfl trivial
  | checkNow now jitter => exact iff_of_true rfl trivial
  | response response now jitter =>
    cases response with
    | networkFailure => exact iff_of_true rfl trivial
    | malformed => exact iff_of_true rfl trivial
    | correct serverDate answer =>
      cases answer with
      | none => exact iff_of_true rfl trivial
      | some details =>
        show (!s.scheduled || !s.oneOffCheckCallback.isSome || s.timer.isSome ||
          s.scheduledPingCanceled) = true ↔ (s.scheduled = true →
            s.oneOffCheckCallback.isSome = true →
              s.timer.isSome = true ∨ s.scheduledPingCanceled = true)
        cases s.scheduled <;> cases s.oneOffCheckCallback.isSome <;> simp

end OmahaRun

/-- What the history says of the checks. -/
structure Heard (log : List OmahaEvent) (waiting : Option Nat) (checks : Nat) : Prop where
  onePing : .replaced ∉ log
  once : ∀ callback, log.countP (OmahaEvent.isRunOf callback) ≤ 1
  answered : ∀ callback details,
    WhenLogged log (.ranOneOff callback details) (AnsweredSince callback details)
  waits : ∀ callback, waiting = some callback → callback < checks ∧ .checked callback ∈ log ∧
    log.countP (OmahaEvent.isRunOf callback) = 0
  early : ∀ callback ≥ checks, log.countP (OmahaEvent.isRunOf callback) = 0

namespace Heard

variable {log : List OmahaEvent} {waiting : Option Nat} {checks : Nat}

/-- An event that is neither a run of a one-off callback nor a replaced ping. -/
theorem concat (h : Heard log waiting checks) {event : OmahaEvent} (hping : event ≠ .replaced)
    (hran : ∀ callback, event.isRunOf callback = false) :
    Heard (log ++ [event]) waiting checks where
  onePing := by
    intro hmem
    rcases List.mem_append.1 hmem with hold | hlast
    · exact h.onePing hold
    · exact hping (List.mem_singleton.1 hlast).symm
  once := by
    intro callback
    rw [List.countP_append, List.countP_singleton, hran callback]
    exact h.once callback
  answered := by
    intro callback details
    refine (h.answered callback details).concat_of_ne fun hsame => ?_
    have hrun := hran callback
    rw [hsame] at hrun
    exact absurd (decide_eq_true rfl) (Bool.eq_false_iff.1 hrun)
  waits := by
    intro callback hwaiting
    obtain ⟨hlt, hchecked, hnone⟩ := h.waits callback hwaiting
    refine ⟨hlt, List.mem_append_left _ hchecked, ?_⟩
    rw [List.countP_append, List.countP_singleton, hran callback, hnone]
    rfl
  early := by
    intro callback hge
    rw [List.countP_append, List.countP_singleton, hran callback, h.early callback hge]
    rfl

theorem check (h : Heard log none checks) :
    Heard (log ++ [.checked checks]) (some checks) (checks + 1) := by
  have hlogged : Heard (log ++ [.checked checks]) none checks :=
    h.concat (fun hsame => nomatch hsame) (fun _ => rfl)
  obtain ⟨honePing, honce, hanswered, -, hearly⟩ := hlogged
  refine ⟨honePing, honce, hanswered, fun callback hwaiting => ?_, fun callback hge => ?_⟩
  · obtain rfl : checks = callback := Option.some.inj hwaiting
    exact ⟨Nat.lt_succ_self _, List.mem_append_right _ (List.mem_singleton_self _),
      hearly checks (Nat.le_refl _)⟩
  · exact hearly callback (by omega)

/-- The callback that waits is run with the details of the response just received. -/
theorem run {callback : Nat} (h : Heard log (some callback) checks) (serverDate : Int)
    (details : UpgradeRecommendedDetails) :
    Heard (log ++ [.responded (.correct serverDate (some details))] ++
      [.ranOneOff callback details]) none checks := by
  obtain ⟨hlt, hchecked, -⟩ := h.waits callback rfl
  have hlogged : Heard (log ++ [.responded (.correct serverDate (some details))])
      (some callback) checks := h.concat (fun hsame => nomatch hsame) (fun _ => rfl)
  obtain ⟨honePing, honce, hanswered, hwaits, hearly⟩ := hlogged
  refine ⟨fun hmem => ?_, fun other => ?_, fun other other' => ?_, fun _ hnone => (nomatch hnone),
    fun other hge => ?_⟩
  · rcases List.mem_append.1 hmem with hold | hlast
    · exact honePing hold
    · exact nomatch List.mem_singleton.1 hlast
  · rw [List.countP_append, List.countP_singleton]
    by_cases hsame : callback = other
    · have hnone := (hwaits callback rfl).2.2
      rw [← hsame, hnone]
      split_ifs <;> omega
    · have hother : OmahaEvent.isRunOf other (.ranOneOff callback details) = false :=
        decide_eq_false hsame
      rw [hother]
      exact honce other
  · by_cases hsame : callback = other ∧ details = other'
    · rw [← hsame.1, ← hsame.2]
      refine (hanswered callback details).concat ?_
      obtain ⟨before, since, hlog⟩ := List.append_of_mem hchecked
      refine ⟨before, since ++ [.responded (.correct serverDate (some details))], serverDate, ?_,
        List.mem_append_right _ (List.mem_singleton_self _)⟩
      rw [hlog, List.append_assoc]
      rfl
    · refine (hanswered other other').concat_of_ne fun heq => hsame ?_
      exact OmahaEvent.ranOneOff.inj heq
  · have hother : OmahaEvent.isRunOf other (.ranOneOff callback details) = false :=
      decide_eq_false (by omega)
    rw [List.countP_append, List.countP_singleton, hother, hearly other hge]
    rfl

end Heard

namespace OmahaRun

variable {config : OmahaConfig V J} {s : OmahaRun V}

def heard (s : OmahaRun V) : Prop := Heard s.log s.oneOffCheckCallback s.checks

/-- A ping is not sent while another is in flight, unless that was a check. -/
theorem heard_sendPing (h : s.heard) (hfree : s.urlLoader = true → s.oneOffCheckCallback.isSome = true)
    (now : Time) (jitter : J) : (s.sendPing config now jitter).heard := by
  unfold sendPing
  by_cases hdropped : (s.urlLoader && s.oneOffCheckCallback.isSome) = true
  · rw [if_pos hdropped]
    exact h
  · rw [if_neg hdropped]
    by_cases hvalid : config.urlIsValid = true
    · rw [if_pos hvalid]
      have hloads : s.urlLoader = false := by
        cases hloads : s.urlLoader with
        | false => rfl
        | true => exact absurd (by rw [hloads, hfree hloads]; rfl) hdropped
      show Heard (s.log ++ (if s.urlLoader = true then _ else _) ++ [_]) _ _
      rw [hloads, if_neg Bool.false_ne_true, List.append_nil]
      exact Heard.concat h (fun hsame => nomatch hsame) (fun _ => rfl)
    · rw [if_neg hvalid]
      exact h

theorem heard_sendOrScheduleNextPing (h : s.heard)
    (hfree : s.urlLoader = true → s.oneOffCheckCallback.isSome = true)
    (now : Time) (jitter : J) : (s.sendOrScheduleNextPing config now jitter).heard := by
  unfold sendOrScheduleNextPing
  by_cases hdue : s.nextTriesTime ≤ now
  · rw [if_pos hdue]
    exact heard_sendPing (s := { s with scheduled := true }) h hfree now jitter
  · rw [if_neg hdue]
    split_ifs <;> exact h

theorem heard_step (h : s.heard) (hcontrol : s.control.Inv) {call : OmahaCall J}
    (hpre : s.Pre call) : (s.step config call).heard := by
  cases call with
  | start now jitter =>
    have hstarting : s.starting = true := hpre
    exact heard_sendOrScheduleNextPing (s := { s with starting := false }) h
      (fun hloads => ((hcontrol.starting hstarting).1 hloads).1) now jitter
  | timerFires now jitter =>
    exact heard_sendPing (s := { s with timer := none }) h
      (fun hloads => hcontrol.beside hloads hpre) now jitter
  | checkNow now jitter =>
    have hnone : s.oneOffCheckCallback = none := hpre
    have hasked : Heard (s.log ++ [.checked s.checks]) (some s.checks) (s.checks + 1) :=
      Heard.check (hnone ▸ h)
    show (s.checkNow config now jitter).heard
    unfold checkNow
    by_cases hloads : s.urlLoader = true
    · rw [if_pos hloads]
      exact hasked
    · rw [if_neg hloads]
      exact heard_sendPing (s := { s with
        oneOffCheckCallback := some s.checks, checks := s.checks + 1,
        log := s.log ++ [.checked s.checks] }) hasked (fun _ => rfl) now jitter
  | response response now jitter =>
    have hloaded : Heard (s.log ++ [.responded response]) s.oneOffCheckCallback s.checks :=
      Heard.concat h (fun hsame => nomatch hsame) (fun _ => rfl)
    have hfree : ∀ t : OmahaRun V, t.urlLoader = false →
        t.urlLoader = true → t.oneOffCheckCallback.isSome = true := by
      intro t hfalse htrue
      rw [hfalse] at htrue
      exact nomatch htrue
    cases response with
    | networkFailure =>
      exact heard_sendOrScheduleNextPing (s := { s with
        urlLoader := false, log := s.log ++ [.responded .networkFailure] })
        hloaded (hfree _ rfl) now jitter
    | malformed =>
      exact heard_sendOrScheduleNextPing (s := { s with
        urlLoader := false, log := s.log ++ [.responded .malformed] })
        hloaded (hfree _ rfl) now jitter
    | correct serverDate answer =>
      cases answer with
      | none =>
        refine heard_sendOrScheduleNextPing ?_ (hfree _ rfl) now jitter
        exact hloaded
      | some details =>
        show (handleDetails config now jitter details
          (s.succeeded config now (.correct serverDate (some details)) serverDate)).heard
        cases hcallback : s.oneOffCheckCallback with
        | none =>
          rw [handleDetails_none (s := s.succeeded config now _ serverDate) hcallback]
          refine heard_sendOrScheduleNextPing ?_ (hfree _ rfl) now jitter
          show Heard (s.log ++ [_] ++ if details.isUpToDate = true then [] else _)
            s.oneOffCheckCallback s.checks
          by_cases hcurrent : details.isUpToDate = true
          · rw [if_pos hcurrent, List.append_nil]
            exact hloaded
          · rw [if_neg hcurrent]
            exact hloaded.concat (fun hsame => nomatch hsame) (fun _ => rfl)
        | some callback =>
          have hwaiting : Heard s.log (some callback) s.checks := by
            rw [← hcallback]
            exact h
          have hran := hwaiting.run serverDate details
          by_cases hcanceled : s.scheduledPingCanceled = true
          · rw [handleDetails_canceled (s := s.succeeded config now _ serverDate) hcallback hcanceled]
            refine heard_sendOrScheduleNextPing ?_ (hfree _ rfl) now jitter
            exact hran
          · rw [handleDetails_kept (s := s.succeeded config now _ serverDate) hcallback hcanceled]
            exact hran

theorem control_startInternal (config : OmahaConfig V J) (now : Time) (s : OmahaRun V) :
    (s.startInternal config now).control.Inv := by
  refine ⟨fun hloads => ?_, fun hcanceled => ?_, fun hcanceled => ?_, fun _ => ?_⟩
  · exact nomatch hloads
  · exact nomatch hcanceled
  · exact nomatch hcanceled
  · exact ⟨fun hloads => (nomatch hloads), fun htimer => (nomatch htimer), rfl⟩

omit [LinearOrder V] in
theorem pingOrTimer_iff : s.control.pingOrTimer = true ↔
    (s.scheduled = true → s.urlLoader = true ∨ s.timer.isSome = true) := by
  show (!s.scheduled || s.urlLoader || s.timer.isSome) = true ↔ _
  cases s.scheduled <;> simp

omit [LinearOrder V] in
theorem promise_iff (h : s.heard) : s.Promise ↔ s.control.pingOrTimer = true := by
  rw [pingOrTimer_iff]
  exact ⟨fun hpromise => hpromise.pingOrTimer,
    fun hping => ⟨hping, h.onePing, h.once, h.answered⟩⟩

/-- **Along every run a ping is in flight or a timer runs, no ping replaces another
and every callback is run at most once, with an answer to its check, exactly when**
the details that end a one-off check come while the timer runs or after a scheduled
ping was canceled. -/
theorem ping_or_timer_iff (hvalid : config.urlIsValid = true) (hschedule : config.schedule = true)
    (hinit : (omahaMachine config).init s) {calls : List (OmahaCall J)}
    (hrun : (omahaMachine config).Run s calls) :
    (omahaMachine config).Always (fun s call => (s.step config call).Promise) s calls ↔
      (omahaMachine config).Always KeepsSchedule s calls := by
  refine Machine.always_iff_of_invariant
    (I := fun s => s.heard ∧ s.control.Inv ∧ s.control.pingOrTimer = true) ?_ ?_ ?_ hrun
  · rintro s call ⟨hheard, hcontrol, hping⟩ hpre
    obtain ⟨due, hstep⟩ := control_step hvalid hschedule s call
    rw [promise_iff (heard_step hheard hcontrol hpre), hstep,
      (Control.inv_step hcontrol due (control_pre hpre)).2 hping, control_keepsSchedule]
  · rintro s call ⟨hheard, hcontrol, -⟩ hpre hpromise
    obtain ⟨due, hstep⟩ := control_step hvalid hschedule s call
    have hheard' : (s.step config call).heard := heard_step hheard hcontrol hpre
    refine ⟨hheard', ?_, (promise_iff hheard').1 hpromise⟩
    show (s.step config call).control.Inv
    rw [hstep]
    exact (Control.inv_step hcontrol due (control_pre hpre)).1
  · obtain ⟨s₀, now, hlog, hchecks, rfl⟩ := hinit
    refine ⟨?_, control_startInternal config now s₀, rfl⟩
    show Heard s₀.log none s₀.checks
    rw [hlog]
    exact ⟨fun hmem => (nomatch hmem), fun _ => Nat.zero_le _,
      fun _ _ => WhenLogged.of_notMem (fun hmem => nomatch hmem),
      fun _ hnone => (nomatch hnone), fun _ _ => rfl⟩

/-! ## Two runs -/

/-- An hour after the first try, and the same for each further one. -/
private def hourly : OmahaConfig Nat Unit :=
  { currentVersion := 91, urlIsValid := true, schedule := true,
    getBackOff := fun _ _ => fromHours 1 }

/-- The last ping was sent an hour ago. -/
private def pingedAnHourAgo : OmahaRun Nat :=
  let states : PersistedStates Nat :=
    { nextTriesTime := fromHours 5, currentPingTime := fromHours 5, numberOfTries := 0,
      lastSentVersion := 91, lastSentTime := 0, lastServerDate := 4088 }
  startInternal hourly (fromHours 1)
    { toPersistedStates := states, urlLoader := false, timer := none,
      sendingInstallEvent := false, scheduledPingCanceled := false, oneOffCheckCallback := none,
      defaults := states, starting := true, scheduled := false, checks := 0, log := [] }

private def noUpdate : ServerResponse := .correct 4089 (some ⟨true, "", ""⟩)

/-- A check beside the timer, answered before the timer fires. -/
theorem ping_or_timer_iff_answered :
    let calls : List (OmahaCall Unit) := [.start (fromHours 1) (), .checkNow (fromHours 2) (),
      .response noUpdate (fromHours 2) (), .timerFires (fromHours 5) (),
      .response .networkFailure (fromHours 5) (), .timerFires (fromHours 6) ()]
    ((omahaMachine hourly).exec pingedAnHourAgo calls).urlLoader = true ∧
    ((omahaMachine hourly).Always (fun s call => (s.step hourly call).Promise)
        pingedAnHourAgo calls ↔
      (omahaMachine hourly).Always KeepsSchedule pingedAnHourAgo calls) := by
  intro calls
  exact ⟨by decide +kernel, ping_or_timer_iff rfl rfl ⟨_, _, rfl, rfl, rfl⟩ (by decide +kernel)⟩

/-- **A check fails and is kept for the next scheduled ping**: the answer to that ping
ends the check, and nothing schedules another ping. -/
theorem keptCheck_stops :
    let calls : List (OmahaCall Unit) := [.start (fromHours 1) (), .checkNow (fromHours 2) (),
      .response .networkFailure (fromHours 2) (), .timerFires (fromHours 3) (),
      .response noUpdate (fromHours 3) ()]
    let s := (omahaMachine hourly).exec pingedAnHourAgo calls
    (omahaMachine hourly).init pingedAnHourAgo ∧
    (omahaMachine hourly).Run pingedAnHourAgo calls ∧ ¬ s.Promise ∧
    s.scheduled = true ∧ s.urlLoader = false ∧ s.timer = none ∧ s.oneOffCheckCallback = none := by
  intro calls s
  have hscheduled : s.scheduled = true := by decide +kernel
  have hloads : s.urlLoader = false := by decide +kernel
  have htimer : s.timer = none := by decide +kernel
  refine ⟨⟨_, _, rfl, rfl, rfl⟩, by decide +kernel, fun hpromise => ?_, hscheduled, hloads, htimer,
    by decide +kernel⟩
  rcases hpromise.pingOrTimer hscheduled with hping | hrunning
  · exact nomatch hloads.symm.trans hping
  · rw [htimer] at hrunning
    exact nomatch hrunning

end OmahaRun

end IosChrome.Omaha

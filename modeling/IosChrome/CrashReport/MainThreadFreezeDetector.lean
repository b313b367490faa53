import IosChrome.Lib.Machine

/-!
# `MainThreadFreezeDetector`

While the detector is running, a loop on the main queue says that the main thread is alive, and a
loop on the detection queue looks how long ago that was. Each posts its own next tick, and stops
when a tick finds that the detector is not running any more. A `start` that comes before such a
tick adds a second loop, and what the main loop posts after a report is one more
(`Keeps`). The detection loop does not come back from a hang that gives no report.

The queues are counts of the blocks that wait in them, which may run in any order. What a tick asks
the clock or Crashpad comes with it. A hang whose Breakpad reference has not come yet is a tick that
is still executing, and `cleanAndRunInFreezeDetectionQueue` is a tick as well.
-/

namespace IosChrome.CrashReport

open Lib

def kFreezeDetectionDelay : Int := 9

structure MainThreadFreezeDetector where
  enabled : Bool := true
  running : Bool := false
  reportGenerated : Bool := false
  delay : Int := kFreezeDetectionDelay
  /-- In seconds. The first `start` sets it before any tick reads it. -/
  lastSeenMainThread : Int := 0
  mainTicks : Nat := 0
  detectionTicks : Nat := 0
  cleanTicks : Nat := 0
  hangs : Nat := 0
  deriving DecidableEq

/-- What becomes of a hang that is recorded. -/
inductive HangRecording where
  | noBreakpadRef
  | noReport
  | report
  deriving DecidableEq

/-- The calls, and the blocks of the two queues. A start is `prevented` by the hook of the tests or
by a debugger. -/
inductive DetectorBlock where
  | start (date : Int) (prevented : Bool)
  | stop
  | setEnabled (enabled : Bool) (date : Int) (prevented : Bool)
  | runInMainLoop (date : Int)
  | runInFreezeDetectionQueue (date : Int) (crashpadRunning : Bool)
  | cleanAndRunInFreezeDetectionQueue (date : Int) (crashpadRunning : Bool)
  | recordHang (recording : HangRecording)
  deriving DecidableEq

namespace MainThreadFreezeDetector

variable (d : MainThreadFreezeDetector)

def runInMainLoop (date : Int) : MainThreadFreezeDetector :=
  let seen := { d with lastSeenMainThread := date }
  let recovered :=
    if d.reportGenerated then
      -- The freeze detection is restarted, by a block that looks at `running` itself.
      { seen with reportGenerated := false, cleanTicks := d.cleanTicks + 1 }
    else seen
  if d.running then { recovered with mainTicks := d.mainTicks + 1 } else recovered

def runInFreezeDetectionQueue (date : Int) (crashpadRunning : Bool) : MainThreadFreezeDetector :=
  if !d.running then d
  else if d.delay < date - d.lastSeenMainThread then
    -- Crashpad dumps at once; Breakpad calls back with its reference.
    if crashpadRunning then d else { d with hangs := d.hangs + 1 }
  else { d with detectionTicks := d.detectionTicks + 1 }

/-- `recordHangWithBreakpadRef:`. It looks at `running` again when the report is in its place, and
no call comes in between. -/
def recordHangWithBreakpadRef (recording : HangRecording) : MainThreadFreezeDetector :=
  if !d.running then d
  else
    match recording with
    | .noBreakpadRef => d
    | .noReport => d
    | .report => { d with reportGenerated := true }

/-- Whether `start` gets past its checks. -/
def Starts (prevented : Bool) : Prop :=
  ¬(d.delay = 0 ∨ d.running = true ∨ d.enabled = false ∨ prevented = true)

instance (prevented : Bool) : Decidable (d.Starts prevented) :=
  inferInstanceAs (Decidable (¬(_ ∨ _ ∨ _ ∨ _)))

def start (date : Int) (prevented : Bool) : MainThreadFreezeDetector :=
  if d.Starts prevented then
    let looping := runInMainLoop { d with running := true } date
    { looping with detectionTicks := looping.detectionTicks + 1 }
  else d

def stop : MainThreadFreezeDetector := { d with running := false }

def setEnabled (enabled : Bool) (date : Int) (prevented : Bool) : MainThreadFreezeDetector :=
  if enabled then start { d with enabled := true } date prevented
  else stop { d with enabled := false }

/-- A block runs when it waits in its queue. -/
def BlockPre : DetectorBlock → Prop
  | .runInMainLoop _ => 0 < d.mainTicks
  | .runInFreezeDetectionQueue _ _ => 0 < d.detectionTicks
  | .cleanAndRunInFreezeDetectionQueue _ _ => 0 < d.cleanTicks
  | .recordHang _ => 0 < d.hangs
  | _ => True

instance : ∀ block : DetectorBlock, Decidable (d.BlockPre block)
  | .start _ _ => instDecidableTrue
  | .stop => instDecidableTrue
  | .setEnabled _ _ _ => instDecidableTrue
  | .runInMainLoop _ => inferInstanceAs (Decidable (0 < d.mainTicks))
  | .runInFreezeDetectionQueue _ _ => inferInstanceAs (Decidable (0 < d.detectionTicks))
  | .cleanAndRunInFreezeDetectionQueue _ _ => inferInstanceAs (Decidable (0 < d.cleanTicks))
  | .recordHang _ => inferInstanceAs (Decidable (0 < d.hangs))

def runBlock : DetectorBlock → MainThreadFreezeDetector
  | .start date prevented => d.start date prevented
  | .stop => d.stop
  | .setEnabled enabled date prevented => d.setEnabled enabled date prevented
  | .runInMainLoop date => runInMainLoop { d with mainTicks := d.mainTicks - 1 } date
  | .runInFreezeDetectionQueue date crashpadRunning =>
    runInFreezeDetectionQueue { d with detectionTicks := d.detectionTicks - 1 } date crashpadRunning
  | .cleanAndRunInFreezeDetectionQueue date crashpadRunning =>
    runInFreezeDetectionQueue { d with cleanTicks := d.cleanTicks - 1 } date crashpadRunning
  | .recordHang recording => recordHangWithBreakpadRef { d with hangs := d.hangs - 1 } recording

/-- The detector, driven by its callers and the two queues. -/
def machine : Machine MainThreadFreezeDetector DetectorBlock where
  init d := d = {}
  pre := BlockPre
  step := runBlock

instance (block : DetectorBlock) : Decidable (machine.pre d block) :=
  inferInstanceAs (Decidable (d.BlockPre block))

/-- The detection ticks that are pending or executing. -/
def detectionLoops : Nat := d.detectionTicks + d.cleanTicks + d.hangs

/-- While it is running there is one loop of each kind, except that the detection waits for the main
thread after a report. -/
def OneLoopEach : Prop :=
  d.running = true →
    d.mainTicks = 1 ∧ (d.reportGenerated = false → d.detectionLoops = 1)

instance : Decidable d.OneLoopEach := inferInstanceAs (Decidable (_ → _ ∧ (_ → _)))

/-- Nothing is left of the last time it was running. -/
def Idle : Prop := d.mainTicks = 0 ∧ d.detectionLoops = 0 ∧ d.reportGenerated = false

/-- The blocks that keep the loops: it starts only when it is idle, and while it is running a hang
is found without Crashpad, and its recording gives a report. -/
def Keeps : DetectorBlock → Prop
  | .start _ prevented => d.Starts prevented → d.Idle
  | .stop => True
  | .setEnabled enabled _ prevented =>
    enabled = true → Starts { d with enabled := true } prevented → d.Idle
  | .runInMainLoop _ => True
  | .runInFreezeDetectionQueue date crashpadRunning =>
    d.running = true → d.delay < date - d.lastSeenMainThread → crashpadRunning = false
  | .cleanAndRunInFreezeDetectionQueue date crashpadRunning =>
    d.running = true → d.delay < date - d.lastSeenMainThread → crashpadRunning = false
  | .recordHang recording => d.running = true → recording = .report

/-- `OneLoopEach`, and there is no detection tick while a report waits for the main thread. -/
def Looping : Prop :=
  d.running = true → d.mainTicks = 1 ∧ d.detectionLoops = if d.reportGenerated then 0 else 1

variable {d}

theorem Looping.oneLoopEach (h : d.Looping) : d.OneLoopEach := by
  intro hrunning
  obtain ⟨hmain, hloops⟩ := h hrunning
  refine ⟨hmain, fun hreport => ?_⟩
  rwa [if_neg (hreport ▸ Bool.false_ne_true)] at hloops

/-- Where no report waits, the two are the same. -/
theorem OneLoopEach.looping (hreport : d.reportGenerated = false) (h : d.OneLoopEach) :
    d.Looping := by
  intro hrunning
  obtain ⟨hmain, hloops⟩ := h hrunning
  rw [hreport]
  exact ⟨hmain, hloops hreport⟩

theorem oneLoopEach_iff (hrunning : d.running = true) (hmain : d.mainTicks = 1)
    (hreport : d.reportGenerated = false) : d.OneLoopEach ↔ d.detectionLoops = 1 :=
  ⟨fun h => (h hrunning).2 hreport, fun hloops _ => ⟨hmain, fun _ => hloops⟩⟩

theorem looping_of_not_running (h : d.running = false) : d.Looping :=
  fun hrunning => absurd (h ▸ hrunning) Bool.false_ne_true

/-- While a detection tick executes, no report waits. -/
theorem Looping.no_report (h : d.Looping) (hrunning : d.running = true)
    (htick : 0 < d.detectionLoops) :
    d.mainTicks = 1 ∧ d.reportGenerated = false ∧ d.detectionLoops = 1 := by
  obtain ⟨hmain, hloops⟩ := h hrunning
  cases hreport : d.reportGenerated with
  | false =>
    rw [hreport] at hloops
    exact ⟨hmain, rfl, hloops⟩
  | true =>
    rw [hreport, if_pos rfl] at hloops
    omega

/-- A start posts a tick to each queue, and one more when the last report was never recovered
from. -/
theorem start_of_starts (date : Int) {prevented : Bool} (h : d.Starts prevented) :
    (d.start date prevented).running = true ∧
      (d.start date prevented).reportGenerated = false ∧
      (d.start date prevented).mainTicks = d.mainTicks + 1 ∧
      (d.start date prevented).detectionLoops =
        d.detectionLoops + 1 + if d.reportGenerated then 1 else 0 := by
  rw [start, if_pos h]
  cases hreport : d.reportGenerated with
  | false =>
    simp only [runInMainLoop, detectionLoops, Bool.false_eq_true, if_false, if_true]
    exact ⟨trivial, trivial, trivial, by omega⟩
  | true =>
    simp only [runInMainLoop, detectionLoops, if_true]
    exact ⟨trivial, trivial, trivial, by omega⟩

/-- What a tick of the main loop does while the detector is running. -/
theorem runInMainLoop_of_running (date : Int) (hrunning : d.running = true) :
    (d.runInMainLoop date).reportGenerated = false ∧
      (d.runInMainLoop date).mainTicks = d.mainTicks + 1 ∧
      (d.runInMainLoop date).detectionLoops =
        d.detectionLoops + if d.reportGenerated then 1 else 0 := by
  cases hreport : d.reportGenerated with
  | false => simp [runInMainLoop, detectionLoops, hrunning, hreport]
  | true =>
    simp only [runInMainLoop, detectionLoops, hrunning, hreport, if_true]
    exact ⟨trivial, trivial, by omega⟩

theorem runInMainLoop_running (date : Int) : (d.runInMainLoop date).running = d.running := by
  rw [runInMainLoop]
  dsimp only
  split <;> split <;> rfl

/-- What a tick of the detection loop does while the detector is running: only Crashpad ends it. -/
theorem runInFreezeDetectionQueue_of_running (date : Int) (crashpadRunning : Bool)
    (hrunning : d.running = true) :
    (d.runInFreezeDetectionQueue date crashpadRunning).reportGenerated = d.reportGenerated ∧
      (d.runInFreezeDetectionQueue date crashpadRunning).mainTicks = d.mainTicks ∧
      (d.runInFreezeDetectionQueue date crashpadRunning).detectionLoops =
        d.detectionLoops +
          if d.delay < date - d.lastSeenMainThread ∧ crashpadRunning = true then 0 else 1 := by
  rw [runInFreezeDetectionQueue, hrunning]
  by_cases hfrozen : d.delay < date - d.lastSeenMainThread
  · cases crashpadRunning with
    | false => simp [hfrozen, detectionLoops, Nat.add_assoc]
    | true => simp [hfrozen]
  · simp only [hfrozen, detectionLoops, Bool.not_true, Bool.false_eq_true, if_false, false_and]
    exact ⟨trivial, trivial, by omega⟩

theorem runInFreezeDetectionQueue_running (date : Int) (crashpadRunning : Bool) :
    (d.runInFreezeDetectionQueue date crashpadRunning).running = d.running := by
  rw [runInFreezeDetectionQueue]
  split
  · rfl
  · split
    · split <;> rfl
    · rfl

theorem start_keeps (date : Int) (prevented : Bool) (hd : d.Looping) :
    ((d.start date prevented).OneLoopEach ↔ (d.Starts prevented → d.Idle)) ∧
      ((d.start date prevented).OneLoopEach → (d.start date prevented).Looping) := by
  by_cases h : d.Starts prevented
  · obtain ⟨hrunning, hreport, hmain, hloops⟩ := start_of_starts date h
    refine ⟨?_, OneLoopEach.looping hreport⟩
    have hidle : (d.start date prevented).OneLoopEach ↔ d.Idle := by
      rw [OneLoopEach, hmain, hloops, hrunning, hreport, Idle]
      cases d.reportGenerated with
      | false => simp
      | true => simp
    exact hidle.trans ⟨fun hi _ => hi, fun hi => hi h⟩
  · rw [start, if_neg h]
    exact ⟨⟨fun _ hs => absurd hs h, fun _ => hd.oneLoopEach⟩, fun _ => hd⟩

/-- The tick that was posted last is taken, and the loop goes on. -/
theorem runInMainLoop_keeps (date : Int) (hd : d.Looping) :
    (runInMainLoop { d with mainTicks := d.mainTicks - 1 } date).Looping := by
  intro hrunning
  rw [runInMainLoop_running] at hrunning
  obtain ⟨hmain, hloops⟩ := hd hrunning
  obtain ⟨hreport, hticks, hdetection⟩ :=
    runInMainLoop_of_running (d := { d with mainTicks := d.mainTicks - 1 }) date hrunning
  rw [hreport, hticks, hdetection]
  refine ⟨?_, ?_⟩
  · dsimp only
    omega
  · -- A report that was waiting is recovered from, which posts the one detection tick.
    change d.detectionLoops + (if d.reportGenerated then 1 else 0) = 1
    rw [hloops]
    cases d.reportGenerated <;> rfl

/-- The detection tick that is taken, from either count, leaves the rest as it is. -/
theorem runInFreezeDetectionQueue_keeps {e : MainThreadFreezeDetector} (date : Int)
    (crashpadRunning : Bool) (hd : d.Looping) (hrunning : e.running = d.running)
    (hreport : e.reportGenerated = d.reportGenerated) (hmain : e.mainTicks = d.mainTicks)
    (hloops : e.detectionLoops + 1 = d.detectionLoops) :
    ((e.runInFreezeDetectionQueue date crashpadRunning).OneLoopEach ↔
        (e.running = true → e.delay < date - e.lastSeenMainThread → crashpadRunning = false)) ∧
      ((e.runInFreezeDetectionQueue date crashpadRunning).OneLoopEach →
        (e.runInFreezeDetectionQueue date crashpadRunning).Looping) := by
  cases hrun : e.running with
  | false =>
    -- Not running, it posts nothing and nothing is asked of it.
    have hstill := looping_of_not_running
      ((runInFreezeDetectionQueue_running date crashpadRunning).trans hrun)
    exact ⟨⟨fun _ h => absurd h Bool.false_ne_true, fun _ => hstill.oneLoopEach⟩, fun _ => hstill⟩
  | true =>
    obtain ⟨hone, hnone, hdetection⟩ := hd.no_report (hrunning ▸ hrun) (by omega)
    obtain ⟨hreport', hmain', hloops'⟩ :=
      runInFreezeDetectionQueue_of_running date crashpadRunning hrun
    have hwaits := hreport'.trans (hreport.trans hnone)
    refine ⟨?_, OneLoopEach.looping hwaits⟩
    rw [oneLoopEach_iff ((runInFreezeDetectionQueue_running date crashpadRunning).trans hrun)
      (hmain'.trans (hmain.trans hone)) hwaits, hloops']
    split
    · rename_i hends
      refine ⟨fun h => by omega, fun h => ?_⟩
      exact absurd (hends.2.symm.trans (h rfl hends.1)) (by decide)
    · rename_i hgoes
      refine ⟨fun _ _ hfrozen => ?_, fun _ => by omega⟩
      exact Bool.eq_false_iff.2 fun hcrashpad => hgoes ⟨hfrozen, hcrashpad⟩

theorem recordHangWithBreakpadRef_eq (recording : HangRecording) :
    d.recordHangWithBreakpadRef recording =
      if d.running = true ∧ recording = .report then { d with reportGenerated := true } else d := by
  cases hrun : d.running with
  | false => simp [recordHangWithBreakpadRef, hrun]
  | true => cases recording <;> simp [recordHangWithBreakpadRef, hrun]

/-- The hang is the only tick, and a report puts off the next one. -/
theorem recordHangWithBreakpadRef_keeps {e : MainThreadFreezeDetector} (recording : HangRecording)
    (hd : d.Looping) (hrunning : e.running = d.running)
    (hreport : e.reportGenerated = d.reportGenerated) (hmain : e.mainTicks = d.mainTicks)
    (hloops : e.detectionLoops + 1 = d.detectionLoops) :
    ((e.recordHangWithBreakpadRef recording).OneLoopEach ↔
        (e.running = true → recording = .report)) ∧
      ((e.recordHangWithBreakpadRef recording).OneLoopEach →
        (e.recordHangWithBreakpadRef recording).Looping) := by
  rw [recordHangWithBreakpadRef_eq]
  cases hrun : e.running with
  | false =>
    have hstill := looping_of_not_running hrun
    rw [if_neg (fun h => Bool.false_ne_true h.1)]
    exact ⟨⟨fun _ h => absurd h Bool.false_ne_true, fun _ => hstill.oneLoopEach⟩, fun _ => hstill⟩
  | true =>
    obtain ⟨hone, hnone, hdetection⟩ := hd.no_report (hrunning ▸ hrun) (by omega)
    have hlost : e.detectionLoops = 0 := by omega
    by_cases hrecorded : recording = .report
    · rw [if_pos ⟨rfl, hrecorded⟩]
      have hwaits : Looping { e with running := true, reportGenerated := true } :=
        fun _ => ⟨hmain.trans hone, hlost⟩
      exact ⟨⟨fun _ _ => hrecorded, fun _ => hwaits.oneLoopEach⟩, fun _ => hwaits⟩
    · rw [if_neg (fun h => hrecorded h.2)]
      have hends : ¬e.OneLoopEach := by
        rw [oneLoopEach_iff hrun (hmain.trans hone) (hreport.trans hnone), hlost]
        exact Nat.zero_ne_one
      exact ⟨⟨fun h => absurd h hends, fun h => absurd (h rfl) hrecorded⟩, fun h => absurd h hends⟩

/-- One block: the loops are as they should be after it exactly when it is one that keeps them. -/
theorem runBlock_keeps (block : DetectorBlock) (hd : d.Looping) (hpre : d.BlockPre block) :
    ((d.runBlock block).OneLoopEach ↔ d.Keeps block) ∧
      ((d.runBlock block).OneLoopEach → (d.runBlock block).Looping) := by
  cases block with
  | start date prevented => exact start_keeps date prevented hd
  | stop =>
    have hstopped : d.stop.Looping := looping_of_not_running rfl
    exact ⟨⟨fun _ => trivial, fun _ => hstopped.oneLoopEach⟩, fun _ => hstopped⟩
  | setEnabled enabled date prevented =>
    cases enabled with
    | false =>
      have hstopped : (stop { d with enabled := false }).Looping := looping_of_not_running rfl
      exact ⟨⟨fun _ h => absurd h Bool.false_ne_true, fun _ => hstopped.oneLoopEach⟩,
        fun _ => hstopped⟩
    | true =>
      obtain ⟨hiff, hkeeps⟩ := start_keeps (d := { d with enabled := true }) date prevented hd
      exact ⟨hiff.trans ⟨fun h _ => h, fun h => h rfl⟩, hkeeps⟩
  | runInMainLoop date =>
    have hloop := runInMainLoop_keeps date hd
    exact ⟨⟨fun _ => trivial, fun _ => hloop.oneLoopEach⟩, fun _ => hloop⟩
  | runInFreezeDetectionQueue date crashpadRunning =>
    refine runInFreezeDetectionQueue_keeps date crashpadRunning hd rfl rfl rfl ?_
    have htick : 0 < d.detectionTicks := hpre
    rw [detectionLoops, detectionLoops]
    dsimp only
    omega
  | cleanAndRunInFreezeDetectionQueue date crashpadRunning =>
    refine runInFreezeDetectionQueue_keeps date crashpadRunning hd rfl rfl rfl ?_
    have htick : 0 < d.cleanTicks := hpre
    rw [detectionLoops, detectionLoops]
    dsimp only
    omega
  | recordHang recording =>
    refine recordHangWithBreakpadRef_keeps recording hd rfl rfl rfl ?_
    have htick : 0 < d.hangs := hpre
    rw [detectionLoops, detectionLoops]
    dsimp only
    omega

/-- **There is one loop of each kind after every block of a run exactly when all its blocks keep
them**: the detector starts only when nothing is left of the last time, hangs are not found under
Crashpad, and their recordings give reports. -/
theorem oneLoopEach_always_iff (blocks : List DetectorBlock)
    (hrun : machine.Run {} blocks) :
    machine.Always (fun d block => (d.runBlock block).OneLoopEach) {} blocks ↔
      machine.Always Keeps {} blocks :=
  Machine.always_iff_of_invariant (I := Looping)
    (fun _ block hd hpre => (runBlock_keeps block hd hpre).1)
    (fun _ block hd hpre => (runBlock_keeps block hd hpre).2)
    (looping_of_not_running rfl) hrun

/-- The detector finds a hang and the main thread recovers from it; then it is stopped, all that is
pending runs, and it starts again. -/
def hangAndRestart : List DetectorBlock :=
  [.start 0 false, .runInFreezeDetectionQueue 10 false, .recordHang .report, .runInMainLoop 11,
    .cleanAndRunInFreezeDetectionQueue 11 false, .stop, .runInMainLoop 12,
    .runInFreezeDetectionQueue 12 false, .start 13 false]

instance (block : DetectorBlock) : Decidable (d.Keeps block) :=
  match block with
  | .start _ prevented => inferInstanceAs (Decidable (d.Starts prevented → _ ∧ _ ∧ _))
  | .stop => instDecidableTrue
  | .setEnabled enabled _ prevented =>
    inferInstanceAs (Decidable (enabled = true → Starts _ prevented → _ ∧ _ ∧ _))
  | .runInMainLoop _ => instDecidableTrue
  | .runInFreezeDetectionQueue _ _ => inferInstanceAs (Decidable (_ → _ → _))
  | .cleanAndRunInFreezeDetectionQueue _ _ => inferInstanceAs (Decidable (_ → _ → _))
  | .recordHang _ => inferInstanceAs (Decidable (_ → _))

theorem oneLoopEach_always_iff_hangAndRestart :
    machine.Run {} hangAndRestart ∧ machine.Always Keeps {} hangAndRestart ∧
      machine.Always (fun d block => (d.runBlock block).OneLoopEach) {} hangAndRestart :=
  have hrun : machine.Run {} hangAndRestart := by decide
  have hkeeps : machine.Always Keeps {} hangAndRestart := by decide
  ⟨hrun, hkeeps, (oneLoopEach_always_iff hangAndRestart hrun).2 hkeeps⟩

/-- The app goes to the background and comes back before the next ticks: all of them go on. -/
theorem oneLoopEach_fails_stoppedAndStarted :
    machine.Run {} [.start 0 false, .stop, .start 0 false] ∧
      ¬(machine.exec {} [.start 0 false, .stop, .start 0 false]).OneLoopEach ∧
      (machine.exec {} [.start 0 false, .stop, .start 0 false]).mainTicks = 2 ∧
      (machine.exec {} [.start 0 false, .stop, .start 0 false]).detectionTicks = 2 := by
  decide

end MainThreadFreezeDetector

end IosChrome.CrashReport

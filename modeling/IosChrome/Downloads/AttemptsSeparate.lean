import Mathlib.Data.List.Pairwise
import IosChrome.Lib.ListEdit
import IosChrome.Downloads.DownloadTaskImpl

/-!
# Every start has its own events

A task may be started again, and what was under way for the earlier start still comes
back. `Separate` is what a step of the task should keep: a canceled task stays canceled
and loads nothing, an event of an earlier start changes nothing, and only the completion
of the last session task completes the task.

The blocks do not look for whom they are called, so this holds as long as nothing comes
back for a start that is over (`Current`): cookies after `Cancel` make a session task all
the same, and the completion of a canceled one completes the task
(`canceledTask_completes`). `attempts_separate` is the rest. It follows from one
invariant: every session task belongs to its own start, and the only one that runs is
`session_task_`, of the last start, while the task is in progress (`Inv`).
-/

namespace IosChrome.Downloads

open IosChrome.Lib

namespace DownloadTaskImpl

/-! ## What a step should keep -/

/-- The `Start` an event belongs to. The calls of the owner belong to none. -/
def attemptOfEvent (d : DownloadTaskImpl) : DownloadEvent → Option Nat
  | .start _ _ _ => none
  | .cancel => none
  | .shutDown => none
  | .cookies attempt => some attempt
  | .data task _ _ => some (d.attemptOf task)
  | .properties task _ => some (d.attemptOf task)
  | .completion task _ _ _ => some (d.attemptOf task)
  | .writeCompletes attempt _ _ => some attempt
  | .finishCompletes finish _ => some finish.attempt

/-- The completion of a session task, or the answer of the writer that was told of it. -/
def CompletionOf (d : DownloadTaskImpl) (task : Nat) : DownloadEvent → Prop
  | .completion completed _ _ _ => completed = task
  | .finishCompletes finish _ => finish.attempt = d.attemptOf task ∧
    d.sessionTasks[task]?.map SessionTask.completed = some true
  | _ => False

structure Separate (d : DownloadTaskImpl) (event : DownloadEvent) : Prop where
  cancels : event = .cancel → (d.step event).state = .cancelled
  stays : d.state = .cancelled → ¬ event.IsStart → (d.step event).state = .cancelled
  quiet : (d.step event).state = .cancelled → ∀ t ∈ (d.step event).sessionTasks, t.running = false
  earlier : ∀ attempt, d.attemptOfEvent event = some attempt → attempt < d.attempt →
    (d.step event).state = d.state ∧ (d.step event).receivedBytes = d.receivedBytes ∧
      (d.step event).totalBytes = d.totalBytes ∧ (d.step event).writer = d.writer
  completes : (d.step event).state = .complete → d.state ≠ .complete →
    ∃ task, task + 1 = d.sessionTasks.length ∧ d.CompletionOf task event

/-- What comes back is for the last start, and that has not been canceled. After a
cancellation data may come, and a completion that the writer does not answer at once. -/
def Current (d : DownloadTaskImpl) : DownloadEvent → Prop
  | .cookies attempt => attempt = d.attempt ∧ d.state ≠ .cancelled
  | .data task _ _ => d.attemptOf task = d.attempt
  | .properties task _ => d.attemptOf task = d.attempt
  | .completion task _ _ finished => d.attemptOf task = d.attempt ∧
    (d.state = .cancelled → finished = errIOPending)
  | .finishCompletes finish _ => finish.attempt = d.attempt ∧ d.state ≠ .cancelled
  | .writeCompletes _ _ _ => True
  | .start _ _ _ => True
  | .cancel => True
  | .shutDown => True

/-! ## The invariant -/

structure Inv (d : DownloadTaskImpl) : Prop where
  url : d.originalUrl = .other
  ordered : (d.sessionTasks.map SessionTask.attempt).Pairwise (· < ·)
  bounded : ∀ t ∈ d.sessionTasks, t.attempt ≤ d.attempt
  asked : d.pendingCookies.Nodup ∧ ∀ attempt ∈ d.pendingCookies,
    attempt ≤ d.attempt ∧ ∀ t ∈ d.sessionTasks, t.attempt ≠ attempt
  waiting : d.attempt ∈ d.pendingCookies → d.state = .inProgress ∨ d.state = .cancelled
  running : ∀ task t, d.sessionTasks[task]? = some t → t.running = true →
    d.sessionTask = some task ∧ t.attempt = d.attempt ∧ d.state = .inProgress
  finishing : ∀ finish ∈ d.pendingFinishes, ∃ t ∈ d.sessionTasks,
    t.attempt = finish.attempt ∧ t.completed = true

variable {d : DownloadTaskImpl}

theorem create_inv (totalBytes : Int) (mimeType : String) :
    (create .other totalBytes mimeType).Inv where
  url := rfl
  ordered := List.Pairwise.nil
  bounded := fun _ hmem => nomatch hmem
  asked := ⟨List.nodup_nil, fun _ hmem => nomatch hmem⟩
  waiting := fun hmem => nomatch hmem
  running := fun _ _ hget => nomatch hget
  finishing := fun _ hmem => nomatch hmem

theorem attemptOf_eq {task : Nat} {t : SessionTask} (hget : d.sessionTasks[task]? = some t) :
    d.attemptOf task = t.attempt := by
  unfold attemptOf
  rw [hget]
  rfl

/-- The session task of the last start is the last one. -/
theorem Inv.last (h : d.Inv) {task : Nat} {t : SessionTask}
    (hget : d.sessionTasks[task]? = some t) (hattempt : t.attempt = d.attempt) :
    task + 1 = d.sessionTasks.length := by
  obtain ⟨hlt, rfl⟩ := List.getElem?_eq_some_iff.1 hget
  by_contra hne
  have hnext : task + 1 < d.sessionTasks.length := by omega
  have hordered := List.pairwise_iff_getElem.1 h.ordered task (task + 1)
    (by rwa [List.length_map]) (by rwa [List.length_map]) (Nat.lt_succ_self task)
  rw [List.getElem_map, List.getElem_map, hattempt] at hordered
  have hbound := h.bounded _ (List.getElem_mem hnext)
  omega

/-- A task that runs has not been completed. -/
theorem not_running_of_completed {t : SessionTask} (h : t.completed = true) :
    t.running = false := by
  unfold SessionTask.running
  rw [h, Bool.not_true, Bool.and_false]

/-- No session task runs unless the task is in progress. -/
theorem Inv.quiet (h : d.Inv) (hstate : d.state ≠ .inProgress) :
    ∀ t ∈ d.sessionTasks, t.running = false := by
  intro t ht
  obtain ⟨task, hlt, rfl⟩ := List.getElem_of_mem ht
  by_contra hrunning
  exact hstate (h.running task _ (List.getElem?_eq_getElem hlt)
    (eq_true_of_ne_false hrunning)).2.2

/-! ## The session tasks -/

/-- A session task is changed so that it does not start to run. -/
theorem Inv.modifyTask (h : d.Inv) (task : Nat) {f : SessionTask → SessionTask}
    (hattempt : ∀ t, (f t).attempt = t.attempt)
    (hrunning : ∀ t, (f t).running = true → t.running = true)
    (hcompleted : ∀ t, t.completed = true → (f t).completed = true) :
    ({ d with sessionTasks := d.sessionTasks.modify task f } : DownloadTaskImpl).Inv := by
  -- every task was a task of the same start
  have hold : ∀ t ∈ d.sessionTasks.modify task f, ∃ old ∈ d.sessionTasks,
      t.attempt = old.attempt := by
    intro t ht
    obtain ⟨other, hget⟩ := List.mem_iff_getElem?.1 ht
    obtain ⟨old, hold, ⟨_, rfl⟩ | ⟨_, rfl⟩⟩ := getElem?_modify_cases hget
    · exact ⟨old, List.mem_of_getElem? hold, hattempt old⟩
    · exact ⟨_, List.mem_of_getElem? hold, rfl⟩
  refine ⟨h.url, ?_, fun t ht => ?_, ⟨h.asked.1, fun attempt hasked => ?_⟩, h.waiting,
    fun other t hget hrun => ?_, fun finish hfinish => ?_⟩
  · rw [map_modify_of_forall hattempt]
    exact h.ordered
  · obtain ⟨old, hmem, heq⟩ := hold t ht
    rw [heq]
    exact h.bounded old hmem
  · refine ⟨(h.asked.2 attempt hasked).1, fun t ht => ?_⟩
    obtain ⟨old, hmem, heq⟩ := hold t ht
    rw [heq]
    exact (h.asked.2 attempt hasked).2 old hmem
  · obtain ⟨old, hold, ⟨_, rfl⟩ | ⟨_, rfl⟩⟩ := getElem?_modify_cases hget
    · rw [hattempt]
      exact h.running other old hold (hrunning old hrun)
    · exact h.running other _ hold hrun
  · obtain ⟨t, ht, heq, hdone⟩ := h.finishing finish hfinish
    obtain ⟨other, hget⟩ := List.mem_iff_getElem?.1 ht
    by_cases hsame : task = other
    · subst hsame
      refine ⟨f t, List.mem_of_getElem? (i := task) ?_, (hattempt t).trans heq, hcompleted t hdone⟩
      rw [List.getElem?_modify_eq, hget]
      rfl
    · refine ⟨t, List.mem_of_getElem? (i := other) ?_, heq, hdone⟩
      rw [List.getElem?_modify_ne _ _ hsame, hget]

theorem cancelSessionTask_frame (d : DownloadTaskImpl) :
    d.cancelSessionTask.state = d.state ∧ d.cancelSessionTask.attempt = d.attempt ∧
      d.cancelSessionTask.sessionTask = none := by
  unfold cancelSessionTask
  cases hsession : d.sessionTask with
  | none => exact ⟨rfl, rfl, hsession⟩
  | some task => exact ⟨rfl, rfl, rfl⟩

/-- After `session_task_` has been canceled no session task runs. -/
theorem Inv.cancelSessionTask (h : d.Inv) :
    d.cancelSessionTask.Inv ∧ ∀ t ∈ d.cancelSessionTask.sessionTasks, t.running = false := by
  unfold DownloadTaskImpl.cancelSessionTask
  cases hsession : d.sessionTask with
  | none =>
    refine ⟨h, fun t ht => ?_⟩
    obtain ⟨task, hget⟩ := List.mem_iff_getElem?.1 ht
    by_contra hrun
    have hthis := (h.running task t hget (eq_true_of_ne_false hrun)).1
    exact nomatch hsession.symm.trans hthis
  | some task =>
    have hcanceled : ∀ t : SessionTask,
        ({ t with canceled := true } : SessionTask).running = false := fun t => rfl
    have hnone : ∀ t ∈ d.sessionTasks.modify task (fun t => { t with canceled := true }),
        t.running = false := by
      intro t ht
      obtain ⟨other, hget⟩ := List.mem_iff_getElem?.1 ht
      obtain ⟨old, hold, ⟨_, rfl⟩ | ⟨hne, rfl⟩⟩ := getElem?_modify_cases hget
      · exact hcanceled old
      · by_contra hrun
        have hthis := (h.running other _ hold (eq_true_of_ne_false hrun)).1
        exact hne (Option.some.inj (hthis.symm.trans hsession))
    have hmodified := h.modifyTask task (f := fun t => { t with canceled := true })
      (fun _ => rfl) (fun t hrun => absurd ((hcanceled t).symm.trans hrun) Bool.false_ne_true)
      (fun _ hdone => hdone)
    refine ⟨⟨hmodified.url, hmodified.ordered, hmodified.bounded, hmodified.asked,
      hmodified.waiting, fun other t hget hrun => ?_, hmodified.finishing⟩, hnone⟩
    have hstill := hnone t (List.mem_of_getElem? hget)
    exact absurd (hstill.symm.trans hrun) Bool.false_ne_true

/-- A session task of the last start that has been completed was the only one to run. -/
theorem Inv.none_runs (h : d.Inv) {t : SessionTask} (ht : t ∈ d.sessionTasks)
    (hattempt : t.attempt = d.attempt) (hdone : t.completed = true) :
    ∀ other ∈ d.sessionTasks, other.running = false := by
  intro other hother
  obtain ⟨task, hget⟩ := List.mem_iff_getElem?.1 ht
  obtain ⟨position, hposition⟩ := List.mem_iff_getElem?.1 hother
  by_contra hrun
  have hlast := (h.running position other hposition (eq_true_of_ne_false hrun)).2.1
  have hsame : position = task := by
    have hthere := h.last hposition hlast
    have hhere := h.last hget hattempt
    omega
  rw [hsame, hget] at hposition
  obtain rfl := Option.some.inj hposition
  exact hrun (not_running_of_completed hdone)

/-- The completed session task of the last start has ended the download. -/
theorem Inv.onDownloadFinished (h : d.Inv) {t : SessionTask} (ht : t ∈ d.sessionTasks)
    (hattempt : t.attempt = d.attempt) (hdone : t.completed = true) (errorCode : Int) :
    (d.onDownloadFinished errorCode).Inv where
  url := h.url
  ordered := h.ordered
  bounded := h.bounded
  asked := h.asked
  waiting := fun hasked => absurd hattempt ((h.asked.2 d.attempt hasked).2 t ht)
  running := fun _ other hget hrun => by
    have hnone := h.none_runs ht hattempt hdone other (List.mem_of_getElem? hget)
    exact absurd (hnone.symm.trans hrun) Bool.false_ne_true
  finishing := h.finishing

/-! ## Steps -/

theorem start_other (hurl : d.originalUrl = .other) (isFile : Bool) (written finished : Int) :
    d.start isFile written finished =
      { d with
        writer := some { isFile, writes := [], finished := none, disowned := false },
        percentComplete := 0, receivedBytes := 0, state := .inProgress,
        attempt := d.attempt + 1, received := [],
        pendingCookies := d.pendingCookies ++ [d.attempt + 1] } := by
  unfold start
  simp only [hurl]

theorem Inv.start (h : d.Inv) (hover : d.state ≠ .inProgress) (isFile : Bool)
    (written finished : Int) : (d.start isFile written finished).Inv := by
  rw [start_other h.url]
  refine ⟨h.url, h.ordered, fun t ht => Nat.le_succ_of_le (h.bounded t ht), ⟨?_, ?_⟩,
    fun _ => .inl rfl, fun task t hget hrun => ?_, h.finishing⟩
  · refine List.nodup_append.2 ⟨h.asked.1, List.nodup_singleton _, ?_⟩
    intro attempt hasked other hother heq
    obtain rfl := List.mem_singleton.1 hother
    have hle := (h.asked.2 attempt hasked).1
    omega
  · intro attempt hasked
    rcases List.mem_append.1 hasked with hasked | hnew
    · exact ⟨Nat.le_succ_of_le (h.asked.2 attempt hasked).1, (h.asked.2 attempt hasked).2⟩
    · obtain rfl := List.mem_singleton.1 hnew
      refine ⟨Nat.le_refl _, fun t ht heq => ?_⟩
      have hle := h.bounded t ht
      omega
  · have hnone := h.quiet hover t (List.mem_of_getElem? hget)
    exact absurd (hnone.symm.trans hrun) Bool.false_ne_true

theorem Inv.cancel (h : d.Inv) : d.cancel.Inv := by
  obtain ⟨hinv, hnone⟩ := h.cancelSessionTask
  refine ⟨hinv.url, hinv.ordered, hinv.bounded, hinv.asked, fun _ => .inr rfl,
    fun _ t hget hrun => ?_, hinv.finishing⟩
  exact absurd ((hnone t (List.mem_of_getElem? hget)).symm.trans hrun) Bool.false_ne_true

theorem Inv.shutDown (h : d.Inv) : d.shutDown.Inv := by
  obtain ⟨hinv, _⟩ := h.cancelSessionTask
  exact ⟨hinv.url, hinv.ordered, hinv.bounded, hinv.asked, hinv.waiting, hinv.running,
    hinv.finishing⟩

/-- The cookies of the last start, which has not been canceled. -/
theorem Inv.startWithCookies (h : d.Inv) (hasked : d.attempt ∈ d.pendingCookies)
    (hstate : d.state ≠ .cancelled) : (d.startWithCookies d.attempt).Inv := by
  have hleft : ∀ attempt ∈ d.pendingCookies.erase d.attempt,
      attempt ≠ d.attempt ∧ attempt ∈ d.pendingCookies := fun attempt hmem =>
    (h.asked.1.mem_erase_iff).1 hmem
  have hdelivered : ({ d with
      pendingCookies := d.pendingCookies.erase d.attempt } : DownloadTaskImpl).Inv :=
    ⟨h.url, h.ordered, h.bounded,
      ⟨h.asked.1.erase _, fun attempt hmem => h.asked.2 attempt (hleft attempt hmem).2⟩,
      fun hmem => absurd rfl (hleft d.attempt hmem).1, h.running, h.finishing⟩
  have hinProgress : d.state = .inProgress := (h.waiting hasked).resolve_right hstate
  unfold DownloadTaskImpl.startWithCookies
  by_cases hsession : (d.hasSession || d.hasDelegate) = true
  · simp only [if_pos hsession]
    have hnew := (h.asked.2 d.attempt hasked).2
    refine ⟨h.url, ?_, fun t ht => ?_, ⟨hdelivered.asked.1, fun attempt hmem => ?_⟩,
      hdelivered.waiting, fun task t hget hrun => ?_, fun finish hfinish => ?_⟩
    · rw [List.map_append]
      refine List.pairwise_append.2 ⟨h.ordered, List.pairwise_singleton _ _, ?_⟩
      intro attempt hattempt other hother
      obtain ⟨t, ht, rfl⟩ := List.mem_map.1 hattempt
      obtain rfl := List.mem_singleton.1 hother
      exact Nat.lt_of_le_of_ne (h.bounded t ht) (hnew t ht)
    · rcases List.mem_append.1 ht with ht | ht
      · exact h.bounded t ht
      · exact Nat.le_of_eq (congrArg SessionTask.attempt (List.mem_singleton.1 ht))
    · refine ⟨(hdelivered.asked.2 attempt hmem).1, fun t ht => ?_⟩
      rcases List.mem_append.1 ht with ht | ht
      · exact (hdelivered.asked.2 attempt hmem).2 t ht
      · rw [List.mem_singleton.1 ht]
        exact Ne.symm (hleft attempt hmem).1
    · -- a task that ran before would be one of this start
      rcases Nat.lt_or_ge task d.sessionTasks.length with hlt | hge
      · rw [List.getElem?_append_left hlt] at hget
        exact absurd (h.running task t hget hrun).2.1 (hnew t (List.mem_of_getElem? hget))
      · have heq : task = d.sessionTasks.length := by
          have hlt := (List.getElem?_eq_some_iff.1 hget).1
          rw [List.length_append, List.length_singleton] at hlt
          omega
        subst heq
        rw [List.getElem?_concat_length] at hget
        obtain rfl := Option.some.inj hget
        exact ⟨rfl, rfl, hinProgress⟩
    · obtain ⟨t, ht, hdone⟩ := h.finishing finish hfinish
      exact ⟨t, List.mem_append_left _ ht, hdone⟩
  · simp only [if_neg hsession]
    exact ⟨hdelivered.url, hdelivered.ordered, hdelivered.bounded, hdelivered.asked,
      hdelivered.waiting, hdelivered.running, hdelivered.finishing⟩

/-- The completion of the session task of the last start. -/
theorem Inv.didComplete (h : d.Inv) {task : Nat} {t : SessionTask}
    (hget : d.sessionTasks[task]? = some t) (hattempt : t.attempt = d.attempt)
    (p : TaskProperties) (error : Option (Option Int)) (finished : Int) :
    (d.didComplete task t.attempt p error finished).Inv := by
  have hmodified := h.modifyTask task (f := fun t => { t with completed := true })
    (fun _ => rfl)
    (fun t hrun => absurd ((not_running_of_completed rfl).symm.trans hrun) Bool.false_ne_true)
    (fun _ _ => rfl)
  have hthere : (d.sessionTasks.modify task fun t => { t with completed := true })[task]? =
      some { t with completed := true } := by
    rw [List.getElem?_modify_eq, hget]
    rfl
  have hmem := List.mem_of_getElem? hthere
  unfold DownloadTaskImpl.didComplete finishWriter
  by_cases hpending : finished = errIOPending
  · simp only [if_pos hpending]
    refine ⟨hmodified.url, hmodified.ordered, hmodified.bounded, hmodified.asked,
      hmodified.waiting, hmodified.running, fun finish hfinish => ?_⟩
    rcases List.mem_append.1 hfinish with hfinish | hfinish
    · exact hmodified.finishing finish hfinish
    · rw [List.mem_singleton.1 hfinish]
      exact ⟨_, hmem, rfl, rfl⟩
  · simp only [if_neg hpending]
    have hanswered : (({ d with
        sessionTasks := d.sessionTasks.modify task fun t => { t with completed := true }
        } : DownloadTaskImpl).updateProperties p error |>.modifyWriter
          (Writer.finish · finished)).Inv :=
      ⟨hmodified.url, hmodified.ordered, hmodified.bounded, hmodified.asked, hmodified.waiting,
        hmodified.running, hmodified.finishing⟩
    exact hanswered.onDownloadFinished hmem hattempt rfl _

theorem Inv.finishCompletes (h : d.Inv) {finish : PendingFinish}
    (hpending : finish ∈ d.pendingFinishes) (hattempt : finish.attempt = d.attempt)
    (errorCode : Int) : (d.finishCompletes finish errorCode).Inv := by
  obtain ⟨t, ht, heq, hdone⟩ := h.finishing finish hpending
  have hleft : ∀ other ∈ d.pendingFinishes.erase finish, ∃ t ∈ d.sessionTasks,
      t.attempt = other.attempt ∧ t.completed = true := fun other hmem =>
    h.finishing other (List.mem_of_mem_erase hmem)
  unfold DownloadTaskImpl.finishCompletes
  by_cases hwriter : finish.writer = d.attempt
  · simp only [if_pos hwriter]
    have hanswered : ({ d.modifyWriter (Writer.finish · errorCode) with
        pendingFinishes := d.pendingFinishes.erase finish } : DownloadTaskImpl).Inv :=
      ⟨h.url, h.ordered, h.bounded, h.asked, h.waiting, h.running, hleft⟩
    exact hanswered.onDownloadFinished ht (heq.trans hattempt) hdone errorCode
  · simp only [if_neg hwriter]
    have hanswered : ({ d with
        pendingFinishes := d.pendingFinishes.erase finish } : DownloadTaskImpl).Inv :=
      ⟨h.url, h.ordered, h.bounded, h.asked, h.waiting, h.running, hleft⟩
    exact hanswered.onDownloadFinished ht (heq.trans hattempt) hdone errorCode

theorem writeCompletes_other (hurl : d.originalUrl = .other) (attempt : Nat)
    (written finished : Int) : d.writeCompletes attempt written finished =
      if attempt ≠ d.attempt then d else d.modifyWriter (Writer.writeCompletes · written) := by
  unfold writeCompletes
  simp only [hurl]

theorem IsOpen.exists {task : Nat} (h : d.IsOpen task) :
    ∃ t, d.sessionTasks[task]? = some t := by
  obtain ⟨t, hget, _⟩ := Option.map_eq_some_iff.1 h
  exact ⟨t, hget⟩

theorem Inv.step (h : d.Inv) {event : DownloadEvent} (hpre : d.Pre event)
    (hcurrent : d.Current event) : (d.step event).Inv := by
  -- the blocks that only write or update see no member of the invariant
  have hmembers : ∀ {d' : DownloadTaskImpl}, d'.originalUrl = d.originalUrl →
      d'.sessionTasks = d.sessionTasks → d'.attempt = d.attempt →
      d'.pendingCookies = d.pendingCookies → d'.state = d.state →
      d'.sessionTask = d.sessionTask → d'.pendingFinishes = d.pendingFinishes → d'.Inv := by
    intro d' hurl htasks hattempt hcookies hstate htask hfinishes
    obtain ⟨h₁, h₂, h₃, h₄, h₅, h₆, h₇⟩ := h
    rw [← htasks] at h₂ h₃ h₄ h₆ h₇
    rw [← hattempt] at h₃ h₄ h₅ h₆
    rw [← hcookies] at h₄ h₅
    rw [← hstate] at h₅ h₆
    rw [← htask] at h₆
    rw [← hfinishes] at h₇
    exact ⟨hurl.trans h₁, h₂, h₃, h₄, h₅, h₆, h₇⟩
  cases event with
  | start isFile written finished => exact h.start hpre isFile written finished
  | cancel => exact h.cancel
  | shutDown => exact h.shutDown
  | cookies attempt =>
    obtain ⟨rfl, hstate⟩ := hcurrent
    exact h.startWithCookies hpre hstate
  | data task chunk written => exact hmembers rfl rfl rfl rfl rfl rfl rfl
  | properties task p => exact hmembers rfl rfl rfl rfl rfl rfl rfl
  | completion task p error finished =>
    obtain ⟨t, hget⟩ := hpre.1.exists
    have hattempt := hcurrent.1
    show (d.didComplete task (d.attemptOf task) p error finished).Inv
    rw [attemptOf_eq hget] at hattempt ⊢
    exact h.didComplete hget hattempt p error finished
  | writeCompletes attempt written finished =>
    show (d.writeCompletes attempt written finished).Inv
    rw [writeCompletes_other h.url]
    split_ifs
    · exact h
    · exact hmembers rfl rfl rfl rfl rfl rfl rfl
  | finishCompletes finish errorCode => exact h.finishCompletes hpre hcurrent.1 errorCode

/-! ## Runs -/

theorem finishWriter_state {attempt : Nat} {errorCode finished : Int}
    (hpending : finished = errIOPending) :
    (d.finishWriter attempt errorCode finished).state = d.state := by
  unfold finishWriter
  rw [if_pos hpending]

theorem startWithCookies_state (attempt : Nat) : (d.startWithCookies attempt).state = d.state := by
  unfold startWithCookies
  split_ifs <;> rfl

/-- `Cancel` and `Start` apart, only the completion of a session task changes the state. -/
theorem step_state (hurl : d.originalUrl = .other) {event : DownloadEvent}
    (hstart : ¬ event.IsStart) (hcancel : event ≠ .cancel) :
    (d.step event).state = d.state ∨
      (∃ task p error finished, event = .completion task p error finished ∧
        finished ≠ errIOPending) ∨
      ∃ finish errorCode, event = .finishCompletes finish errorCode := by
  cases event with
  | start isFile written finished => exact absurd trivial hstart
  | cancel => exact absurd rfl hcancel
  | shutDown => exact .inl (cancelSessionTask_frame d).1
  | cookies attempt => exact .inl (startWithCookies_state attempt)
  | data task chunk written => exact .inl rfl
  | properties task p => exact .inl rfl
  | completion task p error finished =>
    by_cases hpending : finished = errIOPending
    · exact .inl (finishWriter_state hpending)
    · exact .inr (.inl ⟨task, p, error, finished, rfl, hpending⟩)
  | writeCompletes attempt written finished =>
    refine .inl ?_
    show (d.writeCompletes attempt written finished).state = d.state
    rw [writeCompletes_other hurl]
    split_ifs <;> rfl
  | finishCompletes finish errorCode => exact .inr (.inr ⟨finish, errorCode, rfl⟩)

theorem Inv.separate (h : d.Inv) {event : DownloadEvent} (hpre : d.Pre event)
    (hcurrent : d.Current event) : d.Separate event where
  cancels := by
    rintro rfl
    rfl
  stays := by
    intro hcanceled hstart
    by_cases hcancel : event = .cancel
    · rw [hcancel]
      rfl
    · rcases step_state h.url hstart hcancel with
        hsame | ⟨task, p, error, finished, rfl, hdone⟩ | ⟨finish, errorCode, rfl⟩
      · exact hsame.trans hcanceled
      · exact absurd (hcurrent.2 hcanceled) hdone
      · exact absurd hcanceled hcurrent.2
  quiet := by
    intro hcanceled
    refine (h.step hpre hcurrent).quiet fun hinProgress => ?_
    exact nomatch hcanceled.symm.trans hinProgress
  earlier := by
    intro attempt hof hearlier
    have hother : attempt ≠ d.attempt := Nat.ne_of_lt hearlier
    cases event with
    | start isFile written finished => exact nomatch hof
    | cancel => exact nomatch hof
    | shutDown => exact nomatch hof
    | cookies asked => exact absurd ((Option.some.inj hof).symm.trans hcurrent.1) hother
    | data task chunk written => exact absurd ((Option.some.inj hof).symm.trans hcurrent) hother
    | properties task p => exact absurd ((Option.some.inj hof).symm.trans hcurrent) hother
    | completion task p error finished =>
      exact absurd ((Option.some.inj hof).symm.trans hcurrent.1) hother
    | writeCompletes answered written finished =>
      -- the answer is for a writer that the task no longer has
      obtain rfl := Option.some.inj hof
      have hsame : d.writeCompletes answered written finished = d := by
        rw [writeCompletes_other h.url, if_pos hother]
      show (d.writeCompletes answered written finished).state = d.state ∧ _
      have hstep : d.step (.writeCompletes answered written finished) = d := hsame
      rw [hsame, hstep]
      exact ⟨rfl, rfl, rfl, rfl⟩
    | finishCompletes finish errorCode =>
      exact absurd ((Option.some.inj hof).symm.trans hcurrent.1) hother
  completes := by
    intro hcomplete hbefore
    by_cases hstart : event.IsStart
    · cases event with
      | start isFile written finished =>
        have hstate : (d.start isFile written finished).state = .inProgress := by
          rw [start_other h.url]
        exact nomatch hstate.symm.trans hcomplete
      | _ => exact absurd hstart id
    · by_cases hcancel : event = .cancel
      · rw [hcancel] at hcomplete
        exact nomatch hcomplete
      · rcases step_state h.url hstart hcancel with
          hsame | ⟨task, p, error, finished, rfl, hdone⟩ | ⟨finish, errorCode, rfl⟩
        · exact absurd (hsame.symm.trans hcomplete) hbefore
        · obtain ⟨t, hget⟩ := hpre.1.exists
          exact ⟨task, h.last hget ((attemptOf_eq hget).symm.trans hcurrent.1), rfl⟩
        · obtain ⟨t, ht, heq, hdone⟩ := h.finishing finish hpre
          obtain ⟨task, hget⟩ := List.mem_iff_getElem?.1 ht
          refine ⟨task, h.last hget (heq.trans hcurrent.1), ?_, ?_⟩
          · rw [attemptOf_eq hget, heq]
          · rw [hget, Option.map_some, hdone]

/-- **As long as nothing comes back for a start that is over, the starts of a task are
separate.** -/
theorem attempts_separate {totalBytes : Int} {mimeType : String} {events : List DownloadEvent}
    (hrun : downloadMachine.Run (create .other totalBytes mimeType) events)
    (hcurrent : downloadMachine.Always Current (create .other totalBytes mimeType) events) :
    downloadMachine.Always Separate (create .other totalBytes mimeType) events :=
  Machine.Guarded.always_of_invariant (I := Inv)
    (fun _ _ hinv hpre hcond => Inv.step hinv hpre hcond)
    (fun _ _ hinv hpre hcond => Inv.separate hinv hpre hcond)
    (create_inv totalBytes mimeType) hrun hcurrent

instance (d : DownloadTaskImpl) : ∀ event, Decidable (d.Current event)
  | .cookies _ => inferInstanceAs (Decidable (_ ∧ _))
  | .data .. => inferInstanceAs (Decidable (_ = _))
  | .properties .. => inferInstanceAs (Decidable (_ = _))
  | .completion .. => inferInstanceAs (Decidable (_ ∧ _))
  | .finishCompletes .. => inferInstanceAs (Decidable (_ ∧ _))
  | .writeCompletes .. | .start .. | .cancel | .shutDown => inferInstanceAs (Decidable True)

/-- What the session tells of a download of four bytes. -/
def fourBytes : TaskProperties :=
  { countOfBytesReceived := 4, countOfBytesExpectedToReceive := 4, mimeType := none,
    statusCode := some 200 }

/-- A download that fails, and is started again and completed. -/
def startedAgain : List DownloadEvent :=
  [.start true 0 0, .cookies 1, .data 0 [1, 2] 2, .properties 0 fourBytes,
    .completion 0 fourBytes (some none) 0, .start true 0 0, .cookies 2,
    .data 1 [1, 2, 3, 4] errIOPending, .writeCompletes 2 4 0,
    .completion 1 fourBytes none errIOPending, .finishCompletes ⟨2, 2⟩ 0, .cancel]

theorem attempts_separate_startedAgain :
    downloadMachine.Always Separate (create .other (-1) "") startedAgain :=
  attempts_separate (by decide) (by decide)

/-- `Cancel` while the session task is under way: it is canceled, and its completion makes
the task a complete one. -/
theorem canceledTask_completes :
    ¬ ∀ events : List DownloadEvent, downloadMachine.Run (create .other (-1) "") events →
      downloadMachine.Always Separate (create .other (-1) "") events := by
  intro hall
  have hseparate := hall [.start true 0 0, .cookies 1, .cancel,
    .completion 0 fourBytes (some (some (-3))) 0] (by decide)
  have hstays := hseparate.2.2.2.1.stays rfl id
  exact absurd hstays (by decide)

end DownloadTaskImpl

end IosChrome.Downloads

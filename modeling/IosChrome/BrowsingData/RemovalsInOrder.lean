import Mathlib.Data.List.Count
import Mathlib.Data.List.Range
import IosChrome.BrowsingData.BrowsingDataRemover
import IosChrome.Lib.EventLog

/-!
# Removals run one at a time, and each is reported once

`Sound` is what the remover promises at any time. `Live` carries it while the
remover has not been shut down: the number of removals that are done, whether the
next one runs, the closures of that one and no others, as many as the counter
says. A removal that is starting sub-removals holds its own closure
(`Starting`), so the counter stays above zero until `RemoveImpl` returns, however
many of them complete at once. After `Shutdown` no weak pointer is valid, and
what is still called does nothing (`Stopped`).
-/

namespace IosChrome.BrowsingData

open IosChrome.Lib

/-! ## The promise -/

def RemovalEvent.isBoundary : RemovalEvent → Bool
  | .started _ => true
  | .completed _ => true
  | .requested _ _ => false
  | .subStarted _ _ => false
  | .subCompleted _ _ => false
  | .posted _ => false

/-- The first removals asked for, one after the other. -/
def oneByOne (done : Nat) : List RemovalEvent :=
  (List.range done).flatMap fun request => [.started request, .completed request]

def PostedTask.isRunNextTask : PostedTask → Bool
  | .runNextTask _ => true
  | .callback _ => false
  | .notifyBrowsingDataRemoved _ _ => false

def RemovalTask.hasCallback (request : Nat) (task : RemovalTask) : Bool :=
  task.request = request && task.callback

def CompletionClosure.belongsTo (request : Nat) (sub : Option SubRemoval)
    (closure : CompletionClosure) : Bool :=
  closure.request = request && closure.sub = sub

namespace RemoverRun

structure Sound (s : RemoverRun) : Prop where
  removing : s.isRemoving = true ↔ s.removalQueue ≠ []
  inOrder : ∃ done, s.log.filter RemovalEvent.isBoundary = oneByOne done ∨
    s.log.filter RemovalEvent.isBoundary = oneByOne done ++ [.started done]
  /-- A removal that is declared complete has no sub-removal under way. -/
  completed : ∀ request, WhenLogged s.log (.completed request) fun before =>
    ∀ sub, before.count (.subStarted request sub) = before.count (.subCompleted request sub)
  /-- Nor does it start one later. -/
  subStarted : ∀ request sub, WhenLogged s.log (.subStarted request sub) fun before =>
    .completed request ∉ before
  posted : ∀ request, s.log.count (.posted request) =
    if .requested request true ∈ s.log ∧ ∀ task ∈ s.removalQueue, task.request ≠ request
    then 1 else 0
  /-- After `Shutdown`, the closures that are still called change nothing. -/
  stopped : s.browserState = none → s.removalQueue = [] ∧ ∀ closure,
    (s.complete closure).toBrowsingDataRemoverImpl = s.toBrowsingDataRemoverImpl ∧
    (s.complete closure).tasks = s.tasks

end RemoverRun

/-! ## The history of a run -/

/-- What holds of the history at any time, with the removals that are queued and the
number of those asked for. -/
structure Books (log : List RemovalEvent) (queue : List RemovalTask) (requests : Nat) :
    Prop where
  completed : ∀ request, WhenLogged log (.completed request) fun before =>
    ∀ sub, before.count (.subStarted request sub) = before.count (.subCompleted request sub)
  subStarted : ∀ request sub, WhenLogged log (.subStarted request sub) fun before =>
    .completed request ∉ before
  /-- A callback is posted, or its removal is queued. -/
  posted : ∀ request, log.count (.posted request) +
    queue.countP (RemovalTask.hasCallback request) = log.count (.requested request true)
  requested : ∀ request, log.count (.requested request true) ≤ if request < requests then 1 else 0
  queued : ∀ task ∈ queue, task.request < requests
  asked : ∀ task ∈ queue, task.callback = false → .requested task.request true ∉ log

namespace Books

variable {log : List RemovalEvent} {queue : List RemovalTask} {requests : Nat}

/-- An event that says nothing about completions, requests and callbacks. -/
theorem concat (h : Books log queue requests) {event : RemovalEvent}
    (hcompleted : ∀ request, event ≠ .completed request)
    (hsub : ∀ request sub, event = .subStarted request sub → .completed request ∉ log)
    (hposted : ∀ request, event ≠ .posted request)
    (hrequested : ∀ request, event ≠ .requested request true) :
    Books (log ++ [event]) queue requests where
  completed := fun request => (h.completed request).concat_of_ne (hcompleted request)
  subStarted := by
    intro request sub
    by_cases heq : event = .subStarted request sub
    · rw [heq]
      exact (h.subStarted request sub).concat (hsub request sub heq)
    · exact (h.subStarted request sub).concat_of_ne heq
  posted := by
    intro request
    rw [List.count_append, List.count_append, List.count_eq_zero.2 fun hmem =>
        hposted request (List.mem_singleton.1 hmem).symm,
      List.count_eq_zero.2 fun hmem => hrequested request (List.mem_singleton.1 hmem).symm]
    exact h.posted request
  requested := by
    intro request
    rw [List.count_append, List.count_eq_zero.2 fun hmem =>
      hrequested request (List.mem_singleton.1 hmem).symm]
    exact h.requested request
  queued := h.queued
  asked := by
    intro task htask hcallback hmem
    rcases List.mem_append.1 hmem with hold | hlast
    · exact h.asked task htask hcallback hold
    · exact hrequested _ (List.mem_singleton.1 hlast).symm

theorem complete (h : Books log queue requests) {request : Nat}
    (hsubs : ∀ sub, log.count (.subStarted request sub) = log.count (.subCompleted request sub)) :
    Books (log ++ [.completed request]) queue requests where
  completed := by
    intro other
    by_cases heq : other = request
    · rw [heq]
      exact (h.completed request).concat hsubs
    · exact (h.completed other).concat_of_ne fun hsame =>
        heq (RemovalEvent.completed.inj hsame).symm
  subStarted := fun other sub => (h.subStarted other sub).concat_of_ne fun hsame => nomatch hsame
  posted := by
    intro other
    rw [List.count_append, List.count_append]
    exact h.posted other
  requested := by
    intro other
    rw [List.count_append]
    exact h.requested other
  queued := h.queued
  asked := by
    intro task htask hcallback hmem
    rcases List.mem_append.1 hmem with hold | hlast
    · exact h.asked task htask hcallback hold
    · exact nomatch List.mem_singleton.1 hlast

/-- A removal leaves the queue, and its callback is posted. -/
theorem leave {task : RemovalTask} (h : Books log (task :: queue) requests) :
    Books (log ++ if task.callback then [.posted task.request] else []) queue requests := by
  have hcount : ∀ request, (task :: queue).countP (RemovalTask.hasCallback request) =
      queue.countP (RemovalTask.hasCallback request) +
        if task.request = request ∧ task.callback = true then 1 else 0 := by
    intro request
    rw [List.countP_cons]
    by_cases hsame : task.request = request ∧ task.callback = true
    · rw [if_pos hsame, if_pos (by simp [RemovalTask.hasCallback, hsame])]
    · rw [if_neg hsame, if_neg (by simpa [RemovalTask.hasCallback] using hsame)]
  have hqueued : ∀ other ∈ queue, other.request < requests := fun other hother =>
    h.queued other (List.mem_cons_of_mem task hother)
  cases hcallback : task.callback with
  | false =>
    rw [if_neg Bool.false_ne_true, List.append_nil]
    refine ⟨h.completed, h.subStarted, fun request => ?_, h.requested, hqueued,
      fun other hother => h.asked other (List.mem_cons_of_mem task hother)⟩
    have hsum := h.posted request
    rw [hcount, if_neg (by simp [hcallback])] at hsum
    exact hsum
  | true =>
    rw [if_pos rfl]
    refine ⟨fun request => (h.completed request).concat_of_ne fun hsame => (nomatch hsame),
      fun request sub => (h.subStarted request sub).concat_of_ne fun hsame => (nomatch hsame),
      fun request => ?_, fun request => ?_, hqueued, fun other hother hnull hmem => ?_⟩
    · have hsum := h.posted request
      rw [hcount] at hsum
      rw [List.count_append, List.count_append]
      by_cases hsame : task.request = request
      · rw [if_pos ⟨hsame, hcallback⟩] at hsum
        rw [hsame, List.count_singleton_self]
        show _ + 1 + _ = _ + 0
        omega
      · rw [if_neg fun hboth => hsame hboth.1] at hsum
        rw [List.count_eq_zero.2 fun hmem => hsame
          (RemovalEvent.posted.inj (List.mem_singleton.1 hmem)).symm]
        show _ + 0 + _ = _ + 0
        omega
    · rw [List.count_append]
      exact h.requested request
    · rcases List.mem_append.1 hmem with hold | hlast
      · exact h.asked other (List.mem_cons_of_mem task hother) hnull hold
      · exact nomatch List.mem_singleton.1 hlast

theorem request (h : Books log queue requests) (mask : BrowsingDataRemoveMask)
    (callback : Bool) : Books (log ++ [.requested requests callback])
      (queue ++ [⟨requests, mask, callback⟩]) (requests + 1) := by
  have hnew : log.count (.requested requests true) = 0 := by
    have hle := h.requested requests
    rw [if_neg (Nat.lt_irrefl _)] at hle
    omega
  have hlast : ∀ request, [RemovalEvent.requested requests callback].count
      (.requested request true) = if requests = request ∧ callback = true then 1 else 0 := by
    intro request
    by_cases hsame : requests = request ∧ callback = true
    · rw [if_pos hsame, hsame.1, hsame.2, List.count_singleton_self]
    · rw [if_neg hsame]
      refine List.count_eq_zero.2 fun hmem => hsame ?_
      obtain ⟨hrequest, hcallback⟩ := RemovalEvent.requested.inj (List.mem_singleton.1 hmem)
      exact ⟨hrequest.symm, hcallback.symm⟩
  refine ⟨fun request => (h.completed request).concat_of_ne fun hsame => (nomatch hsame),
    fun request sub => (h.subStarted request sub).concat_of_ne fun hsame => (nomatch hsame),
    fun request => ?_, fun request => ?_, fun task htask => ?_, fun task htask hnull hmem => ?_⟩
  · have hsum := h.posted request
    have hpush : [(⟨requests, mask, callback⟩ : RemovalTask)].countP
        (RemovalTask.hasCallback request) =
          if requests = request ∧ callback = true then 1 else 0 := by
      simp [RemovalTask.hasCallback, List.countP_singleton]
    rw [List.count_append, List.count_append, List.countP_append, hlast, hpush]
    show _ + 0 + _ = _
    omega
  · have hle := h.requested request
    rw [List.count_append, hlast]
    by_cases hsame : requests = request ∧ callback = true
    · rw [if_pos hsame, ← hsame.1, hnew, if_pos (Nat.lt_succ_self _)]
    · rw [if_neg hsame, Nat.add_zero]
      refine Nat.le_trans hle ?_
      split_ifs <;> omega
  · rcases List.mem_append.1 htask with hold | hadded
    · exact Nat.lt_succ_of_lt (h.queued task hold)
    · rw [List.mem_singleton.1 hadded]
      exact Nat.lt_succ_self _
  · rcases List.mem_append.1 htask with hold | hadded
    · have hlt : task.request < requests := h.queued task hold
      rcases List.mem_append.1 hmem with hmem | hmem
      · exact h.asked task hold hnull hmem
      · have hsame := (RemovalEvent.requested.inj (List.mem_singleton.1 hmem)).1
        omega
    · rw [List.mem_singleton.1 hadded] at hnull hmem
      rcases List.mem_append.1 hmem with hmem | hmem
      · exact List.count_eq_zero.1 hnew hmem
      · have hsame := (RemovalEvent.requested.inj (List.mem_singleton.1 hmem)).2
        exact nomatch hsame.trans hnull

end Books

/-! ## The states of the remover -/

theorem completed_mem_oneByOne {done request : Nat} :
    .completed request ∈ oneByOne done ↔ request < done := by
  simp [oneByOne]

theorem oneByOne_succ (done : Nat) :
    oneByOne (done + 1) = oneByOne done ++ [.started done] ++ [.completed done] := by
  simp [oneByOne, List.range_succ]

namespace RemoverRun

/-- The state of a remover that has not been shut down: the removals before `done`
are done, and that one is running or not. -/
structure Live (s : RemoverRun) (done : Nat) (running : Bool) : Prop where
  browser : s.browserState.isSome = true
  removing : s.isRemoving = !s.removalQueue.isEmpty
  queue : ∃ waiting, s.requests = done + waiting ∧
    s.removalQueue.map RemovalTask.request = List.range' done waiting
  busy : running = true → s.removalQueue ≠ []
  idle : running = false → s.inFlight = []
  closures : ∀ closure ∈ s.inFlight,
    closure.request = done ∧ closure.generation = s.weakGeneration
  counted : s.pendingTasksCount = s.inFlight.length
  valid : ∀ generation, .runNextTask generation ∈ s.tasks → generation = s.weakGeneration
  boundaries : s.log.filter RemovalEvent.isBoundary =
    oneByOne done ++ if running then [.started done] else []
  subs : ∀ request sub, s.log.count (.subStarted request sub) =
    s.log.count (.subCompleted request sub) +
      s.inFlight.countP (CompletionClosure.belongsTo request sub)
  books : Books s.log s.removalQueue s.requests

/-- After `Shutdown`. -/
structure Stopped (s : RemoverRun) : Prop where
  browser : s.browserState = none
  removing : s.isRemoving = false
  queue : s.removalQueue = []
  closures : ∀ closure ∈ s.inFlight, closure.generation < s.weakGeneration
  valid : ∀ generation, .runNextTask generation ∈ s.tasks → generation < s.weakGeneration
  boundaries : ∃ done, s.log.filter RemovalEvent.isBoundary = oneByOne done ∨
    s.log.filter RemovalEvent.isBoundary = oneByOne done ++ [.started done]
  books : Books s.log s.removalQueue s.requests

/-- How many tasks are posted that start the next removal. -/
def scheduled (s : RemoverRun) : Nat := s.tasks.countP PostedTask.isRunNextTask

/-- What holds between two calls: the next removal is waited for exactly when one is
queued and none runs. -/
def Inv (s : RemoverRun) : Prop :=
  (∃ done running, s.Live done running ∧
    s.scheduled = if running = false ∧ s.removalQueue ≠ [] then 1 else 0) ∨ s.Stopped

variable {s : RemoverRun} {done : Nat} {running : Bool}

theorem Live.completed_mem (h : s.Live done running) {request : Nat} :
    .completed request ∈ s.log ↔ request < done := by
  have hfilter : .completed request ∈ s.log ↔
      .completed request ∈ s.log.filter RemovalEvent.isBoundary := by
    rw [List.mem_filter]
    exact ⟨fun hmem => ⟨hmem, rfl⟩, fun hmem => hmem.1⟩
  rw [hfilter, h.boundaries, List.mem_append, completed_mem_oneByOne]
  refine ⟨fun hmem => hmem.elim id fun hstarted => ?_, Or.inl⟩
  split_ifs at hstarted
  · exact nomatch List.mem_singleton.1 hstarted
  · exact nomatch hstarted

theorem Live.front (h : s.Live done running) {task : RemovalTask} {rest : List RemovalTask}
    (hqueue : s.removalQueue = task :: rest) : task.request = done ∧
      ∃ waiting, s.requests = done + 1 + waiting ∧
        rest.map RemovalTask.request = List.range' (done + 1) waiting := by
  obtain ⟨waiting, hrequests, hmap⟩ := h.queue
  rw [hqueue, List.map_cons] at hmap
  cases waiting with
  | zero => exact nomatch hmap
  | succ waiting =>
    obtain ⟨hfirst, hrest⟩ := List.cons.inj hmap
    exact ⟨hfirst, waiting, by omega, hrest⟩

/-! ## Closures -/

theorem Live.create (h : s.Live done true) (sub : Option SubRemoval) :
    (s.createPendingTaskCompletionClosure done sub).Live done true where
  browser := h.browser
  removing := h.removing
  queue := h.queue
  busy := h.busy
  idle := fun hidle => nomatch hidle
  closures := by
    intro closure hclosure
    rcases List.mem_append.1 hclosure with hold | hlast
    · exact h.closures closure hold
    · rw [List.mem_singleton.1 hlast]
      exact ⟨rfl, rfl⟩
  counted := by
    show s.pendingTasksCount + 1 = ((s.inFlight ++ [_]).length : Nat)
    rw [List.length_append, h.counted]
    rfl
  valid := h.valid
  boundaries := by
    show (s.log ++ [_]).filter _ = _
    rw [List.filter_append, h.boundaries]
    exact List.append_nil _
  subs := by
    intro request other
    have hsubs := h.subs request other
    show (s.log ++ [_]).count _ = (s.log ++ [_]).count _ + (s.inFlight ++ [_]).countP _
    rw [List.count_append, List.count_append, List.countP_append, hsubs]
    by_cases hsame : done = request ∧ sub = other
    · rw [hsame.1, hsame.2, List.count_singleton_self, List.countP_singleton,
        if_pos (by simp [CompletionClosure.belongsTo])]
      show _ + _ + 1 = _ + 0 + (_ + 1)
      omega
    · have hne : [RemovalEvent.subStarted done sub].count (.subStarted request other) = 0 := by
        refine List.count_eq_zero.2 fun hmem => hsame ?_
        obtain ⟨hrequest, hsub⟩ := RemovalEvent.subStarted.inj (List.mem_singleton.1 hmem)
        exact ⟨hrequest.symm, hsub.symm⟩
      rw [hne, List.countP_singleton,
        if_neg (by simpa [CompletionClosure.belongsTo] using hsame)]
      show _ + _ + 0 = _ + 0 + (_ + 0)
      omega
  books := by
    refine h.books.concat (fun _ hsame => nomatch hsame) ?_ (fun _ hsame => nomatch hsame)
      (fun _ hsame => nomatch hsame)
    intro request other hsame hmem
    have hlt : request < done := h.completed_mem.1 hmem
    have hrequest := (RemovalEvent.subStarted.inj hsame).1
    omega

/-- A closure that has been called. -/
def called (s : RemoverRun) (closure : CompletionClosure) : RemoverRun :=
  { s with
    inFlight := s.inFlight.erase closure,
    log := s.log ++ [.subCompleted closure.request closure.sub] }

theorem complete_of_notMem {closure : CompletionClosure} (h : closure ∉ s.inFlight) :
    s.complete closure = s := if_neg h

theorem Live.complete_eq (h : s.Live done running) {closure : CompletionClosure}
    (hmem : closure ∈ s.inFlight) : s.complete closure = (s.called closure).onTaskComplete := by
  have hvalid : (s.called closure).weakGeneration = closure.generation :=
    (h.closures closure hmem).2.symm
  unfold complete
  rw [if_pos hmem]
  exact if_pos hvalid.symm

theorem Live.subs_called (h : s.Live done running) {closure : CompletionClosure}
    (hmem : closure ∈ s.inFlight) (request : Nat) (sub : Option SubRemoval) :
    (s.called closure).log.count (.subStarted request sub) =
      (s.called closure).log.count (.subCompleted request sub) +
        (s.called closure).inFlight.countP (CompletionClosure.belongsTo request sub) := by
  have hsubs := h.subs request sub
  have hperm := (List.perm_cons_erase hmem).countP_eq (CompletionClosure.belongsTo request sub)
  rw [List.countP_cons] at hperm
  show (s.log ++ [_]).count _ = (s.log ++ [_]).count _ + (s.inFlight.erase closure).countP _
  rw [List.count_append, List.count_append, hsubs, hperm]
  by_cases hsame : closure.request = request ∧ closure.sub = sub
  · rw [hsame.1, hsame.2, List.count_singleton_self,
      if_pos (by simp [CompletionClosure.belongsTo, hsame])]
    show _ + (_ + 1) + 0 = _ + 1 + _
    omega
  · have hne : [RemovalEvent.subCompleted closure.request closure.sub].count
        (.subCompleted request sub) = 0 := by
      refine List.count_eq_zero.2 fun hevent => hsame ?_
      obtain ⟨hrequest, hsub⟩ := RemovalEvent.subCompleted.inj (List.mem_singleton.1 hevent)
      exact ⟨hrequest.symm, hsub.symm⟩
    rw [hne, if_neg (by simpa [CompletionClosure.belongsTo] using hsame)]
    show _ + (_ + 0) + 0 = _ + 0 + _
    omega

theorem Live.books_called (h : s.Live done running) (closure : CompletionClosure) :
    Books (s.called closure).log s.removalQueue s.requests :=
  h.books.concat (fun _ hsame => nomatch hsame) (fun _ _ hsame => nomatch hsame)
    (fun _ hsame => nomatch hsame) (fun _ hsame => nomatch hsame)

theorem boundaries_called (s : RemoverRun) (closure : CompletionClosure) :
    (s.called closure).log.filter RemovalEvent.isBoundary =
      s.log.filter RemovalEvent.isBoundary := by
  show (s.log ++ [_]).filter _ = _
  rw [List.filter_append]
  exact List.append_nil _

/-- While other closures are in flight, a call only counts down. -/
theorem Live.complete_going (h : s.Live done running) {closure : CompletionClosure}
    (hmem : closure ∈ s.inFlight) (hmore : 1 < s.inFlight.length) :
    (s.complete closure).Live done running ∧ (s.complete closure).tasks = s.tasks ∧
      (s.complete closure).weakGeneration = s.weakGeneration ∧
      (s.complete closure).removalQueue = s.removalQueue ∧
      (s.complete closure).inFlight = s.inFlight.erase closure := by
  have hlength : (s.inFlight.erase closure).length + 1 = s.inFlight.length := by
    rw [List.length_erase_of_mem hmem]
    omega
  have hcounted := h.counted
  have hpositive : s.pendingTasksCount - 1 > 0 := by omega
  have hstate : s.complete closure =
      { s.called closure with pendingTasksCount := s.pendingTasksCount - 1 } := by
    rw [h.complete_eq hmem]
    exact if_pos hpositive
  rw [hstate]
  refine ⟨⟨h.browser, h.removing, h.queue, h.busy, fun hidle => ?_, fun other hother => ?_, ?_,
    h.valid, (boundaries_called s closure).trans h.boundaries, h.subs_called hmem,
    h.books_called closure⟩, rfl, rfl, rfl, rfl⟩
  · show s.inFlight.erase closure = []
    rw [h.idle hidle]
    rfl
  · exact h.closures other (List.mem_of_mem_erase hother)
  · show s.pendingTasksCount - 1 = ((s.inFlight.erase closure).length : Nat)
    omega

/-! ## The end of a removal -/

theorem postCallback_eq (s : RemoverRun) (task : RemovalTask) : s.postCallback task =
    { s with
      tasks := s.tasks ++ if task.callback then [.callback task.request] else [],
      log := s.log ++ if task.callback then [.posted task.request] else [] } := by
  unfold postCallback
  cases task.callback with
  | false =>
    rw [if_neg Bool.false_ne_true, if_neg Bool.false_ne_true, if_neg Bool.false_ne_true,
      List.append_nil, List.append_nil]
  | true => rw [if_pos rfl, if_pos rfl, if_pos rfl]

theorem notifyRemovalComplete_eq {task : RemovalTask} {rest : List RemovalTask}
    (hqueue : s.removalQueue = task :: rest) (hremoving : s.isRemoving = true) :
    s.notifyRemovalComplete =
      { s with
        removalQueue := rest,
        isRemoving := !rest.isEmpty,
        tasks := s.tasks ++ (if task.callback then [.callback task.request] else []) ++
          [.notifyBrowsingDataRemoved s.weakGeneration task.mask] ++
          if rest.isEmpty then [] else [.runNextTask s.weakGeneration],
        log := s.log ++ [.completed task.request] ++
          if task.callback then [.posted task.request] else [] } := by
  unfold notifyRemovalComplete
  simp only [hqueue, popRemoval, postCallback_eq]
  cases rest with
  | nil =>
    rw [if_pos List.isEmpty_nil, if_pos List.isEmpty_nil, List.append_nil]
    rfl
  | cons next rest =>
    have hmore : ¬ (next :: rest).isEmpty = true := Bool.false_ne_true
    rw [if_neg hmore, if_neg hmore, hremoving]
    rfl

theorem filter_posted (callback : Bool) (request : Nat) :
    (if callback then [RemovalEvent.posted request] else []).filter RemovalEvent.isBoundary =
      [] := by
  cases callback <;> rfl

theorem runNextTask_mem_callback {tasks : List PostedTask} {callback : Bool}
    {request generation : Nat} : .runNextTask generation ∈
      tasks ++ (if callback then [PostedTask.callback request] else []) ↔
        .runNextTask generation ∈ tasks := by
  rw [List.mem_append]
  refine ⟨fun hmem => hmem.elim id fun hcallback => ?_, Or.inl⟩
  split_ifs at hcallback
  · exact nomatch List.mem_singleton.1 hcallback
  · exact nomatch hcallback

theorem scheduled_callback (tasks : List PostedTask) (callback : Bool) (request : Nat) :
    (tasks ++ if callback then [PostedTask.callback request] else []).countP
      PostedTask.isRunNextTask = tasks.countP PostedTask.isRunNextTask := by
  rw [List.countP_append]
  cases callback <;> rfl

/-- The call of the last closure in flight completes the removal in front, and the
next one is scheduled. -/
theorem Live.complete_last (h : s.Live done true) (hscheduled : s.scheduled = 0)
    {closure : CompletionClosure} (hmem : closure ∈ s.inFlight) (hone : s.inFlight.length = 1) :
    (s.complete closure).Live (done + 1) false ∧ (s.complete closure).scheduled =
      if (s.complete closure).removalQueue ≠ [] then 1 else 0 := by
  obtain ⟨task, rest, hfront⟩ := List.exists_cons_of_ne_nil (h.busy rfl)
  obtain ⟨hrequest, waiting, hwaiting, hrest⟩ := h.front hfront
  have hremoving : s.isRemoving = true := by
    rw [h.removing, hfront]
    rfl
  have hnone : s.inFlight.erase closure = [] := by
    refine List.eq_nil_of_length_eq_zero ?_
    rw [List.length_erase_of_mem hmem]
    omega
  have hcounted := h.counted
  have hzero : s.pendingTasksCount - 1 = 0 := by omega
  have hstate : s.complete closure =
      ({ s.called closure with pendingTasksCount := 0 } : RemoverRun).notifyRemovalComplete := by
    rw [h.complete_eq hmem]
    unfold onTaskComplete
    have hcount : (s.called closure).pendingTasksCount - 1 = 0 := hzero
    rw [hcount]
    exact if_neg (Int.lt_irrefl 0)
  rw [hstate, notifyRemovalComplete_eq (s := { s.called closure with pendingTasksCount := 0 })
    hfront hremoving]
  -- the sub-removals of this removal are all complete, as none is in flight
  have hsubs : ∀ request sub, (s.called closure).log.count (.subStarted request sub) =
      (s.called closure).log.count (.subCompleted request sub) := by
    intro request sub
    have hcalled := h.subs_called hmem request sub
    have hnoClosure : (s.called closure).inFlight = [] := hnone
    rw [hnoClosure] at hcalled
    exact hcalled
  have hbooks : Books ((s.called closure).log ++ [.completed task.request])
      (task :: rest) s.requests :=
    (hfront ▸ h.books_called closure).complete fun sub => hsubs task.request sub
  refine ⟨⟨h.browser, rfl, ⟨waiting, hwaiting, hrest⟩, fun hbusy => (nomatch hbusy),
    fun _ => hnone, fun other hother => ?_, ?_, fun generation hposted => ?_, ?_,
    fun request sub => ?_, hbooks.leave⟩, ?_⟩
  · have hother' : other ∈ s.inFlight.erase closure := hother
    rw [hnone] at hother'
    exact nomatch hother'
  · show (0 : Int) = ((s.inFlight.erase closure).length : Nat)
    rw [hnone]
    rfl
  · rcases List.mem_append.1 hposted with hold | hnext
    · rcases List.mem_append.1 hold with hold | hnotify
      · exact h.valid generation (runNextTask_mem_callback.1 hold)
      · exact nomatch List.mem_singleton.1 hnotify
    · split_ifs at hnext
      · exact nomatch hnext
      · exact PostedTask.runNextTask.inj (List.mem_singleton.1 hnext)
  · show ((s.called closure).log ++ [_] ++ _).filter _ = _
    rw [List.filter_append, List.filter_append, boundaries_called, h.boundaries, filter_posted,
      hrequest, oneByOne_succ, List.append_nil]
    exact (List.append_nil _).symm
  · show ((s.called closure).log ++ [_] ++ _).count _ =
      ((s.called closure).log ++ [_] ++ _).count _ + (s.inFlight.erase closure).countP _
    rw [List.count_append, List.count_append, List.count_append, List.count_append, hsubs, hnone]
    cases task.callback <;> rfl
  · show (s.tasks ++ _ ++ [_] ++ _).countP _ = if rest ≠ [] then 1 else 0
    rw [List.countP_append, List.countP_append, scheduled_callback]
    have hnoTask : s.tasks.countP PostedTask.isRunNextTask = 0 := hscheduled
    rw [hnoTask]
    cases rest <;> rfl

/-! ## The start of a removal -/

/-- `RemoveImpl` is at work: its own closure is in flight. -/
structure Starting (s : RemoverRun) (done : Nat) : Prop where
  live : s.Live done true
  unscheduled : s.scheduled = 0
  ownClosure : ⟨done, none, s.weakGeneration⟩ ∈ s.inFlight

/-- Another closure in flight, and there are two. -/
theorem one_lt_length_of_mem {α : Type} {a b : α} {items : List α} (ha : a ∈ items)
    (hb : b ∈ items) (hne : a ≠ b) : 1 < items.length := by
  match items, ha, hb with
  | [x], ha, hb => exact absurd ((List.mem_singleton.1 ha).trans (List.mem_singleton.1 hb).symm) hne
  | x :: y :: rest, _, _ =>
    show 1 < rest.length + 1 + 1
    omega

/-- A sub-removal that completes while others are being started leaves the removal
running. -/
theorem Starting.complete (h : s.Starting done) (sub : SubRemoval) :
    (s.complete ⟨done, some sub, s.weakGeneration⟩).Starting done := by
  by_cases hmem : ⟨done, some sub, s.weakGeneration⟩ ∈ s.inFlight
  · have hne : (⟨done, none, s.weakGeneration⟩ : CompletionClosure) ≠
        ⟨done, some sub, s.weakGeneration⟩ := fun heq =>
      nomatch (CompletionClosure.mk.inj heq).2.1
    obtain ⟨hlive, htasks, hweak, -, hinFlight⟩ :=
      h.live.complete_going hmem (one_lt_length_of_mem h.ownClosure hmem hne)
    refine ⟨hlive, ?_, ?_⟩
    · unfold scheduled
      rw [htasks]
      exact h.unscheduled
    · rw [hweak, hinFlight]
      exact (List.mem_erase_of_ne hne).2 h.ownClosure
  · rw [complete_of_notMem hmem]
    exact h

theorem Starting.create (h : s.Starting done) (sub : Option SubRemoval) :
    (s.createPendingTaskCompletionClosure done sub).Starting done :=
  ⟨h.live.create sub, h.unscheduled, List.mem_append_left _ h.ownClosure⟩

theorem Starting.foldl {β : Type} {f : RemoverRun → β → RemoverRun}
    (hf : ∀ (s : RemoverRun) b, s.Starting done → (f s b).Starting done) : ∀ (items : List β)
    {s : RemoverRun}, s.Starting done → (items.foldl f s).Starting done := by
  intro items
  induction items with
  | nil =>
    intro s h
    exact h
  | cons b rest ih =>
    intro s h
    exact ih (hf s b h)

theorem Starting.startSubRemoval (env : Environment) (h : s.Starting done) (sub : SubRemoval) :
    (startSubRemoval env done s sub).Starting done :=
  Starting.foldl (fun _ other h => h.complete other) _ (h.create (some sub))

/-- When `RemoveImpl` returns, the removal goes on or is complete. -/
theorem Starting.returns (h : s.Starting done) :
    (s.complete ⟨done, none, s.weakGeneration⟩).Inv := by
  by_cases hone : s.inFlight.length = 1
  · obtain ⟨hlive, hnext⟩ := h.live.complete_last h.unscheduled h.ownClosure hone
    refine Or.inl ⟨done + 1, false, hlive, ?_⟩
    simpa using hnext
  · have hpositive : 0 < s.inFlight.length := List.length_pos_of_mem h.ownClosure
    obtain ⟨hlive, htasks, -⟩ := h.live.complete_going h.ownClosure (by omega)
    refine Or.inl ⟨done, true, hlive, ?_⟩
    unfold scheduled
    rw [htasks, if_neg fun hboth => nomatch hboth.1]
    exact h.unscheduled

theorem Live.removeImpl (h : s.Live done true) (hscheduled : s.scheduled = 0)
    (env : Environment) (mask : BrowsingDataRemoveMask) : (s.removeImpl env done mask).Inv := by
  have hcreated : (s.createPendingTaskCompletionClosure done none).Starting done :=
    ⟨h.create none, hscheduled, List.mem_append_right _ (List.mem_singleton_self _)⟩
  exact (Starting.foldl (fun _ sub h => h.startSubRemoval env sub) _ hcreated).returns

/-- The removal in front is started, as none runs. -/
theorem Live.runNextTask (h : s.Live done false) (hscheduled : s.scheduled = 0)
    (hqueue : s.removalQueue ≠ []) (env : Environment) : (s.runNextTask env).Inv := by
  obtain ⟨task, rest, hfront⟩ := List.exists_cons_of_ne_nil hqueue
  obtain ⟨hrequest, -⟩ := h.front hfront
  have hidle : s.inFlight = [] := h.idle rfl
  unfold RemoverRun.runNextTask
  simp only [hfront]
  rw [hrequest]
  have hstarted : Live { s with log := s.log ++ [.started done] } done true := by
    refine ⟨h.browser, h.removing, h.queue, fun _ => hqueue, fun hbusy => (nomatch hbusy),
      h.closures, h.counted, h.valid, ?_, fun request sub => ?_, ?_⟩
    · show (s.log ++ [_]).filter _ = _
      rw [List.filter_append, h.boundaries, if_neg Bool.false_ne_true, List.append_nil]
      rfl
    · show (s.log ++ [_]).count _ = (s.log ++ [_]).count _ + _
      rw [List.count_append, List.count_append]
      exact h.subs request sub
    · exact h.books.concat (fun _ hsame => nomatch hsame) (fun _ _ hsame => nomatch hsame)
        (fun _ hsame => nomatch hsame) (fun _ hsame => nomatch hsame)
  exact hstarted.removeImpl hscheduled env task.mask

/-! ## The calls -/

/-- A removal is queued behind what is queued already. -/
theorem Live.request (h : s.Live done running) (mask : BrowsingDataRemoveMask)
    (callback : Bool) :
    Live { s with
      isRemoving := true,
      removalQueue := s.removalQueue ++ [⟨s.requests, mask, callback⟩],
      requests := s.requests + 1,
      log := s.log ++ [.requested s.requests callback] } done running where
  browser := h.browser
  removing := by simp
  queue := by
    obtain ⟨waiting, hrequests, hmap⟩ := h.queue
    refine ⟨waiting + 1, by rw [hrequests]; rfl, ?_⟩
    show (s.removalQueue ++ [_]).map _ = _
    rw [List.map_append, hmap, List.range'_concat, hrequests, Nat.one_mul]
    rfl
  busy := fun _ => by simp
  idle := h.idle
  closures := h.closures
  counted := h.counted
  valid := h.valid
  boundaries := by
    show (s.log ++ [_]).filter _ = _
    rw [List.filter_append, h.boundaries]
    exact List.append_nil _
  subs := by
    intro request sub
    show (s.log ++ [_]).count _ = (s.log ++ [_]).count _ + _
    rw [List.count_append, List.count_append]
    exact h.subs request sub
  books := h.books.request mask callback

theorem Inv.remove (h : s.Inv) (hbrowser : s.browserState.isSome = true)
    (mask : BrowsingDataRemoveMask) (callback : Bool) (env : Environment) :
    (s.remove mask callback env).Inv := by
  rcases h with ⟨done, running, hlive, hscheduled⟩ | hstopped
  · have hrequested := hlive.request mask callback
    unfold RemoverRun.remove
    by_cases hempty : s.removalQueue = []
    · -- nothing is queued, so nothing runs
      have hidle : running = false := by
        cases running with
        | false => rfl
        | true => exact absurd hempty (hlive.busy rfl)
      have hone : (s.removalQueue ++ [(⟨s.requests, mask, callback⟩ : RemovalTask)]).length = 1 := by
        rw [hempty]
        rfl
      rw [if_neg fun hboth => hboth.2 hempty] at hscheduled
      rw [if_pos hone]
      rw [hidle] at hrequested
      exact hrequested.runNextTask hscheduled (by simp) env
    · have hmany : ¬ (s.removalQueue ++ [(⟨s.requests, mask, callback⟩ : RemovalTask)]).length = 1 := by
        have hpositive := List.length_pos_iff.2 hempty
        rw [List.length_append, List.length_singleton]
        omega
      have hremoving : s.isRemoving = true := by
        rw [hlive.removing]
        simpa using hempty
      rw [if_neg hmany]
      refine Or.inl ⟨done, running, ?_, ?_⟩
      · rw [← hremoving] at hrequested
        exact hrequested
      · show s.scheduled = if running = false ∧ s.removalQueue ++ [_] ≠ [] then 1 else 0
        rw [hscheduled]
        simp [hempty]
  · rw [hstopped.browser] at hbrowser
    exact nomatch hbrowser

/-- **A closure called after `Shutdown` changes nothing.** -/
theorem Stopped.complete_eq (h : s.Stopped) (closure : CompletionClosure) :
    s.complete closure = s ∨ s.complete closure = s.called closure := by
  by_cases hmem : closure ∈ s.inFlight
  · refine Or.inr ?_
    have hinvalid : ¬ closure.generation = s.weakGeneration := Nat.ne_of_lt (h.closures closure hmem)
    unfold RemoverRun.complete
    rw [if_pos hmem]
    exact if_neg hinvalid
  · exact Or.inl (complete_of_notMem hmem)

theorem Stopped.called (h : s.Stopped) (closure : CompletionClosure) :
    (s.called closure).Stopped where
  browser := h.browser
  removing := h.removing
  queue := h.queue
  closures := fun other hother => h.closures other (List.mem_of_mem_erase hother)
  valid := h.valid
  boundaries := by
    rw [boundaries_called]
    exact h.boundaries
  books := h.books.concat (fun _ hsame => nomatch hsame) (fun _ _ hsame => nomatch hsame)
    (fun _ hsame => nomatch hsame) (fun _ hsame => nomatch hsame)

theorem Inv.complete (h : s.Inv) (closure : CompletionClosure) : (s.complete closure).Inv := by
  rcases h with ⟨done, running, hlive, hscheduled⟩ | hstopped
  · by_cases hmem : closure ∈ s.inFlight
    · cases running with
      | false =>
        rw [hlive.idle rfl] at hmem
        exact nomatch hmem
      | true =>
        rw [if_neg fun hboth => nomatch hboth.1] at hscheduled
        by_cases hone : s.inFlight.length = 1
        · obtain ⟨hnext, hposted⟩ := hlive.complete_last hscheduled hmem hone
          refine Or.inl ⟨done + 1, false, hnext, ?_⟩
          simpa using hposted
        · have hpositive : 0 < s.inFlight.length := List.length_pos_of_mem hmem
          obtain ⟨hgoing, htasks, -⟩ := hlive.complete_going hmem (by omega)
          refine Or.inl ⟨done, true, hgoing, ?_⟩
          unfold scheduled
          rw [htasks, if_neg fun hboth => nomatch hboth.1]
          exact hscheduled
    · rw [complete_of_notMem hmem]
      exact Or.inl ⟨done, running, hlive, hscheduled⟩
  · rcases hstopped.complete_eq closure with hsame | hcalled
    · rw [hsame]
      exact Or.inr hstopped
    · rw [hcalled]
      exact Or.inr (hstopped.called closure)

/-- A posted task that starts no removal is taken off the sequence. -/
theorem Inv.dropTask (h : s.Inv) {task : PostedTask} {rest : List PostedTask}
    (htasks : s.tasks = task :: rest) (hother : task.isRunNextTask = false) :
    Inv { s with tasks := rest } := by
  rcases h with ⟨done, running, hlive, hscheduled⟩ | hstopped
  · refine Or.inl ⟨done, running, ⟨hlive.browser, hlive.removing, hlive.queue, hlive.busy,
      hlive.idle, hlive.closures, hlive.counted, fun generation hmem => ?_, hlive.boundaries,
      hlive.subs, hlive.books⟩, ?_⟩
    · exact hlive.valid generation (htasks ▸ List.mem_cons_of_mem task hmem)
    · rw [← hscheduled]
      unfold scheduled
      rw [htasks, List.countP_cons, if_neg (by rw [hother]; exact Bool.false_ne_true)]
      rfl
  · refine Or.inr ⟨hstopped.browser, hstopped.removing, hstopped.queue, hstopped.closures,
      fun generation hmem => ?_, hstopped.boundaries, hstopped.books⟩
    exact hstopped.valid generation (htasks ▸ List.mem_cons_of_mem task hmem)

theorem Inv.runPostedTask (h : s.Inv) (env : Environment) : (s.runPostedTask env).Inv := by
  unfold RemoverRun.runPostedTask
  cases htasks : s.tasks with
  | nil => exact h
  | cons task rest =>
    cases task with
    | callback request => exact h.dropTask htasks rfl
    | notifyBrowsingDataRemoved generation mask => exact h.dropTask htasks rfl
    | runNextTask generation =>
      have hposted : .runNextTask generation ∈ s.tasks := htasks ▸ List.mem_cons_self
      rcases h with ⟨done, running, hlive, hscheduled⟩ | hstopped
      · have hcount : s.scheduled = rest.countP PostedTask.isRunNextTask + 1 := by
          unfold scheduled
          rw [htasks]
          exact List.countP_cons_of_pos rfl
        have hvalid : generation = s.weakGeneration := hlive.valid generation hposted
        -- the only such task there is, and it was posted as no removal ran
        have hwaits : running = false ∧ s.removalQueue ≠ [] := by
          by_contra hnone
          rw [if_neg hnone] at hscheduled
          omega
        rw [if_pos hwaits] at hscheduled
        obtain ⟨hidle, hqueue⟩ := hwaits
        simp only [if_pos hvalid]
        have hlive' : Live { s with tasks := rest } done false := by
          refine ⟨hlive.browser, hlive.removing, hlive.queue, fun hbusy => (nomatch hbusy),
            fun _ => hlive.idle hidle, hlive.closures, hlive.counted, fun other hmem => ?_,
            hidle ▸ hlive.boundaries, hlive.subs, hlive.books⟩
          exact hlive.valid other (htasks ▸ List.mem_cons_of_mem _ hmem)
        have hnone : scheduled { s with tasks := rest } = 0 := by
          show rest.countP _ = 0
          omega
        exact hlive'.runNextTask hnone hqueue env
      · have hinvalid : ¬ generation = s.weakGeneration :=
          Nat.ne_of_lt (hstopped.valid generation hposted)
        simp only [if_neg hinvalid]
        refine Or.inr ⟨hstopped.browser, hstopped.removing, hstopped.queue, hstopped.closures,
          fun other hmem => ?_, hstopped.boundaries, hstopped.books⟩
        exact hstopped.valid other (htasks ▸ List.mem_cons_of_mem _ hmem)

/-- What the loop of `Shutdown` does to the removals still queued. -/
theorem foldl_postCallback : ∀ (queue : List RemovalTask) {s : RemoverRun},
    Books s.log queue s.requests →
      (queue.foldl postCallback s).toBrowsingDataRemoverImpl = s.toBrowsingDataRemoverImpl ∧
      (queue.foldl postCallback s).inFlight = s.inFlight ∧
      (∀ generation, .runNextTask generation ∈ (queue.foldl postCallback s).tasks →
        .runNextTask generation ∈ s.tasks) ∧
      (queue.foldl postCallback s).log.filter RemovalEvent.isBoundary =
        s.log.filter RemovalEvent.isBoundary ∧
      Books (queue.foldl postCallback s).log [] (queue.foldl postCallback s).requests := by
  intro queue
  induction queue with
  | nil =>
    intro s h
    exact ⟨rfl, rfl, fun _ hmem => hmem, rfl, h⟩
  | cons task rest ih =>
    intro s h
    have hposted : Books (s.postCallback task).log rest (s.postCallback task).requests := by
      rw [postCallback_eq]
      exact h.leave
    obtain ⟨hmembers, hinFlight, htasks, hboundaries, hbooks⟩ := ih hposted
    rw [postCallback_eq] at hmembers hinFlight htasks hboundaries
    rw [List.foldl_cons, postCallback_eq]
    refine ⟨hmembers, hinFlight, fun generation hmem => ?_, hboundaries.trans ?_, ?_⟩
    · exact runNextTask_mem_callback.1 (htasks generation hmem)
    · show (s.log ++ _).filter _ = _
      rw [List.filter_append, filter_posted, List.append_nil]
    · rw [postCallback_eq] at hbooks
      exact hbooks

theorem Live.shutdown (h : s.Live done running) : s.shutdown.Stopped := by
  obtain ⟨hmembers, hinFlight, htasks, hboundaries, hbooks⟩ :=
    foldl_postCallback s.removalQueue (s := { s with
      weakGeneration := s.weakGeneration + 1, browserState := none,
      isRemoving := if s.isRemoving then false else s.isRemoving, removalQueue := [] }) h.books
  have hremoving : (if s.isRemoving then false else s.isRemoving) = false := by
    cases s.isRemoving <;> rfl
  unfold RemoverRun.shutdown
  refine ⟨?_, ?_, ?_, fun closure hmem => ?_, fun generation hmem => ?_, ⟨done, ?_⟩, ?_⟩
  · rw [hmembers]
  · rw [hmembers]
    exact hremoving
  · rw [hmembers]
  · rw [hinFlight] at hmem
    rw [hmembers, (h.closures closure hmem).2]
    exact Nat.lt_succ_self _
  · rw [hmembers, h.valid generation (htasks generation hmem)]
    exact Nat.lt_succ_self _
  · rw [hboundaries]
    show s.log.filter _ = _ ∨ s.log.filter _ = _
    rw [h.boundaries]
    cases running with
    | false => exact Or.inl (List.append_nil _)
    | true => exact Or.inr rfl
  · rw [hmembers]
    exact hbooks

theorem inv_step (h : s.Inv) {call : RemoverCall} (hpre : s.Pre call) : (s.step call).Inv := by
  cases call with
  | remove mask callback env => exact h.remove hpre mask callback env
  | complete closure => exact h.complete closure
  | runPostedTask env => exact h.runPostedTask env
  | shutdown =>
    rcases h with ⟨done, running, hlive, -⟩ | hstopped
    · exact Or.inr hlive.shutdown
    · have hbrowser : s.browserState.isSome = true := hpre
      rw [hstopped.browser] at hbrowser
      exact nomatch hbrowser

theorem start_live (offTheRecord : Bool) : (start offTheRecord).Live 0 false where
  browser := rfl
  removing := rfl
  queue := ⟨0, rfl, rfl⟩
  busy := fun hbusy => nomatch hbusy
  idle := fun _ => rfl
  closures := fun _ hmem => nomatch hmem
  counted := rfl
  valid := fun _ hmem => nomatch hmem
  boundaries := rfl
  subs := fun _ _ => rfl
  books := {
    completed := fun _ => WhenLogged.of_notMem (fun hmem => nomatch hmem)
    subStarted := fun _ _ => WhenLogged.of_notMem (fun hmem => nomatch hmem)
    posted := fun _ => rfl
    requested := fun _ => Nat.zero_le _
    queued := fun _ hmem => nomatch hmem
    asked := fun _ hmem => nomatch hmem }

/-! ## The promise is kept -/

theorem count_posted {log : List RemovalEvent} {queue : List RemovalTask} {requests : Nat}
    (h : Books log queue requests) (request : Nat) : log.count (.posted request) =
      if .requested request true ∈ log ∧ ∀ task ∈ queue, task.request ≠ request
      then 1 else 0 := by
  have hsum := h.posted request
  have hle : log.count (.requested request true) ≤ 1 := by
    refine Nat.le_trans (h.requested request) ?_
    split_ifs <;> omega
  by_cases hasked : .requested request true ∈ log
  · have hpositive : 0 < log.count (.requested request true) := List.count_pos_iff.2 hasked
    by_cases hqueued : ∀ task ∈ queue, task.request ≠ request
    · have hnone : queue.countP (RemovalTask.hasCallback request) = 0 := by
        refine List.countP_eq_zero.2 fun task htask hcallback => hqueued task htask ?_
        unfold RemovalTask.hasCallback at hcallback
        exact of_decide_eq_true (Bool.and_eq_true_iff.1 hcallback).1
      rw [if_pos ⟨hasked, hqueued⟩]
      omega
    · obtain ⟨task, htask, hrequest⟩ : ∃ task ∈ queue, task.request = request := by
        by_contra hnone
        exact hqueued fun task htask hrequest => hnone ⟨task, htask, hrequest⟩
      have hcallback : task.callback = true := by
        cases hnull : task.callback with
        | true => rfl
        | false => exact absurd (hrequest ▸ hasked) (h.asked task htask hnull)
      have hmany : 0 < queue.countP (RemovalTask.hasCallback request) :=
        List.countP_pos_iff.2 ⟨task, htask, by simp [RemovalTask.hasCallback, hrequest, hcallback]⟩
      rw [if_neg fun hboth => hqueued hboth.2]
      omega
  · rw [if_neg fun hboth => hasked hboth.1]
    have hzero := List.count_eq_zero.2 hasked
    omega

theorem Inv.sound (h : s.Inv) : s.Sound := by
  rcases h with ⟨done, running, hlive, -⟩ | hstopped
  · refine ⟨?_, ⟨done, ?_⟩, hlive.books.completed, hlive.books.subStarted,
      count_posted hlive.books, fun hnone => ?_⟩
    · rw [hlive.removing]
      simp
    · rw [hlive.boundaries]
      cases running with
      | false => exact Or.inl (List.append_nil _)
      | true => exact Or.inr rfl
    · have hbrowser := hlive.browser
      rw [hnone] at hbrowser
      exact nomatch hbrowser
  · refine ⟨?_, hstopped.boundaries, hstopped.books.completed, hstopped.books.subStarted,
      count_posted hstopped.books, fun _ => ⟨hstopped.queue, fun closure => ?_⟩⟩
    · rw [hstopped.removing, hstopped.queue]
      simp
    · rcases hstopped.complete_eq closure with hsame | hcalled
      · rw [hsame]
        exact ⟨rfl, rfl⟩
      · rw [hcalled]
        exact ⟨rfl, rfl⟩

/-- **In every state a remover reaches**, removals have run one at a time in the order
they were asked for, each was complete only after its sub-removals, every callback
is posted once as its removal leaves the queue, and `IsRemoving` tells whether
there are any; after `Shutdown`, completions change nothing. -/
theorem removals_sound (h : removerMachine.Reachable s) : s.Sound := by
  refine Inv.sound (Machine.Reachable.invariant (I := Inv) (fun s hinit => ?_)
    (fun s call hinv hpre => inv_step hinv hpre) h)
  obtain ⟨offTheRecord, rfl⟩ := hinit
  exact Or.inl ⟨0, false, start_live offTheRecord, rfl⟩

/-- Two removals, the second asked for while the first runs, and `Shutdown` while
the second runs: cookies complete at once, the rest when called. -/
theorem removals_sound_shutdown :
    let all : Environment :=
      ⟨⟨true, true, true, true, true, true, true⟩, fun _ => [.clearCookies]⟩
    let calls : List RemoverCall := [.remove BrowsingDataRemoveMask.removeCookies true all,
      .remove BrowsingDataRemoveMask.removeCookies true all,
      .complete ⟨0, some .clearSafeBrowsingCookies, 0⟩,
      .complete ⟨0, some .clearNetworkingHistory, 0⟩,
      .complete ⟨0, some .removeDataFromWKWebsiteDataStore, 0⟩,
      .runPostedTask all, .runPostedTask all, .runPostedTask all, .shutdown]
    let s := removerMachine.exec (start false) calls
    s.Sound ∧ s.inFlight = [⟨1, some .clearSafeBrowsingCookies, 0⟩,
      ⟨1, some .clearNetworkingHistory, 0⟩, ⟨1, some .removeDataFromWKWebsiteDataStore, 0⟩] ∧
    s.log.filter (fun event => event.isBoundary) = [.started 0, .completed 0, .started 1] ∧
    s.log.count (.posted 0) = 1 ∧ s.log.count (.posted 1) = 1 := by
  intro all calls s
  refine ⟨removals_sound ⟨start false, calls, ⟨false, rfl⟩, ?_, rfl⟩, by decide +kernel,
    by decide +kernel, by decide +kernel, by decide +kernel⟩
  decide +kernel

end RemoverRun

end IosChrome.BrowsingData

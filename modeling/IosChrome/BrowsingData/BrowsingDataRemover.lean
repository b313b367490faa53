import IosChrome.Lib.Machine

/-!
# The browsing data remover

`BrowsingDataRemoverImpl` queues the removals it is asked for and runs the one
in front. A removal starts a handful of sub-removals, each of which is given a
closure to call when it is done; the removal is complete when a counter of the
closures made and not called yet is back at zero. One more closure is held by
`RemoveImpl` itself and called when it returns, so that sub-removals that finish
at once do not complete a removal that is still starting others.

What a sub-removal deletes is not modelled, only that it is started and that it
completes at most once, at any time from its start on (`complete`).
-/

namespace IosChrome.BrowsingData

open IosChrome.Lib

/-! ## What is removed -/

/-- `BrowsingDataRemoveMask`, a set of bits. -/
abbrev BrowsingDataRemoveMask := BitVec 32

namespace BrowsingDataRemoveMask

def removeCache : BrowsingDataRemoveMask := 1#32 <<< 1
def removeCookies : BrowsingDataRemoveMask := 1#32 <<< 2
def removeDownloads : BrowsingDataRemoveMask := 1#32 <<< 3
def removeFormData : BrowsingDataRemoveMask := 1#32 <<< 4
def removeHistory : BrowsingDataRemoveMask := 1#32 <<< 5
def removePasswords : BrowsingDataRemoveMask := 1#32 <<< 8
def removeBookmarks : BrowsingDataRemoveMask := 1#32 <<< 13
def removeReadingList : BrowsingDataRemoveMask := 1#32 <<< 14

end BrowsingDataRemoveMask

def isRemoveDataMaskSet (mask flag : BrowsingDataRemoveMask) : Bool := mask &&& flag = flag

/-- The sub-removals that report their completion. -/
inductive SubRemoval where
  | deleteAllSessionFiles
  | clearIOSSnapshots
  | clearCookies
  | clearSafeBrowsingCookies
  | deleteLocalAndRemoteHistory
  | clearHostCache
  | keywordsLoaded
  | removeOriginURLs
  | removeLogins
  | removeFormElements
  | clearHttpCache
  | removeExternalFiles
  | removeAllUserBookmarks
  | removeAllUserReadingListItems
  | clearNetworkingHistory
  | removeDataFromWKWebsiteDataStore
  deriving DecidableEq

/-- The services `RemoveImpl` finds, some of which a browser state can lack. -/
structure Services where
  sessionService : Bool
  historyService : Bool
  ioThread : Bool
  /-- There is a keywords model, and it is not loaded. -/
  keywordsLoading : Bool
  webDataService : Bool
  passwordStore : Bool
  externalFileRemover : Bool
  deriving DecidableEq

open BrowsingDataRemoveMask in
/-- The sub-removals `RemoveImpl` starts, in its order. -/
def subRemovals (offTheRecord : Bool) (services : Services) (mask : BrowsingDataRemoveMask) :
    List SubRemoval :=
  let inMask (flag : BrowsingDataRemoveMask) : Bool := isRemoveDataMaskSet mask flag
  let started (condition : Bool) (sub : SubRemoval) : List SubRemoval :=
    if condition then [sub] else []
  started (inMask removeHistory && services.sessionService) .deleteAllSessionFiles ++
  started (inMask removeHistory) .clearIOSSnapshots ++
  started (inMask removeCookies) .clearCookies ++
  started (inMask removeCookies && !offTheRecord) .clearSafeBrowsingCookies ++
  -- off the record, nothing else is saved
  if offTheRecord then []
  else
    started (inMask removeHistory && services.historyService) .deleteLocalAndRemoteHistory ++
    started (inMask removeHistory && services.ioThread) .clearHostCache ++
    started (inMask removeHistory && services.keywordsLoading) .keywordsLoaded ++
    started (inMask removeHistory && services.webDataService) .removeOriginURLs ++
    started (inMask removePasswords && services.passwordStore) .removeLogins ++
    started (inMask removeFormData && services.webDataService) .removeFormElements ++
    started (inMask removeCache) .clearHttpCache ++
    started (inMask removeDownloads && services.externalFileRemover) .removeExternalFiles ++
    started (inMask removeBookmarks) .removeAllUserBookmarks ++
    started (inMask removeReadingList) .removeAllUserReadingListItems ++
    [.clearNetworkingHistory, .removeDataFromWKWebsiteDataStore]

/-! ## The remover -/

/-- A `RemovalTask`. `request` counts the calls of `Remove`; `callback` says whether
the callback is not null. -/
structure RemovalTask where
  request : Nat
  mask : BrowsingDataRemoveMask
  callback : Bool
  deriving DecidableEq

/-- A closure of `CreatePendingTaskCompletionClosure`, with the removal it was made
for, what holds it (`none` for `RemoveImpl` itself) and the generation of its weak
pointer. -/
structure CompletionClosure where
  request : Nat
  sub : Option SubRemoval
  generation : Nat
  deriving DecidableEq

/-- A task posted to the sequence of the remover. -/
inductive PostedTask where
  | callback (request : Nat)
  | notifyBrowsingDataRemoved (generation : Nat) (mask : BrowsingDataRemoveMask)
  | runNextTask (generation : Nat)
  deriving DecidableEq

/-- The members of `BrowsingDataRemoverImpl`. `browserState` tells, while there is one,
whether it is off the record; a weak pointer is valid if it has the generation
`weakGeneration`. -/
structure BrowsingDataRemoverImpl where
  browserState : Option Bool
  isRemoving : Bool
  pendingTasksCount : Int
  removalQueue : List RemovalTask
  weakGeneration : Nat
  deriving DecidableEq

/-- What happens, in order. -/
inductive RemovalEvent where
  | requested (request : Nat) (callback : Bool)
  | started (request : Nat)
  | subStarted (request : Nat) (sub : Option SubRemoval)
  | subCompleted (request : Nat) (sub : Option SubRemoval)
  | completed (request : Nat)
  /-- The callback of the removal is posted. -/
  | posted (request : Nat)
  deriving DecidableEq

/-- The remover with what is around it: the tasks posted and not run yet, the
closures not called yet, and the history. -/
structure RemoverRun extends BrowsingDataRemoverImpl where
  tasks : List PostedTask
  inFlight : List CompletionClosure
  requests : Nat
  log : List RemovalEvent
  deriving DecidableEq

/-- What a run of `RemoveImpl` meets: the services, and the sub-removals that complete
while the given one is being started. -/
structure Environment where
  services : Services
  synchronous : SubRemoval → List SubRemoval

namespace RemoverRun

def postCallback (s : RemoverRun) (task : RemovalTask) : RemoverRun :=
  if task.callback then
    { s with
      tasks := s.tasks ++ [.callback task.request],
      log := s.log ++ [.posted task.request] }
  else s

/-- The front removal leaves the queue; its callback and the observers are told. -/
def popRemoval (s : RemoverRun) (task : RemovalTask) (rest : List RemovalTask) : RemoverRun :=
  let popped : RemoverRun :=
    { s with removalQueue := rest, log := s.log ++ [.completed task.request] }
  let told : RemoverRun := popped.postCallback task
  { told with
    tasks := told.tasks ++ [.notifyBrowsingDataRemoved told.weakGeneration task.mask] }

def notifyRemovalComplete (s : RemoverRun) : RemoverRun :=
  match s.removalQueue with
  | [] => s
  | task :: rest =>
    let s : RemoverRun := s.popRemoval task rest
    if rest.isEmpty then { s with isRemoving := false }
    -- the next removal starts after a yield
    else { s with tasks := s.tasks ++ [.runNextTask s.weakGeneration] }

def onTaskComplete (s : RemoverRun) : RemoverRun :=
  let s : RemoverRun := { s with pendingTasksCount := s.pendingTasksCount - 1 }
  if s.pendingTasksCount > 0 then s else s.notifyRemovalComplete

def createPendingTaskCompletionClosure (s : RemoverRun) (request : Nat)
    (sub : Option SubRemoval) : RemoverRun :=
  { s with
    pendingTasksCount := s.pendingTasksCount + 1,
    inFlight := s.inFlight ++ [⟨request, sub, s.weakGeneration⟩],
    log := s.log ++ [.subStarted request sub] }

/-- A closure is called: it does nothing when its weak pointer is invalid. -/
def complete (s : RemoverRun) (closure : CompletionClosure) : RemoverRun :=
  if closure ∈ s.inFlight then
    let s : RemoverRun := { s with
      inFlight := s.inFlight.erase closure,
      log := s.log ++ [.subCompleted closure.request closure.sub] }
    if closure.generation = s.weakGeneration then s.onTaskComplete else s
  else s

def startSubRemoval (env : Environment) (request : Nat) (s : RemoverRun) (sub : SubRemoval) :
    RemoverRun :=
  (env.synchronous sub).foldl (fun s other => s.complete ⟨request, some other, s.weakGeneration⟩)
    (s.createPendingTaskCompletionClosure request (some sub))

def removeImpl (s : RemoverRun) (env : Environment) (request : Nat)
    (mask : BrowsingDataRemoveMask) : RemoverRun :=
  let s := s.createPendingTaskCompletionClosure request none
  let subs := subRemovals (s.browserState.getD false) env.services mask
  let s := subs.foldl (startSubRemoval env request) s
  -- the scoped closure runs when `RemoveImpl` returns
  s.complete ⟨request, none, s.weakGeneration⟩

def runNextTask (s : RemoverRun) (env : Environment) : RemoverRun :=
  match s.removalQueue with
  | [] => s
  | task :: _ =>
    removeImpl { s with log := s.log ++ [.started task.request] } env task.request task.mask

def remove (s : RemoverRun) (mask : BrowsingDataRemoveMask) (callback : Bool)
    (env : Environment) : RemoverRun :=
  let s : RemoverRun := { s with
    removalQueue := s.removalQueue ++ [⟨s.requests, mask, callback⟩],
    requests := s.requests + 1,
    log := s.log ++ [.requested s.requests callback] }
  if s.removalQueue.length = 1 then runNextTask { s with isRemoving := true } env else s

/-- The sequence runs the task posted first. Client code that a callback runs shows in
the calls it makes. -/
def runPostedTask (s : RemoverRun) (env : Environment) : RemoverRun :=
  match s.tasks with
  | [] => s
  | .callback _ :: rest => { s with tasks := rest }
  | .notifyBrowsingDataRemoved _ _ :: rest => { s with tasks := rest }
  | .runNextTask generation :: rest =>
    if generation = s.weakGeneration then runNextTask { s with tasks := rest } env
    else { s with tasks := rest }

def shutdown (s : RemoverRun) : RemoverRun :=
  let stopped : RemoverRun := { s with
    weakGeneration := s.weakGeneration + 1,
    browserState := none,
    isRemoving := if s.isRemoving then false else s.isRemoving,
    removalQueue := [] }
  s.removalQueue.foldl postCallback stopped

end RemoverRun

/-! ## Runs -/

inductive RemoverCall where
  | remove (mask : BrowsingDataRemoveMask) (callback : Bool) (env : Environment)
  | complete (closure : CompletionClosure)
  | runPostedTask (env : Environment)
  | shutdown

namespace RemoverRun

def step (s : RemoverRun) : RemoverCall → RemoverRun
  | .remove mask callback env => s.remove mask callback env
  | .complete closure => s.complete closure
  | .runPostedTask env => s.runPostedTask env
  | .shutdown => s.shutdown

/-- `Shutdown` is called once, and `Remove` not after it. -/
def Pre (s : RemoverRun) : RemoverCall → Prop
  | .remove _ _ _ => s.browserState.isSome = true
  | .complete _ => True
  | .runPostedTask _ => True
  | .shutdown => s.browserState.isSome = true

instance (s : RemoverRun) (call : RemoverCall) : Decidable (s.Pre call) := by
  unfold Pre
  cases call <;> infer_instance

def start (offTheRecord : Bool) : RemoverRun :=
  { browserState := some offTheRecord, isRemoving := false, pendingTasksCount := 0,
    removalQueue := [], weakGeneration := 0, tasks := [], inFlight := [], requests := 0,
    log := [] }

end RemoverRun

def removerMachine : Machine RemoverRun RemoverCall :=
  { init := fun s => ∃ offTheRecord, s = .start offTheRecord, pre := RemoverRun.Pre,
    step := RemoverRun.step }

instance (s : RemoverRun) (call : RemoverCall) : Decidable (removerMachine.pre s call) :=
  inferInstanceAs (Decidable (s.Pre call))

end IosChrome.BrowsingData

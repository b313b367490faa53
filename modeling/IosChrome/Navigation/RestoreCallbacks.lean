import IosChrome.Lib.Machine
import IosChrome.Navigation.NavigationFrame

/-!
# Restore completion callbacks

While a session is being restored, callbacks are put off until the restore
ends: `UnsafeRestore` registers two, loads in between register themselves, and
clients may register more. `FinalizeSessionRestore` runs them.

`navigationMachine` is the manager under its calls, in any order, with anything
else of it changing in between. `CallbackInv` is what holds as long as no
restore is abandoned: it is kept by each call (`call_inv`) where the call
meets `Kept`, that is where

* `DetachFromWebView` finds no restore in progress: it clears the flag and
  leaves the queue;
* a restore begins with no other in progress and with no list in the web view,
  so that `Restore` does not detach the manager it has just attached and
  restore once more inside itself.

From it, `callbacks_run_once`: callbacks are queued only while a restore is in
progress, and each has run exactly once, in the restore it was registered in,
if that restore is over.
-/

namespace IosChrome.Navigation

open IosChrome.Lib

variable {U D : Type} [UrlLibrary U] [DecidableEq U] [Inhabited D] {env : NavigationEnv U}

/-! ## The machine -/

/-- A call on the manager. `elsewhere` is any change of what is not about
restoring: the web view moves, items are committed, and so on. -/
inductive NavigationCall (U D : Type) where
  | restore (lastCommittedItemIndex : Int) (items : List (NavigationItemImpl U D))
  | unsafeRestore (lastCommittedItemIndex : Int) (items : List (NavigationItemImpl U D))
  | addRestoreCompletionCallback (loads : List (WebLoadParams U))
  | loadURLWithParams (params : WebLoadParams U)
  | onNavigationStarted (url : U)
  | onNavigationItemCommitted
  | restoreSessionFromCache (url : U) (restoredWebView : Option (WebView U D))
  | detachFromWebView
  | elsewhere (other : NavigationManagerImpl U D)

namespace NavigationManagerImpl

/-- The constructor, with a delegate set. -/
def create (delegate : Delegate U D) : NavigationManagerImpl U D where
  delegate := delegate
  transientURLRewriters := []
  pendingItem := none
  pendingItemIndex := -1
  lastCommittedItemIndex := -1
  emptyWindowOpenItem := none
  lastCommittedWebViewItem := none
  webViewCache := ⟨true, [], -1⟩
  isRestoreSessionInProgress := false
  goingToBackForwardListItem := false
  nextPendingUrlShouldSkipSerialization := emptyGURL
  restoredVisibleItem := none
  restoreSessionCompletionCallbacks := []
  ledger := ⟨0, [], []⟩

variable (env)

/-- What a call does. -/
def perform (m : NavigationManagerImpl U D) : NavigationCall U D → NavigationManagerImpl U D
  | .restore last items => m.restore env last items
  | .unsafeRestore last items => m.unsafeRestore env last items
  | .addRestoreCompletionCallback loads => m.addRestoreCompletionCallback env (.client loads)
  | .loadURLWithParams params => m.loadURLWithParams env params
  | .onNavigationStarted url => m.onNavigationStarted env url
  | .onNavigationItemCommitted => m.onNavigationItemCommitted env
  | .restoreSessionFromCache url restoredWebView =>
    m.restoreSessionFromCache env url restoredWebView
  | .detachFromWebView => m.detachFromWebView env
  | .elsewhere other =>
    { other with
      webViewCache := m.webViewCache
      isRestoreSessionInProgress := m.isRestoreSessionInProgress
      restoreSessionCompletionCallbacks := m.restoreSessionCompletionCallbacks
      ledger := m.ledger }

/-- `UnsafeRestore` is called by `Restore`, and elsewhere only attached;
`RestoreSessionFromCache` is called during a restore. -/
def CallAllowed (m : NavigationManagerImpl U D) : NavigationCall U D → Prop
  | .unsafeRestore _ _ => m.isAttachedToWebView = true
  | .restoreSessionFromCache _ _ => m.isRestoreSessionInProgress = true
  | _ => True

def navigationMachine : Machine (NavigationManagerImpl U D) (NavigationCall U D) where
  init m := ∃ delegate, m = create delegate
  pre := CallAllowed
  step := perform env

instance (m : NavigationManagerImpl U D) (call : NavigationCall U D) :
    Decidable ((navigationMachine env).pre m call) :=
  match call with
  | .unsafeRestore _ _ => inferInstanceAs (Decidable (_ = true))
  | .restoreSessionFromCache _ _ => inferInstanceAs (Decidable (_ = true))
  | .restore _ _ => isTrue trivial
  | .addRestoreCompletionCallback _ => isTrue trivial
  | .loadURLWithParams _ => isTrue trivial
  | .onNavigationStarted _ => isTrue trivial
  | .onNavigationItemCommitted => isTrue trivial
  | .detachFromWebView => isTrue trivial
  | .elsewhere _ => isTrue trivial

variable {env}

/-- A load begins no restore, or one that finds no list in the web view. -/
def LoadsCleanly (m : NavigationManagerImpl U D) : Prop :=
  m.isAttachedToWebView = true ∨ m.webViewCache.cachedItems = [] ∨ m.wkItems = []

/-- The call abandons no restore. -/
def Kept (m : NavigationManagerImpl U D) : NavigationCall U D → Prop
  | .restore _ items => items = [] ∨ (m.isRestoreSessionInProgress = false ∧ m.wkItems = [])
  | .unsafeRestore _ _ => m.isRestoreSessionInProgress = false
  | .addRestoreCompletionCallback _ => m.LoadsCleanly
  | .loadURLWithParams _ => m.LoadsCleanly
  | .detachFromWebView => m.isRestoreSessionInProgress = false
  | _ => True

/-! ## What is claimed -/

/-- A registered callback, with the restore it was registered in, has run
exactly once, in that restore. -/
def RanOnce (m : NavigationManagerImpl U D) (record : Nat × Nat) : Prop :=
  m.ledger.executed.filter (fun run => run.1 = record.1) = [record]

/-- The callback waits, once, and has not run. -/
def WaitsOnce (m : NavigationManagerImpl U D) (record : Nat × Nat) : Prop :=
  (m.restoreSessionCompletionCallbacks.filter fun queued => queued.serial = record.1).length = 1 ∧
    m.ledger.executed.filter (fun run => run.1 = record.1) = []

/-- Callbacks wait only during a restore, those of the restore in progress
wait, and all others have run in their own restore. -/
structure CallbacksTracked (m : NavigationManagerImpl U D) : Prop where
  onlyDuringRestore : m.restoreSessionCompletionCallbacks ≠ [] →
    m.isRestoreSessionInProgress = true
  waiting : ∀ record ∈ m.ledger.registered, m.isRestoreSessionInProgress = true →
    record.2 = m.ledger.restores → m.WaitsOnce record
  ran : ∀ record ∈ m.ledger.registered,
    ¬ (m.isRestoreSessionInProgress = true ∧ record.2 = m.ledger.restores) → m.RanOnce record

/-! ## The invariant -/

/-- The queue entered in the ledger. -/
def queueRecords (m : NavigationManagerImpl U D) : List (Nat × Nat) :=
  m.restoreSessionCompletionCallbacks.map fun queued => (queued.serial, m.ledger.restores)

structure CallbackInv (m : NavigationManagerImpl U D) : Prop where
  idle : m.isRestoreSessionInProgress = false → m.restoreSessionCompletionCallbacks = []
  attached : m.isRestoreSessionInProgress = true → m.isAttachedToWebView = true
  ledger : m.ledger.registered = m.ledger.executed ++ m.queueRecords
  serials : m.ledger.registered.map Prod.fst = List.range m.ledger.registered.length
  executed_le : ∀ run ∈ m.ledger.executed, run.2 ≤ m.ledger.restores
  executed_lt : m.isRestoreSessionInProgress = true →
    ∀ run ∈ m.ledger.executed, run.2 < m.ledger.restores

omit [UrlLibrary U] [DecidableEq U] [Inhabited D] in
/-- Records of distinct serial numbers are found by their number. -/
theorem filter_serial {records : List (Nat × Nat)} (h : (records.map Prod.fst).Nodup)
    {record : Nat × Nat} (hmem : record ∈ records) :
    records.filter (fun run => run.1 = record.1) = [record] := by
  induction records with
  | nil => cases hmem
  | cons first records ih =>
    rw [List.map_cons, List.nodup_cons] at h
    rcases List.mem_cons.1 hmem with rfl | hrest
    · have hnone : records.filter (fun run => run.1 = record.1) = [] := by
        rw [List.filter_eq_nil_iff]
        intro run hrun hsame
        apply h.1
        rw [← of_decide_eq_true hsame]
        exact List.mem_map_of_mem hrun
      rw [List.filter_cons_of_pos (by simp), hnone]
    · have hne : first.1 ≠ record.1 := by
        intro hsame
        apply h.1
        rw [hsame]
        exact List.mem_map_of_mem hrest
      rw [List.filter_cons_of_neg (by simpa using hne), ih h.2 hrest]

variable {m : NavigationManagerImpl U D}

omit [UrlLibrary U] [DecidableEq U] [Inhabited D] in
/-- **The invariant gives the claim.** -/
theorem CallbackInv.tracked (h : CallbackInv m) :
    CallbacksTracked m := by
  have hnodup : (m.ledger.registered.map Prod.fst).Nodup := by
    rw [h.serials]
    exact List.nodup_range
  have hsplit : ∀ record ∈ m.ledger.registered,
      m.ledger.executed.filter (fun run => run.1 = record.1) ++
        m.queueRecords.filter (fun run => run.1 = record.1) = [record] := by
    intro record hrecord
    rw [← List.filter_append, ← h.ledger, filter_serial hnodup hrecord]
  constructor
  · intro hqueue
    cases hprogress : m.isRestoreSessionInProgress with
    | true => rfl
    | false => exact absurd (h.idle hprogress) hqueue
  · intro record hrecord hprogress hcurrent
    have hnone : m.ledger.executed.filter (fun run => run.1 = record.1) = [] := by
      rw [List.filter_eq_nil_iff]
      intro run hrun hsame
      have hlt := h.executed_lt hprogress run hrun
      have hone := hsplit record hrecord
      have hfound : run ∈ [record] := by
        rw [← hone]
        exact List.mem_append_left _ (List.mem_filter.2 ⟨hrun, hsame⟩)
      rw [List.mem_singleton.1 hfound] at hlt
      omega
    refine ⟨?_, hnone⟩
    have hone := hsplit record hrecord
    rw [hnone, List.nil_append] at hone
    have hlength := congrArg List.length hone
    unfold queueRecords at hlength
    rw [List.filter_map, List.length_map] at hlength
    exact hlength
  · intro record hrecord hover
    have hone := hsplit record hrecord
    have hnone : m.queueRecords.filter (fun run => run.1 = record.1) = [] := by
      rw [List.filter_eq_nil_iff]
      intro run hrun hsame
      have hfound : run ∈ [record] := by
        rw [← hone]
        exact List.mem_append_right _ (List.mem_filter.2 ⟨hrun, hsame⟩)
      obtain ⟨queued, hqueued, rfl⟩ := List.mem_map.1 hrun
      apply hover
      refine ⟨?_, ?_⟩
      · cases hprogress : m.isRestoreSessionInProgress with
        | true => rfl
        | false =>
          rw [h.idle hprogress] at hqueued
          cases hqueued
      · rw [← List.mem_singleton.1 hfound]
    unfold RanOnce
    rw [hnone, List.append_nil] at hone
    exact hone

/-! ## What the operations do to the queue -/

/-- The restore and its queue stay, and the manager is attached. -/
structure Loaded (m m' : NavigationManagerImpl U D) : Prop where
  inProgress : m'.isRestoreSessionInProgress = m.isRestoreSessionInProgress
  callbacks : m'.restoreSessionCompletionCallbacks = m.restoreSessionCompletionCallbacks
  ledger : m'.ledger = m.ledger
  attached : m'.isAttachedToWebView = true

/-- A restore has begun, and two callbacks are registered in it. -/
structure Began (m m' : NavigationManagerImpl U D) : Prop where
  inProgress : m'.isRestoreSessionInProgress = true
  attached : m'.isAttachedToWebView = true
  callbacks : ∃ back forward, m'.restoreSessionCompletionCallbacks =
    m.restoreSessionCompletionCallbacks ++
      [⟨m.ledger.registered.length, back⟩, ⟨m.ledger.registered.length + 1, forward⟩]
  ledger : m'.ledger =
    { restores := m.ledger.restores + 1
      registered := m.ledger.registered ++
        [(m.ledger.registered.length, m.ledger.restores + 1),
         (m.ledger.registered.length + 1, m.ledger.restores + 1)]
      executed := m.ledger.executed }

omit [UrlLibrary U] [DecidableEq U] [Inhabited D] in
theorem Frame.loaded {m m' : NavigationManagerImpl U D} (h : Frame m m')
    (hattached : m.isAttachedToWebView = true) : Loaded m m' :=
  ⟨h.inProgress, h.callbacks, h.ledger, h.attached.trans hattached⟩

omit [UrlLibrary U] [DecidableEq U] [Inhabited D] in
theorem Loaded.trans {m₁ m₂ m₃ : NavigationManagerImpl U D} (h : Loaded m₁ m₂)
    (h' : Loaded m₂ m₃) : Loaded m₁ m₃ :=
  ⟨h'.inProgress.trans h.inProgress, h'.callbacks.trans h.callbacks, h'.ledger.trans h.ledger,
    h'.attached⟩

omit [UrlLibrary U] [DecidableEq U] [Inhabited D] in
/-- Nothing of the invariant changes. -/
theorem CallbackInv.loaded {m m' : NavigationManagerImpl U D} (h : CallbackInv m)
    (hl : Loaded m m') : CallbackInv m' := by
  have hrecords : m'.queueRecords = m.queueRecords := by
    unfold queueRecords
    rw [hl.callbacks, hl.ledger]
  constructor
  · rw [hl.inProgress, hl.callbacks]
    exact h.idle
  · intro _
    exact hl.attached
  · rw [hl.ledger, hrecords]
    exact h.ledger
  · rw [hl.ledger]
    exact h.serials
  · rw [hl.ledger]
    exact h.executed_le
  · rw [hl.inProgress, hl.ledger]
    exact h.executed_lt

omit [UrlLibrary U] [DecidableEq U] [Inhabited D] in
/-- A restore that begins with none in progress. -/
theorem CallbackInv.began {m m' : NavigationManagerImpl U D} (h : CallbackInv m)
    (hidle : m.isRestoreSessionInProgress = false) (hb : Began m m') : CallbackInv m' := by
  obtain ⟨back, forward, hcallbacks⟩ := hb.callbacks
  rw [h.idle hidle, List.nil_append] at hcallbacks
  have hexecuted : m.ledger.registered = m.ledger.executed := by
    rw [h.ledger]
    unfold queueRecords
    rw [h.idle hidle, List.map_nil, List.append_nil]
  constructor
  · intro hnot
    rw [hb.inProgress] at hnot
    cases hnot
  · intro _
    exact hb.attached
  · unfold queueRecords
    rw [hb.ledger, hcallbacks, ← hexecuted]
    rfl
  · rw [hb.ledger]
    show (m.ledger.registered ++ _).map Prod.fst = List.range (m.ledger.registered ++ _).length
    rw [List.map_append, h.serials, List.length_append]
    show _ = List.range (m.ledger.registered.length + 1 + 1)
    rw [List.range_succ, List.range_succ, List.append_assoc]
    rfl
  · rw [hb.ledger]
    intro run hrun
    exact Nat.le_succ_of_le (h.executed_le run hrun)
  · rw [hb.ledger]
    intro _ run hrun
    exact Nat.lt_succ_of_le (h.executed_le run hrun)

omit [UrlLibrary U] [DecidableEq U] [Inhabited D] in
/-- A callback registered during a restore. -/
theorem CallbackInv.queueCallback (h : CallbackInv m)
    (hprogress : m.isRestoreSessionInProgress = true) (callback : RestoreCompletionCallback U D) :
    CallbackInv (m.queueCallback callback) := by
  constructor
  · intro hnot
    rw [show (m.queueCallback callback).isRestoreSessionInProgress = true from hprogress] at hnot
    cases hnot
  · exact h.attached
  · show m.ledger.registered ++ _ = m.ledger.executed ++ List.map _ (_ ++ [_])
    rw [h.ledger, List.map_append, List.append_assoc]
    rfl
  · show (m.ledger.registered ++ _).map Prod.fst = List.range (m.ledger.registered ++ _).length
    rw [List.map_append, h.serials, List.length_append]
    show _ = List.range (m.ledger.registered.length + 1)
    rw [List.range_succ]
    rfl
  · exact h.executed_le
  · exact h.executed_lt

/-! ## Loading and restoring -/

variable (env) in
/-- A load that starts no restore: on an attached manager, or on a detached one
without items. -/
theorem loadURLWithParams_loaded (params : WebLoadParams U)
    (hnow : m.isRestoreSessionInProgress = false ∨ isRestoreSessionUrl params.url = true)
    (hmode : m.isAttachedToWebView = true ∨ m.webViewCache.cachedItems = []) :
    Loaded m (m.loadURLWithParams env params) := by
  have hframe := prepareLoad_frame env m params
  cases hattached : m.isAttachedToWebView with
  | true =>
    rw [loadURLWithParams_attached hnow hattached]
    exact (hframe.trans (loadCurrentItem_frame _ params)).loaded hattached
  | false =>
    have hcached : m.webViewCache.cachedItems = [] := by
      rcases hmode with h | h
      · rw [h] at hattached
        cases hattached
      · exact h
    have hreset : Loaded m ((m.prepareLoad env params).resetToAttached.loadCurrentItem params) :=
      ⟨hframe.inProgress, hframe.callbacks, hframe.ledger, rfl⟩
    rw [loadURLWithParams_detached hnow hattached, hcached]
    split
    · exact hreset
    · exact hreset

omit [Inhabited D] in
theorem restoreParams_url [LawfulUrlLibrary U] (last : Int)
    (items : List (NavigationItemImpl U D)) :
    isRestoreSessionUrl (restoreParams env last items).url = true :=
  isRestoreSessionUrl_replaceRef _

/-- **`UnsafeRestore` begins a restore.** -/
theorem unsafeRestore_began [LawfulUrlLibrary U]
    (hmode : m.isAttachedToWebView = true ∨ m.webViewCache.cachedItems = []) (last : Int)
    (items : List (NavigationItemImpl U D)) : Began m (m.unsafeRestore env last items) := by
  unfold unsafeRestore unsafeRestoreStep
  simp only
  generalize items.map (fun item => item.rewriteURLIfNecessary env.client) = rewritten
  have hload := loadURLWithParams_loaded env (m := m.beginRestore last rewritten)
    (restoreParams env last rewritten) (.inr (restoreParams_url last rewritten)) hmode
  have hprime := hload.trans ((primeTitle_frame env _ last rewritten).loaded hload.attached)
  refine ⟨hprime.inProgress, hprime.attached, ?_, ?_⟩
  · rw [hprime.callbacks]
    refine ⟨.restoreItemsState .backList (rewritten.take last.toNat),
      .restoreItemsState .forwardList (rewritten.drop (last + 1).toNat), ?_⟩
    unfold beginRestore NavigationManagerImpl.queueCallback
    simp only [List.append_assoc, List.length_append, List.length_singleton]
    rfl
  · rw [hprime.ledger]
    unfold beginRestore NavigationManagerImpl.queueCallback
    simp only [List.append_assoc, List.length_append, List.length_singleton]
    rfl

variable (env) in
/-- **`Restore` begins a restore**, where the web view has no list. -/
theorem restore_began [LawfulUrlLibrary U] (last : Int) {items : List (NavigationItemImpl U D)}
    (hitems : items ≠ []) (hlist : m.wkItems = []) :
    Began m (m.restore env last items) := by
  rw [restore_eq, if_neg (by simpa using hitems)]
  have hsame : ∀ m₀ : NavigationManagerImpl U D,
      m₀.restoreSessionCompletionCallbacks = m.restoreSessionCompletionCallbacks →
      m₀.ledger = m.ledger → Began m₀ (m₀.unsafeRestore env last items) →
      Began m (m₀.unsafeRestore env last items) := by
    intro m₀ hcallbacks hledger hb
    refine ⟨hb.inProgress, hb.attached, ?_, ?_⟩
    · rw [← hcallbacks, ← hledger]
      exact hb.callbacks
    · rw [← hledger]
      exact hb.ledger
  rcases prepareRestore_cases env m with hprep | hprep
  · exact hsame _ hprep.callbacks hprep.ledger (unsafeRestore_began (.inl hprep.attached) last items)
  · have hcached : (m.prepareRestore env).webViewCache.cachedItems = [] := by
      have hcount := hprep.cachedCount
      rw [hlist, List.length_nil] at hcount
      exact List.eq_nil_of_length_eq_zero (Nat.le_zero.1 hcount)
    exact hsame _ hprep.callbacks hprep.ledger (unsafeRestore_began (.inr hcached) last items)

variable (env) in
/-- A load that restores, where the web view has no list. -/
theorem loadURLWithParams_began [LawfulUrlLibrary U] (params : WebLoadParams U)
    (hidle : m.isRestoreSessionInProgress = false) (hdetached : m.isAttachedToWebView = false)
    (hlist : m.wkItems = []) :
    Loaded m (m.loadURLWithParams env params) ∨ Began m (m.loadURLWithParams env params) := by
  have hframe := prepareLoad_frame env m params
  have hreset : Loaded m ((m.prepareLoad env params).resetToAttached.loadCurrentItem params) :=
    ⟨hframe.inProgress, hframe.callbacks, hframe.ledger, rfl⟩
  have hempty : (m.prepareLoad env params).wkItems = [] := by
    apply List.eq_nil_of_length_eq_zero
    rw [hframe.wkCount, hlist, List.length_nil]
  rw [loadURLWithParams_detached (.inl hidle) hdetached]
  split
  · next pending _ =>
    split
    · right
      have hitems : (m.prepareLoad env params).itemsUpToCurrent pending ≠ [] :=
        List.append_ne_nil_of_right_ne_nil _ (List.cons_ne_nil _ _)
      have hb := restore_began env
        (m := (m.prepareLoad env params).releaseCachedItems.releasePendingItem)
        ((m.prepareLoad env params).currentItemIndex + 1) hitems hempty
      refine ⟨hb.inProgress, hb.attached, ?_, ?_⟩
      · rw [← hframe.callbacks, ← hframe.ledger]
        exact hb.callbacks
      · rw [← hframe.ledger]
        exact hb.ledger
    · exact .inl hreset
  · exact .inl hreset

/-- A load keeps the invariant, whether it waits, loads or restores, and leaves
the manager attached. -/
theorem CallbackInv.loadURLWithParams [LawfulUrlLibrary U] (h : CallbackInv m)
    (hclean : m.LoadsCleanly) (params : WebLoadParams U) :
    CallbackInv (m.loadURLWithParams env params) ∧
      (m.loadURLWithParams env params).isAttachedToWebView = true := by
  cases hprogress : m.isRestoreSessionInProgress with
  | true =>
    have hattached := h.attached hprogress
    cases hurl : isRestoreSessionUrl params.url with
    | true =>
      have hl := loadURLWithParams_loaded env params (.inr hurl) (.inl hattached)
      exact ⟨h.loaded hl, hl.attached⟩
    | false =>
      have hqueued : m.loadURLWithParams env params =
          m.queueCallback (.loadURLWithParams params) := by
        rw [loadURLWithParams_eq]
        unfold loadStep
        rw [if_pos (by rw [hprogress, hurl]; rfl)]
      rw [hqueued]
      exact ⟨h.queueCallback hprogress _, hattached⟩
  | false =>
    cases hattached : m.isAttachedToWebView with
    | true =>
      have hl := loadURLWithParams_loaded env params (.inl hprogress) (.inl hattached)
      exact ⟨h.loaded hl, hl.attached⟩
    | false =>
      rcases hclean with hon | hcached | hlist
      · rw [hon] at hattached
        cases hattached
      · have hl := loadURLWithParams_loaded env params (.inl hprogress) (.inr hcached)
        exact ⟨h.loaded hl, hl.attached⟩
      · rcases loadURLWithParams_began env params hprogress hattached hlist with
          hl | hb
        · exact ⟨h.loaded hl, hl.attached⟩
        · exact ⟨h.began hprogress hb, hb.attached⟩

/-- Loads one after another. -/
theorem CallbackInv.loads [LawfulUrlLibrary U] (loads : List (WebLoadParams U)) :
    ∀ {m : NavigationManagerImpl U D}, CallbackInv m → m.LoadsCleanly →
      CallbackInv (loads.foldl (fun m params => m.loadURLWithParams env params) m) := by
  induction loads with
  | nil =>
    intro m h _
    exact h
  | cons params loads ih =>
    intro m h hclean
    obtain ⟨hnext, hattached⟩ := h.loadURLWithParams hclean params
    exact ih hnext (.inl hattached)

/-! ## The end of a restore -/

/-- A callback run on an attached manager with no restore in progress begins
none. -/
theorem runCallback_loaded (hidle : m.isRestoreSessionInProgress = false)
    (hattached : m.isAttachedToWebView = true) (callback : RestoreCompletionCallback U D) :
    Loaded m (m.runCallback env callback) := by
  cases callback with
  | restoreItemsState listType items =>
    exact (restoreItemsState_frame m listType items).loaded hattached
  | loadURLWithParams params =>
    exact loadURLWithParams_loaded env params (.inl hidle) (.inl hattached)
  | client loads =>
    unfold runCallback
    simp only
    induction loads generalizing m with
    | nil => exact (Frame.refl m).loaded hattached
    | cons params loads ih =>
      have hl := loadURLWithParams_loaded env params (.inl hidle) (.inl hattached)
      exact hl.trans (ih (hl.inProgress.trans hidle) hl.attached)

variable (env) in
/-- Running the queue enters each callback in the ledger and changes nothing
else of it. -/
theorem foldl_runQueuedCallback (queue : List (QueuedCallback U D)) :
    ∀ {m : NavigationManagerImpl U D}, m.isRestoreSessionInProgress = false →
      m.isAttachedToWebView = true →
      let m' := queue.foldl (runQueuedCallback env) m
      m'.isRestoreSessionInProgress = false ∧ m'.isAttachedToWebView = true ∧
        m'.ledger = { m.ledger with
          executed := m.ledger.executed ++
            queue.map fun queued => (queued.serial, m.ledger.restores) } := by
  induction queue with
  | nil =>
    intro m hidle hattached
    refine ⟨hidle, hattached, ?_⟩
    show m.ledger = { m.ledger with executed := m.ledger.executed ++ [] }
    rw [List.append_nil]
  | cons queued queue ih =>
    intro m hidle hattached
    have hl : Loaded _ (m.runQueuedCallback env queued) :=
      runCallback_loaded (m := { m with
        ledger.executed := m.ledger.executed ++ [(queued.serial, m.ledger.restores)] })
        hidle hattached queued.callback
    obtain ⟨hend, hon, hledger⟩ := ih (hl.inProgress.trans hidle) hl.attached
    refine ⟨hend, hon, ?_⟩
    show (queue.foldl (runQueuedCallback env) (m.runQueuedCallback env queued)).ledger = _
    rw [hledger, hl.ledger]
    simp only [List.append_assoc, List.map_cons, List.singleton_append]

/-- **`FinalizeSessionRestore` runs the queue**, each callback once, in the
restore it ends. -/
theorem CallbackInv.finalizeSessionRestore (h : CallbackInv m)
    (hattached : m.isAttachedToWebView = true) : CallbackInv (m.finalizeSessionRestore env) := by
  obtain ⟨hidle, hon, hledger⟩ := foldl_runQueuedCallback env
    m.restoreSessionCompletionCallbacks (m := { m with isRestoreSessionInProgress := false }) rfl
    hattached
  unfold NavigationManagerImpl.finalizeSessionRestore
  simp only at hidle hon hledger ⊢
  generalize m.restoreSessionCompletionCallbacks.foldl (runQueuedCallback env)
    { m with isRestoreSessionInProgress := false } = finished at hidle hon hledger ⊢
  have hload : loadIfNecessary env { finished with restoreSessionCompletionCallbacks := [] } =
      notifyDelegate { finished with restoreSessionCompletionCallbacks := [] } .loadIfNecessary := by
    unfold loadIfNecessary
    rw [if_neg]
    show ¬ (!finished.isAttachedToWebView) = true
    rw [hon]
    decide
  rw [hload]
  have hall : m.ledger.registered = finished.ledger.executed := by
    rw [hledger, h.ledger]
    rfl
  constructor
  · intro _
    rfl
  · intro _
    exact hon
  · show finished.ledger.registered = finished.ledger.executed ++ []
    rw [← hall, List.append_nil, hledger]
  · show finished.ledger.registered.map Prod.fst = List.range finished.ledger.registered.length
    rw [hledger]
    exact h.serials
  · show ∀ run ∈ finished.ledger.executed, run.2 ≤ finished.ledger.restores
    rw [hledger]
    intro run hrun
    rcases List.mem_append.1 hrun with hold | hnew
    · exact h.executed_le run hold
    · obtain ⟨queued, -, rfl⟩ := List.mem_map.1 hnew
      exact Nat.le_refl _
  · intro hprogress
    rw [show (notifyDelegate { finished with restoreSessionCompletionCallbacks := [] }
      .loadIfNecessary).isRestoreSessionInProgress = false from hidle] at hprogress
    cases hprogress

theorem CallbackInv.onNavigationStarted (h : CallbackInv m) (url : U) :
    CallbackInv (m.onNavigationStarted env url) := by
  unfold NavigationManagerImpl.onNavigationStarted
  cases hprogress : m.isRestoreSessionInProgress with
  | false => exact h
  | true =>
    have hattached := h.attached hprogress
    rw [if_neg (by decide)]
    split
    · exact h
    · simp only
      split
      · have hl := (copyRestoredUserAgent_frame env m
          (m.itemRefAt m.lastCommittedIndexInSession.toNat)).loaded hattached
        exact (h.loaded hl).finalizeSessionRestore hl.attached
      · exact h.finalizeSessionRestore hattached

theorem CallbackInv.onNavigationItemCommitted (h : CallbackInv m) :
    CallbackInv (m.onNavigationItemCommitted env) := by
  have hnotified : ∀ call, CallbackInv (m.notifyDelegate call) :=
    fun call => ⟨h.idle, h.attached, h.ledger, h.serials, h.executed_le, h.executed_lt⟩
  unfold NavigationManagerImpl.onNavigationItemCommitted
  split
  · next item _ =>
    simp only
    split
    · have hreset : CallbackInv
          (m.notifyDelegate (.onNavigationItemCommitted item.url)).resetRestoredVisibleItem :=
        ⟨h.idle, h.attached, h.ledger, h.serials, h.executed_le, h.executed_lt⟩
      split
      · next hprogress => exact hreset.finalizeSessionRestore (h.attached hprogress)
      · exact hreset
    · exact hnotified _
  · exact h

theorem CallbackInv.restoreSessionFromCache (h : CallbackInv m)
    (hprogress : m.isRestoreSessionInProgress = true) (url : U)
    (restoredWebView : Option (WebView U D)) :
    CallbackInv (m.restoreSessionFromCache env url restoredWebView) := by
  have hattached := h.attached hprogress
  unfold NavigationManagerImpl.restoreSessionFromCache
  split
  · exact h
  · split
    · exact h
    · next webView =>
      simp only
      have hadopted : Loaded m (m.adoptNativeSession webView) := ⟨rfl, rfl, rfl, hattached⟩
      have hcopied := hadopted.trans ((copyRestoredUserAgent_frame env _
        ((m.adoptNativeSession webView).lastCommittedItemRef env)).loaded hadopted.attached)
      have hreset : Loaded m (((m.adoptNativeSession webView).copyRestoredUserAgent env
          ((m.adoptNativeSession webView).lastCommittedItemRef env)).resetRestoredVisibleItem) :=
        hcopied.trans ⟨rfl, rfl, rfl, hcopied.attached⟩
      exact (h.loaded hreset).finalizeSessionRestore hreset.attached

/-- **A call that abandons no restore keeps the invariant.** -/
theorem call_inv [LawfulUrlLibrary U] (m : NavigationManagerImpl U D) (call : NavigationCall U D)
    (h : CallbackInv m) (hpre : (navigationMachine env).pre m call) (hkept : Kept m call) :
    CallbackInv ((navigationMachine env).step m call) := by
  cases call with
  | restore last items =>
    rcases hkept with rfl | ⟨hidle, hlist⟩
    · exact h
    · cases items with
      | nil => exact h
      | cons item items =>
        exact h.began hidle (restore_began env last (List.cons_ne_nil item items) hlist)
  | unsafeRestore last items => exact h.began hkept (unsafeRestore_began (.inl hpre) last items)
  | addRestoreCompletionCallback loads =>
    show CallbackInv (m.addRestoreCompletionCallback env (.client loads))
    unfold NavigationManagerImpl.addRestoreCompletionCallback
    cases hprogress : m.isRestoreSessionInProgress with
    | true => exact h.queueCallback hprogress _
    | false => exact CallbackInv.loads loads h hkept
  | loadURLWithParams params => exact (h.loadURLWithParams hkept params).1
  | onNavigationStarted url => exact h.onNavigationStarted url
  | onNavigationItemCommitted => exact h.onNavigationItemCommitted
  | restoreSessionFromCache url restoredWebView =>
    exact h.restoreSessionFromCache hpre url restoredWebView
  | detachFromWebView =>
    have hidle : m.isRestoreSessionInProgress = false := hkept
    constructor
    · intro _
      exact h.idle hidle
    · intro hprogress
      cases hprogress
    · exact h.ledger
    · exact h.serials
    · exact h.executed_le
    · intro hprogress
      cases hprogress
  | elsewhere other =>
    exact ⟨h.idle, h.attached, h.ledger, h.serials, h.executed_le, h.executed_lt⟩

omit [DecidableEq U] [Inhabited D] in
theorem create_inv (delegate : Delegate U D) : CallbackInv (create delegate) where
  idle _ := rfl
  attached _ := rfl
  ledger := rfl
  serials := rfl
  executed_le := by
    intro run hrun
    cases hrun
  executed_lt := by
    intro hprogress
    cases hprogress

/-- **In every run that abandons no restore, callbacks wait only during a
restore, and each runs exactly once, when the restore it was registered in
ends.** -/
theorem callbacks_run_once [LawfulUrlLibrary U] (env : NavigationEnv U)
    (m : NavigationManagerImpl U D) (calls : List (NavigationCall U D))
    (hinit : (navigationMachine env).init m) (hrun : (navigationMachine env).Run m calls)
    (hkept : (navigationMachine env).Always Kept m calls) :
    CallbacksTracked ((navigationMachine env).exec m calls) := by
  obtain ⟨delegate, rfl⟩ := hinit
  exact (Machine.Guarded.invariant (I := CallbackInv) (P := Kept) call_inv (create_inv delegate)
    hrun hkept).tracked

/-! ## A restore that is abandoned -/

private def onePage (address : String) : NavigationItemImpl PlainUrl Unit :=
  { NavigationItemImpl.create with url := ⟨address⟩ }

private def callbackEnv : NavigationEnv PlainUrl where
  features := plainFeatures
  client := plainClient
  json := plainJson

private def noWebView : Delegate PlainUrl Unit := ⟨none, none, none, []⟩

/-- The web view is detached during a restore, and another session is
restored. -/
private def abandoningCalls : List (NavigationCall PlainUrl Unit) :=
  [.restore 0 [onePage "http://a.com/"], .detachFromWebView,
    .restore 0 [onePage "http://b.com/"], .onNavigationStarted ⟨"http://b.com/"⟩]

/-- The callbacks outlive their restore in the queue, and run in the next. -/
theorem detach_leavesCallbacks :
    (navigationMachine callbackEnv).init (create noWebView) ∧
      (navigationMachine callbackEnv).Run (create noWebView) abandoningCalls ∧
      ¬ CallbacksTracked ((navigationMachine callbackEnv).exec (create noWebView)
        (abandoningCalls.take 2)) ∧
      ¬ CallbacksTracked ((navigationMachine callbackEnv).exec (create noWebView)
        abandoningCalls) ∧
      ((navigationMachine callbackEnv).exec (create noWebView) abandoningCalls).ledger =
        ⟨2, [(0, 1), (1, 1), (2, 2), (3, 2)], [(0, 2), (1, 2), (2, 2), (3, 2)]⟩ := by
  have hleft : ((navigationMachine callbackEnv).exec (create noWebView)
      (abandoningCalls.take 2)).restoreSessionCompletionCallbacks.length = 2 ∧
      ((navigationMachine callbackEnv).exec (create noWebView)
        (abandoningCalls.take 2)).isRestoreSessionInProgress = false := by
    decide +kernel
  have hledger : ((navigationMachine callbackEnv).exec (create noWebView) abandoningCalls).ledger =
      ⟨2, [(0, 1), (1, 1), (2, 2), (3, 2)], [(0, 2), (1, 2), (2, 2), (3, 2)]⟩ := by
    decide +kernel
  refine ⟨⟨noWebView, rfl⟩, by decide, ?_, ?_, hledger⟩
  · intro htracked
    have hprogress := htracked.onlyDuringRestore (by
      intro hnil
      rw [hnil] at hleft
      cases hleft.1)
    rw [hleft.2] at hprogress
    cases hprogress
  · intro htracked
    have hran := htracked.ran (0, 1) (by rw [hledger]; decide) (by rw [hledger]; decide)
    unfold RanOnce at hran
    rw [hledger] at hran
    revert hran
    decide

/-- The restore is over when the page's navigation has started. -/
private theorem restored_idle :
    ((navigationMachine callbackEnv).exec (create noWebView)
      [.restore 0 [onePage "http://a.com/"],
        .onNavigationStarted ⟨"http://a.com/"⟩]).isRestoreSessionInProgress = false := by
  decide +kernel

/-- Both sessions are restored to the end. -/
theorem callbacks_run_once_restored :
    CallbacksTracked ((navigationMachine callbackEnv).exec (create noWebView)
      [.restore 0 [onePage "http://a.com/"], .onNavigationStarted ⟨"http://a.com/"⟩,
        .detachFromWebView, .restore 0 [onePage "http://b.com/"]]) :=
  callbacks_run_once callbackEnv (create noWebView)
    [.restore 0 [onePage "http://a.com/"], .onNavigationStarted ⟨"http://a.com/"⟩,
      .detachFromWebView, .restore 0 [onePage "http://b.com/"]]
    ⟨noWebView, rfl⟩ (by decide)
    ⟨.inr ⟨rfl, rfl⟩, trivial, restored_idle, .inr ⟨by decide +kernel, by decide +kernel⟩, trivial⟩

end NavigationManagerImpl

end IosChrome.Navigation

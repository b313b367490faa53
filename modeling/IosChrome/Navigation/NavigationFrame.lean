import IosChrome.Navigation.NavigationOperations

/-!
# What the operations leave alone

Changing items, adding the pending one and preparing a load touch the items,
the pending fields and the delegate, and nothing of the restore that may be in
progress: `Frame` lists what stays, and each of these operations has its
`_frame` lemma. On an attached manager a load is nothing more
(`loadURLWithParams_attached`).

`loadURLWithParams_eq` and `restore_eq` are the equations of the source's
mutually recursive `LoadURLWithParams` and `Restore`.
-/

namespace IosChrome.Navigation

open IosChrome.Lib

variable {U D : Type} [UrlLibrary U] [DecidableEq U] [Inhabited D] {env : NavigationEnv U}

namespace NavigationManagerImpl

omit [UrlLibrary U] [DecidableEq U] [Inhabited D] in
/-- The restore in progress, the mode and the shape of the lists stay. -/
structure Frame (m m' : NavigationManagerImpl U D) : Prop where
  inProgress : m'.isRestoreSessionInProgress = m.isRestoreSessionInProgress
  callbacks : m'.restoreSessionCompletionCallbacks = m.restoreSessionCompletionCallbacks
  ledger : m'.ledger = m.ledger
  attached : m'.isAttachedToWebView = m.isAttachedToWebView
  cachedCount : m'.webViewCache.cachedItems.length = m.webViewCache.cachedItems.length
  webView : m'.delegate.webView.isSome = m.delegate.webView.isSome
  wkCount : m'.wkItems.length = m.wkItems.length

namespace Frame

omit [UrlLibrary U] [DecidableEq U] [Inhabited D]

theorem refl (m : NavigationManagerImpl U D) : Frame m m := ⟨rfl, rfl, rfl, rfl, rfl, rfl, rfl⟩

theorem trans {m₁ m₂ m₃ : NavigationManagerImpl U D} (h : Frame m₁ m₂) (h' : Frame m₂ m₃) :
    Frame m₁ m₃ where
  inProgress := h'.inProgress.trans h.inProgress
  callbacks := h'.callbacks.trans h.callbacks
  ledger := h'.ledger.trans h.ledger
  attached := h'.attached.trans h.attached
  cachedCount := h'.cachedCount.trans h.cachedCount
  webView := h'.webView.trans h.webView
  wkCount := h'.wkCount.trans h.wkCount

/-- A frame of attached managers also keeps the number of items. -/
theorem itemCount {m m' : NavigationManagerImpl U D} (h : Frame m m') :
    m'.backForwardListItemCount = m.backForwardListItemCount := by
  unfold backForwardListItemCount
  rw [h.attached, h.cachedCount, h.wkCount]

end Frame

omit [UrlLibrary U] [DecidableEq U] [Inhabited D] in
theorem notifyDelegate_frame (m : NavigationManagerImpl U D) (call : DelegateCall U) :
    Frame m (m.notifyDelegate call) := ⟨rfl, rfl, rfl, rfl, rfl, rfl, rfl⟩

omit [UrlLibrary U] [DecidableEq U] [Inhabited D] in
theorem discardNonCommittedItems_frame (m : NavigationManagerImpl U D) :
    Frame m m.discardNonCommittedItems := ⟨rfl, rfl, rfl, rfl, rfl, rfl, rfl⟩

omit [UrlLibrary U] [DecidableEq U] [Inhabited D] in
theorem loadCurrentItem_frame (m : NavigationManagerImpl U D) (params : WebLoadParams U) :
    Frame m (m.loadCurrentItem params) :=
  notifyDelegate_frame m _

/-! ## Items -/

variable {m : NavigationManagerImpl U D}

omit [UrlLibrary U] [DecidableEq U] [Inhabited D] in
theorem wkItems_of_webView {webView : WebView U D} (h : m.delegate.webView = some webView) :
    m.wkItems = (webView.backForwardList.map History.entries).getD [] := by
  unfold wkItems backForwardList
  simp only [h]
  cases webView.backForwardList <;> rfl

variable (env) in
theorem modifyCachedItem_frame (m : NavigationManagerImpl U D) (index : Nat)
    (f : NavigationItemImpl U D → NavigationItemImpl U D) :
    Frame m (m.modifyCachedItem env index f) := by
  unfold modifyCachedItem
  split
  · exact ⟨rfl, rfl, rfl, rfl, List.length_modify _ _ _, rfl, rfl⟩
  · split
    · next webView hview =>
      refine ⟨rfl, rfl, rfl, rfl, rfl, ?_, ?_⟩
      · rw [hview]
        rfl
      · rw [wkItems_of_webView hview, wkItems_of_webView rfl]
        cases webView.backForwardList with
        | none => rfl
        | some list =>
          show (list.modify index _).entries.length = list.entries.length
          rw [History.entries_modify, List.length_modify]
    · exact Frame.refl m

theorem modifyItem_frame (m : NavigationManagerImpl U D) (ref : ItemRef)
    (f : NavigationItemImpl U D → NavigationItemImpl U D) :
    Frame m (m.modifyItem env ref f) := by
  cases ref with
  | atIndex index => exact modifyCachedItem_frame env m index f
  | pendingItem => exact ⟨rfl, rfl, rfl, rfl, rfl, rfl, rfl⟩
  | delegatePendingItem => exact ⟨rfl, rfl, rfl, rfl, rfl, rfl, rfl⟩
  | emptyWindowOpenItem => exact ⟨rfl, rfl, rfl, rfl, rfl, rfl, rfl⟩
  | lastCommittedWebViewItem => exact ⟨rfl, rfl, rfl, rfl, rfl, rfl, rfl⟩

theorem modifyItemIfAny_frame (m : NavigationManagerImpl U D) (ref : Option ItemRef)
    (f : NavigationItemImpl U D → NavigationItemImpl U D) :
    Frame m (m.modifyItemIfAny env ref f) := by
  cases ref with
  | none => exact Frame.refl m
  | some ref => exact modifyItem_frame m ref f

theorem restoreItemState_frame (m : NavigationManagerImpl U D) (cacheIndex : Nat)
    (restoreItem : NavigationItemImpl U D) :
    Frame m (m.restoreItemState env cacheIndex restoreItem) := by
  unfold restoreItemState
  split
  · split
    · exact modifyCachedItem_frame env m cacheIndex _
    · exact Frame.refl m
  · exact Frame.refl m

theorem restoreItemsStateFrom_frame (cacheLimit : Nat) (items : List (NavigationItemImpl U D)) :
    ∀ (m : NavigationManagerImpl U D) (cacheIndex : Nat),
      Frame m (m.restoreItemsStateFrom env cacheIndex cacheLimit items) := by
  induction items with
  | nil =>
    intro m cacheIndex
    exact Frame.refl m
  | cons item items ih =>
    intro m cacheIndex
    unfold restoreItemsStateFrom
    split
    · exact Frame.refl m
    · exact (restoreItemState_frame m cacheIndex item).trans (ih _ _)

theorem restoreItemsState_frame (m : NavigationManagerImpl U D) (listType : RestoreItemListType)
    (items : List (NavigationItemImpl U D)) : Frame m (m.restoreItemsState env listType items) := by
  cases listType with
  | backList => exact restoreItemsStateFrom_frame _ items m _
  | forwardList => exact restoreItemsStateFrom_frame _ items m _

variable (env) in
theorem copyRestoredUserAgent_frame (m : NavigationManagerImpl U D) (ref : Option ItemRef) :
    Frame m (m.copyRestoredUserAgent env ref) := by
  unfold copyRestoredUserAgent
  split
  · split
    · exact modifyItemIfAny_frame m ref _
    · exact Frame.refl m
  · exact Frame.refl m

variable (env) in
theorem primeTitle_frame (m : NavigationManagerImpl U D) (last : Int)
    (items : List (NavigationItemImpl U D)) : Frame m (m.primeTitle env last items) := by
  unfold primeTitle
  simp only
  split
  · exact modifyItemIfAny_frame m _ _
  · exact Frame.refl m

/-! ## Loads -/

theorem reuseCurrentEntry_frame (m : NavigationManagerImpl U D) (pending : NavigationItemImpl U D) :
    Frame m (m.reuseCurrentEntry env pending) := by
  have h := modifyCachedItem_frame env m m.currentItemIndex.toNat fun item =>
    if env.features.createPendingItemForPostFormSubmission then
      { (if m.associatedItem.isSome then item else pending) with
        transitionType := pending.transitionType }
    else if m.associatedItem.isSome then item else pending
  exact ⟨h.inProgress, h.callbacks, h.ledger, h.attached, h.cachedCount, h.webView, h.wkCount⟩

omit [DecidableEq U] [Inhabited D] in
theorem setNewPendingItem_frame (m : NavigationManagerImpl U D) (pending : NavigationItemImpl U D) :
    Frame m (m.setNewPendingItem pending) := ⟨rfl, rfl, rfl, rfl, rfl, rfl, rfl⟩

theorem addPendingItem_frame (m : NavigationManagerImpl U D) (url : U) (referrer : Referrer U)
    (navigationType : PageTransition) (initiationType : NavigationInitiationType)
    (isPostNavigation isUsingHttpsAsDefaultScheme : Bool) :
    Frame m (m.addPendingItem env url referrer navigationType initiationType isPostNavigation
      isUsingHttpsAsDefaultScheme) := by
  unfold addPendingItem
  simp only
  have hfirst : ∀ pending, Frame m (m.discardNonCommittedItems.setNewPendingItem pending) :=
    fun pending => (discardNonCommittedItems_frame m).trans (setNewPendingItem_frame _ pending)
  split
  · exact hfirst _
  · have hsecond : ∀ first second, Frame m
        ((m.discardNonCommittedItems.setNewPendingItem first).setNewPendingItem second) :=
      fun first second => (hfirst first).trans (setNewPendingItem_frame _ second)
    split
    · exact (hsecond _ _).trans (reuseCurrentEntry_frame _ _)
    · exact hsecond _ _

theorem addItemForLoad_frame (m : NavigationManagerImpl U D) (params : WebLoadParams U) :
    Frame m (m.addItemForLoad env params) :=
  ((notifyDelegate_frame m _).trans (notifyDelegate_frame _ _)).trans
    (addPendingItem_frame _ _ _ _ _ _ _)

variable (env) in
theorem prepareLoad_frame (m : NavigationManagerImpl U D) (params : WebLoadParams U) :
    Frame m (m.prepareLoad env params) :=
  ((addItemForLoad_frame m params).trans (modifyItemIfAny_frame _ _ _)).trans
    (modifyItemIfAny_frame _ _ _)

/-! ## The preparation of a restore -/

/-- The manager is attached, with the web view it had. -/
structure PreparedAttached (m m' : NavigationManagerImpl U D) : Prop where
  attached : m'.isAttachedToWebView = true
  webView : m'.delegate.webView = m.delegate.webView
  inProgress : m'.isRestoreSessionInProgress = m.isRestoreSessionInProgress
  callbacks : m'.restoreSessionCompletionCallbacks = m.restoreSessionCompletionCallbacks
  ledger : m'.ledger = m.ledger

/-- The web view is removed, and the manager detached with its list. -/
structure PreparedDetached (m m' : NavigationManagerImpl U D) : Prop where
  detached : m'.isAttachedToWebView = false
  hadWebView : m.delegate.webView.isSome = true
  webView : m'.delegate.webView = none
  cachedCount : m'.webViewCache.cachedItems.length ≤ m.wkItems.length
  callbacks : m'.restoreSessionCompletionCallbacks = m.restoreSessionCompletionCallbacks
  ledger : m'.ledger = m.ledger

theorem detachFromWebView_cachedCount (h : m.isAttachedToWebView = true) :
    (m.detachFromWebView env).webViewCache.cachedItems.length ≤ m.wkItems.length := by
  unfold detachFromWebView
  simp only [h, if_true]
  refine Nat.le_trans (List.length_filterMap_le _ _) ?_
  rw [List.length_range]
  unfold backForwardListItemCount
  rw [h]
  exact Nat.le_refl _

variable (env) in
/-- Removing the web view of an attached manager. -/
theorem removeWebView_cases (h : m.isAttachedToWebView = true) :
    PreparedAttached m (m.removeWebView env) ∨ PreparedDetached m (m.removeWebView env) := by
  unfold removeWebView
  simp only
  split
  · next hview =>
    right
    refine ⟨?_, hview, rfl, detachFromWebView_cachedCount (m := m.notifyDelegate _) h, rfl, rfl⟩
    unfold detachFromWebView isAttachedToWebView
    simp only
    split <;> rfl
  · left
    exact ⟨h, rfl, rfl, rfl, rfl⟩

variable (env) in
/-- `Restore` gets a manager attached to a web view without a list, or else a
detached one without a web view. -/
theorem prepareRestore_cases (m : NavigationManagerImpl U D) :
    PreparedAttached m (m.prepareRestore env) ∨ PreparedDetached m (m.prepareRestore env) := by
  have hreset : PreparedAttached m
      (if !m.isAttachedToWebView then m.resetToAttached else m).discardNonCommittedItems := by
    cases hm : m.isAttachedToWebView with
    | true => exact ⟨hm, rfl, rfl, rfl, rfl⟩
    | false => exact ⟨rfl, rfl, rfl, rfl, rfl⟩
  unfold prepareRestore
  simp only
  generalize (if !m.isAttachedToWebView then m.resetToAttached else m).discardNonCommittedItems =
    start at hreset ⊢
  have hlist : start.wkItems = m.wkItems := by
    unfold wkItems backForwardList
    rw [hreset.webView]
  by_cases hcount : 0 < start.itemCount
  · simp only [hcount, if_true]
    rcases removeWebView_cases env hreset.attached with hkept | hgone
    · left
      exact ⟨hkept.attached, hkept.webView.trans hreset.webView,
        hkept.inProgress.trans hreset.inProgress, hkept.callbacks.trans hreset.callbacks,
        hkept.ledger.trans hreset.ledger⟩
    · right
      exact ⟨hgone.detached, hreset.webView ▸ hgone.hadWebView, hgone.webView,
        hlist ▸ hgone.cachedCount, hgone.callbacks.trans hreset.callbacks,
        hgone.ledger.trans hreset.ledger⟩
  · simp only [hcount, if_false]
    left
    exact ⟨hreset.attached, hreset.webView, hreset.inProgress, hreset.callbacks, hreset.ledger⟩

/-! ## The recursion of `LoadURLWithParams` and `Restore` -/

section

variable {restore restore' : NavigationManagerImpl U D → Int → List (NavigationItemImpl U D) →
  NavigationManagerImpl U D}

/-- A load on an attached manager starts no restore. -/
theorem loadStep_attached (h : m.isAttachedToWebView = true) (params : WebLoadParams U) :
    loadStep env restore m params = loadStep env restore' m params := by
  have hprepared : (m.prepareLoad env params).isAttachedToWebView = true :=
    (prepareLoad_frame env m params).attached.trans h
  unfold loadStep
  simp only [hprepared]
  rfl

/-- A load calls `Restore` in the mode, and with the web view, it was called
in. -/
theorem loadStep_congr (params : WebLoadParams U)
    (h : ∀ m' last items, m'.delegate.webView.isSome = m.delegate.webView.isSome →
      restore m' last items = restore' m' last items) :
    loadStep env restore m params = loadStep env restore' m params := by
  unfold loadStep
  split
  · rfl
  · simp only
    split
    · split
      · split
        · exact h _ _ _ (prepareLoad_frame env m params).webView
        · rfl
      · rfl
    · rfl

end

section

variable {load load' : NavigationManagerImpl U D → WebLoadParams U → NavigationManagerImpl U D}

theorem unsafeRestoreStep_congr (last : Int)
    (items : List (NavigationItemImpl U D))
    (h : ∀ m' params, m'.isAttachedToWebView = m.isAttachedToWebView →
      m'.delegate.webView.isSome = m.delegate.webView.isSome → load m' params = load' m' params) :
    unsafeRestoreStep env load m last items = unsafeRestoreStep env load' m last items := by
  unfold unsafeRestoreStep
  simp only
  rw [h]
  · rfl
  · rfl

/-- `Restore` loads the session URL attached, or without a web view. -/
theorem restoreStep_congr (last : Int)
    (items : List (NavigationItemImpl U D))
    (h : ∀ m' params, m'.isAttachedToWebView = true ∨
        (m.delegate.webView.isSome = true ∧ m'.delegate.webView.isSome = false) →
      load m' params = load' m' params) :
    restoreStep env load m last items = restoreStep env load' m last items := by
  unfold restoreStep
  split
  · rfl
  · apply unsafeRestoreStep_congr
    intro m' params hattached hview
    apply h
    rw [hattached, hview]
    rcases prepareRestore_cases env m with hprep | hprep
    · exact .inl hprep.attached
    · exact .inr ⟨hprep.hadWebView, by rw [hprep.webView]; rfl⟩

end

/-- Attached, nothing is nested. -/
theorem loadURLNested_attached (h : m.isAttachedToWebView = true) (params : WebLoadParams U)
    (depth : Nat) :
    loadURLNested env depth m params = loadURLNested env 0 m params := by
  cases depth with
  | zero => rfl
  | succ depth => exact loadStep_attached h params

/-- Without a web view at most one restore is nested. -/
theorem loadURLNested_noWebView (h : m.delegate.webView.isSome = false) (params : WebLoadParams U)
    (depth : Nat) :
    loadURLNested env (depth + 1) m params = loadURLNested env 1 m params := by
  apply loadStep_congr
  intro m' last items hview
  apply restoreStep_congr
  rintro m'' params'' (hattached | ⟨hsome, -⟩)
  · rw [loadURLNested_attached hattached]
  · rw [hview, h] at hsome
    cases hsome

/-- At most two restores are nested. -/
theorem loadURLNested_eq (m : NavigationManagerImpl U D) (params : WebLoadParams U) (depth : Nat) :
    loadURLNested env (depth + 2) m params = loadURLWithParams env m params := by
  apply loadStep_congr
  intro m' last items _
  apply restoreStep_congr
  rintro m'' params'' (hattached | ⟨-, hnone⟩)
  · rw [loadURLNested_attached hattached, loadURLNested_attached hattached _ 1]
  · rw [loadURLNested_noWebView hnone]

/-- **`LoadURLWithParams` calls `Restore`.** -/
theorem loadURLWithParams_eq (m : NavigationManagerImpl U D) (params : WebLoadParams U) :
    loadURLWithParams env m params = loadStep env (restore env) m params := by
  rw [← loadURLNested_eq m params 1]
  rfl

/-- **`Restore` calls `LoadURLWithParams`.** -/
theorem restore_eq (m : NavigationManagerImpl U D) (last : Int)
    (items : List (NavigationItemImpl U D)) :
    restore env m last items =
      if items.isEmpty then m else unsafeRestore env (m.prepareRestore env) last items := rfl

/-- A load on an attached manager, where it is not put off. -/
theorem loadURLWithParams_attached {params : WebLoadParams U}
    (hnow : m.isRestoreSessionInProgress = false ∨ isRestoreSessionUrl params.url = true)
    (hattached : m.isAttachedToWebView = true) :
    loadURLWithParams env m params = (m.prepareLoad env params).loadCurrentItem params := by
  have hprepared : (m.prepareLoad env params).isAttachedToWebView = true :=
    (prepareLoad_frame env m params).attached.trans hattached
  rw [loadURLWithParams_eq]
  unfold loadStep
  rw [if_neg (by rcases hnow with h | h <;> simp [h])]
  simp only [hprepared]
  rfl

/-- A load in detached mode: with items and a pending one it restores. -/
theorem loadURLWithParams_detached {params : WebLoadParams U}
    (hnow : m.isRestoreSessionInProgress = false ∨ isRestoreSessionUrl params.url = true)
    (hdetached : m.isAttachedToWebView = false) :
    let prepared := m.prepareLoad env params
    loadURLWithParams env m params =
      match prepared.pendingItem with
      | some pending =>
        if 0 < m.webViewCache.cachedItems.length then
          restore env prepared.releaseCachedItems.releasePendingItem (prepared.currentItemIndex + 1)
            (prepared.itemsUpToCurrent pending)
        else prepared.resetToAttached.loadCurrentItem params
      | none => prepared.resetToAttached.loadCurrentItem params := by
  have hframe := prepareLoad_frame env m params
  have hcount : (m.prepareLoad env params).backForwardListItemCount =
      m.webViewCache.cachedItems.length := by
    rw [hframe.itemCount]
    unfold backForwardListItemCount
    rw [hdetached]
    rfl
  simp only
  rw [loadURLWithParams_eq]
  unfold loadStep
  rw [if_neg (by rcases hnow with h | h <;> simp [h])]
  simp only [hframe.attached.trans hdetached, hcount]
  rfl

end NavigationManagerImpl

end IosChrome.Navigation

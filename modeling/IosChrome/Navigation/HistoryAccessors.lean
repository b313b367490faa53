import IosChrome.Navigation.RestoreCallbacks

/-!
# The accessors of the history

`GetItemAtIndex`, `GetBackwardItems`, `GetForwardItems`, `GetLastCommittedItem`
and `CanGoForward` all describe one list of items. They read it from the web
view, from the list kept in detached mode, or from the item of an empty
`window.open`, and should agree on it: `HistoryAgrees`. Items are compared as
pointers.

In every state a run reaches the index of the current item belongs to the list
(`CacheInRange`). So the accessors agree on a list of the web view or of the
cache. They do not on the item of an empty `window.open`: `GetItemCount` counts
it, while `GetBackwardItems` and `GetForwardItems` start at the index of the
web view, which has no entry for it (`historyAgrees_iff`).
-/

namespace IosChrome.Navigation

open IosChrome.Lib

variable {U D : Type} [UrlLibrary U] [DecidableEq U] [Inhabited D] {env : NavigationEnv U}

namespace NavigationManagerImpl

/-! ## The accessors -/

section

omit [UrlLibrary U] [DecidableEq U] [Inhabited D]

/-- The items at the indices below `GetItemCount()`; `none` is a null
pointer. -/
def itemRefs (m : NavigationManagerImpl U D) : List (Option ItemRef) :=
  (List.range m.itemCount).map m.itemRefAt

/-- `GetBackwardItems`, as pointers. -/
def backwardItemRefs (m : NavigationManagerImpl U D) : List (Option ItemRef) :=
  if m.isRestoreSessionInProgress then []
  else (List.range m.currentItemIndex.toNat).reverse.map m.itemRefAt

/-- `GetForwardItems`, as pointers. -/
def forwardItemRefs (m : NavigationManagerImpl U D) : List (Option ItemRef) :=
  if m.isRestoreSessionInProgress then []
  else
    let first := (m.currentItemIndex + 1).toNat
    (List.range' first (m.itemCount - first)).map m.itemRefAt

def canGoToOffset (m : NavigationManagerImpl U D) (offset : Int) : Bool :=
  if m.isRestoreSessionInProgress then false
  -- From the empty window open item there is no going back or forward.
  else if m.emptyWindowOpenItem.isSome then decide (offset = 0)
  else
    let index := m.getIndexForOffset offset
    decide (0 ≤ index ∧ index < m.itemCount)

def canGoBack (m : NavigationManagerImpl U D) : Bool := m.canGoToOffset (-1)

def canGoForward (m : NavigationManagerImpl U D) : Bool := m.canGoToOffset 1

/-- The entry of the history that is the last committed item. -/
def lastCommittedEntry (m : NavigationManagerImpl U D) : Option ItemRef :=
  if m.emptyWindowOpenItem.isSome then some .emptyWindowOpenItem
  else if m.lastCommittedIndexInSession = -1 then none
  else m.itemRefAt m.lastCommittedIndexInSession.toNat

end

variable (env) in
/-- `GetLastCommittedItem`, as a pointer. -/
def getLastCommittedItemRef (m : NavigationManagerImpl U D) : Option ItemRef :=
  if m.isRestoreSessionInProgress then none
  else
    match m.lastCommittedItemRef env with
    | some ref =>
      match m.readItem env ref with
      | some item => if isRestoreSessionUrl item.url then none else some ref
      | none => none
    | none => none

variable {m : NavigationManagerImpl U D}

variable (env) in
/-- There is an item at an index wherever there is a pointer to one. -/
theorem itemAt_of_itemRefAt {index : Nat} {ref : ItemRef} (href : m.itemRefAt index = some ref) :
    ∃ item, m.itemAt env index = some item := by
  unfold itemAt
  rw [href]
  show ∃ item, m.readItem env ref = some item
  unfold itemRefAt at href
  split at href
  · next hempty =>
    split at href
    · cases href
      exact Option.isSome_iff_exists.1 hempty
    · cases href
  · split at href
    · next hlt =>
      cases href
      show ∃ item, m.cachedItemAt env index = some item
      unfold backForwardListItemCount at hlt
      unfold cachedItemAt wkItemAt
      cases hattached : m.isAttachedToWebView with
      | true =>
        simp only [hattached, Bool.not_true, Bool.false_eq_true, if_false] at hlt ⊢
        rw [List.getElem?_eq_getElem hlt]
        exact ⟨_, rfl⟩
      | false =>
        simp only [hattached, Bool.not_false, if_true] at hlt ⊢
        exact ⟨_, List.getElem?_eq_getElem hlt⟩
    · cases href

variable (env) in
theorem readItem_of_entry {ref : ItemRef} (href : m.lastCommittedEntry = some ref) :
    ∃ item, m.readItem env ref = some item := by
  unfold lastCommittedEntry at href
  split at href
  · next hempty =>
    cases href
    exact Option.isSome_iff_exists.1 hempty
  · split at href
    · cases href
    · obtain ⟨item, hitem⟩ := itemAt_of_itemRefAt env href
      unfold itemAt at hitem
      rw [href] at hitem
      exact ⟨item, hitem⟩

variable (env) in
/-- The page shown is not that of the entry, and a placeholder stands for it. -/
def ShowsPlaceholder (m : NavigationManagerImpl U D) : Prop :=
  m.lastCommittedItemRef env = some .lastCommittedWebViewItem ∧
    m.delegate.currentURL.isSome = true ∧
      ∃ item, m.lastCommittedEntry.bind (m.readItem env) = some item ∧
        m.canTrustLastCommittedItem env item = false

variable (env) in
theorem lastCommittedItemRef_cases (m : NavigationManagerImpl U D) :
    m.ShowsPlaceholder env ∨ m.lastCommittedItemRef env = m.lastCommittedEntry := by
  unfold ShowsPlaceholder lastCommittedItemRef lastCommittedEntry
  by_cases hempty : m.emptyWindowOpenItem.isSome = true
  · rw [if_pos hempty, if_pos hempty]
    exact .inr rfl
  · rw [if_neg hempty, if_neg hempty]
    by_cases hindex : m.lastCommittedIndexInSession = -1
    · rw [if_pos hindex, if_pos hindex]
      exact .inr rfl
    · rw [if_neg hindex, if_neg hindex]
      simp only
      cases href : m.itemRefAt m.lastCommittedIndexInSession.toNat with
      | none =>
        unfold itemAt
        rw [href]
        exact .inr rfl
      | some ref =>
        obtain ⟨item, hitem⟩ := itemAt_of_itemRefAt env href
        rw [hitem]
        simp only
        unfold itemAt at hitem
        rw [href] at hitem
        split
        · next hmismatch =>
          simp only [Bool.and_eq_true, Bool.not_eq_true'] at hmismatch
          exact .inl ⟨rfl, hmismatch.1, item, hitem, hmismatch.2⟩
        · right
          unfold itemRefAt at href
          rw [if_neg hempty] at href
          split at href
          · exact href
          · cases href

variable (env) in
/-- `GetLastCommittedItem()` is the entry, unless the page shown is of another
origin, or its URL is still that of a session restore. -/
def LastCommittedIsEntry (m : NavigationManagerImpl U D) : Prop :=
  m.getLastCommittedItemRef env = m.lastCommittedEntry ∨
    (m.getLastCommittedItemRef env = some .lastCommittedWebViewItem ∧ m.ShowsPlaceholder env) ∨
    (m.getLastCommittedItemRef env = none ∧
      ∃ item, m.lastCommittedItemInSession env = some item ∧ isRestoreSessionUrl item.url = true)

variable (env) in
theorem lastCommittedIsEntry (hidle : m.isRestoreSessionInProgress = false) :
    m.LastCommittedIsEntry env := by
  unfold LastCommittedIsEntry getLastCommittedItemRef lastCommittedItemInSession
  rw [hidle]
  simp only [Bool.false_eq_true, if_false]
  have hcases := lastCommittedItemRef_cases env m
  cases href : m.lastCommittedItemRef env with
  | none =>
    rcases hcases with ⟨hplaceholder, -⟩ | hentry
    · rw [href] at hplaceholder
      cases hplaceholder
    · rw [← hentry, href]
      exact .inl rfl
  | some ref =>
    simp only [Option.bind_some]
    cases hitem : m.readItem env ref with
    | none =>
      -- Both pointers point to an item.
      rcases hcases with hplaceholder | hentry
      · rw [hplaceholder.1] at href
        cases href
        obtain ⟨url, hurl⟩ := Option.isSome_iff_exists.1 hplaceholder.2.1
        unfold readItem at hitem
        rw [hurl] at hitem
        cases hitem
      · rw [hentry] at href
        obtain ⟨item, hsome⟩ := readItem_of_entry env href
        rw [hsome] at hitem
        cases hitem
    | some item =>
      simp only
      split
      · next hrestore => exact .inr (.inr ⟨rfl, item, rfl, hrestore⟩)
      · rcases hcases with hplaceholder | hentry
        · rw [hplaceholder.1] at href
          cases href
          exact .inr (.inl ⟨rfl, hplaceholder⟩)
        · rw [← hentry, href]
          exact .inl rfl

/-! ## The index of the current item -/

section

omit [UrlLibrary U] [DecidableEq U] [Inhabited D]

/-- The index kept in detached mode is that of a cached item, or −1 where there
is none. -/
def CacheInRange (m : NavigationManagerImpl U D) : Prop :=
  m.isAttachedToWebView = true ∨
    (m.webViewCache.cachedItems = [] ∧ m.webViewCache.cachedCurrentItemIndex = -1) ∨
    (0 ≤ m.webViewCache.cachedCurrentItemIndex ∧
      m.webViewCache.cachedCurrentItemIndex < m.webViewCache.cachedItems.length)

/-- The current item is one of the list, and there is none only where the list
is empty. -/
def IndexInRange (m : NavigationManagerImpl U D) : Prop :=
  (m.backForwardListItemCount = 0 ∧ m.currentItemIndex = -1) ∨
    (0 ≤ m.currentItemIndex ∧ m.currentItemIndex < m.backForwardListItemCount)

theorem attached_indexInRange (h : m.isAttachedToWebView = true) : m.IndexInRange := by
  unfold IndexInRange backForwardListItemCount currentItemIndex wkItems
  simp only [h, Bool.not_true, if_false, Bool.false_eq_true]
  cases m.backForwardList with
  | none => exact .inl ⟨rfl, rfl⟩
  | some list =>
    right
    have hlt := list.position_lt
    simp only
    omega

theorem CacheInRange.indexInRange (h : m.CacheInRange) :
    m.IndexInRange := by
  cases hattached : m.isAttachedToWebView with
  | true => exact attached_indexInRange hattached
  | false =>
    unfold IndexInRange backForwardListItemCount currentItemIndex
    simp only [hattached, Bool.not_false, if_true]
    rcases h with h | ⟨hnil, hindex⟩ | h
    · rw [hattached] at h
      cases h
    · exact .inl ⟨by rw [hnil]; rfl, hindex⟩
    · exact .inr h

end

/-! ### It is kept -/

section

omit [UrlLibrary U] [DecidableEq U] [Inhabited D]

theorem CacheInRange.of_attached (h : m.isAttachedToWebView = true) : m.CacheInRange := .inl h

theorem CacheInRange.of_cache {m m' : NavigationManagerImpl U D} (h : m.CacheInRange)
    (hcache : m'.webViewCache = m.webViewCache) : m'.CacheInRange := by
  unfold CacheInRange isAttachedToWebView at h ⊢
  rw [hcache]
  exact h

/-- A change of items only. -/
structure SameIndex (m m' : NavigationManagerImpl U D) : Prop extends Frame m m' where
  index : m'.webViewCache.cachedCurrentItemIndex = m.webViewCache.cachedCurrentItemIndex

theorem SameIndex.refl (m : NavigationManagerImpl U D) : SameIndex m m := ⟨.refl m, rfl⟩

theorem SameIndex.trans {m₁ m₂ m₃ : NavigationManagerImpl U D} (h : SameIndex m₁ m₂)
    (h' : SameIndex m₂ m₃) : SameIndex m₁ m₃ :=
  ⟨h.toFrame.trans h'.toFrame, h'.index.trans h.index⟩

theorem SameIndex.inRange {m m' : NavigationManagerImpl U D} (h : SameIndex m m')
    (hrange : m.CacheInRange) : m'.CacheInRange := by
  unfold CacheInRange at hrange ⊢
  rw [h.attached, h.index, h.cachedCount, ← List.length_eq_zero_iff, h.cachedCount,
    List.length_eq_zero_iff]
  exact hrange

theorem queueCallback_inRange (h : m.CacheInRange) (callback : RestoreCompletionCallback U D) :
    (m.queueCallback callback).CacheInRange :=
  h.of_cache rfl

end

theorem modifyCachedItem_sameIndex (m : NavigationManagerImpl U D) (index : Nat)
    (f : NavigationItemImpl U D → NavigationItemImpl U D) :
    SameIndex m (m.modifyCachedItem env index f) := by
  refine ⟨modifyCachedItem_frame env m index f, ?_⟩
  unfold modifyCachedItem
  split
  · rfl
  · split <;> rfl

theorem modifyItem_sameIndex (m : NavigationManagerImpl U D) (ref : ItemRef)
    (f : NavigationItemImpl U D → NavigationItemImpl U D) :
    SameIndex m (m.modifyItem env ref f) := by
  refine ⟨modifyItem_frame m ref f, ?_⟩
  cases ref with
  | atIndex index => exact (modifyCachedItem_sameIndex m index f).index
  | pendingItem => rfl
  | delegatePendingItem => rfl
  | emptyWindowOpenItem => rfl
  | lastCommittedWebViewItem => rfl

theorem modifyItemIfAny_sameIndex (m : NavigationManagerImpl U D) (ref : Option ItemRef)
    (f : NavigationItemImpl U D → NavigationItemImpl U D) :
    SameIndex m (m.modifyItemIfAny env ref f) := by
  cases ref with
  | none => exact SameIndex.refl m
  | some ref => exact modifyItem_sameIndex m ref f

theorem restoreItemsStateFrom_sameIndex (cacheLimit : Nat)
    (items : List (NavigationItemImpl U D)) :
    ∀ (m : NavigationManagerImpl U D) (cacheIndex : Nat),
      SameIndex m (m.restoreItemsStateFrom env cacheIndex cacheLimit items) := by
  induction items with
  | nil =>
    intro m cacheIndex
    exact SameIndex.refl m
  | cons item items ih =>
    intro m cacheIndex
    unfold restoreItemsStateFrom
    split
    · exact SameIndex.refl m
    · have hone : SameIndex m (m.restoreItemState env cacheIndex item) := by
        unfold restoreItemState
        split
        · split
          · exact modifyCachedItem_sameIndex m cacheIndex _
          · exact SameIndex.refl m
        · exact SameIndex.refl m
      exact hone.trans (ih _ _)

theorem restoreItemsState_sameIndex (m : NavigationManagerImpl U D)
    (listType : RestoreItemListType) (items : List (NavigationItemImpl U D)) :
    SameIndex m (m.restoreItemsState env listType items) := by
  cases listType with
  | backList => exact restoreItemsStateFrom_sameIndex _ items m _
  | forwardList => exact restoreItemsStateFrom_sameIndex _ items m _

variable (env) in
theorem copyRestoredUserAgent_sameIndex (m : NavigationManagerImpl U D) (ref : Option ItemRef) :
    SameIndex m (m.copyRestoredUserAgent env ref) := by
  unfold copyRestoredUserAgent
  split
  · split
    · exact modifyItemIfAny_sameIndex m ref _
    · exact SameIndex.refl m
  · exact SameIndex.refl m

variable (env) in
theorem primeTitle_sameIndex (m : NavigationManagerImpl U D) (last : Int)
    (items : List (NavigationItemImpl U D)) : SameIndex m (m.primeTitle env last items) := by
  unfold primeTitle
  simp only
  split
  · exact modifyItemIfAny_sameIndex m _ _
  · exact SameIndex.refl m

theorem addPendingItem_sameIndex (m : NavigationManagerImpl U D) (url : U)
    (referrer : Referrer U) (navigationType : PageTransition)
    (initiationType : NavigationInitiationType)
    (isPostNavigation isUsingHttpsAsDefaultScheme : Bool) :
    SameIndex m (m.addPendingItem env url referrer navigationType initiationType
      isPostNavigation isUsingHttpsAsDefaultScheme) := by
  refine ⟨addPendingItem_frame m url referrer navigationType initiationType isPostNavigation
    isUsingHttpsAsDefaultScheme, ?_⟩
  unfold addPendingItem
  simp only
  split
  · rfl
  · split
    · exact (modifyCachedItem_sameIndex _ _ _).index
    · rfl

variable (env) in
theorem prepareLoad_sameIndex (m : NavigationManagerImpl U D) (params : WebLoadParams U) :
    SameIndex m (m.prepareLoad env params) := by
  have hadded : SameIndex m (m.addItemForLoad env params) :=
    (⟨(notifyDelegate_frame m _).trans (notifyDelegate_frame _ _), rfl⟩ :
      SameIndex m ((m.notifyDelegate .clearDialogs).notifyDelegate
        .recordPageStateInNavigationItem)).trans (addPendingItem_sameIndex _ _ _ _ _ _ _)
  exact (hadded.trans (modifyItemIfAny_sameIndex _ _ _)).trans (modifyItemIfAny_sameIndex _ _ _)

/-! ### Detaching, loading and restoring -/

variable (env) in
theorem detachFromWebView_inRange (h : m.CacheInRange) :
    (m.detachFromWebView env).CacheInRange := by
  cases hattached : m.isAttachedToWebView with
  | true =>
    have hcount : (m.detachFromWebView env).webViewCache.cachedItems.length =
        m.backForwardListItemCount := by
      unfold detachFromWebView
      simp only [hattached, if_true]
      rw [List.filterMap_length_eq_length.2, List.length_range]
      intro index hindex
      have hlt := List.mem_range.1 hindex
      unfold backForwardListItemCount at hlt
      unfold cachedItemAt wkItemAt
      simp only [hattached, Bool.not_true, Bool.false_eq_true, if_false] at hlt ⊢
      rw [List.getElem?_eq_getElem hlt]
      rfl
    have hindex : (m.detachFromWebView env).webViewCache.cachedCurrentItemIndex =
        m.currentItemIndex := by
      unfold detachFromWebView
      simp only [hattached, if_true]
    unfold CacheInRange
    right
    rw [← List.length_eq_zero_iff, hcount, hindex]
    exact attached_indexInRange hattached
  | false =>
    rcases h with h | h
    · rw [hattached] at h
      cases h
    · unfold detachFromWebView CacheInRange
      simp only [hattached]
      exact .inr h

/-- What `Restore` has made of the list before it loads, is in range. -/
theorem prepareRestore_inRange (m : NavigationManagerImpl U D) :
    (m.prepareRestore env).CacheInRange := by
  have hattached : (if !m.isAttachedToWebView then m.resetToAttached
      else m).discardNonCommittedItems.CacheInRange := by
    left
    cases hm : m.isAttachedToWebView with
    | true => exact hm
    | false => rfl
  unfold prepareRestore
  simp only
  generalize (if !m.isAttachedToWebView then m.resetToAttached else m).discardNonCommittedItems =
    start at hattached ⊢
  refine CacheInRange.of_cache (m := if 0 < start.itemCount then start.removeWebView env else start)
    ?_ rfl
  split
  · unfold removeWebView
    simp only
    split
    · exact (detachFromWebView_inRange env (hattached.of_cache rfl)).of_cache rfl
    · exact hattached.of_cache rfl
  · exact hattached

section

variable {restore : NavigationManagerImpl U D → Int → List (NavigationItemImpl U D) →
  NavigationManagerImpl U D}
  {load : NavigationManagerImpl U D → WebLoadParams U → NavigationManagerImpl U D}

theorem loadStep_inRange (h : m.CacheInRange)
    (params : WebLoadParams U)
    (hrestore : ∀ m' last items, items ≠ [] →
      m'.delegate.webView.isSome = m.delegate.webView.isSome →
      (restore m' last items).CacheInRange) :
    (loadStep env restore m params).CacheInRange := by
  unfold loadStep
  split
  · exact queueCallback_inRange h _
  · have hprepared := (prepareLoad_sameIndex env m params).inRange h
    simp only
    split
    · split
      · split
        · apply hrestore
          · unfold itemsUpToCurrent
            exact List.append_ne_nil_of_right_ne_nil _ (List.cons_ne_nil _ _)
          · exact (prepareLoad_frame env m params).webView
        · exact .of_attached rfl
      · exact .of_attached rfl
    · exact hprepared.of_cache rfl

theorem unsafeRestoreStep_inRange (last : Int)
    (items : List (NavigationItemImpl U D))
    (hload : ∀ m' params, m'.webViewCache = m.webViewCache →
      m'.delegate.webView = m.delegate.webView → (load m' params).CacheInRange) :
    (unsafeRestoreStep env load m last items).CacheInRange := by
  unfold unsafeRestoreStep
  simp only
  exact (primeTitle_sameIndex env _ _ _).inRange (hload _ _ rfl rfl)

/-- `Restore` loads attached, or detached from a web view it has removed. -/
theorem restoreStep_inRange (last : Int)
    {items : List (NavigationItemImpl U D)} (hitems : items ≠ [])
    (hload : ∀ m' params, m'.CacheInRange →
      m'.isAttachedToWebView = true ∨
        (m.delegate.webView.isSome = true ∧ m'.delegate.webView.isSome = false) →
      (load m' params).CacheInRange) :
    (restoreStep env load m last items).CacheInRange := by
  unfold restoreStep
  rw [if_neg (by simpa using hitems)]
  apply unsafeRestoreStep_inRange
  intro m' params hcache hview
  apply hload m' params ((prepareRestore_inRange m).of_cache hcache)
  rcases prepareRestore_cases env m with hprep | hprep
  · left
    unfold isAttachedToWebView
    rw [hcache]
    exact hprep.attached
  · exact .inr ⟨hprep.hadWebView, by rw [hview, hprep.webView]; rfl⟩

end

theorem loadURLNested_attached_inRange (h : m.isAttachedToWebView = true) (params : WebLoadParams U)
    (depth : Nat) :
    (loadURLNested env depth m params).CacheInRange := by
  rw [loadURLNested_attached h]
  have hprepared := (prepareLoad_frame env m params).attached.trans h
  unfold loadURLNested loadStep
  split
  · exact queueCallback_inRange (.of_attached h) _
  · simp only [hprepared]
    exact .of_attached hprepared

/-- Without a web view, a restore loads attached. -/
theorem loadURLNested_noWebView_inRange (hview : m.delegate.webView.isSome = false)
    (h : m.CacheInRange) (params : WebLoadParams U) (depth : Nat) :
    (loadURLNested env (depth + 1) m params).CacheInRange := by
  apply loadStep_inRange h
  intro m' last items hitems hview'
  apply restoreStep_inRange last hitems
  rintro m'' params'' - (hattached | ⟨hsome, -⟩)
  · exact loadURLNested_attached_inRange hattached params'' depth
  · rw [hview', hview] at hsome
    cases hsome

/-- The second restore of a load, if there is one, finds no web view. -/
theorem loadURLWithParams_inRange (h : m.CacheInRange) (params : WebLoadParams U) :
    (loadURLWithParams env m params).CacheInRange := by
  apply loadStep_inRange h
  intro m' last items hitems hview'
  apply restoreStep_inRange last hitems
  rintro m'' params'' hrange (hattached | ⟨-, hnone⟩)
  · exact loadURLNested_attached_inRange hattached params'' 1
  · exact loadURLNested_noWebView_inRange hnone hrange params'' 0

theorem restore_inRange (last : Int) {items : List (NavigationItemImpl U D)} (hitems : items ≠ []) :
    (m.restore env last items).CacheInRange :=
  restoreStep_inRange last hitems fun _ params hrange _ => loadURLWithParams_inRange hrange params

theorem unsafeRestore_inRange (h : m.CacheInRange) (last : Int)
    (items : List (NavigationItemImpl U D)) : (m.unsafeRestore env last items).CacheInRange :=
  unsafeRestoreStep_inRange last items fun _ params hcache _ =>
    loadURLWithParams_inRange (h.of_cache hcache) params

/-- A restore of the cached items, of which there may be none. -/
theorem restoreCached_inRange (h : m.CacheInRange) (last : Int) :
    (m.releaseCachedItems.restore env last m.webViewCache.cachedItems).CacheInRange := by
  cases hitems : m.webViewCache.cachedItems with
  | nil =>
    have hreleased : m.releaseCachedItems.webViewCache = m.webViewCache := by
      show { m.webViewCache with cachedItems := [] } = m.webViewCache
      rw [← hitems]
    exact h.of_cache hreleased
  | cons item items => exact restore_inRange last (List.cons_ne_nil item items)

/-! ### The end of a restore -/

theorem loadIfNecessary_inRange (h : m.CacheInRange) :
    (m.loadIfNecessary env).CacheInRange := by
  unfold loadIfNecessary
  split
  · exact restoreCached_inRange h _
  · exact h.of_cache rfl

theorem loads_inRange (loads : List (WebLoadParams U)) :
    ∀ {m : NavigationManagerImpl U D}, m.CacheInRange →
      (loads.foldl (fun m params => m.loadURLWithParams env params) m).CacheInRange := by
  induction loads with
  | nil =>
    intro m h
    exact h
  | cons params loads ih =>
    intro m h
    exact ih (loadURLWithParams_inRange h params)

theorem runCallback_inRange (h : m.CacheInRange) (callback : RestoreCompletionCallback U D) :
    (m.runCallback env callback).CacheInRange := by
  cases callback with
  | restoreItemsState listType items =>
    exact (restoreItemsState_sameIndex m listType items).inRange h
  | loadURLWithParams params => exact loadURLWithParams_inRange h params
  | client loads => exact loads_inRange loads h

variable (env) in
theorem runQueue_inRange (queue : List (QueuedCallback U D)) :
    ∀ {m : NavigationManagerImpl U D}, m.CacheInRange →
      (queue.foldl (runQueuedCallback env) m).CacheInRange := by
  induction queue with
  | nil =>
    intro m h
    exact h
  | cons queued queue ih =>
    intro m h
    have hrun : (m.runQueuedCallback env queued).CacheInRange := by
      unfold runQueuedCallback
      apply runCallback_inRange
      exact CacheInRange.of_cache h rfl
    exact ih hrun

theorem finalizeSessionRestore_inRange (h : m.CacheInRange) :
    (m.finalizeSessionRestore env).CacheInRange := by
  have hrun := runQueue_inRange env m.restoreSessionCompletionCallbacks
    (m := { m with isRestoreSessionInProgress := false }) (h.of_cache rfl)
  exact loadIfNecessary_inRange (CacheInRange.of_cache hrun rfl)

theorem call_inRange (m : NavigationManagerImpl U D) (call : NavigationCall U D)
    (h : m.CacheInRange) : (m.perform env call).CacheInRange := by
  cases call with
  | restore last items =>
    cases items with
    | nil => exact h
    | cons item items => exact restore_inRange last (List.cons_ne_nil item items)
  | unsafeRestore last items => exact unsafeRestore_inRange h last items
  | addRestoreCompletionCallback loads =>
    show (m.addRestoreCompletionCallback env (.client loads)).CacheInRange
    unfold addRestoreCompletionCallback
    split
    · exact runCallback_inRange h _
    · exact queueCallback_inRange h _
  | loadURLWithParams params => exact loadURLWithParams_inRange h params
  | onNavigationStarted url =>
    show (m.onNavigationStarted env url).CacheInRange
    unfold onNavigationStarted
    split
    · exact h
    · split
      · exact h
      · simp only
        apply finalizeSessionRestore_inRange
        split
        · exact (copyRestoredUserAgent_sameIndex env m _).inRange h
        · exact h
  | onNavigationItemCommitted =>
    show (m.onNavigationItemCommitted env).CacheInRange
    unfold onNavigationItemCommitted
    split
    · simp only
      split
      · split
        · exact finalizeSessionRestore_inRange (h.of_cache rfl)
        · exact h.of_cache rfl
      · exact h.of_cache rfl
    · exact h
  | restoreSessionFromCache url restoredWebView =>
    show (m.restoreSessionFromCache env url restoredWebView).CacheInRange
    unfold restoreSessionFromCache
    split
    · exact h
    · split
      · exact h
      · next webView =>
        have hadopted : (m.adoptNativeSession webView).CacheInRange := h.of_cache rfl
        exact finalizeSessionRestore_inRange
          (((copyRestoredUserAgent_sameIndex env _ _).inRange hadopted).of_cache rfl)
  | detachFromWebView => exact detachFromWebView_inRange env h
  | elsewhere other => exact h.of_cache rfl

/-- **In every state a run reaches, the current item is one of the list.** -/
theorem reachable_inRange (h : (navigationMachine env).Reachable m) : m.IndexInRange := by
  refine (h.invariant (I := CacheInRange) ?_ ?_).indexInRange
  · rintro m ⟨delegate, rfl⟩
    exact .of_attached rfl
  · intro m call h' _
    exact call_inRange m call h'

/-! ## Agreement -/

section

omit [UrlLibrary U] [DecidableEq U] [Inhabited D]

/-- The items are those behind, the last committed one, and those ahead. -/
structure HistoryAgrees (m : NavigationManagerImpl U D) : Prop where
  items : m.itemRefs =
    m.backwardItemRefs.reverse ++ m.lastCommittedEntry.toList.map some ++ m.forwardItemRefs
  notAhead : ∀ ref, m.lastCommittedEntry = some ref → some ref ∉ m.forwardItemRefs
  canGoForward : m.forwardItemRefs ≠ [] ↔ m.canGoForward = true

/-- Where there is an item after the current one, its index is an `int`. -/
def NextIndexFits (m : NavigationManagerImpl U D) : Prop :=
  m.currentItemIndex < 2147483647 ∨ m.itemCount ≤ m.currentItemIndex + 1

theorem range_eq_split {n i : Nat} (h : i < n) :
    List.range n = List.range i ++ i :: List.range' (i + 1) (n - (i + 1)) := by
  obtain ⟨k, rfl⟩ := Nat.exists_eq_add_of_lt h
  have hrest : i + k + 1 - (i + 1) = k := by omega
  rw [hrest, List.range_eq_range', List.range_eq_range', ← List.range'_succ]
  have happend := List.range'_append_1 (s := 0) (m := i) (n := k + 1)
  rw [Nat.zero_add] at happend
  exact happend.symm

variable {m : NavigationManagerImpl U D}

theorem itemRefAt_of_lt (hempty : m.emptyWindowOpenItem = none) {index : Nat}
    (h : index < m.backForwardListItemCount) : m.itemRefAt index = some (.atIndex index) := by
  unfold itemRefAt
  rw [hempty]
  simp [h]

theorem lastCommittedIndexInSession_eq (hpending : m.pendingItemIndex = -1)
    (hempty : m.emptyWindowOpenItem = none) :
    m.lastCommittedIndexInSession = m.currentItemIndex := by
  unfold lastCommittedIndexInSession
  rw [hpending, hempty]
  rfl

/-- The list of the web view or of the cache. -/
theorem historyAgrees_of_list (hidle : m.isRestoreSessionInProgress = false)
    (hpending : m.pendingItemIndex = -1) (hempty : m.emptyWindowOpenItem = none)
    (hrange : m.IndexInRange) : m.HistoryAgrees ↔ m.NextIndexFits := by
  have hcount : m.itemCount = m.backForwardListItemCount := by
    unfold itemCount
    rw [hempty]
    rfl
  have hforward : m.canGoForward = true ↔
      m.currentItemIndex < 2147483647 ∧ -1 ≤ m.currentItemIndex ∧
        m.currentItemIndex + 1 < m.itemCount := by
    unfold canGoForward canGoToOffset getIndexForOffset
    simp only [hidle, hempty, hpending, Option.isSome_none, Bool.false_eq_true, if_false, if_true,
      decide_eq_true_eq]
    split <;> omega
  rcases hrange with ⟨hzero, hnone⟩ | ⟨hnonneg, hlt⟩
  · -- An empty list has no current item.
    have hentry : m.lastCommittedEntry = none := by
      unfold lastCommittedEntry
      rw [lastCommittedIndexInSession_eq hpending hempty]
      simp [hempty, hnone]
    have hahead : m.forwardItemRefs = [] := by
      unfold forwardItemRefs
      simp [hidle, hcount, hzero]
    refine iff_of_true ⟨?_, ?_, ?_⟩ (.inl (by omega))
    · rw [hentry, hahead]
      unfold itemRefs backwardItemRefs
      rw [hcount, hzero, hnone]
      simp
    · intro ref href
      rw [hentry] at href
      cases href
    · rw [hforward, hahead, hcount, hzero]
      constructor
      · intro hne
        exact absurd rfl hne
      · rintro ⟨-, -, hlt⟩
        omega
  · obtain ⟨i, hi⟩ := Int.eq_ofNat_of_zero_le hnonneg
    have hin : i < m.backForwardListItemCount := by omega
    have hentry : m.lastCommittedEntry = some (.atIndex i) := by
      unfold lastCommittedEntry
      rw [lastCommittedIndexInSession_eq hpending hempty, hempty, hi]
      simp only [Option.isSome_none, Bool.false_eq_true, if_false]
      rw [if_neg (by omega)]
      exact itemRefAt_of_lt hempty hin
    have hbehind : m.backwardItemRefs.reverse = (List.range i).map m.itemRefAt := by
      unfold backwardItemRefs
      rw [hidle, hi]
      simp
    have hahead : m.forwardItemRefs =
        (List.range' (i + 1) (m.backForwardListItemCount - (i + 1))).map m.itemRefAt := by
      unfold forwardItemRefs
      have hfirst : ((i : Int) + 1).toNat = i + 1 := by omega
      rw [hidle, hi, hcount]
      simp only [Bool.false_eq_true, if_false]
      rw [hfirst]
    have hnonempty : m.forwardItemRefs ≠ [] ↔ i + 1 < m.backForwardListItemCount := by
      rw [hahead, Ne, List.map_eq_nil_iff, List.range'_eq_nil_iff]
      omega
    constructor
    · intro hagrees
      have hiff := hagrees.canGoForward
      rw [hnonempty, hforward] at hiff
      unfold NextIndexFits
      omega
    · intro hfits
      refine ⟨?_, ?_, ?_⟩
      · unfold itemRefs
        rw [hcount, range_eq_split hin, hentry, hbehind, hahead, List.map_append, List.map_cons,
          itemRefAt_of_lt hempty hin]
        simp
      · -- The items ahead have greater indices.
        intro ref href hmem
        rw [hentry] at href
        cases href
        rw [hahead] at hmem
        obtain ⟨index, hindex, hat⟩ := List.mem_map.1 hmem
        obtain ⟨hge, hless⟩ := List.mem_range'_1.1 hindex
        rw [itemRefAt_of_lt hempty (by omega)] at hat
        cases hat
        omega
      · rw [hnonempty, hforward]
        unfold NextIndexFits at hfits
        omega

/-- The item of an empty `window.open`: all depends on the index of the web
view, which says nothing about it. -/
theorem historyAgrees_of_emptyWindow (hidle : m.isRestoreSessionInProgress = false)
    (hempty : m.emptyWindowOpenItem.isSome = true) (hrange : m.IndexInRange) :
    m.HistoryAgrees ↔ m.currentItemIndex = 0 := by
  have hcount : m.itemCount = 1 := by
    unfold itemCount
    rw [if_pos hempty]
  have hitems : m.itemRefs = [some .emptyWindowOpenItem] := by
    unfold itemRefs itemRefAt
    rw [hcount]
    simp [hempty]
  have hentry : m.lastCommittedEntry = some .emptyWindowOpenItem := by
    unfold lastCommittedEntry
    rw [if_pos hempty]
  have hforward : m.canGoForward = false := by
    unfold canGoForward canGoToOffset
    simp [hidle, hempty]
  constructor
  · intro hagrees
    -- There is one item, so none is behind it or ahead of it.
    have hlength := congrArg List.length hagrees.items
    rw [hitems, hentry] at hlength
    simp only [List.length_append, List.length_reverse, Option.toList_some, List.length_map,
      List.length_singleton] at hlength
    have hbehind : m.backwardItemRefs.length = m.currentItemIndex.toNat := by
      unfold backwardItemRefs
      simp [hidle]
    have hahead : m.forwardItemRefs.length = 1 - (m.currentItemIndex + 1).toNat := by
      unfold forwardItemRefs
      simp [hidle, hcount]
    rcases hrange with ⟨-, hnone⟩ | ⟨hnonneg, -⟩ <;> omega
  · intro hzero
    have hbehind : m.backwardItemRefs = [] := by
      unfold backwardItemRefs
      simp [hzero]
    have hahead : m.forwardItemRefs = [] := by
      unfold forwardItemRefs
      simp [hzero, hcount]
    refine ⟨?_, ?_, ?_⟩
    · rw [hitems, hentry, hbehind, hahead]
      rfl
    · intro ref _ hmem
      rw [hahead] at hmem
      cases hmem
    · rw [hahead, hforward]
      simp

end

/-- **In every state reached outside a restore, with no back-forward navigation
pending, the accessors agree exactly where there is no item of an empty
`window.open`, or the web view is at its first entry again.** -/
theorem historyAgrees_iff (env : NavigationEnv U) (m : NavigationManagerImpl U D)
    (hreach : (navigationMachine env).Reachable m)
    (hidle : m.isRestoreSessionInProgress = false) (hpending : m.pendingItemIndex = -1) :
    (m.HistoryAgrees ↔
      (m.emptyWindowOpenItem.isSome = true → m.currentItemIndex = 0) ∧ m.NextIndexFits) ∧
      m.LastCommittedIsEntry env := by
  refine ⟨?_, lastCommittedIsEntry env hidle⟩
  have hrange := reachable_inRange hreach
  cases hempty : m.emptyWindowOpenItem with
  | none =>
    rw [historyAgrees_of_list hidle hpending hempty hrange]
    simp
  | some item =>
    have hsome : m.emptyWindowOpenItem.isSome = true := by rw [hempty]; rfl
    rw [historyAgrees_of_emptyWindow hidle hsome hrange]
    constructor
    · intro hzero
      exact ⟨fun _ => hzero, .inl (by omega)⟩
    · rintro ⟨hzero, -⟩
      exact hzero rfl

/-- A page of two entries, shown by a web view with both in its list. -/
private def secondOfTwo : Delegate PlainUrl Unit :=
  { webView := some
      { url := ⟨"http://b.com/"⟩
        backForwardList := some
          ⟨[⟨⟨"http://a.com/"⟩, "a", none⟩], ⟨⟨"http://b.com/"⟩, "b", none⟩, []⟩ }
    pendingItem := none
    currentURL := none
    calls := [] }

private def historyEnv : NavigationEnv PlainUrl where
  features := plainFeatures
  client := plainClient
  json := plainJson

theorem historyAgrees_iff_twoEntries : (create secondOfTwo).HistoryAgrees :=
  (historyAgrees_iff historyEnv (create secondOfTwo) ⟨_, [], ⟨secondOfTwo, rfl⟩, trivial, rfl⟩ rfl
    rfl).1.2 ⟨nofun, .inl (by decide)⟩

/-! ## The item of an empty `window.open` -/

/-- `ResetForCommit`. -/
def resetForCommit (item : NavigationItemImpl U D) : NavigationItemImpl U D :=
  { item with navigationInitiationType := .none }

/-- What `CommitPendingItem` does with a new item: it goes to the current entry
of the web view, or is kept here where a list without entries says that the
page is that of an empty `window.open`. -/
def commitNewItem (m : NavigationManagerImpl U D) : NavigationManagerImpl U D :=
  let item := m.pendingItem.map resetForCommit
  match m.delegate.webView with
  | some webView =>
    match webView.backForwardList with
    | some list =>
      { m with
        emptyWindowOpenItem := none
        delegate.webView := some
          { webView with
            backForwardList :=
              some (list.replaceState { list.current with navigationItem := item }) } }
    | none => { m with emptyWindowOpenItem := item }
  | none => { m with emptyWindowOpenItem := none }

variable (env) in
/-- `CommitPendingItem`. -/
def commitPendingItem (m : NavigationManagerImpl U D) : NavigationManagerImpl U D :=
  if m.pendingItemIndex = -1 ∧ m.pendingItem.isNone then { m with emptyWindowOpenItem := none }
  else
    let m := if m.pendingItemIndex = -1 then m.commitNewItem else m
    let m := m.discardNonCommittedItems
    { m with
      lastCommittedItemIndex :=
        if m.emptyWindowOpenItem.isSome then 0 else m.currentItemIndex }.onNavigationItemCommitted
      env

/-- A manager to which the page of an empty `window.open` is committed. -/
structure OpensEmptyWindow (m : NavigationManagerImpl U D) : Prop where
  attached : m.isAttachedToWebView = true
  idle : m.isRestoreSessionInProgress = false
  notBackForward : m.pendingItemIndex = -1
  pending : m.pendingItem.isSome = true
  noEntries : ∃ webView, m.delegate.webView = some webView ∧ webView.backForwardList = none

/-- What committing that page leaves. -/
structure CommittedEmptyWindow (m m' : NavigationManagerImpl U D) : Prop where
  idle : m'.isRestoreSessionInProgress = false
  notBackForward : m'.pendingItemIndex = -1
  item : m'.emptyWindowOpenItem.isSome = true
  noIndex : m'.currentItemIndex = -1
  webViewCache : m'.webViewCache = m.webViewCache
  callbacks : m'.restoreSessionCompletionCallbacks = m.restoreSessionCompletionCallbacks
  ledger : m'.ledger = m.ledger

variable (env) in
/-- Outside a restore only the delegate is told. -/
theorem onNavigationItemCommitted_idle (hidle : m.isRestoreSessionInProgress = false) :
    m.onNavigationItemCommitted env = m ∨
      ∃ call, m.onNavigationItemCommitted env = m.notifyDelegate call ∨
        m.onNavigationItemCommitted env = (m.notifyDelegate call).resetRestoredVisibleItem := by
  unfold onNavigationItemCommitted
  split
  · next item hitem =>
    right
    refine ⟨.onNavigationItemCommitted item.url, ?_⟩
    simp only
    split
    · right
      exact if_neg (by
        show ¬ m.isRestoreSessionInProgress = true
        rw [hidle]
        exact Bool.false_ne_true)
    · exact .inl rfl
  · exact .inl rfl

variable (env) in
theorem commitPendingItem_emptyWindow (h : m.OpensEmptyWindow) :
    CommittedEmptyWindow m (m.commitPendingItem env) := by
  obtain ⟨item, hitem⟩ := Option.isSome_iff_exists.1 h.pending
  obtain ⟨webView, hview, hlist⟩ := h.noEntries
  have hnew : m.commitNewItem = { m with emptyWindowOpenItem := some (resetForCommit item) } := by
    unfold commitNewItem
    rw [hitem, hview]
    simp only [hlist]
    rfl
  have hindex : m.currentItemIndex = -1 := by
    unfold currentItemIndex backForwardList
    rw [h.attached, hview]
    simp [hlist]
  unfold commitPendingItem
  rw [if_neg (by rw [hitem]; simp), if_pos h.notBackForward, hnew]
  simp only
  generalize hcommitted : ({ discardNonCommittedItems _ with lastCommittedItemIndex := _ } :
    NavigationManagerImpl U D) = committed
  have hbefore : CommittedEmptyWindow m committed := by
    subst hcommitted
    exact ⟨h.idle, rfl, rfl, hindex, rfl, rfl, rfl⟩
  rcases onNavigationItemCommitted_idle env hbefore.idle with heq | ⟨call, heq | heq⟩
  · rw [heq]
    exact hbefore
  · rw [heq]
    exact ⟨hbefore.idle, hbefore.notBackForward, hbefore.item, hbefore.noIndex,
      hbefore.webViewCache, hbefore.callbacks, hbefore.ledger⟩
  · rw [heq]
    exact ⟨hbefore.idle, hbefore.notBackForward, hbefore.item, hbefore.noIndex,
      hbefore.webViewCache, hbefore.callbacks, hbefore.ledger⟩

variable (env) in
/-- **Each item of an empty `window.open` is ahead of itself once committed,
while one cannot go forward.** -/
theorem committed_aheadOfItself (h : m.OpensEmptyWindow) :
    let m' := m.commitPendingItem env
    m'.lastCommittedEntry = some .emptyWindowOpenItem ∧
      m'.forwardItemRefs = [some .emptyWindowOpenItem] ∧ m'.canGoForward = false := by
  have hcommitted := commitPendingItem_emptyWindow env h
  simp only
  refine ⟨?_, ?_, ?_⟩
  · unfold lastCommittedEntry
    rw [if_pos hcommitted.item]
  · unfold forwardItemRefs itemCount
    rw [hcommitted.idle, if_pos hcommitted.item, hcommitted.noIndex]
    simp only [Bool.false_eq_true, if_false]
    show [(m.commitPendingItem env).itemRefAt 0] = _
    unfold itemRefAt
    rw [if_pos hcommitted.item, if_pos rfl]
  · unfold canGoForward canGoToOffset
    rw [hcommitted.idle, if_neg Bool.false_ne_true, if_pos hcommitted.item]
    rfl

/-- The web view of a new window has no list yet. -/
private def newWindow : Delegate PlainUrl Unit :=
  ⟨some ⟨⟨"about:blank"⟩, none⟩, none, none, []⟩

/-- The manager of the window, about to commit the page. -/
private def openingWindow : NavigationManagerImpl PlainUrl Unit :=
  { create newWindow with
    pendingItem := some { NavigationItemImpl.create with url := ⟨"about:blank"⟩ } }

private theorem openingWindow_opens : openingWindow.OpensEmptyWindow :=
  ⟨rfl, rfl, rfl, rfl, _, rfl, rfl⟩

theorem emptyWindow_aheadOfItself :
    let m := openingWindow.commitPendingItem historyEnv
    (navigationMachine historyEnv).Reachable m ∧ m.isRestoreSessionInProgress = false ∧
      m.pendingItemIndex = -1 ∧ ¬ m.HistoryAgrees ∧
      m.lastCommittedEntry = some .emptyWindowOpenItem ∧
      m.forwardItemRefs = [some .emptyWindowOpenItem] ∧ m.canGoForward = false := by
  have hcommitted := commitPendingItem_emptyWindow historyEnv openingWindow_opens
  have hahead := committed_aheadOfItself historyEnv openingWindow_opens
  intro m
  refine ⟨?_, hcommitted.idle, hcommitted.notBackForward, ?_, hahead⟩
  · refine ⟨create newWindow, [.elsewhere m], ⟨newWindow, rfl⟩, ⟨trivial, trivial⟩, ?_⟩
    show ({ m with
      webViewCache := (create newWindow : NavigationManagerImpl PlainUrl Unit).webViewCache
      isRestoreSessionInProgress := false
      restoreSessionCompletionCallbacks := []
      ledger := ⟨0, [], []⟩ } : NavigationManagerImpl PlainUrl Unit) = m
    have hcache : m.webViewCache = (create newWindow).webViewCache := hcommitted.webViewCache
    have hcallbacks : m.restoreSessionCompletionCallbacks = [] := hcommitted.callbacks
    have hledger : m.ledger = ⟨0, [], []⟩ := hcommitted.ledger
    rw [← hcache, ← hcallbacks, ← hledger, ← hcommitted.idle]
  · intro hagrees
    refine hagrees.notAhead .emptyWindowOpenItem hahead.1 ?_
    rw [hahead.2.1]
    exact List.mem_singleton.2 rfl

end NavigationManagerImpl

end IosChrome.Navigation

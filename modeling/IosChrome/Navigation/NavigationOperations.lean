import IosChrome.Navigation.NavigationManager

/-!
# `NavigationManagerImpl`: the operations

`LoadURLWithParams` in detached mode calls `Restore`, which loads the session
URL with `LoadURLWithParams`. The two are written with the other as an argument
(`loadStep`, `restoreStep`) and tied together by `loadURLWithParams`, which
allows two nested restores: the first attaches the manager, and where that
brings back a web view with a list, `RemoveWebView` detaches it again; the
second finds no web view. `loadURLWithParams_eq` states that nothing is cut
off.

The session is handed over by `UnsafeRestore`, which queues the callbacks that
`FinalizeSessionRestore` runs.
-/

namespace IosChrome.Navigation

open IosChrome.Lib

variable {U D : Type} [UrlLibrary U] [DecidableEq U] [Inhabited D] (env : NavigationEnv U)

namespace NavigationManagerImpl

/-! ## The web view cache -/

section

omit [UrlLibrary U] [DecidableEq U] [Inhabited D]

def notifyDelegate (m : NavigationManagerImpl U D) (call : DelegateCall U) :
    NavigationManagerImpl U D :=
  { m with delegate.calls := m.delegate.calls ++ [call] }

/-- `WKWebViewCache::ResetToAttached`. -/
def resetToAttached (m : NavigationManagerImpl U D) : NavigationManagerImpl U D :=
  { m with webViewCache := ⟨true, [], -1⟩ }

def discardNonCommittedItems (m : NavigationManagerImpl U D) : NavigationManagerImpl U D :=
  { m with pendingItem := none, pendingItemIndex := -1 }

end

/-- A copy of an item for detached mode: a restore URL is replaced by its
target. -/
def extractedItem (item : NavigationItemImpl U D) : NavigationItemImpl U D :=
  match restoreTarget item.url with
  | some extractedURL => item.setURL extractedURL
  | none => item

/-- `DetachFromWebView`, of the cache and of the manager. -/
def detachFromWebView (m : NavigationManagerImpl U D) : NavigationManagerImpl U D :=
  let cache : WKWebViewCache U D :=
    if m.isAttachedToWebView then
      { attachedToWebView := false
        cachedItems :=
          (List.range m.backForwardListItemCount).filterMap fun index =>
            (m.cachedItemAt env index).map extractedItem
        cachedCurrentItemIndex := m.currentItemIndex }
    else { m.webViewCache with attachedToWebView := false }
  { m with webViewCache := cache, isRestoreSessionInProgress := false }

/-- The delegate's `RemoveWebView`: a web view is detached from before it is
dropped. -/
def removeWebView (m : NavigationManagerImpl U D) : NavigationManagerImpl U D :=
  let m := m.notifyDelegate .removeWebView
  if m.delegate.webView.isSome then { m.detachFromWebView env with delegate.webView := none }
  else m

/-! ## Pending items -/

omit [Inhabited D] in
/-- `IsSameOrPlaceholderOf`. -/
def isSameOrPlaceholderOf (url other : U) : Bool :=
  decide (url = other) || decide (url = createPlaceholderUrlForUrl other)

/-- The navigation type of a reload, but not of a back/forward one. -/
def isReload (navigationType : PageTransition) : Bool :=
  navigationType.has PageTransition.reload && !navigationType.has PageTransition.forwardBack

/-- The URL of the current entry, as `AddPendingItem` compares it: a redirect
page that is being reloaded stands for its target. -/
def currentItemURL (m : NavigationManagerImpl U D) (navigationType : PageTransition)
    (initiationType : NavigationInitiationType) : U :=
  match m.backForwardList with
  | some list =>
    let url := list.current.url
    if isReload navigationType && decide (initiationType = .browserInitiated) then
      (restoreTarget url).getD url
    else url
  | none => emptyGURL

/-- The item the current entry holds. -/
def associatedItem (m : NavigationManagerImpl U D) : Option (NavigationItemImpl U D) :=
  match m.backForwardList with
  | some list => list.current.navigationItem
  | none => none

/-- The user agent is kept when a restore URL is reloaded. -/
def withRestoredUserAgent (m : NavigationManagerImpl U D) (navigationType : PageTransition)
    (currentItemURL : U) (pending : NavigationItemImpl U D) : NavigationItemImpl U D :=
  match m.associatedItem with
  | some item =>
    if isReload navigationType && isRestoreSessionUrl currentItemURL &&
        decide (item.userAgentType ≠ .none) && urlNeedsUserAgentType env pending.url then
      pending.setUserAgentType item.userAgentType
    else pending
  | none => pending

/-- The current entry, the pending item and the web view have one URL. -/
def isCurrentURLSameAsPending (m : NavigationManagerImpl U D) (currentItemURL : U)
    (pending : NavigationItemImpl U D) : Bool :=
  let webViewURL : U :=
    match m.delegate.webView with
    | some webView => webView.url
    | none => emptyGURL
  if env.features.useJSForErrorPage then
    decide (currentItemURL = pending.url) && decide (currentItemURL = webViewURL)
  else
    isSameOrPlaceholderOf currentItemURL pending.url &&
      isSameOrPlaceholderOf currentItemURL webViewURL

/-- The new item of `AddPendingItem`. -/
def makePendingItem (m : NavigationManagerImpl U D) (url : U) (referrer : Referrer U)
    (navigationType : PageTransition) (initiationType : NavigationInitiationType)
    (isUsingHttpsAsDefaultScheme : Bool) : NavigationItemImpl U D :=
  let previousURL :=
    match m.lastCommittedItemInSession env with
    | some item => item.url
    | none => emptyGURL
  let pending := createNavigationItemWithRewriters env
    ((m.getLastCommittedItem env).map fun item => item.url) url referrer navigationType
    initiationType isUsingHttpsAsDefaultScheme previousURL m.transientURLRewriters
  if decide (m.nextPendingUrlShouldSkipSerialization ≠ emptyGURL) &&
      decide (url = m.nextPendingUrlShouldSkipSerialization) then
    { pending with shouldSkipSerialization := true }
  else pending

/-- The current entry takes the place of the pending item: it keeps its item,
or takes the pending one. -/
def reuseCurrentEntry (m : NavigationManagerImpl U D) (pending : NavigationItemImpl U D) :
    NavigationManagerImpl U D :=
  let index := m.currentItemIndex
  let hasItem := m.associatedItem.isSome
  let m := m.modifyCachedItem env index.toNat fun item =>
    let item := if hasItem then item else pending
    if env.features.createPendingItemForPostFormSubmission then
      { item with transitionType := pending.transitionType }
    else item
  { m with pendingItem := none, pendingItemIndex := index }

/-- The new item becomes the pending one. -/
def setNewPendingItem (m : NavigationManagerImpl U D) (pending : NavigationItemImpl U D) :
    NavigationManagerImpl U D :=
  { m with
    pendingItem := some pending
    transientURLRewriters := []
    nextPendingUrlShouldSkipSerialization := emptyGURL }

/-- `AddPendingItem`. -/
def addPendingItem (m : NavigationManagerImpl U D) (url : U) (referrer : Referrer U)
    (navigationType : PageTransition) (initiationType : NavigationInitiationType)
    (isPostNavigation isUsingHttpsAsDefaultScheme : Bool) : NavigationManagerImpl U D :=
  let m := m.discardNonCommittedItems
  let pending := m.makePendingItem env url referrer navigationType initiationType
    isUsingHttpsAsDefaultScheme
  let m := m.setNewPendingItem pending
  if !m.isAttachedToWebView then m
  else
    let currentItemURL := m.currentItemURL navigationType initiationType
    let pending := m.withRestoredUserAgent env navigationType currentItemURL pending
    let m := m.setNewPendingItem pending
    let isFormPost := env.features.createPendingItemForPostFormSubmission && isPostNavigation &&
      navigationType.has PageTransition.formSubmit
    if m.backForwardList.isSome && m.isCurrentURLSameAsPending env currentItemURL pending &&
        !isFormPost then
      m.reuseCurrentEntry env pending
    else m

/-! ## Restore completion callbacks -/

section

omit [UrlLibrary U] [DecidableEq U] [Inhabited D]

/-- `AddRestoreCompletionCallback` while a restore is in progress. -/
def queueCallback (m : NavigationManagerImpl U D) (callback : RestoreCompletionCallback U D) :
    NavigationManagerImpl U D :=
  let serial := m.ledger.registered.length
  { m with
    restoreSessionCompletionCallbacks :=
      m.restoreSessionCompletionCallbacks ++ [⟨serial, callback⟩]
    ledger.registered := m.ledger.registered ++ [(serial, m.ledger.restores)] }

end

/-- The entry is the restored item's, or redirects to it. -/
def isSameURL (cachedItem restoreItem : NavigationItemImpl U D) : Bool :=
  match restoreTarget cachedItem.url with
  | some targetURL => decide (targetURL = restoreItem.url)
  | none => decide (cachedItem.url = restoreItem.url)

/-- One pass of the loop of `RestoreItemsState`. -/
def restoreItemState (m : NavigationManagerImpl U D) (cacheIndex : Nat)
    (restoreItem : NavigationItemImpl U D) : NavigationManagerImpl U D :=
  match m.cachedItemAt env cacheIndex with
  | some cachedItem =>
    if isSameURL cachedItem restoreItem then
      m.modifyCachedItem env cacheIndex fun item => item.restoreStateFromItem restoreItem
    else m
  | none => m

/-- The loop: one pass for each restored item, while there is an entry for
it. -/
def restoreItemsStateFrom (m : NavigationManagerImpl U D) (cacheIndex cacheLimit : Nat) :
    List (NavigationItemImpl U D) → NavigationManagerImpl U D
  | [] => m
  | restoreItem :: itemsRestored =>
    if cacheIndex ≥ cacheLimit then m
    else
      restoreItemsStateFrom (m.restoreItemState env cacheIndex restoreItem) (cacheIndex + 1)
        cacheLimit itemsRestored

/-- `RestoreItemsState`. -/
def restoreItemsState (m : NavigationManagerImpl U D) (listType : RestoreItemListType)
    (itemsRestored : List (NavigationItemImpl U D)) : NavigationManagerImpl U D :=
  match listType with
  | .backList => m.restoreItemsStateFrom env 0 m.currentItemIndex.toNat itemsRestored
  | .forwardList =>
    m.restoreItemsStateFrom env (m.currentItemIndex + 1).toNat m.backForwardListItemCount
      itemsRestored

/-! ## Loading and restoring -/

/-- What of `params` the pending item takes over. -/
def applyParams (params : WebLoadParams U) (lastCommittedURL : U) (item : NavigationItemImpl U D) :
    NavigationItemImpl U D :=
  let item :=
    if decide (lastCommittedURL ≠ item.url) && equalsIgnoringRef lastCommittedURL item.url then
      { item with isCreatedFromHashChange := true }
    else item
  let item := if isValid params.virtualURL then item.setVirtualURL params.virtualURL else item
  if params.isUsingHttpsAsDefaultScheme then { item with isUpgradedToHttps := true } else item

omit [UrlLibrary U] [DecidableEq U] [Inhabited D] in
/-- The headers and the post data the item is loaded with. -/
def applyHeaders (params : WebLoadParams U) (item : NavigationItemImpl U D) :
    NavigationItemImpl U D :=
  let item :=
    match params.extraHeaders with
    | some headers => item.addHttpRequestHeaders headers
    | none => item
  let item :=
    if params.isUsingHttpsAsDefaultScheme then { item with isUpgradedToHttps := true } else item
  match params.postData with
  | some postData =>
    { item with postData := some postData, shouldSkipRepostFormConfirmation := true }
  | none => item

omit [UrlLibrary U] [DecidableEq U] [Inhabited D] in
def initiationType (params : WebLoadParams U) : NavigationInitiationType :=
  if params.isRendererInitiated then .rendererInitiated else .browserInitiated

/-- The item of a load. -/
def addItemForLoad (m : NavigationManagerImpl U D) (params : WebLoadParams U) :
    NavigationManagerImpl U D :=
  ((m.notifyDelegate .clearDialogs).notifyDelegate .recordPageStateInNavigationItem).addPendingItem
    env params.url params.referrer params.transitionType (initiationType params) false
    params.isUsingHttpsAsDefaultScheme

def lastCommittedVirtualURL (m : NavigationManagerImpl U D) : U :=
  match m.lastCommittedItemInSession env with
  | some item => item.getVirtualURL
  | none => emptyGURL

/-- The pending item, or else the last committed one. -/
def addedItemRef (m : NavigationManagerImpl U D) : Option ItemRef :=
  match m.pendingItemRef with
  | some ref => some ref
  | none => m.lastCommittedItemRef env

/-- `LoadURLWithParams` up to the load itself: the item, and what of `params`
belongs to it. -/
def prepareLoad (m : NavigationManagerImpl U D) (params : WebLoadParams U) :
    NavigationManagerImpl U D :=
  let m := m.addItemForLoad env params
  let m := m.modifyItemIfAny env m.pendingItemRef
    (applyParams params (m.lastCommittedVirtualURL env))
  m.modifyItemIfAny env (m.addedItemRef env) (applyHeaders params)

/-- The cached items, and what `pending` replaces them by: all after the
current one. -/
def itemsUpToCurrent (m : NavigationManagerImpl U D) (pending : NavigationItemImpl U D) :
    List (NavigationItemImpl U D) :=
  m.webViewCache.cachedItems.take (m.currentItemIndex + 1).toNat ++ [pending]

/-- `ReleaseCachedItems`, of which the items are the result. -/
def releaseCachedItems (m : NavigationManagerImpl U D) : NavigationManagerImpl U D :=
  { m with webViewCache.cachedItems := [] }

/-- `std::move(pending_item_)`. -/
def releasePendingItem (m : NavigationManagerImpl U D) : NavigationManagerImpl U D :=
  { m with pendingItem := none }

omit [UrlLibrary U] [DecidableEq U] [Inhabited D] in
/-- Has the delegate load the item. -/
def loadCurrentItem (m : NavigationManagerImpl U D) (params : WebLoadParams U) :
    NavigationManagerImpl U D :=
  m.notifyDelegate (.loadCurrentItem (initiationType params))

/-- `LoadURLWithParams`, with `Restore` as an argument. -/
def loadStep
    (restore : NavigationManagerImpl U D → Int → List (NavigationItemImpl U D) →
      NavigationManagerImpl U D)
    (m : NavigationManagerImpl U D) (params : WebLoadParams U) : NavigationManagerImpl U D :=
  if m.isRestoreSessionInProgress && !isRestoreSessionUrl params.url then
    m.queueCallback (.loadURLWithParams params)
  else
    let m := m.prepareLoad env params
    if !m.isAttachedToWebView then
      match m.pendingItem with
      | some pending =>
        if 0 < m.backForwardListItemCount then
          restore m.releaseCachedItems.releasePendingItem (m.currentItemIndex + 1)
            (m.itemsUpToCurrent pending)
        else m.resetToAttached.loadCurrentItem params
      | none => m.resetToAttached.loadCurrentItem params
    else m.loadCurrentItem params

/-- The load `UnsafeRestore` starts with. -/
def restoreParams (lastCommittedItemIndex : Int) (items : List (NavigationItemImpl U D)) :
    WebLoadParams U :=
  let restored := createRestoreSessionUrl env.features env.json lastCommittedItemIndex items
  { WebLoadParams.ofUrl restored.url with
    transitionType := PageTransition.reload
    virtualURL :=
      match items[restored.firstIndex.toNat]? with
      | some first => first.getVirtualURL
      | none => emptyGURL }

/-- The state in which `UnsafeRestore` loads the session URL: the restore is in
progress and its two callbacks are queued. -/
def beginRestore (m : NavigationManagerImpl U D) (lastCommittedItemIndex : Int)
    (items : List (NavigationItemImpl U D)) : NavigationManagerImpl U D :=
  let m :=
    { m with
      isRestoreSessionInProgress := true
      restoredVisibleItem :=
        if lastCommittedItemIndex > -1 then items[lastCommittedItemIndex.toNat]?
        else m.restoredVisibleItem
      ledger.restores := m.ledger.restores + 1 }
  let backItems := items.take lastCommittedItemIndex.toNat
  let forwardItems := items.drop (lastCommittedItemIndex + 1).toNat
  (m.queueCallback (.restoreItemsState .backList backItems)).queueCallback
    (.restoreItemsState .forwardList forwardItems)

/-- The first item's title goes to the pending item. -/
def primeTitle (m : NavigationManagerImpl U D) (lastCommittedItemIndex : Int)
    (items : List (NavigationItemImpl U D)) : NavigationManagerImpl U D :=
  let restored := createRestoreSessionUrl env.features env.json lastCommittedItemIndex items
  match items[restored.firstIndex.toNat]? with
  | some first =>
    m.modifyItemIfAny env m.pendingItemRef fun item => item.setTitle env.client first.title
  | none => m

/-- `UnsafeRestore`, with `LoadURLWithParams` as an argument. -/
def unsafeRestoreStep
    (load : NavigationManagerImpl U D → WebLoadParams U → NavigationManagerImpl U D)
    (m : NavigationManagerImpl U D) (lastCommittedItemIndex : Int)
    (items : List (NavigationItemImpl U D)) : NavigationManagerImpl U D :=
  let items := items.map fun item => item.rewriteURLIfNecessary env.client
  (load (m.beginRestore lastCommittedItemIndex items)
    (restoreParams env lastCommittedItemIndex items)).primeTitle env lastCommittedItemIndex items

/-- `Restore` up to `UnsafeRestore`: the manager is attached, and a web view
that has a list is removed. -/
def prepareRestore (m : NavigationManagerImpl U D) : NavigationManagerImpl U D :=
  let m := if !m.isAttachedToWebView then m.resetToAttached else m
  let m := m.discardNonCommittedItems
  let m := if 0 < m.itemCount then m.removeWebView env else m
  { m with lastCommittedItemIndex := -1 }

/-- `Restore`, with `LoadURLWithParams` as an argument. -/
def restoreStep
    (load : NavigationManagerImpl U D → WebLoadParams U → NavigationManagerImpl U D)
    (m : NavigationManagerImpl U D) (lastCommittedItemIndex : Int)
    (items : List (NavigationItemImpl U D)) : NavigationManagerImpl U D :=
  if items.isEmpty then m
  else unsafeRestoreStep env load (m.prepareRestore env) lastCommittedItemIndex items

/-- `LoadURLWithParams` with at most `depth` restores nested in it. -/
def loadURLNested : Nat → NavigationManagerImpl U D → WebLoadParams U → NavigationManagerImpl U D
  | 0, m, params => loadStep env (fun m _ _ => m) m params
  | depth + 1, m, params =>
    loadStep env (fun m last items => restoreStep env (loadURLNested depth) m last items) m params

/-- `LoadURLWithParams`. -/
def loadURLWithParams (m : NavigationManagerImpl U D) (params : WebLoadParams U) :
    NavigationManagerImpl U D :=
  loadURLNested env 2 m params

/-- `Restore`. -/
def restore (m : NavigationManagerImpl U D) (lastCommittedItemIndex : Int)
    (items : List (NavigationItemImpl U D)) : NavigationManagerImpl U D :=
  restoreStep env (loadURLWithParams env) m lastCommittedItemIndex items

/-- `UnsafeRestore`. -/
def unsafeRestore (m : NavigationManagerImpl U D) (lastCommittedItemIndex : Int)
    (items : List (NavigationItemImpl U D)) : NavigationManagerImpl U D :=
  unsafeRestoreStep env (loadURLWithParams env) m lastCommittedItemIndex items

/-- `LoadIfNecessary`. -/
def loadIfNecessary (m : NavigationManagerImpl U D) : NavigationManagerImpl U D :=
  if !m.isAttachedToWebView then
    m.releaseCachedItems.restore env m.currentItemIndex m.webViewCache.cachedItems
  else m.notifyDelegate .loadIfNecessary

/-! ## The end of a restore -/

/-- Runs a callback. -/
def runCallback (m : NavigationManagerImpl U D) (callback : RestoreCompletionCallback U D) :
    NavigationManagerImpl U D :=
  match callback with
  | .restoreItemsState listType items => m.restoreItemsState env listType items
  | .loadURLWithParams params => m.loadURLWithParams env params
  | .client loads => loads.foldl (fun m params => m.loadURLWithParams env params) m

/-- Runs a callback of the queue, and enters it in the ledger. -/
def runQueuedCallback (m : NavigationManagerImpl U D) (queued : QueuedCallback U D) :
    NavigationManagerImpl U D :=
  runCallback env
    { m with ledger.executed := m.ledger.executed ++ [(queued.serial, m.ledger.restores)] }
    queued.callback

/-- `AddRestoreCompletionCallback`. -/
def addRestoreCompletionCallback (m : NavigationManagerImpl U D)
    (callback : RestoreCompletionCallback U D) : NavigationManagerImpl U D :=
  if !m.isRestoreSessionInProgress then m.runCallback env callback
  else m.queueCallback callback

/-- `FinalizeSessionRestore`. -/
def finalizeSessionRestore (m : NavigationManagerImpl U D) : NavigationManagerImpl U D :=
  let queue := m.restoreSessionCompletionCallbacks
  let m := queue.foldl (runQueuedCallback env) { m with isRestoreSessionInProgress := false }
  loadIfNecessary env { m with restoreSessionCompletionCallbacks := [] }

/-- `restored_visible_item_.reset()`. -/
def resetRestoredVisibleItem (m : NavigationManagerImpl U D) : NavigationManagerImpl U D :=
  { m with restoredVisibleItem := none }

/-- `OnNavigationItemCommitted`. -/
def onNavigationItemCommitted (m : NavigationManagerImpl U D) : NavigationManagerImpl U D :=
  match m.lastCommittedItemInSession env with
  | some item =>
    let m := m.notifyDelegate (.onNavigationItemCommitted item.url)
    if !isRestoreSessionUrl item.url then
      let m := m.resetRestoredVisibleItem
      if m.isRestoreSessionInProgress then m.finalizeSessionRestore env else m
    else m
  -- `DCHECK(item)`: there is an item after a commit.
  | none => m

/-- The item at an index takes the user agent of the restored visible item. -/
def copyRestoredUserAgent (m : NavigationManagerImpl U D) (ref : Option ItemRef) :
    NavigationManagerImpl U D :=
  match m.restoredVisibleItem with
  | some restored =>
    if restored.userAgentType ≠ .none then
      m.modifyItemIfAny env ref fun item => item.setUserAgentType restored.userAgentType
    else m
  | none => m

/-- `OnNavigationStarted`. -/
def onNavigationStarted (m : NavigationManagerImpl U D) (url : U) : NavigationManagerImpl U D :=
  if !m.isRestoreSessionInProgress then m
  else if isRestoreSessionUrl url then m
  else
    let index := m.lastCommittedIndexInSession
    let m :=
      if index ≠ -1 then m.copyRestoredUserAgent env (m.itemRefAt index.toNat) else m
    m.finalizeSessionRestore env

/-- The state after the client has restored the session natively. -/
def adoptNativeSession (m : NavigationManagerImpl U D) (webView : WebView U D) :
    NavigationManagerImpl U D :=
  let m := { m with delegate.webView := some webView }.discardNonCommittedItems
  { m with lastCommittedItemIndex := m.currentItemIndex }

/-- `RestoreSessionFromCache`. `restoredWebView` is the web view after the
client has restored the session natively, if it has. -/
def restoreSessionFromCache (m : NavigationManagerImpl U D) (url : U)
    (restoredWebView : Option (WebView U D)) : NavigationManagerImpl U D :=
  if !isRestoreSessionUrl url || (extractTargetURL url).isSome then m
  else
    match restoredWebView with
    | none => m
    | some webView =>
      let m := m.adoptNativeSession webView
      let m := m.copyRestoredUserAgent env (m.lastCommittedItemRef env)
      m.resetRestoredVisibleItem.finalizeSessionRestore env

end NavigationManagerImpl

end IosChrome.Navigation

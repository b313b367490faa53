import IosChrome.Navigation.RestoreSession

/-!
# `NavigationManagerImpl`: the state and what is read of it

The manager keeps no list of items. While it is attached to the web view, its
list is the web view's back/forward list, each entry of which holds its item
(`WKBackForwardListItem.navigationItem`), made when it is first asked for; in
detached mode it is the list `WKWebViewCache` has copied. `cachedItemAt` is the
item at an index in either mode.

Items are handed out as pointers and changed through them. `ItemRef` is such a
pointer: `readItem` is what it points to, `modifyItem` a change through it.

The web view, the delegate's own pending item and the page's URL belong to the
`Delegate`: they change on their own, and the manager only reads them. What it
asks the delegate to do is recorded in `calls`.
-/

namespace IosChrome.Navigation

open IosChrome.Lib

/-- An entry of the web view's list, with the item its
`CRWNavigationItemHolder` holds. -/
structure WKBackForwardListItem (U D : Type) where
  url : U
  title : String
  navigationItem : Option (NavigationItemImpl U D)
  deriving DecidableEq, Repr

/-- The web view; its back/forward list has a current item unless it is
empty. -/
structure WebView (U D : Type) where
  url : U
  backForwardList : Option (History (WKBackForwardListItem U D))
  deriving DecidableEq, Repr

inductive DelegateCall (U : Type) where
  | clearDialogs
  | recordPageStateInNavigationItem
  | loadCurrentItem (type : NavigationInitiationType)
  | loadIfNecessary
  | onNavigationItemCommitted (url : U)
  | removeWebView
  deriving DecidableEq, Repr

/-- The `NavigationManagerDelegate`. `currentURL` is that of the `WebState`, if
there is one. -/
structure Delegate (U D : Type) where
  webView : Option (WebView U D)
  pendingItem : Option (NavigationItemImpl U D)
  currentURL : Option U
  calls : List (DelegateCall U)

structure WKWebViewCache (U D : Type) where
  attachedToWebView : Bool
  cachedItems : List (NavigationItemImpl U D)
  cachedCurrentItemIndex : Int

/-- `WebLoadParams`. -/
structure WebLoadParams (U : Type) where
  url : U
  virtualURL : U
  referrer : Referrer U
  transitionType : PageTransition
  isRendererInitiated : Bool
  extraHeaders : Option HttpRequestHeaders
  postData : Option String
  isUsingHttpsAsDefaultScheme : Bool
  deriving DecidableEq, Repr

/-- The constructor from a URL. -/
def WebLoadParams.ofUrl {U : Type} [UrlLibrary U] (url : U) : WebLoadParams U where
  url := url
  virtualURL := emptyGURL
  referrer := ⟨emptyGURL, .default⟩
  transitionType := PageTransition.link
  isRendererInitiated := false
  extraHeaders := none
  postData := none
  isUsingHttpsAsDefaultScheme := false

inductive RestoreItemListType where
  | backList
  | forwardList
  deriving DecidableEq, Repr

/-- A callback of `AddRestoreCompletionCallback`: one of the two the manager
registers itself, a load put off, or one of a client, which may start loads. -/
inductive RestoreCompletionCallback (U D : Type) where
  | restoreItemsState (listType : RestoreItemListType) (items : List (NavigationItemImpl U D))
  | loadURLWithParams (params : WebLoadParams U)
  | client (loads : List (WebLoadParams U))

/-- A queued callback; `serial` tells the registered callbacks apart. -/
structure QueuedCallback (U D : Type) where
  serial : Nat
  callback : RestoreCompletionCallback U D

/-- Which callback was registered or run in which restore. The source keeps no
such ledger and nothing reads it. -/
structure RestoreLedger where
  restores : Nat
  registered : List (Nat × Nat)
  executed : List (Nat × Nat)
  deriving DecidableEq, Repr

structure NavigationManagerImpl (U D : Type) where
  delegate : Delegate U D
  transientURLRewriters : List (U → Option U)
  pendingItem : Option (NavigationItemImpl U D)
  pendingItemIndex : Int
  lastCommittedItemIndex : Int
  emptyWindowOpenItem : Option (NavigationItemImpl U D)
  lastCommittedWebViewItem : Option (NavigationItemImpl U D)
  webViewCache : WKWebViewCache U D
  isRestoreSessionInProgress : Bool
  goingToBackForwardListItem : Bool
  nextPendingUrlShouldSkipSerialization : U
  restoredVisibleItem : Option (NavigationItemImpl U D)
  restoreSessionCompletionCallbacks : List (QueuedCallback U D)
  ledger : RestoreLedger

/-- What the navigation code is linked with. -/
structure NavigationEnv (U : Type) where
  features : Features
  client : WebClient U
  json : Json

/-- An item the manager hands out. -/
inductive ItemRef where
  | pendingItem
  | delegatePendingItem
  | emptyWindowOpenItem
  | lastCommittedWebViewItem
  | atIndex (index : Nat)
  deriving DecidableEq, Repr

variable {U D : Type} [UrlLibrary U] [DecidableEq U] [Inhabited D] (env : NavigationEnv U)

/-! ## Making items -/

/-- `URLNeedsUserAgentType`. -/
def urlNeedsUserAgentType (url : U) : Bool :=
  if env.client.isAppSpecificURL url then false
  else if !env.features.useJSForErrorPage && schemeIs url kAboutScheme && isPlaceholderUrl url then
    !env.client.isAppSpecificURL (extractUrlFromPlaceholderUrl url)
  else if schemeIs url kAboutScheme then false
  else if schemeIs url kFileScheme && isRestoreSessionUrl url then true
  else if schemeIs url kFileScheme && env.features.useJSForErrorPage && isErrorPageFileURL url then
    true
  else !schemeIs url kFileScheme

/-- `CreateNavigationItemWithRewriters`. `lastCommittedURL` is that of
`GetLastCommittedItem()`, which only a redirect looks at. -/
def createNavigationItemWithRewriters (lastCommittedURL : Option U) (url : U)
    (referrer : Referrer U) (transition : PageTransition)
    (initiationType : NavigationInitiationType) (isUsingHttpsAsDefaultScheme : Bool)
    (previousURL : U) (additionalRewriters : List (U → Option U)) : NavigationItemImpl U D :=
  let loadedURL :=
    if env.features.useJSForErrorPage || !isPlaceholderUrl url then
      match rewriteURLWithWriters additionalRewriters url with
      | some rewritten => rewritten
      | none => (rewriteURLWithWriters env.client.urlRewriters url).getD url
    else url
  let loadedURL :=
    if (decide (initiationType = .rendererInitiated) || transition.coreTypeIs PageTransition.reload) &&
        decide (loadedURL ≠ url) && env.client.isAppSpecificURL loadedURL &&
        !env.client.isAppSpecificURL previousURL then url
    else loadedURL
  let originalURL :=
    if transition.has PageTransition.isRedirectMask then lastCommittedURL.getD loadedURL
    else loadedURL
  { NavigationItemImpl.create with
    originalRequestURL := originalURL
    url := loadedURL
    referrer := referrer
    transitionType := transition
    navigationInitiationType := initiationType
    isUpgradedToHttps := isUsingHttpsAsDefaultScheme }

/-- Shows `url` rather than the placeholder for it. -/
def setVirtualURLBehindPlaceholder (item : NavigationItemImpl U D) (url : U) :
    NavigationItemImpl U D :=
  if !env.features.useJSForErrorPage && isPlaceholderUrl url then
    item.setVirtualURL (extractUrlFromPlaceholderUrl url)
  else item.setVirtualURL url

/-- The item an entry without one is given. -/
def itemForWKItem (wkItem : WKBackForwardListItem U D) (prevWKItem : Option (WKBackForwardListItem U D)) :
    NavigationItemImpl U D :=
  let referrer :=
    match prevWKItem with
    | some prev => ⟨prev.url, .always⟩
    | none => ⟨emptyGURL, .default⟩
  let previousURL := (prevWKItem.map fun prev => prev.url).getD emptyGURL
  let item := createNavigationItemWithRewriters env none wkItem.url referrer PageTransition.link
    .rendererInitiated false previousURL []
  let item := item.setTitle env.client wkItem.title
  let url := item.url
  let item :=
    match restoreTarget url with
    | some virtualURL => setVirtualURLBehindPlaceholder env item virtualURL
    | none => item
  if !env.features.useJSForErrorPage && isPlaceholderUrl url then
    item.setVirtualURL (extractUrlFromPlaceholderUrl url)
  else item

namespace NavigationManagerImpl

/-! ## `WKWebViewCache` -/

section

omit [UrlLibrary U] [DecidableEq U] [Inhabited D]

def isAttachedToWebView (m : NavigationManagerImpl U D) : Bool := m.webViewCache.attachedToWebView

/-- The back/forward list of the web view, if there is a web view and its list
is not empty. -/
def backForwardList (m : NavigationManagerImpl U D) : Option (History (WKBackForwardListItem U D)) :=
  match m.delegate.webView with
  | some webView => webView.backForwardList
  | none => none

def wkItems (m : NavigationManagerImpl U D) : List (WKBackForwardListItem U D) :=
  match m.backForwardList with
  | some list => list.entries
  | none => []

/-- `GetBackForwardListItemCount`. -/
def backForwardListItemCount (m : NavigationManagerImpl U D) : Nat :=
  if !m.isAttachedToWebView then m.webViewCache.cachedItems.length
  else m.wkItems.length

/-- `WKWebViewCache::GetCurrentItemIndex`. -/
def currentItemIndex (m : NavigationManagerImpl U D) : Int :=
  if !m.isAttachedToWebView then m.webViewCache.cachedCurrentItemIndex
  else
    match m.backForwardList with
    | some list => list.position
    | none => -1

end

def visibleWebViewURL (m : NavigationManagerImpl U D) : U :=
  if !m.isAttachedToWebView then emptyGURL
  else
    match m.delegate.webView with
    | some webView => webView.url
    | none => emptyGURL

/-- The item of an entry, made if it is missing. -/
def wkItemAt (wkItems : List (WKBackForwardListItem U D)) (index : Nat) :
    Option (NavigationItemImpl U D) :=
  match wkItems[index]? with
  | some wkItem =>
    let prevWKItem := if index = 0 then none else wkItems[index - 1]?
    some (wkItem.navigationItem.getD (itemForWKItem env wkItem prevWKItem))
  | none => none

/-- `WKWebViewCache::GetNavigationItemImplAtIndex(index, true)`. -/
def cachedItemAt (m : NavigationManagerImpl U D) (index : Nat) : Option (NavigationItemImpl U D) :=
  if !m.isAttachedToWebView then m.webViewCache.cachedItems[index]?
  else wkItemAt env m.wkItems index

/-- A change of the item `cachedItemAt` returns. -/
def modifyCachedItem (m : NavigationManagerImpl U D) (index : Nat)
    (f : NavigationItemImpl U D → NavigationItemImpl U D) : NavigationManagerImpl U D :=
  if !m.isAttachedToWebView then
    { m with webViewCache.cachedItems := m.webViewCache.cachedItems.modify index f }
  else
    match m.delegate.webView with
    | some webView =>
      let hold (wkItem : WKBackForwardListItem U D) : WKBackForwardListItem U D :=
        { wkItem with navigationItem := (wkItemAt env m.wkItems index).map f }
      { m with
        delegate.webView := some
          { webView with
            backForwardList := webView.backForwardList.map fun list => list.modify index hold } }
    | none => m

/-! ## The items -/

/-- `GetNavigationItemImplAtIndex`, as a pointer. -/
def itemRefAt (m : NavigationManagerImpl U D) (index : Nat) : Option ItemRef :=
  if m.emptyWindowOpenItem.isSome then
    if index = 0 then some .emptyWindowOpenItem else none
  else if index < m.backForwardListItemCount then some (.atIndex index)
  else none

/-- The placeholder item for a page that is not that of the last committed
item. -/
def untrustedItem (m : NavigationManagerImpl U D) (documentURL : U) : NavigationItemImpl U D :=
  let item := m.lastCommittedWebViewItem.getD
    { (createNavigationItemWithRewriters env none emptyGURL ⟨emptyGURL, .default⟩
        PageTransition.link .rendererInitiated false emptyGURL [] : NavigationItemImpl U D) with
      isUntrusted := true }
  let item := item.setURL documentURL
  match restoreTarget documentURL with
  | some virtualURL => setVirtualURLBehindPlaceholder env item virtualURL
  | none => item.setVirtualURL documentURL

/-- What the pointer points to. -/
def readItem (m : NavigationManagerImpl U D) : ItemRef → Option (NavigationItemImpl U D)
  | .pendingItem => m.pendingItem
  | .delegatePendingItem => m.delegate.pendingItem
  | .emptyWindowOpenItem => m.emptyWindowOpenItem
  | .lastCommittedWebViewItem => m.delegate.currentURL.map (m.untrustedItem env)
  | .atIndex index => m.cachedItemAt env index

/-- A change through the pointer. -/
def modifyItem (m : NavigationManagerImpl U D) (ref : ItemRef)
    (f : NavigationItemImpl U D → NavigationItemImpl U D) : NavigationManagerImpl U D :=
  match ref with
  | .pendingItem => { m with pendingItem := m.pendingItem.map f }
  | .delegatePendingItem => { m with delegate.pendingItem := m.delegate.pendingItem.map f }
  | .emptyWindowOpenItem => { m with emptyWindowOpenItem := m.emptyWindowOpenItem.map f }
  | .lastCommittedWebViewItem =>
    { m with lastCommittedWebViewItem := (m.readItem env .lastCommittedWebViewItem).map f }
  | .atIndex index => m.modifyCachedItem env index f

/-- A change of an item, if there is one. -/
def modifyItemIfAny (m : NavigationManagerImpl U D) (ref : Option ItemRef)
    (f : NavigationItemImpl U D → NavigationItemImpl U D) : NavigationManagerImpl U D :=
  match ref with
  | some ref => m.modifyItem env ref f
  | none => m

/-- `GetNavigationItemImplAtIndex`. -/
def itemAt (m : NavigationManagerImpl U D) (index : Nat) : Option (NavigationItemImpl U D) :=
  (m.itemRefAt index).bind (m.readItem env)

def itemCount (m : NavigationManagerImpl U D) : Nat :=
  if m.emptyWindowOpenItem.isSome then 1 else m.backForwardListItemCount

/-- `GetPendingItemInCurrentOrRestoredSession`. -/
def pendingItemRef (m : NavigationManagerImpl U D) : Option ItemRef :=
  if m.pendingItemIndex = -1 then
    if m.pendingItem.isSome then some .pendingItem
    else if m.delegate.pendingItem.isSome then some .delegatePendingItem
    else none
  else m.itemRefAt m.pendingItemIndex.toNat

/-- `GetLastCommittedItemIndexInCurrentOrRestoredSession`. -/
def lastCommittedIndexInSession (m : NavigationManagerImpl U D) : Int :=
  if m.pendingItemIndex ≥ 0 ∨ m.emptyWindowOpenItem.isSome then m.lastCommittedItemIndex
  else m.currentItemIndex

/-- `CanTrustLastCommittedItem`. -/
def canTrustLastCommittedItem (m : NavigationManagerImpl U D) (item : NavigationItemImpl U D) :
    Bool :=
  !m.isAttachedToWebView ||
    decide (getOrigin m.visibleWebViewURL = getOrigin item.url) ||
    m.goingToBackForwardListItem ||
    schemeIs m.visibleWebViewURL kAboutScheme || schemeIs item.url kAboutScheme ||
    schemeIs m.visibleWebViewURL kFileScheme || schemeIs item.url kFileScheme ||
    env.client.isAppSpecificURL m.visibleWebViewURL || env.client.isAppSpecificURL item.url

/-- `GetLastCommittedItemInCurrentOrRestoredSession`. -/
def lastCommittedItemRef (m : NavigationManagerImpl U D) : Option ItemRef :=
  if m.emptyWindowOpenItem.isSome then some .emptyWindowOpenItem
  else if m.lastCommittedIndexInSession = -1 then none
  else
    let index := m.lastCommittedIndexInSession.toNat
    match m.itemAt env index with
    | some item =>
      if m.delegate.currentURL.isSome && !m.canTrustLastCommittedItem env item then
        some .lastCommittedWebViewItem
      else some (.atIndex index)
    | none => none

def lastCommittedItemInSession (m : NavigationManagerImpl U D) : Option (NavigationItemImpl U D) :=
  (m.lastCommittedItemRef env).bind (m.readItem env)

/-- `GetLastCommittedItem`. -/
def getLastCommittedItem (m : NavigationManagerImpl U D) : Option (NavigationItemImpl U D) :=
  if m.isRestoreSessionInProgress then none
  else
    match m.lastCommittedItemInSession env with
    | some item => if isRestoreSessionUrl item.url then none else some item
    | none => none

def getLastCommittedItemIndex (m : NavigationManagerImpl U D) : Int :=
  if m.isRestoreSessionInProgress then -1
  else
    match m.lastCommittedItemInSession env with
    | some item =>
      if isRestoreSessionUrl item.url then -1 else m.lastCommittedIndexInSession
    | none => -1

/-- `GetIndexForOffset`; −1 where the 32-bit sum overflows. -/
def getIndexForOffset (m : NavigationManagerImpl U D) (offset : Int) : Int :=
  let currentItemIndex :=
    if m.pendingItemIndex = -1 then
      if m.emptyWindowOpenItem.isSome then 0 else m.currentItemIndex
    else m.pendingItemIndex
  let index := currentItemIndex + offset
  if -2147483648 ≤ index ∧ index ≤ 2147483647 then index else -1

/-- `GetBackwardItems`, nearest first. -/
def getBackwardItems (m : NavigationManagerImpl U D) : List (Option (NavigationItemImpl U D)) :=
  if m.isRestoreSessionInProgress then []
  else (List.range m.currentItemIndex.toNat).reverse.map (m.itemAt env)

def getForwardItems (m : NavigationManagerImpl U D) : List (Option (NavigationItemImpl U D)) :=
  if m.isRestoreSessionInProgress then []
  else
    let first := (m.currentItemIndex + 1).toNat
    (List.range' first (m.itemCount - first)).map (m.itemAt env)

end NavigationManagerImpl

end IosChrome.Navigation

import IosChrome.Navigation.Url
import Mathlib.Algebra.GroupWithZero.Nat

/-!
# `NavigationItemImpl`

The item of one entry of the navigation history, with the setters the
navigation manager uses. `D` is the type of page display states: they are
copied, never looked into. Strings of the source that are at most elided are
strings here; `truncateString` is the elision of `ui/gfx`.
-/

namespace IosChrome.Navigation

inductive UserAgentType where
  | none
  | automatic
  | mobile
  | desktop
  deriving DecidableEq, Repr

inductive NavigationInitiationType where
  | none
  | rendererInitiated
  | browserInitiated
  deriving DecidableEq, Repr

inductive ReferrerPolicy where
  | always
  | default
  | noReferrerWhenDowngrade
  | never
  | origin
  | originWhenCrossOrigin
  | sameOrigin
  | strictOrigin
  | strictOriginWhenCrossOrigin
  deriving DecidableEq, Repr

structure Referrer (U : Type) where
  url : U
  policy : ReferrerPolicy
  deriving DecidableEq, Repr

/-- `ui::PageTransition`: a core type in the low byte, qualifiers above. -/
abbrev PageTransition := Nat

namespace PageTransition

def link : PageTransition := 0
def formSubmit : PageTransition := 7
def reload : PageTransition := 8
def coreMask : PageTransition := 0xFF
def forwardBack : PageTransition := 0x01000000
def isRedirectMask : PageTransition := 0xC0000000

/-- `type & bits`, as a condition. -/
def has (type bits : PageTransition) : Bool := decide (type &&& bits ≠ 0)

/-- `PageTransitionCoreTypeIs`. -/
def coreTypeIs (type core : PageTransition) : Bool := decide (type &&& coreMask = core)

end PageTransition

/-- An `NSDictionary` of header fields. -/
abbrev HttpRequestHeaders := List (String × String)

/-- `addEntriesFromDictionary:`. -/
def HttpRequestHeaders.addEntries (headers additional : HttpRequestHeaders) : HttpRequestHeaders :=
  headers.filter (fun entry => entry.1 ∉ additional.map Prod.fst) ++ additional

def kMaxTitleLength : Nat := 50

/-- `std::u16string::size`. -/
def u16Size (text : String) : Nat :=
  (text.toList.map fun c => if c.toNat < 0x10000 then 1 else 2).sum

/-- What the `WebClient` and the `BrowserURLRewriter` decide. A rewriter returns
the URL if it has rewritten it. -/
structure WebClient (U : Type) where
  isAppSpecificURL : U → Bool
  urlRewriters : List (U → Option U)
  truncateString : String → Nat → String

/-- `RewriteURLWithWriters`: the first rewriter that rewrites decides. -/
def rewriteURLWithWriters {U : Type} (rewriters : List (U → Option U)) (url : U) : Option U :=
  rewriters.findSome? fun rewriter => rewriter url

structure NavigationItemImpl (U D : Type) where
  originalRequestURL : U
  url : U
  referrer : Referrer U
  virtualURL : U
  title : String
  pageDisplayState : D
  transitionType : PageTransition
  userAgentType : UserAgentType
  httpRequestHeaders : Option HttpRequestHeaders
  serializedStateObject : Option String
  isCreatedFromHashChange : Bool
  shouldSkipRepostFormConfirmation : Bool
  shouldSkipSerialization : Bool
  postData : Option String
  navigationInitiationType : NavigationInitiationType
  isUntrusted : Bool
  isUpgradedToHttps : Bool
  deriving DecidableEq, Repr

namespace NavigationItemImpl

variable {U D : Type} [UrlLibrary U]

/-- The default constructor. -/
def create [Inhabited D] : NavigationItemImpl U D where
  originalRequestURL := emptyGURL
  url := emptyGURL
  referrer := ⟨emptyGURL, .default⟩
  virtualURL := emptyGURL
  title := ""
  pageDisplayState := default
  transitionType := PageTransition.link
  userAgentType := .none
  httpRequestHeaders := none
  serializedStateObject := none
  isCreatedFromHashChange := false
  shouldSkipRepostFormConfirmation := false
  shouldSkipSerialization := false
  postData := none
  navigationInitiationType := .none
  isUntrusted := false
  isUpgradedToHttps := false

def getURL (item : NavigationItemImpl U D) : U := item.url

def setURL (item : NavigationItemImpl U D) (url : U) : NavigationItemImpl U D :=
  { item with url := url }

variable [DecidableEq U]

/-- The virtual URL is stored only where it differs from the URL. -/
def setVirtualURL (item : NavigationItemImpl U D) (url : U) : NavigationItemImpl U D :=
  { item with virtualURL := if url = item.url then emptyGURL else url }

def getVirtualURL (item : NavigationItemImpl U D) : U :=
  if item.virtualURL = emptyGURL then item.url else item.virtualURL

def setTitle (client : WebClient U) (item : NavigationItemImpl U D) (title : String) :
    NavigationItemImpl U D :=
  if item.title = title then item
  else if u16Size title > kMaxTitleLength then
    { item with title := client.truncateString title kMaxTitleLength }
  else { item with title := title }

def setPageDisplayState (item : NavigationItemImpl U D) (displayState : D) :
    NavigationItemImpl U D :=
  { item with pageDisplayState := displayState }

def setUserAgentType (item : NavigationItemImpl U D) (type : UserAgentType) :
    NavigationItemImpl U D :=
  { item with userAgentType := type }

def addHttpRequestHeaders (item : NavigationItemImpl U D) (additional : HttpRequestHeaders) :
    NavigationItemImpl U D :=
  { item with
    httpRequestHeaders :=
      match item.httpRequestHeaders with
      | some headers => some (headers.addEntries additional)
      | none => some additional }

/-- `RewriteItemURLIfNecessary`. -/
def rewriteURLIfNecessary (client : WebClient U) (item : NavigationItemImpl U D) :
    NavigationItemImpl U D :=
  match rewriteURLWithWriters client.urlRewriters item.url with
  -- The URL is set first: `setVirtualURL` looks at it.
  | some url => (item.setURL url).setVirtualURL item.url
  | none => item

/-- Copies what `other` knows of the same navigation. The user agent type is
taken in any case; the display state and the virtual URL only from an item of
the same URL. -/
def restoreStateFromItem (item other : NavigationItemImpl U D) : NavigationItemImpl U D :=
  let item :=
    if other.userAgentType ≠ .none then item.setUserAgentType other.userAgentType else item
  if item.url = other.getURL then
    (item.setPageDisplayState other.pageDisplayState).setVirtualURL other.getVirtualURL
  else item

end NavigationItemImpl

/-- A client that rewrites nothing. -/
def plainClient : WebClient PlainUrl where
  isAppSpecificURL _ := false
  urlRewriters := []
  truncateString text _ := text

end IosChrome.Navigation

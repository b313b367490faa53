import IosChrome.Lib.Keyed
import IosChrome.Lib.Machine

/-!
# CRWSSLStatusUpdater

The updater keeps the `SSLStatus` of navigation items: the certificate and the host it was
checked for are written at once, the security style and the certificate status when the
query for them is answered. A reply finds its item by unique id.

`Cert` stands for certificates compared with their chain (`EqualsIncludingChain`), and a trust
for the certificate `CreateCertFromTrust` makes of it. The navigation manager is its list of
committed items and the index of the last committed one; a commit may put any items in that
list which were there or are new.
-/

namespace IosChrome.Security

inductive SecurityStyle where
  | unknown
  | unauthenticated
  | authenticationBroken
  | authenticated
  deriving DecidableEq

inductive ContentStatus where
  | normalContent
  | displayedInsecureContent
  deriving DecidableEq

structure SSLStatus (Cert : Type) where
  securityStyle : SecurityStyle := .unknown
  certificate : Option Cert := none
  certStatus : Nat := 0
  contentStatus : ContentStatus := .normalContent
  certStatusHost : String := ""
  deriving DecidableEq

/-- What the updater reads of an item's URL. -/
structure ItemURL where
  scheme : String
  host : String
  deriving DecidableEq

def ItemURL.schemeIsCryptographic (url : ItemURL) : Bool :=
  url.scheme = "https" || url.scheme = "wss"

/-- A reply to a query. -/
structure Answer (Cert : Type) where
  cert : Cert
  host : String
  style : SecurityStyle
  certStatus : Nat
  deriving DecidableEq

/-- An item, and the answer its style and status were last taken from. -/
structure NavigationItem (Cert : Type) where
  uniqueID : Int
  url : ItemURL
  ssl : SSLStatus Cert := {}
  answer : Option (Answer Cert) := none
  deriving DecidableEq

/-- A query of the data source that has not been answered. -/
structure Query (Cert : Type) where
  itemID : Int
  cert : Cert
  host : String
  deriving DecidableEq

structure SSLStatusUpdater (Cert : Type) where
  items : List (NavigationItem Cert)
  lastCommitted : Nat
  queries : List (Query Cert)
  /-- The items of `didChangeSSLStatusForNavigationItem:`, by unique id. -/
  notified : List Int
  deriving DecidableEq

variable {Cert : Type} [DecidableEq Cert]

/-- `certStatusHost` is not compared. -/
def SSLStatus.equals (ssl other : SSLStatus Cert) : Bool :=
  ssl.securityStyle = other.securityStyle && ssl.certificate = other.certificate &&
    ssl.certStatus = other.certStatus && ssl.contentStatus = other.contentStatus

/-- The status an update leaves, and the certificate to query when the certificate or the host
has changed. -/
def SSLStatus.update (ssl : SSLStatus Cert) (url : ItemURL) (host : String) (trust : Option Cert)
    (hasOnlySecureContent : Bool) : SSLStatus Cert × Option Cert :=
  let ssl :=
    { ssl with
      contentStatus := if hasOnlySecureContent then .normalContent else .displayedInsecureContent }
  if url.schemeIsCryptographic then
    match trust with
    | some cert =>
      let updated := { ssl with certificate := some cert, certStatusHost := host }
      if ssl.certificate ≠ some cert ∨ ssl.certStatusHost ≠ host then
        ({ updated with certStatus := 0, securityStyle := .unknown }, some cert)
      else (updated, none)
    | none => ({ ssl with certificate := none, securityStyle := .unknown }, none)
  else
    ({ ssl with
        certificate := none
        securityStyle := .unauthenticated
        contentStatus := .normalContent }, none)

/-- When a reply is for an item that has its id. -/
def NavigationItem.accepts (item : NavigationItem Cert) (query : Query Cert) : Bool :=
  item.url.schemeIsCryptographic && item.ssl.certificate = some query.cert &&
    item.url.host = query.host

def NavigationItem.applyReply (item : NavigationItem Cert) (query : Query Cert)
    (style : SecurityStyle) (certStatus : Nat) : NavigationItem Cert :=
  if item.accepts query then
    { item with
      ssl := { item.ssl with certStatus := certStatus, securityStyle := style }
      answer := some ⟨query.cert, query.host, style, certStatus⟩ }
  else item

namespace SSLStatusUpdater

def initWithNavigationManager : SSLStatusUpdater Cert where
  items := []
  lastCommitted := 0
  queries := []
  notified := []

variable (u : SSLStatusUpdater Cert)

def didChangeSSLStatusForNavigationItem (previous item : NavigationItem Cert) :
    SSLStatusUpdater Cert :=
  if previous.ssl.equals item.ssl then u else { u with notified := u.notified ++ [item.uniqueID] }

/-- The query is for the last committed item, whichever item is updated. -/
def scheduleSSLStatusUpdateUsingTrust (cert : Cert) (host : String) : SSLStatusUpdater Cert :=
  match u.items[u.lastCommitted]? with
  | none => u
  | some item => { u with queries := u.queries ++ [⟨item.uniqueID, cert, host⟩] }

def writeUpdate (index : Nat) (item : NavigationItem Cert) (result : SSLStatus Cert × Option Cert)
    (host : String) : SSLStatusUpdater Cert :=
  let item' := { item with ssl := result.1 }
  let u' := { u with items := u.items.set index item' }
  match result.2 with
  | none => u'.didChangeSSLStatusForNavigationItem item item'
  | some cert =>
    (u'.scheduleSSLStatusUpdateUsingTrust cert host).didChangeSSLStatusForNavigationItem item item'

def updateSSLStatusForNavigationItem (index : Nat) (host : String) (trust : Option Cert)
    (hasOnlySecureContent : Bool) : SSLStatusUpdater Cert :=
  match u.items[index]? with
  | none => u
  | some item =>
    u.writeUpdate index item (item.ssl.update item.url host trust hasOnlySecureContent) host

/-- A reply to the query at `k`. -/
def updateSSLStatusForItemWithID (k : Nat) (style : SecurityStyle) (certStatus : Nat) :
    SSLStatusUpdater Cert :=
  match u.queries[k]? with
  | none => u
  | some query =>
    let u := { u with queries := u.queries.eraseIdx k }
    match u.items.findIdx? fun item => item.uniqueID = query.itemID with
    | none => u
    | some index =>
      match u.items[index]? with
      | none => u
      | some item =>
        let item' := item.applyReply query style certStatus
        { u with items := u.items.set index item' }.didChangeSSLStatusForNavigationItem item item'

/-- A redirect. -/
def changeURL (index : Nat) (url : ItemURL) : SSLStatusUpdater Cert :=
  { u with items := u.items.modify index fun item => { item with url := url } }

def commit (items : List (NavigationItem Cert)) (lastCommitted : Nat) : SSLStatusUpdater Cert :=
  { u with items := items, lastCommitted := lastCommitted }

inductive Call (Cert : Type) where
  | updateSSLStatus (host : String) (trust : Option Cert) (hasOnlySecureContent : Bool)
  | reply (k : Nat) (style : SecurityStyle) (certStatus : Nat)
  | changeURL (index : Nat) (url : ItemURL)
  | commit (items : List (NavigationItem Cert)) (lastCommitted : Nat)
  deriving DecidableEq

def step (call : Call Cert) : SSLStatusUpdater Cert :=
  match call with
  | .updateSSLStatus host trust hasOnlySecureContent =>
    u.updateSSLStatusForNavigationItem u.lastCommitted host trust hasOnlySecureContent
  | .reply k style certStatus => u.updateSSLStatusForItemWithID k style certStatus
  | .changeURL index url => u.changeURL index url
  | .commit items lastCommitted => u.commit items lastCommitted

/-- The host of an update is that of the item's URL; a query is answered once; committed items
have ids of their own. -/
def Pre (call : Call Cert) : Prop :=
  match call with
  | .updateSSLStatus host _ _ => (u.items[u.lastCommitted]?.map fun item => item.url.host) = some host
  | .reply k _ _ => k < u.queries.length
  | .changeURL _ _ => True
  | .commit items lastCommitted => lastCommitted < items.length ∧
      Lib.Keyed.Unique NavigationItem.uniqueID items ∧
      ∀ item ∈ items, item ∈ u.items ∨ (item.ssl = {} ∧ item.answer = none)

instance (call : Call Cert) : Decidable (u.Pre call) := by
  unfold Pre Lib.Keyed.Unique
  cases call <;> infer_instance

def machine : Lib.Machine (SSLStatusUpdater Cert) (Call Cert) where
  init u := u = initWithNavigationManager
  pre := Pre
  step := step

instance (u : SSLStatusUpdater Cert) (call : Call Cert) : Decidable (machine.pre u call) :=
  inferInstanceAs (Decidable (u.Pre call))

end SSLStatusUpdater

end IosChrome.Security

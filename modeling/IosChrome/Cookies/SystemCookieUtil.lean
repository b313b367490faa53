import Mathlib
import IosChrome.Cookies.SystemCookie

/-!
# Cookies between the network stack and the system

A canonical cookie is written as an `NSHTTPCookie` and read back from it. The
two directions have conventions of their own for what is absent: a session
cookie has no expiry date on one side and the null time on the other, no
SameSite value is an empty text, and below iOS 13 there is none at all.

Reading takes the interval of the expiry date, and an absent date has interval
0, the same as the Unix epoch. So a cookie that expired at the epoch comes back
as a session cookie, and all others come back as they were (`roundTrips_iff`).
A cookie whose texts are not UTF-8 has no system cookie; the list conversion
adds what the conversion gives to an `NSMutableArray`, which raises on nil
(`convertsList_iff`).
-/

namespace IosChrome.Cookies

/-! ## Texts and times -/

/-- `base::SysUTF8ToNSString`: nil for bytes that are not UTF-8. -/
def sysUTF8ToNSString (utf8 : ByteArray) : Option String := String.fromUTF8? utf8

def sysNSStringToUTF8 (text : String) : ByteArray := text.toUTF8

def kMicrosecondsPerSecond : Int := 1000000

/-- The Unix epoch, in microseconds since January 1st, 1601. -/
def unixEpoch : Time := 11644473600 * kMicrosecondsPerSecond

/-- `Time::FromDoubleT`, of whole seconds: 0 is no time. -/
def fromDoubleT (dt : Int) : Time :=
  if dt = 0 then 0 else unixEpoch + dt * kMicrosecondsPerSecond

def toDoubleT (t : Time) : Int := if t = 0 then 0 else (t - unixEpoch) / kMicrosecondsPerSecond

/-- `-[NSDate timeIntervalSince1970]`, which a nil date answers as well. -/
def timeIntervalSince1970 (date : Option NSDate) : Int := date.getD 0

/-! ## Canonical cookies -/

inductive CookieSameSite where
  | unspecified
  | noRestriction
  | laxMode
  | strictMode
  deriving DecidableEq

/-- `net::CanonicalCookie`, the fields the conversions set. The texts are of any
bytes. -/
structure CanonicalCookie where
  name : ByteArray
  value : ByteArray
  domain : ByteArray
  path : ByteArray
  creationDate : Time
  expiryDate : Time
  isSecure : Bool
  isHttpOnly : Bool
  sameSite : CookieSameSite
  deriving DecidableEq

/-- The properties an `NSHTTPCookie` is made of. -/
structure CookieProperties where
  domain : String
  name : String
  path : String
  value : String
  expires : Option NSDate
  sameSitePolicy : Option String
  secure : Bool
  httpOnly : Bool
  deriving DecidableEq

/-- What is called of `net/` and of the system. -/
structure CookieLibrary (Info : Type) where
  isCanonical : CanonicalCookie → Bool
  isEquivalent : CanonicalCookie → CanonicalCookie → Bool
  /-- `CookieDeletionInfo::Matches`. -/
  infoMatches : Info → CanonicalCookie → Bool
  /-- `CookieDeletionInfo(start, end)`. -/
  timeRangeInfo : Time → Time → Info
  sessionCookiesInfo : Info
  /-- `+[NSHTTPCookie cookieWithProperties:]`. -/
  cookieWithProperties : CookieProperties → Option NSHTTPCookie
  iOS13 : Bool

def kNSHTTPCookieSameSiteNone : String := "none"
def NSHTTPCookieSameSiteLax : String := "lax"
def NSHTTPCookieSameSiteStrict : String := "strict"

/-- What an Objective-C container raises. -/
inductive NSException where
  | invalidArgument
  deriving DecidableEq

/-- `-[NSMutableArray addObject:]`. -/
def addObject {α : Type} (array : List α) : Option α → Except NSException (List α)
  | none => .error .invalidArgument
  | some object => .ok (array ++ [object])

namespace CookieLibrary

variable {Info : Type} (net : CookieLibrary Info)

/-- `CanonicalCookie::FromStorage`, which refuses what is not canonical. -/
def fromStorage (cookie : CanonicalCookie) : Option CanonicalCookie :=
  if net.isCanonical cookie then some cookie else none

def sameSiteFromPolicy (policy : Option String) : CookieSameSite :=
  if net.iOS13 then
    match policy with
    | none => .unspecified
    | some policy =>
      if policy.toLower = kNSHTTPCookieSameSiteNone then .noRestriction
      else if policy = NSHTTPCookieSameSiteStrict then .strictMode
      else if policy = NSHTTPCookieSameSiteLax then .laxMode
      else .unspecified
  else .noRestriction

def canonicalCookieFromSystemCookie (cookie : NSHTTPCookie) (creationTime : Time) :
    Option CanonicalCookie :=
  net.fromStorage
    { name := sysNSStringToUTF8 cookie.name
      value := sysNSStringToUTF8 cookie.value
      domain := sysNSStringToUTF8 cookie.domain
      path := sysNSStringToUTF8 cookie.path
      creationDate := creationTime
      expiryDate := fromDoubleT (timeIntervalSince1970 cookie.expiresDate)
      isSecure := cookie.isSecure
      isHttpOnly := cookie.isHTTPOnly
      sameSite := net.sameSiteFromPolicy cookie.sameSitePolicy }

def sameSitePolicyOf : CookieSameSite → String
  | .laxMode => NSHTTPCookieSameSiteLax
  | .strictMode => NSHTTPCookieSameSiteStrict
  | .noRestriction => kNSHTTPCookieSameSiteNone
  | .unspecified => ""

def systemCookieFromCanonicalCookie (cookie : CanonicalCookie) : Option NSHTTPCookie :=
  match sysUTF8ToNSString cookie.domain, sysUTF8ToNSString cookie.name,
    sysUTF8ToNSString cookie.path, sysUTF8ToNSString cookie.value with
  | some cookieDomain, some cookieName, some cookiePath, some cookieValue =>
    net.cookieWithProperties
      { domain := cookieDomain
        name := cookieName
        path := cookiePath
        value := cookieValue
        expires := if cookie.expiryDate = 0 then none else some (toDoubleT cookie.expiryDate)
        sameSitePolicy := if net.iOS13 then some (sameSitePolicyOf cookie.sameSite) else none
        secure := cookie.isSecure
        httpOnly := cookie.isHttpOnly }
  | _, _, _, _ => none

def systemCookiesFromCanonicalCookieList (cookieList : List CanonicalCookie) :
    Except NSException (List NSHTTPCookie) :=
  cookieList.foldlM
    (fun cookies cookie => addObject cookies (net.systemCookieFromCanonicalCookie cookie)) []

end CookieLibrary

/-! ## What is relied on -/

/-- A cookie with the properties it was made of. -/
structure NSHTTPCookie.Keeps (cookie : NSHTTPCookie) (properties : CookieProperties) : Prop where
  name : cookie.name = properties.name
  value : cookie.value = properties.value
  domain : cookie.domain = properties.domain
  path : cookie.path = properties.path
  expires : cookie.expiresDate = properties.expires
  sameSitePolicy : cookie.sameSitePolicy = properties.sameSitePolicy
  secure : cookie.isSecure = properties.secure
  httpOnly : cookie.isHTTPOnly = properties.httpOnly

namespace CookieLibrary

variable {Info : Type} (net : CookieLibrary Info)

structure Lawful : Prop where
  /-- A canonical name or domain has no `;` in it. -/
  canonical_plain : ∀ cookie, net.isCanonical cookie → ∀ text,
    sysUTF8ToNSString cookie.name = some text ∨ sysUTF8ToNSString cookie.domain = some text →
      ';' ∉ text.toList
  /-- Being canonical is a matter of the texts and the secure flag. -/
  canonical_texts : ∀ cookie cookie' : CanonicalCookie, cookie'.name = cookie.name →
    cookie'.value = cookie.value → cookie'.domain = cookie.domain → cookie'.path = cookie.path →
      cookie'.isSecure = cookie.isSecure → net.isCanonical cookie → net.isCanonical cookie'
  keeps_properties : ∀ properties, ';' ∉ properties.name.toList → ';' ∉ properties.domain.toList →
    ∃ cookie, net.cookieWithProperties properties = some cookie ∧ cookie.Keeps properties

end CookieLibrary

/-- The texts of a cookie are UTF-8. -/
structure CanonicalCookie.ValidTexts (cookie : CanonicalCookie) : Prop where
  domain : cookie.domain.IsValidUTF8
  name : cookie.name.IsValidUTF8
  path : cookie.path.IsValidUTF8
  value : cookie.value.IsValidUTF8

/-- A session cookie's expiry, or a whole number of seconds. -/
def ExpiryInSeconds (t : Time) : Prop :=
  t = 0 ∨ ∃ seconds : Int, t = unixEpoch + seconds * kMicrosecondsPerSecond

namespace CookieLibrary

variable {Info : Type} (net : CookieLibrary Info)

/-- The cookie that is read back is the cookie that was written, with the
creation time given for it. -/
def RoundTrips (cookie : CanonicalCookie) (creationTime : Time) : Prop :=
  (net.systemCookieFromCanonicalCookie cookie).bind
      (fun systemCookie => net.canonicalCookieFromSystemCookie systemCookie creationTime) =
    some { cookie with creationDate := creationTime }

/-- The list conversion does not raise, and leaves out what has no system cookie. -/
def ConvertsList (cookieList : List CanonicalCookie) : Prop :=
  net.systemCookiesFromCanonicalCookieList cookieList =
    .ok (cookieList.filterMap net.systemCookieFromCanonicalCookie)

end CookieLibrary

/-! ## Each attribute there and back -/

theorem sysUTF8ToNSString_eq_none {utf8 : ByteArray} :
    sysUTF8ToNSString utf8 = none ↔ ¬ utf8.IsValidUTF8 := by
  unfold sysUTF8ToNSString String.fromUTF8?
  split
  next h => exact iff_of_false (fun hnone => nomatch hnone) fun hnot => hnot h
  next h => exact iff_of_true rfl h

/-- The text of valid bytes has these bytes. -/
theorem exists_sysUTF8ToNSString {utf8 : ByteArray} (h : utf8.IsValidUTF8) :
    ∃ text, sysUTF8ToNSString utf8 = some text ∧ sysNSStringToUTF8 text = utf8 :=
  ⟨String.fromUTF8 utf8 h, dif_pos h, rfl⟩

theorem unixEpoch_ne_zero : unixEpoch ≠ 0 := by decide

/-- **The expiry that is read back**: the null time for none and for the epoch. -/
theorem fromDoubleT_expires {t : Time} (ht : ExpiryInSeconds t) :
    fromDoubleT (timeIntervalSince1970 (if t = 0 then none else some (toDoubleT t))) =
      if t = unixEpoch then 0 else t := by
  by_cases hnull : t = 0
  · subst hnull
    rw [if_pos rfl, if_neg unixEpoch_ne_zero.symm]
    rfl
  · obtain ⟨seconds, rfl⟩ := ht.resolve_left hnull
    have hdouble : toDoubleT (unixEpoch + seconds * kMicrosecondsPerSecond) = seconds := by
      unfold toDoubleT kMicrosecondsPerSecond at *
      rw [if_neg hnull]
      omega
    rw [if_neg hnull, hdouble]
    show (if seconds = 0 then 0 else unixEpoch + seconds * kMicrosecondsPerSecond) = _
    by_cases hseconds : seconds = 0
    · subst hseconds
      rw [if_pos rfl, Int.zero_mul, Int.add_zero, if_pos rfl]
    · have hepoch : unixEpoch + seconds * kMicrosecondsPerSecond ≠ unixEpoch := by
        intro heq
        have hzero : seconds * kMicrosecondsPerSecond = 0 :=
          Int.add_left_cancel (heq.trans (Int.add_zero _).symm)
        exact hseconds ((Int.mul_eq_zero.1 hzero).resolve_right (by decide))
      rw [if_neg hseconds, if_neg hepoch]

namespace CookieLibrary

variable {Info : Type} (net : CookieLibrary Info)

/-- **The SameSite value that is read back**: below iOS 13 there is one only. -/
theorem sameSiteFromPolicy_policyOf (sameSite : CookieSameSite) :
    net.sameSiteFromPolicy (if net.iOS13 then some (sameSitePolicyOf sameSite) else none) =
      if net.iOS13 then sameSite else .noRestriction := by
  unfold sameSiteFromPolicy
  cases net.iOS13 with
  | false => rfl
  | true => cases sameSite <;> decide +kernel

variable {net}

/-- A cookie with valid texts has a system cookie, and it has the attributes. -/
theorem Lawful.systemCookie (hnet : net.Lawful) {cookie : CanonicalCookie}
    (hcanonical : net.isCanonical cookie) (hvalid : cookie.ValidTexts) :
    ∃ systemCookie, net.systemCookieFromCanonicalCookie cookie = some systemCookie ∧
      sysNSStringToUTF8 systemCookie.name = cookie.name ∧
      sysNSStringToUTF8 systemCookie.value = cookie.value ∧
      sysNSStringToUTF8 systemCookie.domain = cookie.domain ∧
      sysNSStringToUTF8 systemCookie.path = cookie.path ∧
      systemCookie.expiresDate =
        (if cookie.expiryDate = 0 then none else some (toDoubleT cookie.expiryDate)) ∧
      systemCookie.sameSitePolicy =
        (if net.iOS13 then some (sameSitePolicyOf cookie.sameSite) else none) ∧
      systemCookie.isSecure = cookie.isSecure ∧ systemCookie.isHTTPOnly = cookie.isHttpOnly := by
  obtain ⟨domain, hdomain, hdomainBytes⟩ := exists_sysUTF8ToNSString hvalid.domain
  obtain ⟨name, hname, hnameBytes⟩ := exists_sysUTF8ToNSString hvalid.name
  obtain ⟨path, hpath, hpathBytes⟩ := exists_sysUTF8ToNSString hvalid.path
  obtain ⟨value, hvalue, hvalueBytes⟩ := exists_sysUTF8ToNSString hvalid.value
  unfold systemCookieFromCanonicalCookie
  rw [hdomain, hname, hpath, hvalue]
  obtain ⟨systemCookie, hmade, hkeeps⟩ := hnet.keeps_properties
    { domain := domain
      name := name
      path := path
      value := value
      expires := if cookie.expiryDate = 0 then none else some (toDoubleT cookie.expiryDate)
      sameSitePolicy := if net.iOS13 then some (sameSitePolicyOf cookie.sameSite) else none
      secure := cookie.isSecure
      httpOnly := cookie.isHttpOnly }
    (hnet.canonical_plain cookie hcanonical name (.inl hname))
    (hnet.canonical_plain cookie hcanonical domain (.inr hdomain))
  refine ⟨systemCookie, hmade, ?_, ?_, ?_, ?_, hkeeps.expires, hkeeps.sameSitePolicy,
    hkeeps.secure, hkeeps.httpOnly⟩
  · rw [hkeeps.name, hnameBytes]
  · rw [hkeeps.value, hvalueBytes]
  · rw [hkeeps.domain, hdomainBytes]
  · rw [hkeeps.path, hpathBytes]

theorem systemCookie_eq_none {cookie : CanonicalCookie} (h : ¬ cookie.ValidTexts) :
    net.systemCookieFromCanonicalCookie cookie = none := by
  unfold systemCookieFromCanonicalCookie
  split
  next domain name path value hdomain hname hpath hvalue =>
    have hvalid : ∀ {utf8 : ByteArray} {text : String}, sysUTF8ToNSString utf8 = some text →
        utf8.IsValidUTF8 := by
      intro utf8 text htext
      by_contra hnot
      rw [sysUTF8ToNSString_eq_none.2 hnot] at htext
      cases htext
    exact absurd ⟨hvalid hdomain, hvalid hname, hvalid hpath, hvalid hvalue⟩ h
  next => rfl

/-- **What is read back**: the cookie, but for an expiry at the epoch and for a
SameSite value below iOS 13. -/
theorem Lawful.readBack (hnet : net.Lawful) {cookie : CanonicalCookie} (creationTime : Time)
    (hcanonical : net.isCanonical cookie) (hvalid : cookie.ValidTexts)
    (hexpiry : ExpiryInSeconds cookie.expiryDate) :
    (net.systemCookieFromCanonicalCookie cookie).bind
        (fun systemCookie => net.canonicalCookieFromSystemCookie systemCookie creationTime) =
      some
        { cookie with
          creationDate := creationTime
          expiryDate := if cookie.expiryDate = unixEpoch then 0 else cookie.expiryDate
          sameSite := if net.iOS13 then cookie.sameSite else .noRestriction } := by
  obtain ⟨systemCookie, hmade, hname, hvalue, hdomain, hpath, hexpires, hpolicy, hsecure,
    hhttpOnly⟩ := hnet.systemCookie hcanonical hvalid
  rw [hmade, Option.bind_some]
  unfold canonicalCookieFromSystemCookie fromStorage
  rw [hname, hvalue, hdomain, hpath, hexpires, hpolicy, hsecure, hhttpOnly,
    fromDoubleT_expires hexpiry, sameSiteFromPolicy_policyOf, if_pos]
  exact hnet.canonical_texts cookie _ rfl rfl rfl rfl rfl hcanonical

/-- **A cookie comes back as it was just when it did not expire at the epoch**, and
has the only SameSite value there is below iOS 13. -/
theorem Lawful.roundTrips_iff (hnet : net.Lawful) {cookie : CanonicalCookie} (creationTime : Time)
    (hcanonical : net.isCanonical cookie) (hvalid : cookie.ValidTexts)
    (hexpiry : ExpiryInSeconds cookie.expiryDate) :
    net.RoundTrips cookie creationTime ↔
      cookie.expiryDate ≠ unixEpoch ∧ (net.iOS13 = true ∨ cookie.sameSite = .noRestriction) := by
  unfold RoundTrips
  rw [hnet.readBack creationTime hcanonical hvalid hexpiry, Option.some_inj,
    CanonicalCookie.mk.injEq]
  constructor
  · rintro ⟨-, -, -, -, -, hdate, -, -, hsite⟩
    refine ⟨fun hepoch => ?_, ?_⟩
    · rw [if_pos hepoch, hepoch] at hdate
      exact unixEpoch_ne_zero hdate.symm
    · cases hios : net.iOS13 with
      | true => exact .inl rfl
      | false =>
        rw [hios] at hsite
        exact .inr hsite.symm
  · rintro ⟨hepoch, hsite⟩
    refine ⟨rfl, rfl, rfl, rfl, rfl, if_neg hepoch, rfl, rfl, ?_⟩
    rcases hsite with hios | hsite
    · rw [if_pos hios]
    · rw [hsite, ite_self]

/-! ## The list -/

theorem foldlM_addObject {α β : Type} (f : α → Option β) : ∀ (l : List α) (array : List β),
    l.foldlM (fun array a => addObject array (f a)) array =
      if ∀ a ∈ l, (f a).isSome then .ok (array ++ l.filterMap f) else .error .invalidArgument
  | [], array => by simp [pure, Except.pure]
  | a :: l, array => by
    rw [List.foldlM_cons]
    cases hfa : f a with
    | none =>
      rw [if_neg fun hall => by simpa [hfa] using hall a List.mem_cons_self]
      rfl
    | some b =>
      show List.foldlM _ (array ++ [b]) l = _
      rw [foldlM_addObject f l (array ++ [b]), List.filterMap_cons_some hfa, List.append_assoc]
      simp [hfa]

/-- **The list is converted just when every cookie has a system cookie.** -/
theorem Lawful.convertsList_iff (hnet : net.Lawful) {cookieList : List CanonicalCookie}
    (hcanonical : ∀ cookie ∈ cookieList, net.isCanonical cookie) :
    net.ConvertsList cookieList ↔ ∀ cookie ∈ cookieList, cookie.ValidTexts := by
  have hsome : ∀ cookie ∈ cookieList,
      ((net.systemCookieFromCanonicalCookie cookie).isSome ↔ cookie.ValidTexts) := by
    intro cookie hcookie
    by_cases hvalid : cookie.ValidTexts
    · obtain ⟨systemCookie, hmade, -⟩ := hnet.systemCookie (hcanonical cookie hcookie) hvalid
      rw [hmade]
      exact iff_of_true rfl hvalid
    · rw [systemCookie_eq_none hvalid]
      exact iff_of_false (fun h => nomatch h) hvalid
  unfold ConvertsList systemCookiesFromCanonicalCookieList
  rw [foldlM_addObject]
  constructor
  · intro hok
    by_contra hnot
    rw [if_neg fun hall => hnot fun cookie hcookie =>
      (hsome cookie hcookie).1 (hall cookie hcookie)] at hok
    cases hok
  · intro hvalid
    rw [if_pos fun cookie hcookie => (hsome cookie hcookie).2 (hvalid cookie hcookie)]
    rfl

/-- **When the conversions keep cookies**: one cookie there and back, and a list. -/
theorem conversions_keep_iff (hnet : net.Lawful) :
    (∀ (cookie : CanonicalCookie) (creationTime : Time), net.isCanonical cookie →
      cookie.ValidTexts → ExpiryInSeconds cookie.expiryDate →
        (net.RoundTrips cookie creationTime ↔ cookie.expiryDate ≠ unixEpoch ∧
          (net.iOS13 = true ∨ cookie.sameSite = .noRestriction))) ∧
    ∀ cookieList : List CanonicalCookie, (∀ cookie ∈ cookieList, net.isCanonical cookie) →
      (net.ConvertsList cookieList ↔ ∀ cookie ∈ cookieList, cookie.ValidTexts) :=
  ⟨fun _ creationTime hcanonical hvalid hexpiry =>
    hnet.roundTrips_iff creationTime hcanonical hvalid hexpiry,
    fun _ hcanonical => hnet.convertsList_iff hcanonical⟩

end CookieLibrary

/-- A library that takes every cookie whose texts have no `;` as it is;
`cookieWithProperties:` sets the creation date to one second. -/
def plainLibrary : CookieLibrary Unit where
  isCanonical cookie :=
    (sysUTF8ToNSString cookie.name).all (fun text => ';' ∉ text.toList) &&
      (sysUTF8ToNSString cookie.domain).all (fun text => ';' ∉ text.toList)
  isEquivalent a b := a.name == b.name && a.domain == b.domain && a.path == b.path
  infoMatches _ cookie := cookie.expiryDate == 0
  timeRangeInfo _ _ := ()
  sessionCookiesInfo := ()
  cookieWithProperties properties :=
    if h : ';' ∉ properties.name.toList ∧ ';' ∉ properties.domain.toList then
      some
        { name := properties.name
          domain := properties.domain
          path := properties.path
          value := properties.value
          created := some 1000000
          expiresDate := properties.expires
          isSecure := properties.secure
          isHTTPOnly := properties.httpOnly
          sameSitePolicy := properties.sameSitePolicy
          name_plain := h.1
          domain_plain := h.2 }
    else none
  iOS13 := true

theorem plainLibrary_lawful : plainLibrary.Lawful where
  canonical_plain cookie hcanonical text htext := by
    obtain ⟨hname, hdomain⟩ := Bool.and_eq_true_iff.1 hcanonical
    rcases htext with htext | htext
    · rw [htext] at hname
      exact of_decide_eq_true hname
    · rw [htext] at hdomain
      exact of_decide_eq_true hdomain
  canonical_texts cookie cookie' hname _ hdomain _ _ hcanonical := by
    unfold plainLibrary at hcanonical ⊢
    simp only [hname, hdomain]
    exact hcanonical
  keeps_properties properties hname hdomain :=
    ⟨_, dif_pos ⟨hname, hdomain⟩, rfl, rfl, rfl, rfl, rfl, rfl, rfl, rfl⟩

/-- A cookie that expires some seconds after the epoch. -/
private def expiringCookie (value : ByteArray) (seconds : Int) : CanonicalCookie where
  name := "id".toUTF8
  value := value
  domain := "a.b".toUTF8
  path := "/".toUTF8
  creationDate := 0
  expiryDate := unixEpoch + seconds * kMicrosecondsPerSecond
  isSecure := false
  isHttpOnly := false
  sameSite := .laxMode

private theorem expiringCookie_canonical (value : ByteArray) (seconds : Int) :
    plainLibrary.isCanonical (expiringCookie value seconds) = true := by
  have htexts : ((sysUTF8ToNSString "id".toUTF8).all (fun text => ';' ∉ text.toList) &&
      (sysUTF8ToNSString "a.b".toUTF8).all (fun text => ';' ∉ text.toList)) = true := by
    decide +kernel
  simpa only [plainLibrary, expiringCookie] using htexts

private theorem expiringCookie_valid (seconds : Int) :
    (expiringCookie "1".toUTF8 seconds).ValidTexts :=
  ⟨"a.b".isValidUTF8, "id".isValidUTF8, "/".isValidUTF8, "1".isValidUTF8⟩

/-- A cookie that expires five seconds after the epoch. -/
theorem conversions_keep_plain :
    plainLibrary.RoundTrips (expiringCookie "1".toUTF8 5) 7 ∧
      plainLibrary.ConvertsList [expiringCookie "1".toUTF8 5] :=
  ⟨((CookieLibrary.conversions_keep_iff plainLibrary_lawful).1 _ 7 (expiringCookie_canonical _ _)
      (expiringCookie_valid 5) (.inr ⟨5, rfl⟩)).2 ⟨by decide, .inl rfl⟩,
    ((CookieLibrary.conversions_keep_iff plainLibrary_lawful).2 _ fun cookie hcookie => by
      obtain rfl := List.mem_singleton.1 hcookie
      exact expiringCookie_canonical _ _).2 fun cookie hcookie => by
        obtain rfl := List.mem_singleton.1 hcookie
        exact expiringCookie_valid 5⟩

/-- **A cookie made to expire comes back as a session cookie, and a list with a
value that is not UTF-8 raises.** -/
theorem expiredCookie_lost :
    (∀ seconds, plainLibrary.isCanonical (expiringCookie "1".toUTF8 seconds) = true ∧
      (expiringCookie "1".toUTF8 seconds).ValidTexts) ∧
    ¬ plainLibrary.RoundTrips (expiringCookie "1".toUTF8 0) 7 ∧
    plainLibrary.systemCookiesFromCanonicalCookieList [expiringCookie ⟨#[0x81]⟩ 5] =
      .error .invalidArgument := by
  refine ⟨fun seconds => ⟨expiringCookie_canonical _ seconds, expiringCookie_valid seconds⟩, ?_, ?_⟩
  · intro hback
    have hepoch := (plainLibrary_lawful.roundTrips_iff 7 (expiringCookie_canonical _ _)
      (expiringCookie_valid 0) (.inr ⟨0, rfl⟩)).1 hback
    exact hepoch.1 rfl
  · have hnone : plainLibrary.systemCookieFromCanonicalCookie (expiringCookie ⟨#[0x81]⟩ 5) = none :=
      CookieLibrary.systemCookie_eq_none fun hvalid =>
        absurd hvalid.value (by decide +kernel : ¬ (⟨#[0x81]⟩ : ByteArray).IsValidUTF8)
    unfold CookieLibrary.systemCookiesFromCanonicalCookieList
    rw [CookieLibrary.foldlM_addObject, if_neg]
    intro hall
    have hsome := hall _ List.mem_cons_self
    rw [hnone] at hsome
    cases hsome

end IosChrome.Cookies

import Mathlib.Algebra.GroupWithZero.Nat
import Mathlib.Data.List.Basic
import IosChrome.Lib.Keyed

/-!
# System cookies

`NSHTTPCookie` as far as the cookie stores look into it. Both system stores,
`NSHTTPCookieStorage` and `WKHTTPCookieStore`, identify a cookie by its name,
domain and path: setting one takes the place of the cookie that had its
identity, and deleting one deletes whatever has its identity, whichever object
it was called with. In which order a store lists its cookies is not documented
and nothing here depends on it.

The creation times are kept under `getCookieUniqueID`, one string made of the
three. A cookie's name and domain have no `;` in them, so the string tells
cookies apart exactly as the stores do (`getCookieUniqueID_eq_iff`).
-/

namespace IosChrome.Cookies

open IosChrome.Lib

/-- `base::Time` by its internal value, microseconds; the null time is `0`. -/
abbrev Time : Type := Int

/-- `-[NSString length]`: two for a character outside the basic plane. -/
def nsLength (text : String) : Nat :=
  (text.toList.map fun c => if c.toNat < 0x10000 then 1 else 2).sum

/-- A date of a cookie, in whole seconds since the Unix epoch. -/
abbrev NSDate : Type := Int

/-- What a cookie is known by in the system stores. -/
structure CookieIdentity where
  name : String
  domain : String
  path : String
  deriving DecidableEq, Repr

structure NSHTTPCookie where
  name : String
  domain : String
  path : String
  value : String
  /-- The `Created` property, in microseconds since January 1st, 2001. -/
  created : Option Int
  expiresDate : Option NSDate
  isSecure : Bool
  isHTTPOnly : Bool
  sameSitePolicy : Option String
  /-- The cookie grammar: `;` ends a name and an attribute. -/
  name_plain : ';' ∉ name.toList
  domain_plain : ';' ∉ domain.toList
  deriving DecidableEq

namespace NSHTTPCookie

def identity (cookie : NSHTTPCookie) : CookieIdentity :=
  { name := cookie.name, domain := cookie.domain, path := cookie.path }

end NSHTTPCookie

/-! ## What a system store does with its cookies -/

/-- `setCookie:` of a system store. -/
def storeCookie (cookies : List NSHTTPCookie) (cookie : NSHTTPCookie) : List NSHTTPCookie :=
  Keyed.put NSHTTPCookie.identity cookies cookie

/-- `deleteCookie:` of a system store: by identity only. -/
def dropCookie (cookies : List NSHTTPCookie) (cookie : NSHTTPCookie) : List NSHTTPCookie :=
  Keyed.remove NSHTTPCookie.identity cookies cookie.identity

/-- The cookie a system store has under an identity. -/
def storedCookie (cookies : List NSHTTPCookie) (identity : CookieIdentity) : Option NSHTTPCookie :=
  Keyed.lookup NSHTTPCookie.identity cookies identity

/-- The cookies of a system store: one for each identity. -/
abbrev Stored (cookies : List NSHTTPCookie) : Prop := Keyed.Unique NSHTTPCookie.identity cookies

/-! ## The key of the creation times -/

def getCookieUniqueID (cookie : NSHTTPCookie) : String :=
  cookie.name ++ ";" ++ cookie.domain ++ ";" ++ cookie.path

/-- A text up to its first delimiter, and the rest, are what they were. -/
theorem split_at_delimiter {c : Char} : ∀ {as bs cs ds : List Char}, c ∉ as → c ∉ bs →
    as ++ c :: cs = bs ++ c :: ds → as = bs ∧ cs = ds
  | [], [], _, _, _, _, h => ⟨rfl, (List.cons.inj h).2⟩
  | [], b :: _, _, _, _, hb, h => absurd (List.cons.inj h).1.symm fun he => hb (he ▸ List.mem_cons_self)
  | a :: _, [], _, _, ha, _, h => absurd (List.cons.inj h).1 fun he => ha (he ▸ List.mem_cons_self)
  | a :: as, b :: bs, cs, ds, ha, hb, h => by
    obtain ⟨rfl, hrest⟩ := List.cons.inj h
    obtain ⟨rfl, rfl⟩ := split_at_delimiter (fun hm => ha (List.mem_cons_of_mem _ hm))
      (fun hm => hb (List.mem_cons_of_mem _ hm)) hrest
    exact ⟨rfl, rfl⟩

/-- **The unique id tells cookies apart as the stores do.** -/
theorem getCookieUniqueID_eq_iff {a b : NSHTTPCookie} :
    getCookieUniqueID a = getCookieUniqueID b ↔ a.identity = b.identity := by
  constructor
  · intro h
    have hchars : a.name.toList ++ ';' :: (a.domain.toList ++ ';' :: a.path.toList) =
        b.name.toList ++ ';' :: (b.domain.toList ++ ';' :: b.path.toList) := by
      have := congrArg String.toList h
      simpa [getCookieUniqueID] using this
    -- the name ends at the first `;`, the domain at the second
    obtain ⟨hname, hrest⟩ := split_at_delimiter a.name_plain b.name_plain hchars
    obtain ⟨hdomain, hpath⟩ := split_at_delimiter a.domain_plain b.domain_plain hrest
    unfold NSHTTPCookie.identity
    rw [String.toList_inj.1 hname, String.toList_inj.1 hdomain, String.toList_inj.1 hpath]
  · intro h
    obtain ⟨hname, hdomain, hpath⟩ := CookieIdentity.mk.inj h
    unfold getCookieUniqueID
    rw [hname, hdomain, hpath]

end IosChrome.Cookies

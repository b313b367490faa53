import IosChrome.Navigation.Url
import Mathlib.Data.List.TakeWhile

/-!
# Placeholder URLs

A placeholder, `about:blank?for=<escaped>`, stands in the web view's history for a URL that the
view does not show itself. It is recognised twice: as a `GURL`, by its parts, and as an `NSURL`,
by its text. `CreatePlaceholderUrlForUrl` makes URLs that both recognise and from which
`ExtractUrlFromPlaceholderUrl` reads the original back (`extract_createPlaceholderUrlForUrl`).

The two recognisers do not agree on all URLs that a page can make. The one on parts compares the
query with `for` and not with `for=`, and takes `about:blank/` for `about:blank`. The one on texts
takes `about://blank`, which has another path. `placeholder_iff` says that these three kinds
(`Disputed`) are all.

`PathUrlLibrary` is what is asked of `url/` and `net/`: an `about:` URL is a path URL, whose spec
is its path, query and fragment in this order, and escaping is undone by reading the parameter.
-/

namespace IosChrome.Navigation

open IosChrome.Lib

/-! ## As an `NSURL` -/

structure NSURL where
  absoluteString : String
  deriving DecidableEq, Repr

/-- What stands before the first colon. -/
def NSURL.scheme (url : NSURL) : Option String :=
  if ':' ∈ url.absoluteString.toList then
    some (String.ofList (url.absoluteString.toList.takeWhile (· ≠ ':')))
  else none

def isPlaceholderNSURL (url : NSURL) : Bool :=
  decide (url.scheme = some "about") &&
    (hasPrefix url.absoluteString "about:blank?for=" ||
      hasPrefix url.absoluteString "about://blank?for=")

section

variable {U : Type} [UrlLibrary U]

/-- `net::NSURLWithGURL`. -/
def nsURLWithGURL (url : U) : NSURL := ⟨spec url⟩

/-- The parts of an `about:` URL. A query or a fragment that is empty may have its mark or not. -/
structure PathParts (url : U) (queryPart refPart : List Char) : Prop where
  spec_eq : (spec url).toList =
    "about:".toList ++ ((path url).toList ++ (queryPart ++ refPart))
  path_ends : ∀ c ∈ (path url).toList, c ≠ '?' ∧ c ≠ '#'
  query_eq : (queryPart = [] ∧ query url = "") ∨ queryPart = '?' :: (query url).toList
  query_ends : ∀ c ∈ (query url).toList, c ≠ '#'
  ref_eq : refPart = [] ∨ ∃ ref, refPart = '#' :: ref

end

/-- What `url/` and `net/` document. -/
class PathUrlLibrary (U : Type) [UrlLibrary U] : Prop where
  gurl_spec : ∀ url : U, isValid url = true → gurl (spec url) = url
  schemeIs_about : ∀ url : U, isValid url = true →
    (schemeIs url kAboutScheme = true ↔ hasPrefix (spec url) "about:" = true)
  parts : ∀ url : U, isValid url = true → schemeIs url kAboutScheme = true →
    ∃ queryPart refPart, PathParts url queryPart refPart
  isAboutBlank_iff : ∀ url : U, isAboutBlank url = true ↔
    schemeIs url kAboutScheme = true ∧ (path url = "blank" ∨ path url = "blank/")
  isValid_append : ∀ value,
    isValid (appendQueryParameter (gurl kAboutBlankURL : U) kOriginalUrlKey value) = true
  spec_append : ∀ value, ∃ escaped,
    spec (appendQueryParameter (gurl kAboutBlankURL : U) kOriginalUrlKey value) =
      kAboutBlankURL ++ "?" ++ kOriginalUrlKey ++ "=" ++ escaped
  getValue_append : ∀ value, getValueForKeyInQuery
    (appendQueryParameter (gurl kAboutBlankURL : U) kOriginalUrlKey value) kOriginalUrlKey =
      some value

/-! ## Where a text ends -/

/-- A text is cut in one way only before the first character that ends it. -/
theorem parts_unique {P : Char → Prop} :
    ∀ {before before' rest rest' : List Char}, before ++ rest = before' ++ rest' →
      (∀ c ∈ before, ¬ P c) → (∀ c ∈ before', ¬ P c) →
      (∀ c, rest.head? = some c → P c) → (∀ c, rest'.head? = some c → P c) →
      before = before' ∧ rest = rest'
  | [], [], _, _, h, _, _, _, _ => ⟨rfl, h⟩
  | [], c :: before', _, _, h, _, hbefore', hrest, _ =>
    absurd (hrest c (congrArg List.head? h)) (hbefore' c List.mem_cons_self)
  | c :: before, [], _, _, h, hbefore, _, _, hrest' =>
    absurd (hrest' c (congrArg List.head? h.symm)) (hbefore c List.mem_cons_self)
  | c :: before, c' :: before', _, _, h, hbefore, hbefore', hrest, hrest' => by
    obtain ⟨rfl, htail⟩ := List.cons.inj h
    obtain ⟨rfl, rfl⟩ := parts_unique htail (fun d hd => hbefore d (List.mem_cons_of_mem _ hd))
      (fun d hd => hbefore' d (List.mem_cons_of_mem _ hd)) hrest hrest'
    exact ⟨rfl, rfl⟩

theorem hasPrefix_iff {text start : String} :
    hasPrefix text start = true ↔ ∃ rest, text.toList = start.toList ++ rest := by
  unfold hasPrefix
  rw [List.isPrefixOf_iff_prefix]
  exact ⟨fun ⟨rest, h⟩ => ⟨rest, h.symm⟩, fun ⟨rest, h⟩ => ⟨rest, h.symm⟩⟩

/-! ## Which URLs the two recognise -/

variable {U : Type} [UrlLibrary U]

theorem PathParts.ends {url : U} {queryPart refPart : List Char}
    (h : PathParts url queryPart refPart) :
    ∀ c, (queryPart ++ refPart).head? = some c → c = '?' ∨ c = '#' := by
  intro c hc
  rcases h.query_eq with ⟨rfl, -⟩ | rfl
  · rcases h.ref_eq with rfl | ⟨ref, rfl⟩
    · cases hc
    · exact .inr (Option.some.inj hc).symm
  · exact .inl (Option.some.inj hc).symm

/-- The query of an `about:` URL whose text is `about:<path>?<query>…`. -/
theorem PathParts.of_text {url : U} {queryPart refPart : List Char}
    (h : PathParts url queryPart refPart) (path' start rest : List Char)
    (htext : (spec url).toList = "about:".toList ++ (path' ++ ('?' :: (start ++ rest))))
    (hpath' : ∀ c ∈ path', c ≠ '?' ∧ c ≠ '#') (hstart : ∀ c ∈ start, c ≠ '#') :
    (path url).toList = path' ∧ start <+: (query url).toList := by
  have hafter := List.append_cancel_left (h.spec_eq.symm.trans htext)
  obtain ⟨hpath, hquery⟩ := parts_unique (P := fun c => c = '?' ∨ c = '#') hafter
    (fun c hc => not_or.2 (h.path_ends c hc)) (fun c hc => not_or.2 (hpath' c hc)) h.ends
    (fun c hc => .inl (Option.some.inj hc).symm)
  refine ⟨hpath, ?_⟩
  rcases h.query_eq with ⟨rfl, -⟩ | rfl
  · -- without a query what follows the path would be a fragment
    rcases h.ref_eq with rfl | ⟨ref, rfl⟩ <;> simp at hquery
  · obtain ⟨-, hquery⟩ := List.cons.inj hquery
    -- it ends before the first number sign
    have hrest : start ++ rest =
        (start ++ rest.takeWhile (· ≠ '#')) ++ rest.dropWhile (· ≠ '#') := by
      rw [List.append_assoc, List.takeWhile_append_dropWhile]
    rw [hrest] at hquery
    suffices hstarts : (query url).toList = start ++ rest.takeWhile (· ≠ '#') by
      rw [hstarts]
      exact List.prefix_append _ _
    refine (parts_unique (P := fun c => c = '#') hquery h.query_ends ?_ ?_ ?_).1
    · intro c hc
      rcases List.mem_append.1 hc with hc | hc
      · exact hstart c hc
      · simpa using List.mem_takeWhile_imp hc
    · intro c hc
      rcases h.ref_eq with rfl | ⟨ref, rfl⟩
      · cases hc
      · exact (Option.some.inj hc).symm
    · intro c hc
      have hmark := List.head?_dropWhile_not (· ≠ '#') rest
      rw [hc] at hmark
      simpa using hmark

variable [PathUrlLibrary U]

open PathUrlLibrary

/-- The recogniser on parts, as a test of the text. -/
theorem isPlaceholderUrl_iff {url : U} (hvalid : isValid url = true) :
    isPlaceholderUrl url = true ↔ hasPrefix (spec url) "about:blank?for" = true ∨
      hasPrefix (spec url) "about:blank/?for" = true := by
  unfold isPlaceholderUrl
  rw [Bool.and_eq_true, isAboutBlank_iff, hasPrefix_iff, hasPrefix_iff, hasPrefix_iff]
  constructor
  · rintro ⟨⟨hscheme, hpath⟩, rest, hquery⟩
    obtain ⟨queryPart, refPart, hparts⟩ := parts url hvalid hscheme
    have hpart : queryPart = '?' :: (query url).toList := by
      rcases hparts.query_eq with ⟨-, hempty⟩ | hpart
      · rw [hempty] at hquery
        cases hquery
      · exact hpart
    have hspec := hparts.spec_eq
    rw [hpart, hquery] at hspec
    rcases hpath with hpath | hpath
    · rw [hpath] at hspec
      exact .inl ⟨rest ++ refPart, by rw [hspec]; rfl⟩
    · rw [hpath] at hspec
      exact .inr ⟨rest ++ refPart, by rw [hspec]; rfl⟩
  · intro htext
    have habout : schemeIs url kAboutScheme = true := by
      rw [schemeIs_about url hvalid, hasPrefix_iff]
      rcases htext with ⟨rest, h⟩ | ⟨rest, h⟩
      · exact ⟨"blank?for".toList ++ rest, h⟩
      · exact ⟨"blank/?for".toList ++ rest, h⟩
    obtain ⟨queryPart, refPart, hparts⟩ := parts url hvalid habout
    have hstart : ∀ c ∈ kOriginalUrlKey.toList, c ≠ '#' := by simp [kOriginalUrlKey]
    rcases htext with ⟨rest, h⟩ | ⟨rest, h⟩
    · obtain ⟨hpath, more, hmore⟩ := hparts.of_text "blank".toList
        kOriginalUrlKey.toList rest h (by simp) hstart
      exact ⟨⟨habout, .inl (String.toList_inj.1 hpath)⟩, more, hmore.symm⟩
    · obtain ⟨hpath, more, hmore⟩ := hparts.of_text "blank/".toList
        kOriginalUrlKey.toList rest h (by simp) hstart
      exact ⟨⟨habout, .inr (String.toList_inj.1 hpath)⟩, more, hmore.symm⟩

theorem NSURL.scheme_of_about {url : NSURL} (rest : List Char)
    (h : url.absoluteString.toList = "about:".toList ++ rest) : url.scheme = some "about" := by
  unfold NSURL.scheme
  rw [h, if_pos (List.mem_append_left _ (by decide))]
  rfl

/-- The recogniser on texts. Both texts have the scheme. -/
theorem isPlaceholderNSURL_iff {url : NSURL} :
    isPlaceholderNSURL url = true ↔ hasPrefix url.absoluteString "about:blank?for=" = true ∨
      hasPrefix url.absoluteString "about://blank?for=" = true := by
  unfold isPlaceholderNSURL
  rw [Bool.and_eq_true, Bool.or_eq_true, decide_eq_true_iff, and_iff_right_iff_imp]
  intro htext
  rw [hasPrefix_iff, hasPrefix_iff] at htext
  rcases htext with ⟨rest, h⟩ | ⟨rest, h⟩
  · exact NSURL.scheme_of_about ("blank?for=".toList ++ rest) h
  · exact NSURL.scheme_of_about ("//blank?for=".toList ++ rest) h

/-- The three kinds of texts that only one of the two recognises. -/
def Disputed (text : String) : Prop :=
  (hasPrefix text "about:blank?for" = true ∧ hasPrefix text "about:blank?for=" = false) ∨
    hasPrefix text "about:blank/?for" = true ∨ hasPrefix text "about://blank?for=" = true

instance (text : String) : Decidable (Disputed text) :=
  inferInstanceAs (Decidable (_ ∨ _ ∨ _))

/-- A text begins in one way only. -/
theorem not_hasPrefix_of_hasPrefix {text start start' : String}
    (hne : ∀ rest rest', start.toList ++ rest ≠ start'.toList ++ rest')
    (h : hasPrefix text start = true) : ¬ hasPrefix text start' = true := by
  intro h'
  obtain ⟨rest, htext⟩ := hasPrefix_iff.1 h
  obtain ⟨rest', htext'⟩ := hasPrefix_iff.1 h'
  exact hne rest rest' (htext.symm.trans htext')

theorem agree_iff {url : U} (hvalid : isValid url = true) :
    (isPlaceholderUrl url = true ↔ isPlaceholderNSURL (nsURLWithGURL url) = true) ↔
      ¬ Disputed (spec url) := by
  rw [isPlaceholderUrl_iff hvalid, isPlaceholderNSURL_iff]
  unfold nsURLWithGURL Disputed
  simp only
  have hlonger : hasPrefix (spec url) "about:blank?for=" = true →
      hasPrefix (spec url) "about:blank?for" = true := by
    rw [hasPrefix_iff, hasPrefix_iff]
    rintro ⟨rest, h⟩
    exact ⟨'=' :: rest, h⟩
  have hslash : hasPrefix (spec url) "about:blank?for" = true →
      ¬ hasPrefix (spec url) "about:blank/?for" = true :=
    not_hasPrefix_of_hasPrefix (by simp)
  have hhost : hasPrefix (spec url) "about:blank?for" = true →
      ¬ hasPrefix (spec url) "about://blank?for=" = true :=
    not_hasPrefix_of_hasPrefix (by simp)
  have hboth : hasPrefix (spec url) "about:blank/?for" = true →
      ¬ hasPrefix (spec url) "about://blank?for=" = true :=
    not_hasPrefix_of_hasPrefix (by simp)
  constructor
  · rintro hagree (⟨hfor, hnotEquals⟩ | hisSlash | hisHost)
    · rcases hagree.1 (.inl hfor) with h | h
      · exact absurd h (Bool.eq_false_iff.1 hnotEquals)
      · exact hhost hfor h
    · rcases hagree.1 (.inr hisSlash) with h | h
      · exact hslash (hlonger h) hisSlash
      · exact hboth hisSlash h
    · rcases hagree.2 (.inr hisHost) with h | h
      · exact hhost h hisHost
      · exact hboth h hisHost
  · intro hnot
    obtain ⟨hfor, hnotSlash, hnotHost⟩ := not_or.1 hnot |>.imp_right not_or.1
    have hequals : hasPrefix (spec url) "about:blank?for" = true →
        hasPrefix (spec url) "about:blank?for=" = true := by
      intro h
      by_contra hne
      exact hfor ⟨h, Bool.eq_false_iff.2 hne⟩
    exact ⟨fun h => .inl (h.elim hequals fun h => absurd h hnotSlash),
      fun h => .inl (h.elim hlonger fun h => absurd h hnotHost)⟩

/-! ## Placeholders that were made -/

theorem hasPrefix_createPlaceholderUrlForUrl {url : U} (hvalid : isValid url = true) :
    isValid (createPlaceholderUrlForUrl url) = true ∧
      hasPrefix (spec (createPlaceholderUrlForUrl url)) "about:blank?for=" = true := by
  have hcreate : createPlaceholderUrlForUrl url =
      appendQueryParameter (gurl kAboutBlankURL) kOriginalUrlKey (spec url) := by
    simp [createPlaceholderUrlForUrl, hvalid]
  obtain ⟨escaped, hspec⟩ := spec_append (U := U) (spec url)
  rw [hcreate, hspec]
  exact ⟨isValid_append _, hasPrefix_append "about:blank?for=" escaped⟩

theorem isPlaceholder_created {url : U} (hvalid : isValid url = true) :
    isPlaceholderUrl (createPlaceholderUrlForUrl url) = true ∧
      isPlaceholderNSURL (nsURLWithGURL (createPlaceholderUrlForUrl url)) = true := by
  obtain ⟨hcreated, hprefix⟩ := hasPrefix_createPlaceholderUrlForUrl hvalid
  refine ⟨(isPlaceholderUrl_iff hcreated).2 (.inl ?_), isPlaceholderNSURL_iff.2 (.inl hprefix)⟩
  rw [hasPrefix_iff] at hprefix ⊢
  obtain ⟨rest, h⟩ := hprefix
  exact ⟨'=' :: rest, h⟩

/-- **The original is read back.** -/
theorem extract_createPlaceholderUrlForUrl {url : U} (hvalid : isValid url = true) :
    extractUrlFromPlaceholderUrl (createPlaceholderUrlForUrl url) = url := by
  have hcreate : createPlaceholderUrlForUrl url =
      appendQueryParameter (gurl kAboutBlankURL) kOriginalUrlKey (spec url) := by
    simp [createPlaceholderUrlForUrl, hvalid]
  have hvalue := getValue_append (U := U) (spec url)
  rw [← hcreate] at hvalue
  unfold extractUrlFromPlaceholderUrl
  rw [if_pos (isPlaceholder_created hvalid).1, hvalue]
  simp only [gurl_spec url hvalid, hvalid, if_true]

/-- What holds of a URL. -/
structure PlaceholderConsistent (url : U) : Prop where
  agree : isPlaceholderUrl url = true ↔ isPlaceholderNSURL (nsURLWithGURL url) = true
  created : isPlaceholderUrl (createPlaceholderUrlForUrl url) = true ∧
    isPlaceholderNSURL (nsURLWithGURL (createPlaceholderUrlForUrl url)) = true
  extracted : extractUrlFromPlaceholderUrl (createPlaceholderUrlForUrl url) = url
  nothing : isPlaceholderUrl url = false → extractUrlFromPlaceholderUrl url = emptyGURL

/-- **The two recognisers, the maker and the reader of placeholders are consistent on a URL
exactly when its text is of none of the three kinds.** -/
theorem placeholder_iff {url : U} (hvalid : isValid url = true) :
    PlaceholderConsistent url ↔ ¬ Disputed (spec url) := by
  constructor
  · exact fun h => (agree_iff hvalid).1 h.agree
  · intro h
    refine ⟨(agree_iff hvalid).2 h, isPlaceholder_created hvalid,
      extract_createPlaceholderUrlForUrl hvalid, fun hnot => ?_⟩
    unfold extractUrlFromPlaceholderUrl
    rw [if_neg (Bool.eq_false_iff.1 hnot)]

/-! ## A library that keeps the laws -/

/-- A canonical spec, taken apart as that of a path URL. -/
structure PathUrl where
  spec : String
  deriving DecidableEq, Repr

namespace PathUrl

/-- The same text, for what does not depend on the kind of URL. -/
def plain (url : PathUrl) : PlainUrl := ⟨url.spec⟩

def path (url : PathUrl) : String := String.ofList (url.plain.afterScheme.takeWhile (· ≠ '?'))

/-- There is a scheme. -/
def isValid (url : PathUrl) : Bool := decide (':' ∈ url.plain.beforeRef)

end PathUrl

instance : UrlLibrary PathUrl where
  gurl text := ⟨text⟩
  isValid := PathUrl.isValid
  spec := PathUrl.spec
  schemeIs url scheme := decide (url.plain.scheme = scheme.toList)
  path := PathUrl.path
  query url := url.plain.query
  ref url := url.plain.ref
  isAboutBlank url := decide (url.plain.scheme = kAboutScheme.toList) &&
    (decide (url.path = "blank") || decide (url.path = "blank/"))
  getOrigin _ := ⟨""⟩
  equalsIgnoringRef url other := decide (url.plain.beforeRef = other.plain.beforeRef)
  replaceSchemeAndPath _ scheme path := ⟨scheme ++ ":" ++ path⟩
  replaceRef url fragment := ⟨(url.plain.replaceRef fragment).spec⟩
  appendQueryParameter url key value :=
    ⟨url.spec ++ (if url.plain.query = "" then "?" else "&") ++
      PercentEncoding.escape PlainUrl.queryCharmap key ++ "=" ++
      PercentEncoding.escape PlainUrl.queryCharmap value⟩
  getValueForKeyInQuery url := url.plain.getValueForKeyInQuery
  escapeQueryParamValue := PercentEncoding.escape PlainUrl.queryCharmap
  unescapeBinaryURLComponent := PercentEncoding.unescape
  restoreSessionResourcePath := "/restore_session.html"
  loadedErrorPageFilePath := "/error_page_loaded.html"

namespace PathUrl

theorem escapeByte_delimiters : ∀ n : Fin 256,
    (PercentEncoding.escapeByte PlainUrl.queryCharmap (UInt8.ofNat n)).all
      (fun c => c.toNat ≠ 35 && c.toNat ≠ 38) = true := by
  decide +kernel

/-- Neither a number sign nor an ampersand survives the escaping. -/
theorem not_delimiter_of_mem_escape {c : Char} {text : String}
    (h : c ∈ (PercentEncoding.escape PlainUrl.queryCharmap text).toList) :
    c ≠ '#' ∧ c ≠ '&' := by
  unfold PercentEncoding.escape PercentEncoding.escapeBytes at h
  rw [String.toList_ofList, List.mem_flatMap] at h
  obtain ⟨b, -, hmem⟩ := h
  have hb := escapeByte_delimiters ⟨b.toNat, b.toNat_lt⟩
  rw [UInt8.ofNat_toNat, List.all_eq_true] at hb
  have hc := hb c hmem
  rw [Bool.and_eq_true, decide_eq_true_iff, decide_eq_true_iff] at hc
  exact ⟨fun he => hc.1 (he ▸ rfl), fun he => hc.2 (he ▸ rfl)⟩

theorem dropWhile_of_mem {d : Char} : ∀ {l : List Char}, d ∈ l →
    l.dropWhile (· ≠ d) = d :: (l.dropWhile (· ≠ d)).drop 1
  | c :: l, h => by
    by_cases hc : c = d
    · simp [hc]
    · have hmem : d ∈ l := (List.mem_cons.1 h).resolve_left fun he => hc he.symm
      rw [List.dropWhile_cons_of_pos (by simpa using hc)]
      exact dropWhile_of_mem hmem

/-- The rest of a list from the first `d` on is empty or begins with it. -/
theorem dropWhile_cases (d : Char) (l : List Char) :
    l.dropWhile (· ≠ d) = [] ∨ ∃ rest, l.dropWhile (· ≠ d) = d :: rest := by
  by_cases h : d ∈ l
  · exact .inr ⟨_, dropWhile_of_mem h⟩
  · refine .inl (List.dropWhile_eq_nil_iff.2 fun c hc => ?_)
    have hne : c ≠ d := fun he => h (he ▸ hc)
    simpa using hne

theorem beforeRef_about {url : PathUrl} (hvalid : url.isValid = true)
    (hscheme : url.plain.scheme = "about".toList) :
    url.plain.beforeRef = "about:".toList ++ url.plain.afterScheme := by
  have hcolon : ':' ∈ url.plain.beforeRef := of_decide_eq_true hvalid
  calc url.plain.beforeRef
      = url.plain.scheme ++ url.plain.beforeRef.dropWhile (· ≠ ':') :=
        List.takeWhile_append_dropWhile.symm
    _ = "about".toList ++ ':' :: url.plain.afterScheme := by
        rw [hscheme, dropWhile_of_mem hcolon]
        rfl

theorem chars_eq (url : PathUrl) :
    url.spec.toList = url.plain.beforeRef ++ url.plain.chars.dropWhile (· ≠ '#') :=
  List.takeWhile_append_dropWhile.symm

theorem not_ref_of_mem {url : PathUrl} {c : Char} (h : c ∈ url.plain.beforeRef) : c ≠ '#' := by
  simpa using List.mem_takeWhile_imp h

theorem path_parts {url : PathUrl} (hvalid : url.isValid = true)
    (hscheme : url.plain.scheme = "about".toList) :
    PathParts url (url.plain.afterScheme.dropWhile (· ≠ '?'))
      (url.plain.chars.dropWhile (· ≠ '#')) := by
  have hbefore := beforeRef_about hvalid hscheme
  have hafter : ∀ c ∈ url.plain.afterScheme, c ≠ '#' := by
    intro c hc
    exact not_ref_of_mem (hbefore ▸ List.mem_append_right _ hc)
  have hquery : url.plain.query.toList = (url.plain.afterScheme.dropWhile (· ≠ '?')).drop 1 := by
    rw [PlainUrl.query, String.toList_ofList, hbefore]
    rfl
  refine ⟨?_, fun c hc => ?_, ?_, fun c hc => ?_, dropWhile_cases '#' _⟩
  · have hpath : url.path.toList = url.plain.afterScheme.takeWhile (· ≠ '?') :=
      String.toList_ofList
    show url.spec.toList = "about:".toList ++ (url.path.toList ++ _)
    rw [hpath, ← List.append_assoc (url.plain.afterScheme.takeWhile (· ≠ '?')),
      List.takeWhile_append_dropWhile, chars_eq, hbefore, List.append_assoc]
  · have hc' : c ∈ (String.ofList (url.plain.afterScheme.takeWhile (· ≠ '?'))).toList := hc
    rw [String.toList_ofList] at hc'
    exact ⟨by simpa using List.mem_takeWhile_imp hc',
      hafter c ((List.takeWhile_prefix _).subset hc')⟩
  · show (_ ∧ url.plain.query = "") ∨ _ = '?' :: url.plain.query.toList
    rcases dropWhile_cases '?' url.plain.afterScheme with hnone | ⟨rest, hrest⟩
    · refine .inl ⟨hnone, String.toList_inj.1 ?_⟩
      rw [hquery, hnone]
      rfl
    · rw [hquery, hrest]
      exact .inr rfl
  · have hc' : c ∈ url.plain.query.toList := hc
    rw [hquery] at hc'
    exact hafter c ((List.dropWhile_suffix _).subset (List.mem_of_mem_drop hc'))

/-- The text of a placeholder. -/
theorem append_aboutBlank (value : String) :
    appendQueryParameter (gurl kAboutBlankURL : PathUrl) kOriginalUrlKey value =
      ⟨kAboutBlankURL ++ "?" ++ kOriginalUrlKey ++ "=" ++
        PercentEncoding.escape PlainUrl.queryCharmap value⟩ := by
  have hkey : PercentEncoding.escape PlainUrl.queryCharmap kOriginalUrlKey = kOriginalUrlKey := by
    decide
  have hquery : (PathUrl.plain ⟨kAboutBlankURL⟩).query = "" := by decide
  show PathUrl.mk (kAboutBlankURL ++ (if (PathUrl.plain ⟨kAboutBlankURL⟩).query = "" then "?"
    else "&") ++ PercentEncoding.escape PlainUrl.queryCharmap kOriginalUrlKey ++ "=" ++ _) = _
  rw [hkey, if_pos hquery]

theorem beforeRef_append (value : String) :
    (appendQueryParameter (gurl kAboutBlankURL : PathUrl) kOriginalUrlKey value).plain.beforeRef =
      "about:blank?for=".toList ++
        (PercentEncoding.escape PlainUrl.queryCharmap value).toList := by
  rw [append_aboutBlank]
  show (String.toList ("about:blank?for=" ++ _)).takeWhile (· ≠ '#') = _
  rw [String.toList_append]
  refine List.takeWhile_eq_self_iff.2 fun c hc => ?_
  rcases List.mem_append.1 hc with hc | hc
  · have hstart : ∀ c ∈ "about:blank?for=".toList, decide (c ≠ '#') = true := by simp
    exact hstart c hc
  · simpa using (not_delimiter_of_mem_escape hc).1

theorem getValue_append (value : String) :
    getValueForKeyInQuery
      (appendQueryParameter (gurl kAboutBlankURL : PathUrl) kOriginalUrlKey value)
      kOriginalUrlKey = some value := by
  have hquery : (appendQueryParameter (gurl kAboutBlankURL : PathUrl) kOriginalUrlKey
      value).plain.query.toList =
      "for=".toList ++ (PercentEncoding.escape PlainUrl.queryCharmap value).toList := by
    rw [PlainUrl.query, String.toList_ofList, beforeRef_append]
    rfl
  have hsplit : ("for=".toList ++
      (PercentEncoding.escape PlainUrl.queryCharmap value).toList).splitOn '&' =
      ["for=".toList ++ (PercentEncoding.escape PlainUrl.queryCharmap value).toList] := by
    refine List.splitOnP_eq_singleton fun c hc => ?_
    rcases List.mem_append.1 hc with hc | hc
    · have hstart : ∀ c ∈ "for=".toList, (c == '&') = false := by simp
      exact hstart c hc
    · simpa using (not_delimiter_of_mem_escape hc).2
  have hpart : String.ofList ("for=".toList ++
      (PercentEncoding.escape PlainUrl.queryCharmap value).toList) =
      kOriginalUrlKey ++ "=" ++ PercentEncoding.escape PlainUrl.queryCharmap value := by
    rw [← String.toList_inj, String.toList_ofList, String.toList_append]
    rfl
  show PlainUrl.getValueForKeyInQuery _ _ = _
  unfold PlainUrl.getValueForKeyInQuery
  rw [hquery, hsplit, List.map_singleton, hpart]
  simp only [List.firstM, hasPrefix_append, if_true, dropPrefix_append,
    PercentEncoding.unescape_escape PlainUrl.escaping_queryCharmap]
  rfl

end PathUrl

instance : PathUrlLibrary PathUrl where
  gurl_spec _ _ := rfl
  schemeIs_about url hvalid := by
    show decide (url.plain.scheme = "about".toList) = true ↔ hasPrefix url.spec "about:" = true
    rw [decide_eq_true_iff, hasPrefix_iff]
    constructor
    · intro hscheme
      refine ⟨url.plain.afterScheme ++ url.plain.chars.dropWhile (· ≠ '#'), ?_⟩
      rw [PathUrl.chars_eq, PathUrl.beforeRef_about hvalid hscheme, List.append_assoc]
    · rintro ⟨rest, h⟩
      show (url.spec.toList.takeWhile (· ≠ '#')).takeWhile (· ≠ ':') = _
      rw [h]
      rfl
  parts url hvalid hscheme :=
    ⟨_, _, PathUrl.path_parts hvalid (of_decide_eq_true hscheme)⟩
  isAboutBlank_iff url := by
    show (decide _ && (decide _ || decide _)) = true ↔ decide _ = true ∧ _
    rw [Bool.and_eq_true, Bool.or_eq_true, decide_eq_true_iff, decide_eq_true_iff,
      decide_eq_true_iff]
    rfl
  isValid_append value := by
    refine decide_eq_true ?_
    rw [PathUrl.beforeRef_append]
    exact List.mem_append_left _ (by decide)
  spec_append value := ⟨_, congrArg PathUrl.spec (PathUrl.append_aboutBlank value)⟩
  getValue_append := PathUrl.getValue_append

/-- A placeholder that was made is none of the disputed URLs. -/
theorem placeholder_iff_made :
    PlaceholderConsistent (PathUrl.mk "about:blank?for=chrome%3A%2F%2Fnewtab") ↔
      ¬ Disputed "about:blank?for=chrome%3A%2F%2Fnewtab" :=
  @placeholder_iff _ _ _ (PathUrl.mk "about:blank?for=chrome%3A%2F%2Fnewtab") (by decide)

/-- One URL of each kind. -/
theorem recognisers_disagree :
    (isPlaceholderUrl (PathUrl.mk "about:blank?foreign=1") = true ∧
      isPlaceholderNSURL (nsURLWithGURL (PathUrl.mk "about:blank?foreign=1")) = false) ∧
    (isPlaceholderUrl (PathUrl.mk "about:blank/?for=x") = true ∧
      isPlaceholderNSURL (nsURLWithGURL (PathUrl.mk "about:blank/?for=x")) = false) ∧
    (isPlaceholderUrl (PathUrl.mk "about://blank?for=x") = false ∧
      isPlaceholderNSURL (nsURLWithGURL (PathUrl.mk "about://blank?for=x")) = true) := by
  decide

end IosChrome.Navigation

import IosChrome.Lib.PercentEncoding

/-!
# URLs of the navigation code

`GURL`, the functions of `net/` on it and the paths of the two bundled pages
are not part of this code: `UrlLibrary` collects what is called of them, and
`LawfulUrlLibrary` what their documentation promises and the code relies on.
Over them stand the functions of `wk_navigation_util` that make, recognise and
read the internal URLs:

* a redirect URL, `restore_session.html#targetUrl=<escaped>`, stands for its
  target in a restored history;
* a session URL, `restore_session.html#session=<escaped>`, has no target;
* a placeholder URL, `about:blank?for=<escaped>`.

`PlainUrl` is a library that keeps the laws: canonical specs, taken apart at
their delimiters, with the real percent encoding.
-/

namespace IosChrome.Navigation

open IosChrome.Lib

/-! ## The URL library -/

/-- `GURL`s, and what the code calls on them. -/
class UrlLibrary (U : Type) where
  gurl : String → U
  isValid : U → Bool
  spec : U → String
  schemeIs : U → String → Bool
  path : U → String
  query : U → String
  ref : U → String
  isAboutBlank : U → Bool
  getOrigin : U → U
  equalsIgnoringRef : U → U → Bool
  /-- `ReplaceComponents` with `SetSchemeStr` and `SetPathStr`. -/
  replaceSchemeAndPath : U → String → String → U
  /-- `ReplaceComponents` with `SetRefStr`. -/
  replaceRef : U → String → U
  appendQueryParameter : U → String → String → U
  getValueForKeyInQuery : U → String → Option String
  escapeQueryParamValue : String → String
  unescapeBinaryURLComponent : String → String
  restoreSessionResourcePath : String
  loadedErrorPageFilePath : String

export UrlLibrary (gurl isValid spec schemeIs path query ref isAboutBlank getOrigin
  equalsIgnoringRef replaceSchemeAndPath replaceRef appendQueryParameter getValueForKeyInQuery
  escapeQueryParamValue unescapeBinaryURLComponent)

def kAboutBlankURL : String := "about:blank"
def kAboutScheme : String := "about"
def kFileScheme : String := "file"
def kRestoreSessionSessionHashPrefix : String := "session="
def kRestoreSessionTargetUrlHashPrefix : String := "targetUrl="
def kOriginalUrlKey : String := "for"

/-- `std::string::find(prefix) == 0`. -/
def hasPrefix (text start : String) : Bool := start.toList.isPrefixOf text.toList

/-- `std::string::substr(strlen(prefix))`. -/
def dropPrefix (text start : String) : String := String.ofList (text.toList.drop start.toList.length)

@[simp] theorem hasPrefix_append (start rest : String) : hasPrefix (start ++ rest) start = true := by
  unfold hasPrefix
  rw [String.toList_append, List.isPrefixOf_iff_prefix]
  exact List.prefix_append _ _

@[simp] theorem dropPrefix_append (start rest : String) : dropPrefix (start ++ rest) start = rest := by
  unfold dropPrefix
  rw [String.toList_append, List.drop_left, String.ofList_toList]

section

variable {U : Type} [UrlLibrary U]

/-- `GURL()`. -/
def emptyGURL : U := gurl ""

def getRestoreSessionBaseUrl : U :=
  replaceSchemeAndPath (gurl kAboutBlankURL) kFileScheme (UrlLibrary.restoreSessionResourcePath U)

/-- A fragment of one of the two kinds `restore_session.html` is loaded with. -/
def IsRestoreFragment (fragment : String) : Prop :=
  ∃ value, fragment = kRestoreSessionSessionHashPrefix ++ escapeQueryParamValue U value ∨
    fragment = kRestoreSessionTargetUrlHashPrefix ++ escapeQueryParamValue U value

end

/-- What the library documents. An escaped value holds nothing that a URL's
fragment would have canonicalized. -/
class LawfulUrlLibrary (U : Type) [UrlLibrary U] : Prop where
  gurl_spec : ∀ url : U, isValid url = true → gurl (spec url) = url
  spec_empty : spec (gurl "" : U) = ""
  spec_aboutBlank : spec (gurl kAboutBlankURL : U) = kAboutBlankURL
  schemeIs_base : schemeIs (getRestoreSessionBaseUrl : U) kFileScheme = true
  schemeIs_replaceRef : ∀ (url : U) (fragment scheme : String),
    schemeIs (replaceRef url fragment) scheme = schemeIs url scheme
  path_replaceRef : ∀ (url : U) (fragment : String), path (replaceRef url fragment) = path url
  ref_replaceRef : ∀ fragment, IsRestoreFragment (U := U) fragment →
    ref (replaceRef (getRestoreSessionBaseUrl : U) fragment) = fragment
  size_replaceRef : ∀ fragment, IsRestoreFragment (U := U) fragment →
    fragment.utf8ByteSize < (spec (replaceRef (getRestoreSessionBaseUrl : U) fragment)).utf8ByteSize
  unescape_escape : ∀ text : String,
    unescapeBinaryURLComponent U (escapeQueryParamValue U text) = text
  size_escape : ∀ text : String,
    text.utf8ByteSize ≤ (escapeQueryParamValue U text).utf8ByteSize

section

variable {U : Type} [UrlLibrary U]

/-! ## `wk_navigation_util` -/

def isRestoreSessionUrl (url : U) : Bool :=
  schemeIs url kFileScheme && decide (path url = path (getRestoreSessionBaseUrl : U))

def createRedirectUrl (targetUrl : U) : U :=
  replaceRef getRestoreSessionBaseUrl
    (kRestoreSessionTargetUrlHashPrefix ++ escapeQueryParamValue U (spec targetUrl))

/-- `ExtractTargetURL`: the target, if the call returns true. -/
def extractTargetURL (restoreSessionUrl : U) : Option U :=
  if hasPrefix (ref restoreSessionUrl) kRestoreSessionTargetUrlHashPrefix then
    some (gurl (unescapeBinaryURLComponent U
      (dropPrefix (ref restoreSessionUrl) kRestoreSessionTargetUrlHashPrefix)))
  else none

/-- The target of a `restore_session.html` URL that has one. -/
def restoreTarget (url : U) : Option U :=
  if isRestoreSessionUrl url then extractTargetURL url else none

def isPlaceholderUrl (url : U) : Bool :=
  isAboutBlank url && hasPrefix (query url) kOriginalUrlKey

def createPlaceholderUrlForUrl (originalUrl : U) : U :=
  if !isValid originalUrl then emptyGURL
  else appendQueryParameter (gurl kAboutBlankURL) kOriginalUrlKey (spec originalUrl)

def extractUrlFromPlaceholderUrl (url : U) : U :=
  if isPlaceholderUrl url then
    match getValueForKeyInQuery url kOriginalUrlKey with
    | some value => if isValid (gurl value : U) then gurl value else emptyGURL
    | none => emptyGURL
  else emptyGURL

/-- `CRWErrorPageHelper isErrorPageFileURL:`. -/
def isErrorPageFileURL (url : U) : Bool :=
  isValid url && schemeIs url kFileScheme &&
    decide (path url = UrlLibrary.loadedErrorPageFilePath U) &&
    match getValueForKeyInQuery url kOriginalUrlKey with
    | some value => isValid (gurl value : U)
    | none => false

/-! ## Lemmas -/

theorem isRestoreFragment_session (value : String) :
    IsRestoreFragment (U := U) (kRestoreSessionSessionHashPrefix ++ escapeQueryParamValue U value) :=
  ⟨value, .inl rfl⟩

variable [LawfulUrlLibrary U]

open LawfulUrlLibrary

@[simp] theorem isRestoreSessionUrl_replaceRef (fragment : String) :
    isRestoreSessionUrl (replaceRef (getRestoreSessionBaseUrl : U) fragment) = true := by
  unfold isRestoreSessionUrl
  rw [schemeIs_replaceRef, schemeIs_base, path_replaceRef, decide_eq_true rfl]
  rfl

end

/-! ## A library that keeps the laws -/

/-- A URL that is its canonical spec. -/
structure PlainUrl where
  spec : String
  deriving DecidableEq, Repr

namespace PlainUrl

def chars (url : PlainUrl) : List Char := url.spec.toList

/-- All of the spec before the fragment. -/
def beforeRef (url : PlainUrl) : List Char := url.chars.takeWhile (· ≠ '#')

def ref (url : PlainUrl) : String := String.ofList ((url.chars.dropWhile (· ≠ '#')).drop 1)

def scheme (url : PlainUrl) : List Char := url.beforeRef.takeWhile (· ≠ ':')

/-- What follows the scheme. -/
def afterScheme (url : PlainUrl) : List Char := (url.beforeRef.dropWhile (· ≠ ':')).drop 1

def host : List Char → List Char
  | '/' :: '/' :: rest => rest.takeWhile (· ≠ '/')
  | _ => []

def pathOf : List Char → List Char
  | '/' :: '/' :: rest => rest.dropWhile (· ≠ '/')
  | rest => rest

def path (url : PlainUrl) : String :=
  String.ofList (pathOf (url.afterScheme.takeWhile (· ≠ '?')))

def query (url : PlainUrl) : String :=
  String.ofList ((url.beforeRef.dropWhile (· ≠ '?')).drop 1)

def replaceRef (url : PlainUrl) (fragment : String) : PlainUrl :=
  ⟨String.ofList (url.beforeRef ++ '#' :: fragment.toList)⟩

/-- `file:/path` is written `file:///path`. -/
def gurl (text : String) : PlainUrl :=
  if hasPrefix text "file:/" && !hasPrefix text "file://" then
    ⟨"file://" ++ dropPrefix text "file:"⟩
  else ⟨text⟩

def isValid (url : PlainUrl) : Bool := decide (url.spec ≠ "") && decide (gurl url.spec = url)

/-- The bytes `EscapeQueryParamValue` leaves alone: alphanumerics and
`!'()*-._~`. -/
def queryCharmap (b : UInt8) : Bool :=
  (48 ≤ b && b ≤ 57) || (65 ≤ b && b ≤ 90) || (97 ≤ b && b ≤ 122) ||
    b ∈ [33, 39, 40, 41, 42, 45, 46, 95, 126]

def getValueForKeyInQuery (url : PlainUrl) (key : String) : Option String :=
  ((url.query.toList.splitOn '&').map String.ofList).firstM fun part =>
    if hasPrefix part (key ++ "=") then
      some (PercentEncoding.unescape (dropPrefix part (key ++ "=")))
    else none

end PlainUrl

instance : UrlLibrary PlainUrl where
  gurl := PlainUrl.gurl
  isValid := PlainUrl.isValid
  spec := PlainUrl.spec
  schemeIs url scheme := decide (url.scheme = scheme.toList)
  path := PlainUrl.path
  query := PlainUrl.query
  ref := PlainUrl.ref
  isAboutBlank url := decide (url.scheme = "about".toList) && decide (url.path = "blank")
  getOrigin url :=
    match url.afterScheme with
    | '/' :: '/' :: _ =>
      ⟨String.ofList (url.scheme ++ "://".toList ++ PlainUrl.host url.afterScheme ++ ['/'])⟩
    | _ => ⟨""⟩
  equalsIgnoringRef url other := decide (url.beforeRef = other.beforeRef)
  replaceSchemeAndPath _ scheme path := ⟨scheme ++ "://" ++ path⟩
  replaceRef := PlainUrl.replaceRef
  appendQueryParameter url key value :=
    ⟨url.spec ++ (if url.query = "" then "?" else "&") ++
      PercentEncoding.escape PlainUrl.queryCharmap key ++ "=" ++
      PercentEncoding.escape PlainUrl.queryCharmap value⟩
  getValueForKeyInQuery := PlainUrl.getValueForKeyInQuery
  escapeQueryParamValue := PercentEncoding.escape PlainUrl.queryCharmap
  unescapeBinaryURLComponent := PercentEncoding.unescape
  restoreSessionResourcePath := "/restore_session.html"
  loadedErrorPageFilePath := "/error_page_loaded.html"

namespace PlainUrl

theorem queryCharmap_byte : ∀ n : Fin 256,
    queryCharmap (UInt8.ofNat n) = true → n.val < 128 ∧ n.val ≠ 37 := by
  decide +kernel

theorem escaping_queryCharmap : PercentEncoding.Escaping queryCharmap := by
  have hbyte : ∀ b, queryCharmap b = true → b.toNat < 128 ∧ b.toNat ≠ 37 := by
    intro b hb
    apply queryCharmap_byte ⟨b.toNat, b.toNat_lt⟩
    rw [UInt8.ofNat_toNat]
    exact hb
  exact ⟨fun b hb => (hbyte b hb).1, fun b hb => (hbyte b hb).2⟩

theorem takeWhile_replaceRef (before after : List Char) :
    ((before.takeWhile (· ≠ '#')) ++ '#' :: after).takeWhile (· ≠ '#') =
      before.takeWhile (· ≠ '#') := by
  induction before with
  | nil => simp
  | cons c before ih =>
    by_cases hc : c = '#'
    · simp [hc]
    · simp only [ne_eq, hc, not_false_eq_true, decide_true, List.takeWhile_cons_of_pos,
        List.cons_append, List.cons.injEq, true_and]
      exact ih

theorem dropWhile_replaceRef (before after : List Char) :
    ((before.takeWhile (· ≠ '#')) ++ '#' :: after).dropWhile (· ≠ '#') = '#' :: after := by
  induction before with
  | nil => simp
  | cons c before ih =>
    by_cases hc : c = '#'
    · simp [hc]
    · simp only [ne_eq, hc, not_false_eq_true, decide_true, List.takeWhile_cons_of_pos,
        List.cons_append, List.dropWhile_cons_of_pos]
      exact ih

@[simp] theorem beforeRef_replaceRef (url : PlainUrl) (fragment : String) :
    (url.replaceRef fragment).beforeRef = url.beforeRef := by
  unfold beforeRef chars replaceRef
  rw [String.toList_ofList]
  exact takeWhile_replaceRef _ _

@[simp] theorem ref_replaceRef (url : PlainUrl) (fragment : String) :
    (url.replaceRef fragment).ref = fragment := by
  unfold ref chars replaceRef
  rw [String.toList_ofList, beforeRef, dropWhile_replaceRef]
  exact String.ofList_toList

@[simp] theorem scheme_replaceRef (url : PlainUrl) (fragment : String) :
    (url.replaceRef fragment).scheme = url.scheme := by
  unfold scheme
  rw [beforeRef_replaceRef]

@[simp] theorem path_replaceRef (url : PlainUrl) (fragment : String) :
    (url.replaceRef fragment).path = url.path := by
  unfold path afterScheme
  rw [beforeRef_replaceRef]

theorem size_replaceRef (url : PlainUrl) (fragment : String) :
    fragment.utf8ByteSize < (url.replaceRef fragment).spec.utf8ByteSize := by
  have hsplit : (url.replaceRef fragment).spec =
      String.ofList (url.beforeRef ++ ['#']) ++ fragment := by
    rw [← String.toList_inj]
    simp [replaceRef]
  have hmark := PercentEncoding.length_le_utf8ByteSize (url.beforeRef ++ ['#'])
  rw [hsplit, String.utf8ByteSize_append]
  rw [List.length_append, List.length_singleton] at hmark
  omega

end PlainUrl

instance : LawfulUrlLibrary PlainUrl where
  gurl_spec url h := by
    have hvalid : (decide (url.spec ≠ "") && decide (PlainUrl.gurl url.spec = url)) = true := h
    rw [Bool.and_eq_true, decide_eq_true_eq, decide_eq_true_eq] at hvalid
    exact hvalid.2
  spec_empty := by decide
  spec_aboutBlank := by decide
  schemeIs_base := by decide
  schemeIs_replaceRef url fragment scheme := by
    show decide ((url.replaceRef fragment).scheme = scheme.toList) = _
    simp only [PlainUrl.scheme_replaceRef]
    rfl
  path_replaceRef url fragment := PlainUrl.path_replaceRef url fragment
  ref_replaceRef fragment _ := PlainUrl.ref_replaceRef _ fragment
  size_replaceRef fragment _ := PlainUrl.size_replaceRef _ fragment
  unescape_escape := PercentEncoding.unescape_escape PlainUrl.escaping_queryCharmap
  size_escape := PercentEncoding.size_le_escape _

end IosChrome.Navigation

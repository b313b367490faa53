import IosChrome.Lib.History
import IosChrome.Navigation.NavigationItem

/-!
# Handing a session to the web view

A session is restored by loading `restore_session.html` with the session in
the URL's fragment. `CreateRestoreSessionUrl` selects a window of at most
`maxSessionSize` items around the last committed one (`GetSafeItemRange`) and
writes their URLs, their titles and the committed item's offset from the end;
the page writes one history entry for each with `replaceState` and `pushState`
and goes back by the offset.

Three index bases meet: the items, the window and the history behind the
window. `getSafeItemRange_window` relates the first two, `History.go_eq` the
last two, and `restoreSession_reproduces` puts them together.

What the page runs on (`WebPage`) and the JSON writer and parser are
parameters.
-/

namespace IosChrome.Navigation

open IosChrome.Lib

/-! ## The window -/

/-- The feature flags the navigation code reads. `sessionSize` is the
`session-size` parameter of `kReduceSessionSize`, if it has one. -/
structure Features where
  reduceSessionSize : Bool
  ios14 : Bool
  sessionSize : Option Int
  useJSForErrorPage : Bool
  createPendingItemForPostFormSubmission : Bool
  deriving DecidableEq, Repr

/-- No field trial. -/
def plainFeatures : Features := ⟨false, false, none, false, false⟩

def kMaxSessionSize : Int := 75

/-- The limit `GetSafeItemRange` works with. -/
def maxSessionSize (features : Features) : Int :=
  if features.reduceSessionSize && features.ios14 then
    max (min (features.sessionSize.getD kMaxSessionSize) kMaxSessionSize) 40
  else kMaxSessionSize

/-- What `GetSafeItemRange` sets, and the index it returns. -/
structure SafeItemRange where
  offset : Int
  size : Int
  lastCommittedItemIndex : Int
  deriving DecidableEq, Repr

def getSafeItemRange (features : Features) (lastCommittedItemIndex itemCount : Int) :
    SafeItemRange :=
  let maxSize := maxSessionSize features
  let size := min maxSize itemCount
  let offset := max (min (lastCommittedItemIndex - maxSize / 2) (itemCount - maxSize)) 0
  ⟨offset, size, lastCommittedItemIndex - offset⟩

theorem maxSessionSize_bounds (features : Features) :
    40 ≤ maxSessionSize features ∧ maxSessionSize features ≤ 75 := by
  unfold maxSessionSize kMaxSessionSize
  split <;> omega

/-- Every size from 40 to 75 is the limit of some field trial. -/
theorem exists_maxSessionSize {size : Int} (hmin : 40 ≤ size) (hmax : size ≤ 75) :
    ∃ features, maxSessionSize features = size := by
  refine ⟨⟨true, true, some size, false, false⟩, ?_⟩
  show max (min size 75) 40 = size
  omega

/-- **The window lies in the list and holds the committed item.** -/
theorem getSafeItemRange_window (features : Features) {last count : Int}
    (h0 : 0 ≤ last) (hlast : last < count) :
    let range := getSafeItemRange features last count
    0 ≤ range.offset ∧ range.size = min (maxSessionSize features) count ∧
      range.offset + range.size ≤ count ∧ 0 ≤ range.lastCommittedItemIndex ∧
      range.lastCommittedItemIndex < range.size ∧
      range.offset + range.lastCommittedItemIndex = last := by
  intro range
  obtain ⟨hmin, hmax⟩ := maxSessionSize_bounds features
  have hsize : range.size = min (maxSessionSize features) count := rfl
  have hoffset : range.offset =
      max (min (last - maxSessionSize features / 2) (count - maxSessionSize features)) 0 := rfl
  have hindex : range.lastCommittedItemIndex = last - range.offset := rfl
  omega

/-- How far an item is from the last committed one. -/
def distance (last index : Int) : Nat := (index - last).natAbs

/-- An index of the window. -/
def SafeItemRange.Keeps (range : SafeItemRange) (index : Int) : Prop :=
  range.offset ≤ index ∧ index < range.offset + range.size

/-- No item left out is nearer to the last committed one than an item of the window. An even
limit has one more item before than after the last committed one, so the nearest item left out
behind is exactly as far as the farthest one kept in front. -/
theorem keeps_nearest (features : Features) {last count kept trimmed : Int}
    (hlast : last < count)
    (hkept : (getSafeItemRange features last count).Keeps kept)
    (htrimmed : ¬ (getSafeItemRange features last count).Keeps trimmed)
    (hlow : 0 ≤ trimmed) (hhigh : trimmed < count) :
    distance last kept ≤ distance last trimmed := by
  obtain ⟨hmin, hmax⟩ := maxSessionSize_bounds features
  have hsize : (getSafeItemRange features last count).size =
      min (maxSessionSize features) count := rfl
  have hoffset : (getSafeItemRange features last count).offset =
      max (min (last - maxSessionSize features / 2) (count - maxSessionSize features)) 0 := rfl
  unfold SafeItemRange.Keeps at hkept htrimmed
  unfold distance
  omega

/-- **The window of `GetSafeItemRange`, for every maximum size**: it lies in the list and holds
the last committed item, and it is made of items nearest to that one. -/
theorem getSafeItemRange_nearest {maxSize : Int} (hmin : 40 ≤ maxSize) (hmax : maxSize ≤ 75) :
    (∃ features, maxSessionSize features = maxSize) ∧
    ∀ features, maxSessionSize features = maxSize → ∀ last count : Int,
      0 ≤ last → last < count →
      let range := getSafeItemRange features last count
      0 ≤ range.offset ∧ range.size = min maxSize count ∧ range.offset + range.size ≤ count ∧
      0 ≤ range.lastCommittedItemIndex ∧ range.lastCommittedItemIndex < range.size ∧
      range.offset + range.lastCommittedItemIndex = last ∧
      ∀ kept trimmed, range.Keeps kept → ¬ range.Keeps trimmed → 0 ≤ trimmed → trimmed < count →
        distance last kept ≤ distance last trimmed := by
  refine ⟨exists_maxSessionSize hmin hmax, fun features hsize last count h0 hlast => ?_⟩
  intro range
  obtain ⟨hoffset, hwindow, hend, hindex, hinside, hsum⟩ :=
    getSafeItemRange_window features h0 hlast
  rw [hsize] at hwindow
  refine ⟨hoffset, hwindow, hend, hindex, hinside, hsum, fun kept trimmed hkept htrimmed => ?_⟩
  exact keeps_nearest features hlast hkept htrimmed

/-- An even limit. -/
theorem getSafeItemRange_nearest_forty :
    (∃ features, maxSessionSize features = 40) ∧
    ∀ features, maxSessionSize features = 40 → ∀ last count : Int,
      0 ≤ last → last < count →
      let range := getSafeItemRange features last count
      0 ≤ range.offset ∧ range.size = min 40 count ∧ range.offset + range.size ≤ count ∧
      0 ≤ range.lastCommittedItemIndex ∧ range.lastCommittedItemIndex < range.size ∧
      range.offset + range.lastCommittedItemIndex = last ∧
      ∀ kept trimmed, range.Keeps kept → ¬ range.Keeps trimmed → 0 ≤ trimmed → trimmed < count →
        distance last kept ≤ distance last trimmed :=
  getSafeItemRange_nearest (by decide) (by decide)

/-! ## The session URL -/

/-- The JSON object in the fragment. -/
structure SessionHistoryObject where
  offset : Int
  urls : List String
  titles : List String
  deriving DecidableEq, Repr

/-- `base::JSONWriter::Write`, and `JSON.parse` of the page: `none` where it
throws. -/
structure Json where
  write : SessionHistoryObject → String
  parse : String → Option SessionHistoryObject
  parse_empty : parse "" = none

/-- A library that writes everything alike and reads nothing back. -/
def plainJson : Json where
  write _ := "{}"
  parse _ := none
  parse_empty := rfl

variable {U D : Type} [UrlLibrary U]

/-- `items[first .. first + size)`. -/
def itemWindow {α : Type} (items : List α) (range : SafeItemRange) : List α :=
  (items.drop range.offset.toNat).take range.size.toNat

def sessionHistoryObject (features : Features) (lastCommittedItemIndex : Int)
    (items : List (NavigationItemImpl U D)) : SessionHistoryObject :=
  let range := getSafeItemRange features lastCommittedItemIndex items.length
  let restored := itemWindow items range
  { offset := range.lastCommittedItemIndex + 1 - range.size
    urls := restored.map fun item => spec item.getURL
    titles := restored.map fun item => item.title }

/-- The URL and `first_index`. -/
structure RestoreSessionUrl (U : Type) where
  url : U
  firstIndex : Int

def createRestoreSessionUrl (features : Features) (json : Json) (lastCommittedItemIndex : Int)
    (items : List (NavigationItemImpl U D)) : RestoreSessionUrl U :=
  let range := getSafeItemRange features lastCommittedItemIndex items.length
  let sessionJson := json.write (sessionHistoryObject features lastCommittedItemIndex items)
  { url := replaceRef getRestoreSessionBaseUrl
      (kRestoreSessionSessionHashPrefix ++ escapeQueryParamValue U sessionJson)
    firstIndex := range.offset }

/-! ## `restore_session.html` -/

/-- `window.location`. -/
structure Location where
  protocol : String
  host : String
  pathname : String
  hash : String
  deriving DecidableEq, Repr

/-- An exception of the JavaScript engine. -/
structure JSError where
  name : String
  message : String

/-- What the script runs on: the location of the loaded URL, and the functions
of the JavaScript engine. `decodeURIComponent` is `none` where it throws, and
`sessionError` is what a text throws that is no session. -/
structure WebPage (U : Type) where
  location : U → Location
  encodeURIComponent : String → String
  decodeURIComponent : String → Option String
  sessionError : String → JSError

/-- The URL of the page without the fragment. -/
def Location.baseUrl (location : Location) : String :=
  location.protocol ++ location.host ++ location.pathname

/-- What the engine documents, for the page's own URLs. Both escapings leave
the same characters alone. -/
structure LawfulWebPage (page : WebPage U) : Prop where
  hash_eq : ∀ fragment, IsRestoreFragment (U := U) fragment →
    (page.location (replaceRef getRestoreSessionBaseUrl fragment)).hash = "#" ++ fragment
  encode_eq : ∀ text, page.encodeURIComponent text = escapeQueryParamValue U text
  decode_escape : ∀ text, page.decodeURIComponent (escapeQueryParamValue U text) = some text
  resolve : ∀ fragment target : String, IsRestoreFragment (U := U) fragment →
    (gurl ((page.location (replaceRef getRestoreSessionBaseUrl fragment)).baseUrl ++
        "#targetUrl=" ++ escapeQueryParamValue U target) : U) =
      replaceRef getRestoreSessionBaseUrl
        (kRestoreSessionTargetUrlHashPrefix ++ escapeQueryParamValue U target)

/-- An entry of the web view's session history. -/
structure HistoryEntry (U : Type) where
  url : U
  title : String
  deriving DecidableEq, Repr

/-- What the page does when it is loaded. -/
inductive PageResult (U : Type) where
  /-- The entries are written and `offset` is posted to `session_restore`. -/
  | restoring (history : History (HistoryEntry U)) (offset : Int)
  | redirect (targetUrl : String)
  | error (message : String)
  | threw
  deriving DecidableEq, Repr

/-- `value || fallback`, `value` being undefined past the end of its array. -/
def orElse (value : Option String) (fallback : String) : String :=
  match value with
  | some text => if text = "" then fallback else text
  | none => fallback

/-- The URL and title the page gives entry `index`. -/
def restoredEntryAt (page : WebPage U) (baseUrl : String) (session : SessionHistoryObject)
    (index : Nat) : HistoryEntry U where
  url := gurl (baseUrl ++ "#targetUrl=" ++
    page.encodeURIComponent (orElse session.urls[index]? kAboutBlankURL))
  title := orElse session.titles[index]? "Untitled"

/-- `restoreSession`: `replaceState` for the first URL, `pushState` for each of
the others. -/
def restoreSession (page : WebPage U) (json : Json) (baseUrl sessionHistory : String)
    (history : History (HistoryEntry U)) : PageResult U :=
  match json.parse sessionHistory with
  | none =>
    let e := page.sessionError sessionHistory
    .error (e.name ++ ": " ++ e.message ++ " raw session history: " ++ sessionHistory)
  | some session =>
    if session.urls.length < 1 then .error "sessionHistory is empty"
    else
      let history := history.replaceState (restoredEntryAt page baseUrl session 0)
      let pushed := (List.range' 1 (session.urls.length - 1)).map
        (restoredEntryAt page baseUrl session)
      .restoring (pushed.foldl History.pushState history) session.offset

/-- `ExtractHashValueForPrefix`: `some none` is null, `none` an exception. -/
def extractHashValueForPrefix (page : WebPage U) (hash start : String) : Option (Option String) :=
  if !hasPrefix hash start then some none
  else (page.decodeURIComponent (dropPrefix hash start)).map some

/-- `window.onload`. -/
def onload (page : WebPage U) (json : Json) (url : U) (history : History (HistoryEntry U)) :
    PageResult U :=
  let location := page.location url
  match extractHashValueForPrefix page location.hash "#session=",
      extractHashValueForPrefix page location.hash "#targetUrl=" with
  | some sessionHistory, some targetUrl =>
    if sessionHistory.getD "" ≠ "" then
      restoreSession page json location.baseUrl (sessionHistory.getD "") history
    else if targetUrl.getD "" ≠ "" then .redirect (targetUrl.getD "")
    else .error "Missing both sessionHistory and targetUrl"
  | _, _ => .threw

/-- `_crFinishSessionRestoration`, which the native side calls with the posted
offset. -/
def crFinishSessionRestoration (history : History (HistoryEntry U)) (offset : Int) :
    History (HistoryEntry U) :=
  history.go offset

/-! ## The session is reproduced -/

/-- The entry a restored item has: its redirect URL, with `about:blank` for an
empty URL. -/
def restoredEntry (item : NavigationItemImpl U D) : HistoryEntry U where
  url := createRedirectUrl (if spec item.url = "" then gurl kAboutBlankURL else item.url)
  title := if item.title = "" then "Untitled" else item.title

theorem itemWindow_length {α : Type} (features : Features) {last : Int} {items : List α}
    (h0 : 0 ≤ last) (hlast : last < items.length) :
    ((itemWindow items (getSafeItemRange features last items.length)).length : Int) =
      (getSafeItemRange features last items.length).size := by
  have hwindow := getSafeItemRange_window features h0 hlast
  obtain ⟨hmin, hmax⟩ := maxSessionSize_bounds features
  simp only at hwindow
  unfold itemWindow
  rw [List.length_take, List.length_drop]
  omega

/-- The window's item at a position is the list's item at the shifted one. -/
theorem itemWindow_getElem? {α : Type} (items : List α) (range : SafeItemRange) {index : Nat}
    (h : index < range.size.toNat) :
    (itemWindow items range)[index]? = items[range.offset.toNat + index]? := by
  unfold itemWindow
  rw [List.getElem?_take_of_lt h, List.getElem?_drop]

/-- **A session URL carries the session to the page.** -/
theorem onload_session {page : WebPage U} (hpage : LawfulWebPage page) (json : Json)
    {text : String} (htext : text ≠ "") (history : History (HistoryEntry U)) :
    let url : U := replaceRef getRestoreSessionBaseUrl
      (kRestoreSessionSessionHashPrefix ++ escapeQueryParamValue U text)
    onload page json url history =
      restoreSession page json (page.location url).baseUrl text history := by
  have hhash := hpage.hash_eq _ (isRestoreFragment_session (U := U) text)
  have hsession : "#session=" = "#" ++ kRestoreSessionSessionHashPrefix := rfl
  simp only [onload]
  rw [hhash, ← String.append_assoc, ← hsession]
  have hfirst : extractHashValueForPrefix page ("#session=" ++ escapeQueryParamValue U text)
      "#session=" = some (some text) := by
    unfold extractHashValueForPrefix
    rw [hasPrefix_append, dropPrefix_append, hpage.decode_escape]
    rfl
  have hsecond : extractHashValueForPrefix page ("#session=" ++ escapeQueryParamValue U text)
      "#targetUrl=" = some none := by
    unfold extractHashValueForPrefix hasPrefix
    rw [String.toList_append]
    rfl
  rw [hfirst, hsecond]
  exact if_pos htext

variable [LawfulUrlLibrary U]

/-- The entry the page writes for a position of the window. -/
theorem restoredEntryAt_eq {page : WebPage U} (hpage : LawfulWebPage page) {fragment : String}
    (hfragment : IsRestoreFragment (U := U) fragment) {session : SessionHistoryObject}
    {restored : List (NavigationItemImpl U D)}
    (hurls : session.urls = restored.map fun item => spec item.getURL)
    (htitles : session.titles = restored.map fun item => item.title)
    {index : Nat} (h : index < restored.length) :
    restoredEntryAt page (page.location (replaceRef getRestoreSessionBaseUrl fragment)).baseUrl
      session index = restoredEntry restored[index] := by
  unfold restoredEntryAt restoredEntry
  rw [hpage.encode_eq, hpage.resolve _ _ hfragment, hurls, htitles, List.getElem?_map,
    List.getElem?_map, List.getElem?_eq_getElem h]
  simp only [Option.map_some, orElse, NavigationItemImpl.getURL, createRedirectUrl]
  congr 3
  by_cases hempty : spec restored[index].url = ""
  · simp only [hempty, if_true, LawfulUrlLibrary.spec_aboutBlank]
  · simp only [hempty, if_false]

/-- The entries the page writes, in order. -/
theorem restoredEntries_eq {page : WebPage U} (hpage : LawfulWebPage page) {fragment : String}
    (hfragment : IsRestoreFragment (U := U) fragment) {session : SessionHistoryObject}
    {restored : List (NavigationItemImpl U D)}
    (hurls : session.urls = restored.map fun item => spec item.getURL)
    (htitles : session.titles = restored.map fun item => item.title) :
    (List.range restored.length).map (restoredEntryAt page
        (page.location (replaceRef getRestoreSessionBaseUrl fragment)).baseUrl session) =
      restored.map restoredEntry := by
  apply List.ext_getElem
  · simp
  · intro index hleft hright
    rw [List.length_map] at hright
    rw [List.getElem_map, List.getElem_map, List.getElem_range]
    exact restoredEntryAt_eq hpage hfragment hurls htitles hright

/-- **The page writes one entry for each item of the window.** -/
theorem restoreSession_entries {page : WebPage U} (hpage : LawfulWebPage page) {json : Json}
    {fragment text : String} (hfragment : IsRestoreFragment (U := U) fragment)
    {session : SessionHistoryObject} {restored : List (NavigationItemImpl U D)}
    (hurls : session.urls = restored.map fun item => spec item.getURL)
    (htitles : session.titles = restored.map fun item => item.title)
    (hparse : json.parse text = some session) (hne : restored ≠ [])
    {start : History (HistoryEntry U)} (hforward : start.forward = []) :
    ∃ history, restoreSession page json
        (page.location (replaceRef getRestoreSessionBaseUrl fragment)).baseUrl text start =
        .restoring history session.offset ∧
      history.entries = start.back ++ restored.map restoredEntry ∧
      history.position + 1 = start.back.length + restored.length := by
  have hlength : session.urls.length = restored.length := by rw [hurls, List.length_map]
  have hpos : 0 < restored.length := List.length_pos_of_ne_nil hne
  unfold restoreSession
  rw [hparse]
  simp only
  rw [if_neg (by omega), hlength]
  have hsplit : restored.length = restored.length - 1 + 1 := by omega
  -- Position 0 is replaced, the positions from 1 on are pushed.
  have hall := restoredEntries_eq hpage hfragment hurls htitles
  rw [hsplit, List.range_succ_eq_map, List.map_cons, List.map_map] at hall
  have hrange : List.range' 1 (restored.length - 1) =
      (List.range (restored.length - 1)).map Nat.succ := by
    rw [List.range'_eq_map_range]
    apply List.map_congr_left
    intro index _
    omega
  set entryAt := restoredEntryAt page
    (page.location (replaceRef getRestoreSessionBaseUrl fragment)).baseUrl session
  obtain ⟨hentries, hposition, -⟩ := History.foldl_pushState
    ((List.range' 1 (restored.length - 1)).map entryAt) (h := start.replaceState (entryAt 0)) hforward
  refine ⟨_, rfl, ?_, ?_⟩
  · rw [hentries, History.entries_replaceState, hforward, hrange, List.map_map,
      List.append_assoc, List.singleton_append, hall]
  · rw [hposition, List.length_map, List.length_range']
    show start.back.length + (restored.length - 1) + 1 = _
    omega

/-- **Loading the session URL reproduces the session.** From a history with
nothing ahead of the current entry, the entries from there on are those of the
items in the window, and the current one is that of the last committed item. -/
theorem restoreSession_reproduces {page : WebPage U} (hpage : LawfulWebPage page) (json : Json)
    (features : Features) (items : List (NavigationItemImpl U D)) (last : Int) (h0 : 0 ≤ last)
    (hlast : last < items.length) (start : History (HistoryEntry U))
    (hforward : start.forward = [])
    (hjson : json.parse (json.write (sessionHistoryObject features last items)) =
      some (sessionHistoryObject features last items)) :
    let restored := createRestoreSessionUrl features json last items
    let size := min (maxSessionSize features) items.length
    ∃ history offset,
      onload page json restored.url start = .restoring history offset ∧
      let final := crFinishSessionRestoration history offset
      0 ≤ restored.firstIndex ∧ restored.firstIndex + size ≤ items.length ∧
      final.entries = start.back ++
        ((items.drop restored.firstIndex.toNat).take size.toNat).map restoredEntry ∧
      (final.position : Int) = start.back.length + (last - restored.firstIndex) ∧
      some final.current = (items[last.toNat]?).map restoredEntry := by
  simp only
  have hwindow := getSafeItemRange_window features h0 hlast
  have hcount := itemWindow_length features h0 hlast
  obtain ⟨hmin, hmax⟩ := maxSessionSize_bounds features
  set range := getSafeItemRange features last items.length with hrange
  simp only at hwindow
  obtain ⟨hoffset, hsize, hend, hr0, hr, hshift⟩ := hwindow
  have htext : json.write (sessionHistoryObject features last items) ≠ "" := by
    intro hempty
    rw [hempty, json.parse_empty] at hjson
    cases hjson
  have hne : itemWindow items range ≠ [] := by
    intro hempty
    rw [hempty, List.length_nil] at hcount
    omega
  obtain ⟨history, hrun, hentries, hposition⟩ :=
    restoreSession_entries (D := D) hpage (isRestoreFragment_session _) rfl rfl hjson hne hforward
  let index := start.back.length + range.lastCommittedItemIndex.toNat
  have hlt : index < history.entries.length := by
    rw [hentries, List.length_append, List.length_map]
    omega
  have hdelta : history.position + (range.lastCommittedItemIndex + 1 - range.size) = index := by
    omega
  have hgo := History.go_eq hdelta hlt
  refine ⟨history, range.lastCommittedItemIndex + 1 - range.size, ?_, hoffset, ?_, ?_, ?_, ?_⟩
  · show onload page json (replaceRef getRestoreSessionBaseUrl _) start = _
    rw [onload_session hpage json htext]
    exact hrun
  · show range.offset + min (maxSessionSize features) (items.length : Int) ≤ items.length
    omega
  · show (history.go _).entries = _
    rw [History.entries_go, hentries, ← hsize]
    rfl
  · show ((history.go _).back.length : Int) = start.back.length + (last - range.offset)
    rw [hgo]
    show ((history.entries.take index).length : Int) = _
    rw [List.length_take_of_le (Nat.le_of_lt hlt)]
    omega
  · show some (history.go _).current = _
    rw [hgo]
    show some history.entries[index] = _
    rw [← List.getElem?_eq_getElem hlt, hentries, List.getElem?_append_right (by omega),
      List.getElem?_map, itemWindow_getElem? _ _ (by omega)]
    congr 2
    omega

/-! ## A page that keeps the laws -/

/-- The engine on `PlainUrl`s. -/
def plainWebPage : WebPage PlainUrl where
  location url :=
    { protocol := String.ofList (url.scheme ++ [':'])
      host := String.ofList (PlainUrl.host url.afterScheme)
      pathname := url.path
      hash := if url.ref = "" then "" else "#" ++ url.ref }
  encodeURIComponent := PercentEncoding.escape PlainUrl.queryCharmap
  sessionError _ := ⟨"SyntaxError", "JSON Parse error: Unexpected EOF"⟩
  decodeURIComponent text := some (PercentEncoding.unescape text)

theorem isRestoreFragment_ne_empty {U : Type} [UrlLibrary U] {fragment : String}
    (h : IsRestoreFragment (U := U) fragment) : fragment ≠ "" := by
  obtain ⟨value, rfl | rfl⟩ := h
  all_goals
    intro hempty
    have hlist := congrArg String.toList hempty
    rw [String.toList_append] at hlist
    cases hlist

theorem plainWebPage_hash (url : PlainUrl) {fragment : String} (h : fragment ≠ "") :
    (plainWebPage.location (url.replaceRef fragment)).hash = "#" ++ fragment := by
  simp only [plainWebPage, PlainUrl.ref_replaceRef, h, if_false]

theorem plainWebPage_baseUrl (fragment : String) :
    (plainWebPage.location (replaceRef getRestoreSessionBaseUrl fragment)).baseUrl =
      "file:/restore_session.html" := by
  show String.ofList ((PlainUrl.replaceRef _ fragment).scheme ++ [':']) ++
    String.ofList (PlainUrl.host (PlainUrl.replaceRef _ fragment).afterScheme) ++
    (PlainUrl.replaceRef _ fragment).path = _
  unfold PlainUrl.afterScheme
  rw [PlainUrl.scheme_replaceRef, PlainUrl.path_replaceRef, PlainUrl.beforeRef_replaceRef]
  decide

theorem plainWebPage_resolve (value : String) :
    PlainUrl.gurl ("file:/restore_session.html" ++ "#targetUrl=" ++ value) =
      PlainUrl.replaceRef getRestoreSessionBaseUrl
        (kRestoreSessionTargetUrlHashPrefix ++ value) := by
  have htext : "file:/restore_session.html" ++ "#targetUrl=" ++ value =
      "file:" ++ ("/restore_session.html#targetUrl=" ++ value) := by
    rw [← String.append_assoc]
    rfl
  have hbefore : (getRestoreSessionBaseUrl : PlainUrl).beforeRef =
      "file:///restore_session.html".toList := by decide
  rw [htext]
  unfold PlainUrl.gurl
  rw [if_pos, dropPrefix_append]
  · unfold PlainUrl.replaceRef
    rw [hbefore]
    congr 1
    rw [← String.toList_inj]
    simp only [String.toList_append, String.toList_ofList]
    rfl
  · unfold hasPrefix
    simp only [String.toList_append]
    rfl

theorem plainWebPage_lawful : LawfulWebPage plainWebPage where
  hash_eq fragment h := by
    exact plainWebPage_hash _ (isRestoreFragment_ne_empty h)
  encode_eq _ := rfl
  decode_escape text :=
    congrArg some (PercentEncoding.unescape_escape PlainUrl.escaping_queryCharmap text)
  resolve fragment target _ := by
    rw [plainWebPage_baseUrl]
    exact plainWebPage_resolve _

/-- Two entries, the first of them current. -/
private def twoItems : List (NavigationItemImpl PlainUrl Unit) :=
  [{ NavigationItemImpl.create with url := ⟨"http://a.com/"⟩, title := "A" },
   { NavigationItemImpl.create with url := ⟨""⟩ }]

private def twoItemsJson : String :=
  "\x7b\"offset\":-1,\"titles\":[\"A\",\"\"],\"urls\":[\"http://a.com/\",\"\"]\x7d"

private def jsonOfTwoItems : Json where
  write _ := twoItemsJson
  parse text := if text = twoItemsJson then some ⟨-1, ["http://a.com/", ""], ["A", ""]⟩ else none
  parse_empty := rfl

theorem restoreSession_reproduces_two :
    let restored := createRestoreSessionUrl plainFeatures jsonOfTwoItems 0
      twoItems
    let size := min (maxSessionSize plainFeatures) twoItems.length
    ∃ history offset,
      onload plainWebPage jsonOfTwoItems restored.url ⟨[], ⟨⟨"about:blank"⟩, ""⟩, []⟩ =
        .restoring history offset ∧
      let final := crFinishSessionRestoration history offset
      0 ≤ restored.firstIndex ∧ restored.firstIndex + size ≤ twoItems.length ∧
      final.entries = [] ++
        ((twoItems.drop restored.firstIndex.toNat).take size.toNat).map restoredEntry ∧
      (final.position : Int) = ([] : List (HistoryEntry PlainUrl)).length +
        (0 - restored.firstIndex) ∧
      some final.current = (twoItems[(0 : Int).toNat]?).map restoredEntry :=
  restoreSession_reproduces plainWebPage_lawful jsonOfTwoItems plainFeatures
    twoItems 0 (by decide) (by decide) ⟨[], ⟨⟨"about:blank"⟩, ""⟩, []⟩ rfl (by decide)

end IosChrome.Navigation

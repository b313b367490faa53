import IosChrome.Navigation.RestoreSession

/-!
# `SessionStorageBuilder`

`BuildStorage` walks over the navigation history, drops the items that are not
to be saved and decrements the committed index for each item it drops at or
before the original one; then it keeps the window `GetSafeItemRange` selects.
`ExtractSessionState` hands the stored items and the stored index to
`NavigationManagerImpl::Restore`.

`collectItems_eq` says what the walk collects. With it, the index is the
number of kept items at or before the original one, less one: right as long as
there is such an item, and −1 where all of them are dropped.
`buildStorage_wellBuilt_iff` states that this is exactly when the storage is
well built.
-/

namespace IosChrome.Navigation

variable {U D P : Type} [UrlLibrary U] [DecidableEq U]

/-! ## `NavigationItemStorageBuilder` -/

/-- `url::kMaxURLChars`. -/
def kMaxURLChars : Nat := 2 * 1024 * 1024

def kMaxNavigationItemSize : Nat := 63 * 1024

/-- `CRWNavigationItemStorage`. -/
structure NavigationItemStorage (U D : Type) where
  virtualURL : U
  url : U
  referrer : Referrer U
  title : String
  displayState : D
  shouldSkipRepostFormConfirmation : Bool
  userAgentType : UserAgentType
  httpRequestHeaders : Option HttpRequestHeaders
  deriving DecidableEq, Repr

/-- `ItemStoredSize`: the strings' sizes, those of the headers in UTF-16. -/
def itemStoredSize (item : NavigationItemImpl U D) : Nat :=
  (spec item.virtualURL).utf8ByteSize + (spec item.url).utf8ByteSize +
    (spec item.referrer.url).utf8ByteSize + u16Size item.title +
    ((item.httpRequestHeaders.getD []).map fun entry => u16Size entry.1 + u16Size entry.2).sum

def buildItemStorage (item : NavigationItemImpl U D) : NavigationItemStorage U D where
  virtualURL := item.getVirtualURL
  url := item.getURL
  referrer :=
    if (spec item.referrer.url).utf8ByteSize ≤ kMaxURLChars then item.referrer
    else ⟨emptyGURL, .default⟩
  title := item.title
  displayState := item.pageDisplayState
  shouldSkipRepostFormConfirmation := item.shouldSkipRepostFormConfirmation
  userAgentType := item.userAgentType
  httpRequestHeaders := item.httpRequestHeaders

def buildNavigationItemImpl [Inhabited D] (storage : NavigationItemStorage U D) :
    NavigationItemImpl U D :=
  let item : NavigationItemImpl U D :=
    { NavigationItemImpl.create with originalRequestURL := storage.url }
  -- Only an HTTP URL is restored as it is.
  let item :=
    if schemeIs storage.url "http" || schemeIs storage.url "https" then
      (item.setURL storage.url).setVirtualURL storage.virtualURL
    else item.setURL storage.virtualURL
  { item with
    referrer := storage.referrer
    title := storage.title
    pageDisplayState := storage.displayState
    shouldSkipRepostFormConfirmation := storage.shouldSkipRepostFormConfirmation
    transitionType := PageTransition.reload
    userAgentType := storage.userAgentType
    httpRequestHeaders := storage.httpRequestHeaders }

/-! ## `SessionStorageBuilder` -/

/-- `CRWSessionStorage`. `policies` is what the other builders store: the
certificate policies and the user data. -/
structure SessionStorage (U D P : Type) where
  hasOpener : Bool
  lastCommittedItemIndex : Int
  itemStorages : List (NavigationItemStorage U D)
  policies : P
  userAgentType : UserAgentType

/-- What `BuildStorage` reads of the `WebState` and its navigation manager. -/
structure WebStateSession (U D P : Type) where
  hasOpener : Bool
  items : List (NavigationItemImpl U D)
  lastCommittedItemIndex : Int
  policies : P
  userAgentForSessionRestoration : UserAgentType

/-- What the loop of `BuildStorage` has collected. -/
structure Collected (U D : Type) where
  itemStorages : List (NavigationItemStorage U D)
  lastCommittedItemIndex : Int

/-- The index before any item is dropped; −1 happens while a session is being
restored. -/
def originalIndex (webState : WebStateSession U D P) : Int :=
  if webState.lastCommittedItemIndex = -1 then (webState.items.length : Int) - 1
  else webState.lastCommittedItemIndex

/-- One pass of the loop. -/
def collectItem (features : Features) (originalIndex : Int) (collected : Collected U D)
    (indexed : NavigationItemImpl U D × Nat) : Collected U D :=
  let (item, index) := indexed
  if item.shouldSkipSerialization || decide ((spec item.getURL).utf8ByteSize > kMaxURLChars) then
    if (index : Int) ≤ originalIndex then
      { collected with lastCommittedItemIndex := collected.lastCommittedItemIndex - 1 }
    else collected
  else if features.reduceSessionSize && decide (itemStoredSize item > kMaxNavigationItemSize) then
    if (index : Int) ≤ originalIndex then
      { collected with lastCommittedItemIndex := collected.lastCommittedItemIndex - 1 }
    else collected
  else { collected with itemStorages := collected.itemStorages ++ [buildItemStorage item] }

/-- The loop. -/
def collectItems (features : Features) (webState : WebStateSession U D P) : Collected U D :=
  webState.items.zipIdx.foldl (collectItem features (originalIndex webState))
    ⟨[], originalIndex webState⟩

def buildStorage (features : Features) (webState : WebStateSession U D P) : SessionStorage U D P :=
  let collected := collectItems features webState
  let range := getSafeItemRange features collected.lastCommittedItemIndex
    collected.itemStorages.length
  { hasOpener := webState.hasOpener
    lastCommittedItemIndex := range.lastCommittedItemIndex
    itemStorages := itemWindow collected.itemStorages range
    policies := webState.policies
    userAgentType := webState.userAgentForSessionRestoration }

/-- The arguments `ExtractSessionState` calls `Restore` with. -/
def extractedItems [Inhabited D] (client : WebClient U) (storage : SessionStorage U D P) :
    Int × List (NavigationItemImpl U D) :=
  (storage.lastCommittedItemIndex,
    storage.itemStorages.map fun item => (buildNavigationItemImpl item).rewriteURLIfNecessary client)

/-- The checks `Restore` makes of its arguments. -/
def RestoreAccepts (lastCommittedItemIndex : Int) (items : List (NavigationItemImpl U D)) : Prop :=
  lastCommittedItemIndex < items.length ∧ (items = [] ∨ 0 ≤ lastCommittedItemIndex)

/-! ## The kept items -/

/-- The item is not saved. -/
def Dropped (features : Features) (item : NavigationItemImpl U D) : Bool :=
  (item.shouldSkipSerialization || decide ((spec item.getURL).utf8ByteSize > kMaxURLChars)) ||
    (features.reduceSessionSize && decide (itemStoredSize item > kMaxNavigationItemSize))

/-- The items that are saved, each with its index in the history. -/
def keptItems (features : Features) (items : List (NavigationItemImpl U D)) :
    List (NavigationItemImpl U D × Nat) :=
  items.zipIdx.filter fun indexed => !Dropped features indexed.1

/-- The storage `BuildStorage` is to make: at most the maximum size, a window
of the kept items, and the index that of the last kept item at or before the
original one. -/
structure WellBuilt [Inhabited D] (features : Features) (client : WebClient U)
    (webState : WebStateSession U D P) (storage : SessionStorage U D P) : Prop where
  size_le : (storage.itemStorages.length : Int) ≤ maxSessionSize features
  window : ∃ loc : Nat,
    storage.itemStorages = (((keptItems features webState.items).drop loc).take
      storage.itemStorages.length).map (fun kept => buildItemStorage kept.1) ∧
    (storage.itemStorages ≠ [] →
      0 ≤ storage.lastCommittedItemIndex ∧
      storage.lastCommittedItemIndex < storage.itemStorages.length ∧
      ∃ kept, (keptItems features webState.items)[loc + storage.lastCommittedItemIndex.toNat]? =
          some kept ∧
        ((keptItems features webState.items).filter fun kept =>
          decide ((kept.2 : Int) ≤ originalIndex webState)).getLast? = some kept)
  accepted : RestoreAccepts (extractedItems client storage).1 (extractedItems client storage).2

/-- One pass either keeps the item or drops it. -/
theorem collectItem_eq (features : Features) (original : Int) (collected : Collected U D)
    (item : NavigationItemImpl U D) (index : Nat) :
    collectItem features original collected (item, index) =
      if Dropped features item then
        if (index : Int) ≤ original then
          { collected with lastCommittedItemIndex := collected.lastCommittedItemIndex - 1 }
        else collected
      else { collected with itemStorages := collected.itemStorages ++ [buildItemStorage item] } := by
  unfold collectItem Dropped
  by_cases hskip : (item.shouldSkipSerialization ||
      decide ((spec item.getURL).utf8ByteSize > kMaxURLChars)) = true
  · simp only [hskip, Bool.true_or, if_true]
  · simp only [hskip, Bool.false_or]
    rfl

/-- **What the loop collects**: the kept items' storages, and the index less
the number of dropped items at or before the original one. -/
theorem foldl_collectItem (features : Features) (original : Int)
    (indexed : List (NavigationItemImpl U D × Nat)) :
    ∀ collected : Collected U D,
      indexed.foldl (collectItem features original) collected =
        { itemStorages := collected.itemStorages ++
            (indexed.filter fun p => !Dropped features p.1).map fun p => buildItemStorage p.1
          lastCommittedItemIndex := collected.lastCommittedItemIndex -
            ((indexed.filter fun p => decide ((p.2 : Int) ≤ original)).countP
              fun p => Dropped features p.1 : Nat) } := by
  induction indexed with
  | nil =>
    intro collected
    simp
  | cons p indexed ih =>
    intro collected
    obtain ⟨item, index⟩ := p
    rw [List.foldl_cons, ih, collectItem_eq]
    by_cases hdrop : Dropped features item = true
    · by_cases hindex : (index : Int) ≤ original
      · simp [hdrop, hindex]
        omega
      · simp [hdrop, hindex]
    · by_cases hindex : (index : Int) ≤ original
      · simp [hdrop, hindex]
      · simp [hdrop, hindex]

/-- The kept items at or before the original last committed one. -/
def keptBefore (features : Features) (webState : WebStateSession U D P) :
    List (NavigationItemImpl U D × Nat) :=
  (keptItems features webState.items).filter fun kept =>
    decide ((kept.2 : Int) ≤ originalIndex webState)

/-- The index lies in the history, or is −1. -/
def IndexInRange (webState : WebStateSession U D P) : Prop :=
  -1 ≤ webState.lastCommittedItemIndex ∧
    webState.lastCommittedItemIndex < webState.items.length

instance (webState : WebStateSession U D P) : Decidable (IndexInRange webState) :=
  inferInstanceAs (Decidable (_ ∧ _))

variable {webState : WebStateSession U D P}

omit [UrlLibrary U] [DecidableEq U] in
theorem originalIndex_range (h : IndexInRange webState) :
    -1 ≤ originalIndex webState ∧ originalIndex webState < webState.items.length := by
  obtain ⟨hlow, hhigh⟩ := h
  unfold originalIndex
  split <;> omega

/-- The entries of `zipIdx` up to an index are those of the list's beginning. -/
theorem filter_zipIdx_le {α : Type} (l : List α) (last : Int) (h : -1 ≤ last) :
    l.zipIdx.filter (fun p => decide ((p.2 : Int) ≤ last)) =
      (l.take (last + 1).toNat).zipIdx ∧
    l.zipIdx = (l.take (last + 1).toNat).zipIdx ++
      (l.drop (last + 1).toNat).zipIdx (l.take (last + 1).toNat).length := by
  have hsplit : l.zipIdx = (l.take (last + 1).toNat).zipIdx ++
      (l.drop (last + 1).toNat).zipIdx (l.take (last + 1).toNat).length := by
    conv_lhs => rw [← List.take_append_drop (last + 1).toNat l, List.zipIdx_append, Nat.zero_add]
  refine ⟨?_, hsplit⟩
  rw [hsplit, List.filter_append]
  have hfirst : ∀ p ∈ (l.take (last + 1).toNat).zipIdx, decide ((p.2 : Int) ≤ last) = true := by
    intro p hp
    have hindex := List.snd_lt_of_mem_zipIdx hp
    rw [List.length_take] at hindex
    rw [decide_eq_true_eq]
    omega
  have hsecond : ∀ p ∈ (l.drop (last + 1).toNat).zipIdx (l.take (last + 1).toNat).length,
      ¬ decide ((p.2 : Int) ≤ last) = true := by
    intro p hp
    have hindex := List.le_snd_of_mem_zipIdx hp
    have hlength := List.snd_lt_add_of_mem_zipIdx hp
    rw [List.length_take] at hindex hlength
    rw [List.length_drop] at hlength
    rw [decide_eq_true_eq]
    omega
  rw [List.filter_eq_self.2 hfirst, List.filter_eq_nil_iff.2 hsecond, List.append_nil]

omit [DecidableEq U] in
/-- The kept items at or before the original index come first. -/
theorem keptItems_split (features : Features) (h : IndexInRange webState) :
    ∃ after, keptItems features webState.items = keptBefore features webState ++ after := by
  obtain ⟨hbefore, hsplit⟩ :=
    filter_zipIdx_le webState.items _ (originalIndex_range h).1
  unfold keptBefore keptItems
  rw [List.filter_filter]
  simp only [Bool.and_comm]
  rw [← List.filter_filter, hbefore]
  conv => enter [1, after, 1]; rw [hsplit, List.filter_append]
  exact ⟨_, rfl⟩

omit [DecidableEq U] in
/-- Kept or dropped, the items up to the original index are all counted. -/
theorem length_keptBefore {features : Features} (h : IndexInRange webState) :
    ((keptBefore features webState).length : Int) =
      originalIndex webState + 1 -
        ((webState.items.zipIdx.filter fun p =>
          decide ((p.2 : Int) ≤ originalIndex webState)).countP
            fun p => Dropped features p.1 : Nat) := by
  obtain ⟨hlow, hhigh⟩ := originalIndex_range h
  obtain ⟨hbefore, -⟩ := filter_zipIdx_le webState.items _ hlow
  have hkept : keptBefore features webState =
      (webState.items.take (originalIndex webState + 1).toNat).zipIdx.filter
        fun p => !Dropped features p.1 := by
    unfold keptBefore keptItems
    rw [List.filter_filter]
    simp only [Bool.and_comm]
    rw [← List.filter_filter, hbefore]
  have hcount := List.length_eq_countP_add_countP (fun p => Dropped features p.1)
    (l := (webState.items.take (originalIndex webState + 1).toNat).zipIdx)
  rw [hkept, hbefore, ← List.countP_eq_length_filter]
  rw [List.length_zipIdx, List.length_take] at hcount
  simp only [Bool.not_eq_true, Bool.decide_eq_false] at hcount
  omega

/-- **What `BuildStorage` collects**: the kept items, and the number of those
at or before the original index, less one. -/
theorem collectItems_eq (features : Features) (h : IndexInRange webState) :
    collectItems features webState =
      ⟨(keptItems features webState.items).map fun kept => buildItemStorage kept.1,
        (keptBefore features webState).length - 1⟩ := by
  unfold collectItems
  rw [foldl_collectItem, length_keptBefore h, List.nil_append]
  have hcount : ∀ dropped : Int,
      originalIndex webState - dropped = originalIndex webState + 1 - dropped - 1 := by
    intro dropped
    omega
  rw [← hcount]
  rfl

/-! ## When the storage is well built -/

variable [Inhabited D]

/-- A committed index that designates a kept item survives the trimming. -/
theorem wellBuilt_of_keptBefore {features : Features} (client : WebClient U)
    (h : IndexInRange webState) (hbefore : keptBefore features webState ≠ []) :
    WellBuilt features client webState (buildStorage features webState) := by
  obtain ⟨after, hsplit⟩ := keptItems_split features h
  have hpos : 0 < (keptBefore features webState).length := List.length_pos_of_ne_nil hbefore
  have hle : (keptBefore features webState).length ≤ (keptItems features webState.items).length := by
    rw [hsplit, List.length_append]
    omega
  have hcollected := collectItems_eq features h
  set kept := keptItems features webState.items with hkept
  set storages := kept.map fun kept => buildItemStorage kept.1 with hstorages
  have hlength : storages.length = kept.length := by rw [hstorages, List.length_map]
  set last : Int := (keptBefore features webState).length - 1 with hlast
  have h0 : 0 ≤ last := by omega
  have hlt : last < storages.length := by omega
  have hwindow := getSafeItemRange_window features h0 hlt
  have hcount : ((itemWindow storages (getSafeItemRange features last storages.length)).length :
      Int) = (getSafeItemRange features last storages.length).size :=
    itemWindow_length features h0 hlt
  set range := getSafeItemRange features last storages.length with hrange
  simp only at hwindow
  obtain ⟨hoffset, hsize, hend, hr0, hr, hshift⟩ := hwindow
  have hitems : (buildStorage features webState).itemStorages = itemWindow storages range := by
    unfold buildStorage
    rw [hcollected]
  have hindex : (buildStorage features webState).lastCommittedItemIndex =
      range.lastCommittedItemIndex := by
    unfold buildStorage
    rw [hcollected]
  refine ⟨?_, ⟨range.offset.toNat, ?_, ?_⟩, ?_⟩
  · rw [hitems]
    omega
  · rw [hitems]
    unfold itemWindow
    rw [hstorages, ← List.map_drop, ← List.map_take, List.length_map, List.length_take,
      ← List.take_eq_take_min]
  · intro _
    rw [hitems, hindex]
    refine ⟨hr0, by omega, (keptBefore features webState).getLast hbefore, ?_, ?_⟩
    · have hposition : range.offset.toNat + range.lastCommittedItemIndex.toNat =
          (keptBefore features webState).length - 1 := by omega
      rw [hposition, ← hkept, hsplit, List.getElem?_append_left (by omega),
        ← List.getLast?_eq_getElem?, List.getLast?_eq_some_getLast hbefore]
    · exact List.getLast?_eq_some_getLast hbefore
  · constructor
    · show _ < ((List.map _ _).length : Int)
      rw [List.length_map, hitems]
      show (buildStorage features webState).lastCommittedItemIndex < _
      rw [hindex]
      omega
    · right
      show 0 ≤ (buildStorage features webState).lastCommittedItemIndex
      rw [hindex]
      exact hr0

theorem wellBuilt_of_kept_nil {features : Features} (client : WebClient U)
    (h : IndexInRange webState) (hkept : keptItems features webState.items = []) :
    WellBuilt features client webState (buildStorage features webState) := by
  have hbefore : keptBefore features webState = [] := by
    unfold keptBefore
    rw [hkept, List.filter_nil]
  have hcollected := collectItems_eq features h
  rw [hkept, hbefore, List.map_nil] at hcollected
  obtain ⟨hmin, hmax⟩ := maxSessionSize_bounds features
  have hitems : (buildStorage features webState).itemStorages = [] := by
    unfold buildStorage itemWindow
    rw [hcollected]
    simp only [List.drop_nil, List.take_nil]
  have hindex : (buildStorage features webState).lastCommittedItemIndex < 0 := by
    unfold buildStorage
    rw [hcollected]
    show (0 : Int) - 1 - max (min (0 - 1 - maxSessionSize features / 2)
      (0 - maxSessionSize features)) 0 < 0
    omega
  refine ⟨?_, ⟨0, ?_, ?_⟩, ?_⟩
  · rw [hitems, List.length_nil]
    omega
  · rw [hitems, hkept]
    rfl
  · intro hne
    exact absurd hitems hne
  · unfold RestoreAccepts extractedItems
    rw [hitems]
    exact ⟨hindex, .inl rfl⟩

/-- Without a kept item at or before it, the committed index goes to −1. -/
theorem not_wellBuilt {features : Features} (client : WebClient U) (h : IndexInRange webState)
    (hkept : keptItems features webState.items ≠ []) (hbefore : keptBefore features webState = []) :
    ¬ WellBuilt features client webState (buildStorage features webState) := by
  intro hbuilt
  have hcollected := collectItems_eq features h
  obtain ⟨hmin, hmax⟩ := maxSessionSize_bounds features
  have hpos : 0 < (keptItems features webState.items).length := List.length_pos_of_ne_nil hkept
  obtain ⟨loc, -, hdesignates⟩ := hbuilt.window
  have hindex : (buildStorage features webState).lastCommittedItemIndex < 0 := by
    unfold buildStorage
    rw [hcollected, hbefore]
    show (([] : List (NavigationItemImpl U D × Nat)).length : Int) - 1 - max _ 0 < 0
    rw [List.length_nil]
    omega
  have hne : (buildStorage features webState).itemStorages ≠ [] := by
    intro hempty
    have hlength := congrArg List.length hempty
    unfold buildStorage itemWindow getSafeItemRange at hlength
    rw [hcollected, hbefore] at hlength
    simp only [List.length_take, List.length_drop, List.length_map, List.length_nil] at hlength
    omega
  have := (hdesignates hne).1
  omega

/-- **When the storage is well built**: nothing is kept, or something is kept
at or before the original committed item. -/
theorem buildStorage_wellBuilt_iff (features : Features) (client : WebClient U)
    (webState : WebStateSession U D P) (h : IndexInRange webState) :
    WellBuilt features client webState (buildStorage features webState) ↔
      keptItems features webState.items = [] ∨
        ∃ kept ∈ keptItems features webState.items, (kept.2 : Int) ≤ originalIndex webState := by
  have hbefore : keptBefore features webState ≠ [] ↔
      ∃ kept ∈ keptItems features webState.items, (kept.2 : Int) ≤ originalIndex webState := by
    unfold keptBefore
    simp only [ne_eq, List.filter_eq_nil_iff, decide_eq_true_eq, not_forall, not_not, exists_prop]
  rw [← hbefore]
  constructor
  · intro hbuilt
    by_contra hfail
    rw [not_or, not_not] at hfail
    exact not_wellBuilt client h hfail.1 hfail.2 hbuilt
  · rintro (hkept | hne)
    · exact wellBuilt_of_kept_nil client h hkept
    · exact wellBuilt_of_keptBefore client h hne

/-- A page kept out of the session, current, with a page ahead of it. -/
private def skippedCurrent : WebStateSession PlainUrl Unit Unit where
  hasOpener := false
  items :=
    [{ NavigationItemImpl.create with url := ⟨"http://a.com/"⟩, shouldSkipSerialization := true },
     { NavigationItemImpl.create with url := ⟨"http://b.com/"⟩ }]
  lastCommittedItemIndex := 0
  policies := ()
  userAgentForSessionRestoration := .mobile

theorem skippedCurrent_storesNoIndex :
    IndexInRange skippedCurrent ∧
      ¬ WellBuilt plainFeatures plainClient skippedCurrent (buildStorage plainFeatures skippedCurrent) ∧
      (buildStorage plainFeatures skippedCurrent).itemStorages.length = 1 ∧
      (buildStorage plainFeatures skippedCurrent).lastCommittedItemIndex = -1 := by
  have hlength : (buildStorage plainFeatures skippedCurrent).itemStorages.length = 1 := by
    decide +kernel
  have hindex : (buildStorage plainFeatures skippedCurrent).lastCommittedItemIndex = -1 := by
    decide +kernel
  refine ⟨by decide, ?_, hlength, hindex⟩
  intro hbuilt
  obtain ⟨loc, -, hdesignates⟩ := hbuilt.window
  have hne : (buildStorage plainFeatures skippedCurrent).itemStorages ≠ [] := by
    intro hempty
    rw [hempty] at hlength
    cases hlength
  have := (hdesignates hne).1
  omega

theorem buildStorage_wellBuilt_iff_skipped :
    WellBuilt plainFeatures plainClient { skippedCurrent with lastCommittedItemIndex := 1 }
        (buildStorage plainFeatures { skippedCurrent with lastCommittedItemIndex := 1 }) ↔
      keptItems plainFeatures skippedCurrent.items = [] ∨
        ∃ kept ∈ keptItems plainFeatures skippedCurrent.items, (kept.2 : Int) ≤ 1 :=
  buildStorage_wellBuilt_iff plainFeatures plainClient
    { skippedCurrent with lastCommittedItemIndex := 1 } (by decide)

end IosChrome.Navigation

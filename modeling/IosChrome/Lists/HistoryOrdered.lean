import Mathlib.Data.Finset.Basic
import Mathlib.Data.Prod.Lex
import IosChrome.Lists.HistoryEntryInserter
import IosChrome.Lists.Coordinates

/-!
# History by days

What the inserter is for: a list of days from most to least recent, each with the entries
that were inserted for it and are not deleted (`HistoryDay`). `Shows` says how the
containers of the inserter and of its model hold one list of sections; each call keeps it
and does to the sections what it does to the days.
-/

namespace IosChrome.Lists

open Lib

/-- What makes two items one entry: the time and the URL. -/
abbrev Entry := Int × String

def HistoryEntryItem.entry (item : HistoryEntryItem) : Entry := (item.timestamp, item.URL)

/-- A local day, with its entries. -/
structure HistoryDay where
  date : Int
  entries : Finset Entry
  deriving DecidableEq

namespace HistoryDay

/-- The day of the date is there from now on, among the others in their order. -/
def add (days : List HistoryDay) (date : Int) : List HistoryDay :=
  if ∃ day ∈ days, day.date = date then days
  else days.filter (fun day => date < day.date) ++
    ⟨date, ∅⟩ :: days.filter (fun day => day.date < date)

def insertEntry (days : List HistoryDay) (date : Int) (entry : Entry) : List HistoryDay :=
  (add days date).map fun day =>
    if day.date = date then { day with entries := insert entry day.entries } else day

def eraseEntry (days : List HistoryDay) (j : Nat) (entry : Entry) : List HistoryDay :=
  days.modify j fun day => { day with entries := day.entries.erase entry }

end HistoryDay

/-! ## What the table view is told -/

/-- How many rows the table view has in each section. -/
def rowCounts (model : HistoryModel) : List (Option Nat) :=
  (List.range model.numberOfSections).map model.numberOfItemsInSection

/-- What a notification makes of the rows. A new row is one behind the old ones. -/
def Notification.apply : Notification → List (Option Nat) → Option (List (Option Nat))
  | .didInsertItem indexPath, counts =>
    match indexPath.item, counts[indexPath.sectionIndex]? with
    | some row, some (some count) =>
      if row = count then some (counts.set indexPath.sectionIndex (some (count + 1))) else none
    | _, _ => none
  | .didInsertSection sectionIndex, counts =>
    if sectionIndex ≤ counts.length then some (counts.insertIdx sectionIndex (some 0)) else none
  | .didRemoveSection sectionIndex, counts =>
    if counts[sectionIndex]? = some (some 0) then some (counts.eraseIdx sectionIndex) else none

/-- Each notification makes of the rows what they are in the model at that moment, and the
last leaves them as they are in the end. -/
def Matches : List (Option Nat) → List (Notification × HistoryModel) → List (Option Nat) → Prop
  | counts, [], counts' => counts = counts'
  | counts, (notification, model) :: rest, counts' =>
    notification.apply counts = some (rowCounts model) ∧ Matches (rowCounts model) rest counts'

theorem Matches.append : ∀ {counts counts' counts'' : List (Option Nat)}
    {told told' : List (Notification × HistoryModel)},
    Matches counts told counts' → Matches counts' told' counts'' →
      Matches counts (told ++ told') counts''
  | _, _, _, [], _, h, h' => h ▸ h'
  | _, _, _, _ :: _, _, h, h' => ⟨h.1, h.2.append h'⟩

/-! ## Orders -/

/-- Entries from most to least recent, those of one time by URL. -/
def entryKey (item : HistoryEntryItem) : Lex (Int × String) := toLex (-item.timestamp, item.URL)

theorem isEqual_iff (a b : HistoryEntryItem) :
    ListItem.isEqual a b = true ↔ a.timestamp = b.timestamp ∧ a.URL = b.URL := by
  have hdef : ListItem.isEqual a b =
      if a = b then true else a.isEqualToHistoryEntryItem b := rfl
  rw [hdef]
  split
  next heq =>
    subst heq
    simp
  next =>
    unfold HistoryEntryItem.isEqualToHistoryEntryItem
    rw [Bool.and_eq_true, decide_eq_true_eq, decide_eq_true_eq]
    constructor
    · rintro ⟨hURL, htimestamp⟩
      exact ⟨htimestamp.symm, hURL.symm⟩
    · rintro ⟨htimestamp, hURL⟩
      exact ⟨hURL.symm, htimestamp.symm⟩

/-- **The comparator of entries is a total order, and compatible with equality.** -/
theorem compares_objectComparator :
    BinarySearch.Compares HistoryEntryInserter.objectComparator entryKey where
  lt_iff := fun a b => by
    unfold HistoryEntryInserter.objectComparator entryKey
    rw [Prod.Lex.toLex_lt_toLex]
    have hequal := isEqual_iff a b
    split
    next h =>
      obtain ⟨htimestamp, hURL⟩ := hequal.1 h
      simp [htimestamp, hURL]
    next h =>
      split
      next hgt => simpa using Or.inl hgt
      next hgt =>
        split
        next hlt =>
          have hne : a.timestamp ≠ b.timestamp := by omega
          simp [hne, hgt]
        next hlt =>
          have heq : a.timestamp = b.timestamp := by omega
          split
          next hURL => simp [heq, hURL]
          next hURL => simp [heq, hURL]
  eq_iff := fun a b => by
    unfold HistoryEntryInserter.objectComparator entryKey
    have hequal := isEqual_iff a b
    have hkey : (toLex (-a.timestamp, a.URL) : Lex (Int × String)) = toLex (-b.timestamp, b.URL) ↔
        a.timestamp = b.timestamp ∧ a.URL = b.URL := by
      rw [toLex_inj, Prod.mk.injEq, Int.neg_inj]
    rw [hkey, ← hequal]
    split
    next h => simp [h]
    next h =>
      simp only [h]
      split_ifs <;> simp

theorem compares_dateComparator :
    BinarySearch.Compares HistoryEntryInserter.dateComparator (fun date : Int => -date) where
  lt_iff := fun a b => by
    unfold HistoryEntryInserter.dateComparator
    rw [compare_lt_iff_lt]
    omega
  eq_iff := fun a b => by
    unfold HistoryEntryInserter.dateComparator
    rw [compare_eq_iff_eq]
    omega

/-! ## The rows of a model -/

/-- How many rows are shown for the items of a section. -/
def rowsShown (model : HistoryModel) (shown : Int × List HistoryEntryItem) : Option Nat :=
  if (model.collapsedKeys.objectForKey shown.1).any
      model.collapsableMediator.sectionKeyIsCollapsed then
    match model.collapsableMode with
    | .header => some 0
    | .firstCell => if shown.2 = [] then none else some 1
  else some shown.2.length

theorem numberOfItemsInSection_eq {model : HistoryModel} {k : Nat} {identifier : Int}
    {items : List HistoryEntryItem} (hidentifier : model.sectionIdentifiers[k]? = some identifier)
    (hitems : model.sections[k]? = some items) :
    model.numberOfItemsInSection k = rowsShown model (identifier, items) := by
  have hsection : model.hasSectionForSectionIdentifier identifier = true := by
    have hmem := List.mem_of_getElem? hidentifier
    have hne : model.internalSectionForIdentifier identifier ≠ none := fun hnone =>
      List.idxOf?_eq_none_iff.1 hnone hmem
    exact Option.isSome_iff_ne_none.2 hne
  unfold ListModel.numberOfItemsInSection ListModel.sectionIdentifierForSection
    ListModel.sectionIsCollapsed rowsShown
  rw [hitems, hidentifier]
  simp only [Option.bind_eq_bind, Option.bind_some, hsection, guard_true, Option.pure_def]
  cases hkey : model.collapsedKeys.objectForKey identifier with
  | none => rfl
  | some key =>
    simp only [Option.bind_some, Option.any_some]
    split
    next =>
      cases model.collapsableMode with
      | header => rfl
      | firstCell => cases items <;> rfl
    next => rfl

theorem rowCounts_eq {model : HistoryModel} (h : model.WellFormed) :
    rowCounts model =
      (model.sectionIdentifiers.zip model.sections).map (rowsShown model) := by
  refine List.ext_getElem? fun k => ?_
  unfold rowCounts
  rw [List.getElem?_map, List.getElem?_map]
  by_cases hk : k < model.sections.length
  · have hk' : k < model.sectionIdentifiers.length := h.lengths ▸ hk
    have hrange : (List.range model.numberOfSections)[k]? = some k := List.getElem?_range hk
    have hzip : (model.sectionIdentifiers.zip model.sections)[k]? =
        some (model.sectionIdentifiers[k], model.sections[k]) := by
      rw [List.getElem?_eq_getElem (by simp [hk, hk']), List.getElem_zip]
    rw [hrange, hzip, Option.map_some, Option.map_some,
      numberOfItemsInSection_eq (List.getElem?_eq_getElem hk') (List.getElem?_eq_getElem hk)]
  · have hnone : (List.range model.numberOfSections)[k]? = none :=
      List.getElem?_eq_none (by simpa [ListModel.numberOfSections] using hk)
    have hzip : (model.sectionIdentifiers.zip model.sections)[k]? = none :=
      List.getElem?_eq_none (by simp [h.lengths]; omega)
    rw [hnone, hzip]
    rfl

/-- Of a section that is not collapsed, all items are shown. -/
theorem rowsShown_of_none {model : HistoryModel} {identifier : Int}
    (h : model.collapsedKeys.objectForKey identifier = none) (items : List HistoryEntryItem) :
    rowsShown model (identifier, items) = some items.length := by
  unfold rowsShown
  rw [h]
  rfl

/-! ## What the inserter keeps -/

/-- A section of the inserter's. -/
structure HistorySection where
  date : Int
  identifier : Int
  items : List HistoryEntryItem

def HistorySection.day (s : HistorySection) : HistoryDay :=
  ⟨s.date, (s.items.map HistoryEntryItem.entry).toFinset⟩

/-- The containers of the inserter and of its model hold the sections. -/
structure Shows (localTime : LocalTime) (s : HistoryEntryInserter)
    (history : List HistorySection) : Prop where
  wellFormed : s.listModel.WellFormed
  first_le : s.firstSectionIndex ≤ s.listModel.sections.length
  identifiers : s.listModel.sectionIdentifiers.drop s.firstSectionIndex =
    history.map HistorySection.identifier
  sections : s.listModel.sections.drop s.firstSectionIndex = history.map HistorySection.items
  dates : s.dates = history.map HistorySection.date
  uniqueKeys : Keyed.Unique Prod.fst s.sectionIdentifiers
  known : ∀ date, s.sectionIdentifiers.objectForKey date =
    (Keyed.lookup HistorySection.date history date).map HistorySection.identifier
  decreasing : SortedSet.Sorted (fun r : HistorySection => -r.date) history
  /-- An identifier is assigned by the inserter or was there before. -/
  assigned : ∀ r ∈ history,
    kSectionIdentifierEnumZero + s.firstSectionIndex ≤ r.identifier ∧
      r.identifier < kSectionIdentifierEnumZero + s.firstSectionIndex + s.sectionIdentifierCount
  others : ∀ identifier ∈ s.listModel.sectionIdentifiers.take s.firstSectionIndex,
    identifier < kSectionIdentifierEnumZero + s.firstSectionIndex
  notCollapsed : ∀ identifier, kSectionIdentifierEnumZero + s.firstSectionIndex ≤ identifier →
    s.listModel.collapsedKeys.objectForKey identifier = none
  sorted : ∀ r ∈ history, SortedSet.Sorted entryKey r.items
  onTheirDay : ∀ r ∈ history, ∀ item ∈ r.items, localTime.date item.timestamp = r.date

namespace Shows

variable {localTime : LocalTime} {s : HistoryEntryInserter} {history : List HistorySection}
  {r : HistorySection} {j : Nat}

theorem uniqueDates (h : Shows localTime s history) :
    Keyed.Unique HistorySection.date history := by
  refine List.pairwise_map.2 (h.decreasing.imp ?_)
  intro a b hab heq
  have hlt : -a.date < -b.date := hab
  omega

/-- Where a section of the inserter's is in the model. -/
theorem identifierAt (h : Shows localTime s history) (hr : history[j]? = some r) :
    s.listModel.sectionIdentifiers[s.firstSectionIndex + j]? = some r.identifier := by
  rw [← List.getElem?_drop, h.identifiers, List.getElem?_map, hr]
  rfl

theorem itemsAt (h : Shows localTime s history) (hr : history[j]? = some r) :
    s.listModel.sections[s.firstSectionIndex + j]? = some r.items := by
  rw [← List.getElem?_drop, h.sections, List.getElem?_map, hr]
  rfl

theorem sectionOf (h : Shows localTime s history) (hr : history[j]? = some r) :
    s.listModel.sectionForSectionIdentifier r.identifier = some (s.firstSectionIndex + j) := by
  have hat := h.identifierAt hr
  have hunique : Keyed.Unique id s.listModel.sectionIdentifiers := by
    unfold Keyed.Unique
    rw [List.map_id]
    exact h.wellFormed.nodup
  exact Keyed.findIdx?_key hunique hat

theorem itemsOf (h : Shows localTime s history) (hr : history[j]? = some r) :
    s.listModel.itemsInSectionWithIdentifier r.identifier = some r.items := by
  unfold ListModel.itemsInSectionWithIdentifier
  rw [h.sectionOf hr]
  exact h.itemsAt hr

theorem notCollapsedAt (h : Shows localTime s history) (hr : history[j]? = some r) :
    s.listModel.collapsedKeys.objectForKey r.identifier = none :=
  h.notCollapsed _ (h.assigned r (List.mem_of_getElem? hr)).1

theorem rowsAt (h : Shows localTime s history) (hr : history[j]? = some r) :
    s.listModel.numberOfItemsInSection (s.firstSectionIndex + j) = some r.items.length := by
  rw [numberOfItemsInSection_eq (h.identifierAt hr) (h.itemsAt hr)]
  exact rowsShown_of_none (h.notCollapsedAt hr) r.items

theorem length_sections (h : Shows localTime s history) :
    s.listModel.sections.length = s.firstSectionIndex + history.length := by
  have hlength := congrArg List.length h.sections
  rw [List.length_drop, List.length_map] at hlength
  have hle := h.first_le
  omega

theorem first_le_identifiers (h : Shows localTime s history) :
    s.firstSectionIndex ≤ s.listModel.sectionIdentifiers.length := by
  rw [h.wellFormed.lengths]
  exact h.first_le

/-! ## The items of a section change -/

/-- The items of a section become others of its day, in order. -/
theorem setItems (h : Shows localTime s history) (hr : history[j]? = some r)
    {items : List HistoryEntryItem} (hsorted : SortedSet.Sorted entryKey items)
    (hday : ∀ item ∈ items, localTime.date item.timestamp = r.date)
    (notifications : List (Notification × HistoryModel)) :
    Shows localTime
      { s with
        listModel := { s.listModel with
          sections := s.listModel.sections.set (s.firstSectionIndex + j) items }
        notifications := notifications }
      (history.set j { r with items := items }) where
  wellFormed := ⟨h.wellFormed.nodup, by simp [h.wellFormed.lengths], h.wellFormed.keys⟩
  first_le := by simpa using h.first_le
  identifiers := h.identifiers.trans
    (map_set_of_eq HistorySection.identifier { r with items := items } hr rfl).symm
  sections := by
    dsimp only
    rw [drop_set_add, h.sections, List.map_set]
  dates := h.dates.trans
    (map_set_of_eq HistorySection.date { r with items := items } hr rfl).symm
  uniqueKeys := h.uniqueKeys
  known := fun date => by
    have hset := Keyed.map_update_eq_set h.uniqueDates hr fun b => { b with items := items }
    have hlookup := Keyed.lookup_map
      (g := fun b => if b.date = r.date then { b with items := items } else b)
      (fun b => by split <;> rfl : ∀ b : HistorySection, HistorySection.date _ = b.date)
      history date
    have hsame : history.set j { r with items := items } =
        history.map fun b => if b.date = r.date then { b with items := items } else b := hset.symm
    rw [hsame, hlookup, Option.map_map, h.known date]
    congr 1
    funext b
    simp only [Function.comp]
    split <;> rfl
  decreasing := by
    have hdates : (history.set j { r with items := items }).map HistorySection.date =
        history.map HistorySection.date :=
      map_set_of_eq HistorySection.date { r with items := items } hr rfl
    have hbefore : (history.map HistorySection.date).Pairwise fun a b => -a < -b :=
      List.pairwise_map.2 h.decreasing
    rw [← hdates] at hbefore
    exact (List.pairwise_map (f := HistorySection.date) (R := fun a b : Int => -a < -b)).1 hbefore
  assigned := fun b hb => by
    rcases List.mem_or_eq_of_mem_set hb with hb | rfl
    · exact h.assigned b hb
    · exact h.assigned r (List.mem_of_getElem? hr)
  others := h.others
  notCollapsed := h.notCollapsed
  sorted := fun b hb => by
    rcases List.mem_or_eq_of_mem_set hb with hb | rfl
    · exact h.sorted b hb
    · exact hsorted
  onTheirDay := fun b hb => by
    rcases List.mem_or_eq_of_mem_set hb with hb | rfl
    · exact h.onTheirDay b hb
    · exact hday

/-- How the rows of the model follow. -/
theorem rowCounts_setItems (h : Shows localTime s history) (hr : history[j]? = some r)
    (items : List HistoryEntryItem) :
    rowCounts { s.listModel with
        sections := s.listModel.sections.set (s.firstSectionIndex + j) items } =
      (rowCounts s.listModel).set (s.firstSectionIndex + j) (some items.length) := by
  have hwellFormed : ListModel.WellFormed { s.listModel with
      sections := s.listModel.sections.set (s.firstSectionIndex + j) items } :=
    ⟨h.wellFormed.nodup, by simp [h.wellFormed.lengths], h.wellFormed.keys⟩
  rw [rowCounts_eq hwellFormed, rowCounts_eq h.wellFormed]
  dsimp only
  rw [zip_set_right items s.listModel.sections (h.identifierAt hr), List.map_set]
  have hshown : rowsShown { s.listModel with
      sections := s.listModel.sections.set (s.firstSectionIndex + j) items }
      (r.identifier, items) = some items.length := rowsShown_of_none (h.notCollapsedAt hr) items
  rw [hshown]
  rfl

theorem rowCountsAt (h : Shows localTime s history) (hr : history[j]? = some r) :
    (rowCounts s.listModel)[s.firstSectionIndex + j]? = some (some r.items.length) := by
  have hlt : s.firstSectionIndex + j < s.listModel.numberOfSections :=
    (List.getElem?_eq_some_iff.1 (h.itemsAt hr)).1
  unfold rowCounts
  rw [List.getElem?_map, List.getElem?_range hlt, Option.map_some, h.rowsAt hr]

/-! ## An item is inserted in its section -/

/-- The section has the item's entry from now on. -/
theorem insertInSection (h : Shows localTime s history) (hr : history[j]? = some r)
    {item : HistoryEntryItem} (htype : kItemTypeEnumZero ≤ item.type)
    (hdate : localTime.date item.timestamp = r.date) :
    ∃ s' items told, s.insertInSection item r.identifier = some s' ∧
      Shows localTime s' (history.set j { r with items := items }) ∧
      (items.map HistoryEntryItem.entry).toFinset =
        insert item.entry (r.items.map HistoryEntryItem.entry).toFinset ∧
      s'.firstSectionIndex = s.firstSectionIndex ∧
      s'.notifications = s.notifications ++ told ∧
      Matches (rowCounts s.listModel) told (rowCounts s'.listModel) := by
  have hmem := List.mem_of_getElem? hr
  have hsorted := h.sorted r hmem
  have hsame : ∀ a : HistoryEntryItem, entryKey a = entryKey item ↔ a.entry = item.entry := by
    intro a
    unfold entryKey HistoryEntryItem.entry
    rw [toLex_inj, Prod.mk.injEq, Prod.mk.injEq, Int.neg_inj]
  unfold HistoryEntryInserter.insertInSection
  simp only [h.itemsOf hr, Option.bind_eq_bind, Option.bind_some]
  cases hfind : BinarySearch.indexOfObject HistoryEntryInserter.objectComparator r.items item
      .firstEqual with
  | some _ =>
    -- the entry is there: nothing changes
    refine ⟨s, r.items, [], rfl, ?_, ?_, rfl, (List.append_nil _).symm, rfl⟩
    · have hset : history.set j { r with items := r.items } = history := by
        obtain ⟨hlt, rfl⟩ := List.getElem?_eq_some_iff.1 hr
        exact List.set_getElem_self hlt
      rw [hset]
      exact h
    · have hex : ∃ a ∈ r.items, entryKey a = entryKey item := by
        by_contra hnone
        have hfind' := (BinarySearch.firstEqual_eq_none_iff compares_objectComparator hsorted
          item).2 fun a ha heq => hnone ⟨a, ha, heq⟩
        rw [hfind'] at hfind
        cases hfind
      obtain ⟨a, ha, heq⟩ := hex
      refine (Finset.insert_eq_self.2 (List.mem_toFinset.2 (List.mem_map.2 ⟨a, ha, ?_⟩))).symm
      exact (hsame a).1 heq
  | none =>
    have hne := (BinarySearch.firstEqual_eq_none_iff compares_objectComparator hsorted item).1 hfind
    obtain ⟨index, hindex⟩ : ∃ index, BinarySearch.indexOfObject
        HistoryEntryInserter.objectComparator r.items item .insertionIndex = some index := ⟨_, rfl⟩
    obtain ⟨hle, hsorted'⟩ := BinarySearch.sorted_insertIdx compares_objectComparator hsorted hne
      hindex
    have hinsert : s.listModel.insertItem item r.identifier index =
        some { s.listModel with
          sections := s.listModel.sections.set (s.firstSectionIndex + j)
            (r.items.insertIdx index item) } :=
      ListModel.insertItem_eq_some.2 ⟨htype, _, _, h.sectionOf hr, h.itemsAt hr, hle, rfl⟩
    have hmemInsert : ∀ a, a ∈ r.items.insertIdx index item ↔ a = item ∨ a ∈ r.items :=
      fun a => List.mem_insertIdx hle
    simp only [hindex, h.sectionOf hr, h.rowsAt hr, hinsert, Option.bind_some]
    refine ⟨_, r.items.insertIdx index item, _, rfl, h.setItems hr hsorted' ?_ _, ?_, rfl, rfl,
      ?_, rfl⟩
    · intro a ha
      rcases (hmemInsert a).1 ha with rfl | ha
      · exact hdate
      · exact h.onTheirDay r hmem a ha
    · ext entry
      simp only [List.mem_toFinset, List.mem_map, Finset.mem_insert, hmemInsert]
      constructor
      · rintro ⟨a, rfl | ha, rfl⟩
        · exact .inl rfl
        · exact .inr ⟨a, ha, rfl⟩
      · rintro (rfl | ⟨a, ha, rfl⟩)
        · exact ⟨item, .inl rfl, rfl⟩
        · exact ⟨a, .inr ha, rfl⟩
    · rw [h.rowCounts_setItems hr, List.length_insertIdx_of_le_length hle]
      unfold Notification.apply
      simp only [h.rowCountsAt hr, ↓reduceIte]

/-! ## A section is inserted -/

theorem identifier_fresh (h : Shows localTime s history) :
    kSectionIdentifierEnumZero + s.firstSectionIndex + s.sectionIdentifierCount ∉
      s.listModel.sectionIdentifiers := by
  intro hmem
  rw [← List.take_append_drop s.firstSectionIndex s.listModel.sectionIdentifiers,
    List.mem_append, h.identifiers] at hmem
  rcases hmem with hmem | hmem
  · have hlt := h.others _ hmem
    omega
  · obtain ⟨r, hr, heq⟩ := List.mem_map.1 hmem
    have hlt := (h.assigned r hr).2
    omega

/-- Where a date that is not there is inserted. -/
theorem insertionIndex (h : Shows localTime s history) {date : Int} {index : Nat}
    (hnew : ∀ r ∈ history, r.date ≠ date)
    (hindex : BinarySearch.indexOfObject HistoryEntryInserter.dateComparator s.dates date
      .insertionIndex = some index) :
    index ≤ history.length ∧
      SortedSet.Sorted (fun date : Int => -date) (s.dates.insertIdx index date) ∧
      history.take index = history.filter (fun r => date < r.date) ∧
      history.drop index = history.filter (fun r => r.date < date) := by
  have hsorted : SortedSet.Sorted (fun date : Int => -date) s.dates := by
    rw [h.dates]
    exact List.pairwise_map.2 h.decreasing
  have hne : ∀ d ∈ s.dates, -d ≠ -date := by
    intro d hd heq
    rw [h.dates] at hd
    obtain ⟨r, hr, rfl⟩ := List.mem_map.1 hd
    exact hnew r hr (Int.neg_inj.1 heq)
  obtain ⟨hle, hsorted'⟩ := BinarySearch.sorted_insertIdx compares_dateComparator hsorted hne hindex
  have hbound := BinarySearch.isBound_of_sorted compares_dateComparator hsorted date
  have hbound' : BinarySearch.IsBound
      (fun d => HistoryEntryInserter.dateComparator d date = .lt) s.dates index :=
    Option.some.inj hindex ▸ hbound
  rw [h.dates] at hbound'
  have hlt : ∀ d, HistoryEntryInserter.dateComparator d date = .lt ↔ date < d := by
    intro d
    rw [compares_dateComparator.lt_iff]
    omega
  refine ⟨?_, hsorted', ?_, ?_⟩
  · rw [h.dates, List.length_map] at hle
    exact hle
  · rw [hbound'.take_map]
    exact List.filter_congr fun r _ => by simp [hlt]
  · rw [hbound'.drop_map]
    refine List.filter_congr fun r hr => ?_
    have hdate := hnew r hr
    simp only [hlt, ← decide_not]
    congr 1
    simp only [eq_iff_iff]
    omega

/-- The state once a section is inserted for a date. -/
theorem insertSection (h : Shows localTime s history) {date : Int} {index : Nat}
    (hnew : ∀ r ∈ history, r.date ≠ date)
    (hindex : BinarySearch.indexOfObject HistoryEntryInserter.dateComparator s.dates date
      .insertionIndex = some index)
    {identifier : Int} (hidentifier : identifier =
      kSectionIdentifierEnumZero + s.firstSectionIndex + s.sectionIdentifierCount)
    (headers : Dictionary Int TableViewTextHeaderFooterItem)
    (notifications : List (Notification × HistoryModel)) :
    Shows localTime
      { s with
        listModel := { s.listModel with
          sectionIdentifiers :=
            s.listModel.sectionIdentifiers.insertIdx (s.firstSectionIndex + index) identifier
          sections := s.listModel.sections.insertIdx (s.firstSectionIndex + index) []
          headers := headers }
        sectionIdentifierCount := s.sectionIdentifierCount + 1
        dates := HistoryEntryInserter.insertObject s.dates date index
        sectionIdentifiers := s.sectionIdentifiers.setObject date identifier
        notifications := notifications }
      (history.insertIdx index ⟨date, identifier, []⟩) := by
  obtain ⟨hle, hsorted, -, -⟩ := h.insertionIndex hnew hindex
  have hfresh := h.identifier_fresh
  rw [← hidentifier] at hfresh
  have hsections := h.length_sections
  have hleModel : s.firstSectionIndex + index ≤ s.listModel.sectionIdentifiers.length := by
    rw [h.wellFormed.lengths]
    omega
  have hmem : ∀ r, r ∈ history.insertIdx index ⟨date, identifier, []⟩ ↔
      r = ⟨date, identifier, []⟩ ∨ r ∈ history := fun r => List.mem_insertIdx hle
  have hdates : HistoryEntryInserter.insertObject s.dates date index =
      (history.insertIdx index ⟨date, identifier, []⟩).map HistorySection.date := by
    have hnotMem : date ∉ s.dates := by
      rw [h.dates]
      intro hmem
      obtain ⟨r, hr, heq⟩ := List.mem_map.1 hmem
      exact hnew r hr heq
    unfold HistoryEntryInserter.insertObject
    rw [if_neg hnotMem, h.dates, List.map_insertIdx]
  refine ⟨⟨?_, ?_, ?_⟩, ?_, ?_, ?_, hdates, h.uniqueKeys.put _, ?_, ?_, ?_, ?_, ?_, ?_, ?_⟩
  · exact (List.perm_insertIdx _ _ hleModel).nodup_iff.2
      (List.nodup_cons.2 ⟨hfresh, h.wellFormed.nodup⟩)
  · dsimp only
    rw [List.length_insertIdx_of_le_length hleModel,
      List.length_insertIdx_of_le_length (h.wellFormed.lengths ▸ hleModel), h.wellFormed.lengths]
  · intro id hid
    exact h.wellFormed.keys id fun hin => hid ((List.mem_insertIdx hleModel).2 (.inr hin))
  · dsimp only
    rw [List.length_insertIdx_of_le_length (h.wellFormed.lengths ▸ hleModel)]
    omega
  · dsimp only
    rw [drop_insertIdx_add _ _ _ _ h.first_le_identifiers, h.identifiers, List.map_insertIdx]
  · dsimp only
    rw [drop_insertIdx_add _ _ _ _ h.first_le, h.sections, List.map_insertIdx]
  · -- the identifier is found under its date, the others as before
    intro date'
    have hunique : Keyed.Unique HistorySection.date (⟨date, identifier, []⟩ :: history) :=
      List.nodup_cons.2 ⟨fun hin => by
        obtain ⟨r, hr, heq⟩ := List.mem_map.1 hin
        exact hnew r hr heq, h.uniqueDates⟩
    rw [Keyed.lookup_perm hunique (List.perm_insertIdx _ _ hle), Keyed.lookup_cons]
    dsimp only
    by_cases heq : date = date'
    · subst heq
      rw [if_pos rfl]
      exact Dictionary.objectForKey_setObject_same _ _ _
    · rw [if_neg heq, ← h.known]
      exact Dictionary.objectForKey_setObject_of_ne _ _ (Ne.symm heq)
  · have hsorted' : (HistoryEntryInserter.insertObject s.dates date index).Pairwise
        fun a b => -a < -b := by
      rw [hdates, List.map_insertIdx, ← h.dates]
      exact hsorted
    rw [hdates] at hsorted'
    exact (List.pairwise_map (f := HistorySection.date) (R := fun a b : Int => -a < -b)).1 hsorted'
  · intro r hr
    dsimp only
    rcases (hmem r).1 hr with rfl | hr
    · dsimp only
      omega
    · have hassigned := h.assigned r hr
      omega
  · intro id hid
    dsimp only at hid
    rw [take_insertIdx_add _ _ _ _ h.first_le_identifiers] at hid
    exact h.others id hid
  · exact h.notCollapsed
  · intro r hr
    rcases (hmem r).1 hr with rfl | hr
    · exact List.Pairwise.nil
    · exact h.sorted r hr
  · intro r hr
    rcases (hmem r).1 hr with rfl | hr
    · exact fun item hitem => absurd hitem List.not_mem_nil
    · exact h.onTheirDay r hr

theorem rowCounts_insertSection (h : Shows localTime s history) {index : Nat}
    (hle : index ≤ history.length) {identifier : Int}
    (hidentifier : identifier =
      kSectionIdentifierEnumZero + s.firstSectionIndex + s.sectionIdentifierCount)
    (headers : Dictionary Int TableViewTextHeaderFooterItem)
    (hwellFormed : ListModel.WellFormed { s.listModel with
      sectionIdentifiers :=
        s.listModel.sectionIdentifiers.insertIdx (s.firstSectionIndex + index) identifier
      sections := s.listModel.sections.insertIdx (s.firstSectionIndex + index) []
      headers := headers }) :
    (Notification.didInsertSection (s.firstSectionIndex + index)).apply (rowCounts s.listModel) =
      some (rowCounts { s.listModel with
        sectionIdentifiers :=
          s.listModel.sectionIdentifiers.insertIdx (s.firstSectionIndex + index) identifier
        sections := s.listModel.sections.insertIdx (s.firstSectionIndex + index) []
        headers := headers }) := by
  have hlength : (rowCounts s.listModel).length = s.listModel.sections.length := by
    unfold rowCounts
    rw [List.length_map, List.length_range]
    rfl
  have hsections := h.length_sections
  have hnone : s.listModel.collapsedKeys.objectForKey identifier = none := by
    refine h.notCollapsed identifier ?_
    omega
  have hshown : rowsShown { s.listModel with
      sectionIdentifiers :=
        s.listModel.sectionIdentifiers.insertIdx (s.firstSectionIndex + index) identifier
      sections := s.listModel.sections.insertIdx (s.firstSectionIndex + index) []
      headers := headers } (identifier, []) = some 0 := rowsShown_of_none hnone []
  have happly : (Notification.didInsertSection (s.firstSectionIndex + index)).apply
      (rowCounts s.listModel) =
        some ((rowCounts s.listModel).insertIdx (s.firstSectionIndex + index) (some 0)) :=
    if_pos (by omega)
  rw [happly, rowCounts_eq hwellFormed, rowCounts_eq h.wellFormed]
  dsimp only
  rw [zip_insertIdx _ _ _ _ _ h.wellFormed.lengths, List.map_insertIdx, hshown]
  rfl

/-- **The section of a time's day is there from now on.** -/
theorem sectionIdentifierForTimestamp (h : Shows localTime s history) (timestamp : Int) :
    ∃ (s' : HistoryEntryInserter) (history' : List HistorySection) (j : Nat)
      (r : HistorySection) (told : List (Notification × HistoryModel)),
      s.sectionIdentifierForTimestamp localTime timestamp = some (r.identifier, s') ∧
      Shows localTime s' history' ∧ history'[j]? = some r ∧
      r.date = localTime.date timestamp ∧
      history'.map HistorySection.day =
        HistoryDay.add (history.map HistorySection.day) (localTime.date timestamp) ∧
      s'.firstSectionIndex = s.firstSectionIndex ∧
      s'.notifications = s.notifications ++ told ∧
      Matches (rowCounts s.listModel) told (rowCounts s'.listModel) := by
  unfold HistoryEntryInserter.sectionIdentifierForTimestamp
  dsimp only
  have hknown := h.known (localTime.date timestamp)
  cases hlookup : Keyed.lookup HistorySection.date history (localTime.date timestamp) with
  | some r =>
    -- the date has a section
    have hmem := Keyed.mem_of_lookup hlookup
    obtain ⟨j, hj⟩ := List.mem_iff_getElem?.1 hmem
    have hdate : r.date = localTime.date timestamp := Keyed.key_of_lookup hlookup
    rw [hlookup, Option.map_some] at hknown
    have hnonzero : r.identifier ≠ 0 := by
      have hassigned := (h.assigned r hmem).1
      unfold kSectionIdentifierEnumZero at hassigned
      omega
    refine ⟨s, history, j, r, [], ?_, h, hj, hdate, ?_, rfl, (List.append_nil _).symm, rfl⟩
    · rw [hknown, Option.getD_some, if_pos hnonzero]
    · unfold HistoryDay.add
      rw [if_pos ⟨r.day, List.mem_map_of_mem hmem, hdate⟩]
  | none =>
    rw [hlookup, Option.map_none] at hknown
    have hnew := Keyed.lookup_eq_none.1 hlookup
    obtain ⟨index, hindex⟩ : ∃ index, BinarySearch.indexOfObject
        HistoryEntryInserter.dateComparator s.dates (localTime.date timestamp) .insertionIndex =
          some index := ⟨_, rfl⟩
    obtain ⟨hle, -, htake, hdrop⟩ := h.insertionIndex hnew hindex
    obtain ⟨identifier, hidentifier⟩ : ∃ identifier : Int, identifier =
        kSectionIdentifierEnumZero + s.firstSectionIndex + s.sectionIdentifierCount := ⟨_, rfl⟩
    have hfresh := h.identifier_fresh
    have hsections := h.length_sections
    have hinsert : s.listModel.insertSectionWithIdentifier identifier
        (s.firstSectionIndex + index) = some { s.listModel with
          sectionIdentifiers :=
            s.listModel.sectionIdentifiers.insertIdx (s.firstSectionIndex + index) identifier
          sections := s.listModel.sections.insertIdx (s.firstSectionIndex + index) [] } := by
      refine ListModel.insertSectionWithIdentifier_eq_some.2 ⟨by omega, ?_, by omega, rfl⟩
      rw [hidentifier]
      exact List.idxOf?_eq_none_iff.2 hfresh
    rw [hknown, Option.getD_none, if_neg (by simp), ← hidentifier]
    simp only [hindex, hinsert, Option.bind_eq_bind, Option.bind_some, ListModel.setHeader]
    have hshows := h.insertSection hnew hindex hidentifier
    refine ⟨_, _, index, ⟨localTime.date timestamp, identifier, []⟩, _, rfl, hshows _ _, ?_, rfl,
      ?_, rfl, rfl, ?_, rfl⟩
    · rw [List.getElem?_insertIdx_self, if_pos hle]
    · have hne : ¬ ∃ day ∈ history.map HistorySection.day,
          day.date = localTime.date timestamp := by
        rintro ⟨day, hday, heq⟩
        obtain ⟨r, hr, rfl⟩ := List.mem_map.1 hday
        exact hnew r hr heq
      unfold HistoryDay.add
      rw [if_neg hne, insertIdx_eq_take_append _ _ _ hle, htake, hdrop, List.map_append,
        List.map_cons, List.filter_map, List.filter_map]
      rfl
    · exact h.rowCounts_insertSection hle hidentifier _ (hshows _ []).wellFormed

/-- **`insertHistoryEntryItem` inserts the entry for its day.** -/
theorem insertHistoryEntryItem (h : Shows localTime s history) {item : HistoryEntryItem}
    (htype : kItemTypeEnumZero ≤ item.type) :
    ∃ (s' : HistoryEntryInserter) (history' : List HistorySection)
      (told : List (Notification × HistoryModel)),
      s.insertHistoryEntryItem localTime item = some s' ∧
      Shows localTime s' history' ∧
      history'.map HistorySection.day = HistoryDay.insertEntry
        (history.map HistorySection.day) (localTime.date item.timestamp) item.entry ∧
      s'.firstSectionIndex = s.firstSectionIndex ∧
      s'.notifications = s.notifications ++ told ∧
      Matches (rowCounts s.listModel) told (rowCounts s'.listModel) := by
  obtain ⟨s₁, history₁, j, r, told₁, hsection, h₁, hr, hdate, hdays, hfirst₁, htold₁, hmatches₁⟩ :=
    h.sectionIdentifierForTimestamp item.timestamp
  obtain ⟨s₂, items, told₂, hitem, h₂, hentries, hfirst₂, htold₂, hmatches₂⟩ :=
    h₁.insertInSection hr htype hdate.symm
  refine ⟨s₂, _, told₁ ++ told₂, ?_, h₂, ?_, hfirst₂.trans hfirst₁, ?_,
    hmatches₁.append hmatches₂⟩
  · unfold HistoryEntryInserter.insertHistoryEntryItem
    rw [hsection]
    exact hitem
  · -- the day of the section is the one that changes
    have hunique : Keyed.Unique HistoryDay.date (history₁.map HistorySection.day) := by
      unfold Keyed.Unique
      rw [List.map_map]
      exact h₁.uniqueDates
    have hday : (history₁.map HistorySection.day)[j]? = some r.day := by
      rw [List.getElem?_map, hr]
      rfl
    have hset := Keyed.map_update_eq_set hunique hday fun day =>
      { day with entries := insert item.entry day.entries }
    have hrday : r.day.date = localTime.date item.timestamp := hdate
    unfold HistoryDay.insertEntry
    rw [← hdays, ← hrday, hset, List.map_set]
    congr 1
    unfold HistorySection.day
    rw [hentries]
  · rw [htold₂, htold₁, List.append_assoc]

/-! ## A section is removed -/

theorem lookup_date (h : Shows localTime s history) (hr : history[j]? = some r) :
    s.sectionIdentifiers.objectForKey r.date = some r.identifier := by
  rw [h.known, Keyed.lookup_getElem? h.uniqueDates hr]
  rfl

theorem uniqueIdentifiers (h : Shows localTime s history) :
    Keyed.Unique HistorySection.identifier history := by
  unfold Keyed.Unique
  rw [← h.identifiers]
  exact h.wellFormed.nodup.sublist (List.drop_sublist _ _)

/-- The enumeration finds the date of the section. -/
theorem find_identifier (h : Shows localTime s history) (hr : history[j]? = some r) :
    s.sectionIdentifiers.find? (fun entry => entry.2 = r.identifier) =
      some (r.date, r.identifier) := by
  obtain ⟨entry, hentry, hvalue⟩ := Option.map_eq_some_iff.1 (h.lookup_date hr)
  have hin := Keyed.mem_of_lookup hentry
  cases hfind : s.sectionIdentifiers.find? fun entry => entry.2 = r.identifier with
  | none =>
    have hno := List.find?_eq_none.1 hfind entry hin
    exact absurd hvalue (by simpa using hno)
  | some found =>
    obtain ⟨date, identifier⟩ := found
    have hidentifier : identifier = r.identifier := by simpa using List.find?_some hfind
    subst hidentifier
    -- the date it is kept under has a section of the identifier
    have hkept : s.sectionIdentifiers.objectForKey date = some r.identifier := by
      unfold Dictionary.objectForKey
      rw [(Keyed.lookup_eq_some h.uniqueKeys).2 ⟨List.mem_of_find?_eq_some hfind, rfl⟩]
      rfl
    rw [h.known] at hkept
    obtain ⟨r', hr', hsame⟩ := Option.map_eq_some_iff.1 hkept
    have heq : r' = r := h.uniqueIdentifiers.eq_of_mem (Keyed.mem_of_lookup hr')
      (List.mem_of_getElem? hr) hsame
    have hdate : r'.date = date := Keyed.key_of_lookup hr'
    rw [← hdate, heq]

/-- The state once a section is gone. -/
theorem eraseSection (h : Shows localTime s history) (hr : history[j]? = some r)
    (hwellFormed : ListModel.WellFormed { s.listModel with
      sectionIdentifiers := s.listModel.sectionIdentifiers.eraseIdx (s.firstSectionIndex + j)
      sections := s.listModel.sections.eraseIdx (s.firstSectionIndex + j) })
    (notifications : List (Notification × HistoryModel)) :
    Shows localTime
      { s with
        listModel := { s.listModel with
          sectionIdentifiers := s.listModel.sectionIdentifiers.eraseIdx (s.firstSectionIndex + j)
          sections := s.listModel.sections.eraseIdx (s.firstSectionIndex + j) }
        dates := s.dates.erase r.date
        sectionIdentifiers := s.sectionIdentifiers.removeObjectForKey r.date
        notifications := notifications }
      (history.eraseIdx j) := by
  have hat := h.itemsAt hr
  have hlt : s.firstSectionIndex + j < s.listModel.sections.length :=
    (List.getElem?_eq_some_iff.1 hat).1
  have hmem : ∀ b ∈ history.eraseIdx j, b ∈ history := fun b hb => List.mem_of_mem_eraseIdx hb
  -- by date, the section is what is removed
  have herase : Keyed.remove HistorySection.date history r.date = history.eraseIdx j :=
    Keyed.remove_eq_eraseIdx h.uniqueDates hr
  refine ⟨hwellFormed, ?_, ?_, ?_, ?_, h.uniqueKeys.remove _, ?_, ?_, ?_, ?_, h.notCollapsed,
    ?_, ?_⟩
  · dsimp only
    rw [List.length_eraseIdx_of_lt hlt]
    omega
  · dsimp only
    rw [drop_eraseIdx_add, h.identifiers, List.eraseIdx_map]
  · dsimp only
    rw [drop_eraseIdx_add, h.sections, List.eraseIdx_map]
  · have hnodup : s.dates.Nodup := by
      rw [h.dates]
      exact h.uniqueDates
    dsimp only
    rw [hnodup.erase_eq_filter, h.dates, List.filter_map, ← herase]
    unfold Keyed.remove
    refine congrArg (List.map _) (List.filter_congr fun b _ => ?_)
    by_cases hdate : b.date = r.date <;> simp [hdate]
  · intro date
    dsimp only
    rw [← herase]
    by_cases heq : date = r.date
    · rw [heq, Keyed.lookup_remove_same]
      exact Dictionary.objectForKey_removeObjectForKey_same _ _
    · rw [Keyed.lookup_remove_of_ne _ heq, ← h.known]
      exact Dictionary.objectForKey_removeObjectForKey_of_ne _ heq
  · exact h.decreasing.sublist (List.eraseIdx_sublist _ _)
  · exact fun b hb => h.assigned b (hmem b hb)
  · intro id hid
    dsimp only at hid
    rw [List.take_eraseIdx_eq_take_of_le _ _ _ (Nat.le_add_right _ j)] at hid
    exact h.others id hid
  · exact fun b hb => h.sorted b (hmem b hb)
  · exact fun b hb => h.onTheirDay b (hmem b hb)

/-- **`removeSection` removes an emptied day.** -/
theorem removeSection (h : Shows localTime s history) (hr : history[j]? = some r)
    (hempty : r.items = []) :
    ∃ (s' : HistoryEntryInserter) (told : List (Notification × HistoryModel)),
      s.removeSection (s.firstSectionIndex + j) = some s' ∧
      Shows localTime s' (history.eraseIdx j) ∧
      s'.firstSectionIndex = s.firstSectionIndex ∧
      s'.notifications = s.notifications ++ told ∧
      Matches (rowCounts s.listModel) told (rowCounts s'.listModel) := by
  have hremove : s.listModel.removeSectionWithIdentifier r.identifier = some { s.listModel with
      sectionIdentifiers := s.listModel.sectionIdentifiers.eraseIdx (s.firstSectionIndex + j)
      sections := s.listModel.sections.eraseIdx (s.firstSectionIndex + j) } := by
    refine ListModel.removeSectionWithIdentifier_eq_some.2 ⟨_, h.sectionOf hr, ?_⟩
    rw [Dictionary.removeObjectForKey_of_none (h.notCollapsedAt hr)]
  have hwellFormed := @ListModel.WellFormed.perform _ _ _ _ _ h.wellFormed
    (.removeSection r.identifier) hremove
  have hidentifier : s.listModel.sectionIdentifierForSection (s.firstSectionIndex + j) =
      some r.identifier := h.identifierAt hr
  unfold HistoryEntryInserter.removeSection
  simp only [hidentifier, h.itemsOf hr, hempty, hremove, h.find_identifier hr,
    Option.bind_eq_bind, Option.bind_some, guard_true, Option.pure_def]
  refine ⟨_, _, rfl, h.eraseSection hr hwellFormed _, rfl, rfl, ?_, rfl⟩
  have hrows := h.rowCountsAt hr
  rw [hempty] at hrows
  have happly : (Notification.didRemoveSection (s.firstSectionIndex + j)).apply
      (rowCounts s.listModel) =
        some ((rowCounts s.listModel).eraseIdx (s.firstSectionIndex + j)) := if_pos hrows
  rw [happly, rowCounts_eq hwellFormed, rowCounts_eq h.wellFormed]
  dsimp only
  rw [zip_eraseIdx, List.eraseIdx_map]
  rfl

/-! ## The client deletes an item -/

/-- The items of a section of another's change. -/
theorem setOther (h : Shows localTime s history) {k : Nat} (hk : k < s.firstSectionIndex)
    (items : List HistoryEntryItem) :
    Shows localTime
      { s with listModel := { s.listModel with sections := s.listModel.sections.set k items } }
      history :=
  { h with
    wellFormed := ⟨h.wellFormed.nodup, by simp [h.wellFormed.lengths], h.wellFormed.keys⟩
    first_le := by simpa using h.first_le
    sections := by
      dsimp only
      rw [List.drop_set_of_lt hk]
      exact h.sections }

theorem toFinset_eraseIdx {items : List HistoryEntryItem} {place : Nat} {item : HistoryEntryItem}
    (hsorted : SortedSet.Sorted entryKey items) (hitem : items[place]? = some item) :
    ((items.eraseIdx place).map HistoryEntryItem.entry).toFinset =
      (items.map HistoryEntryItem.entry).toFinset.erase item.entry := by
  have hnodup : items.Nodup := hsorted.imp fun hlt heq => absurd (heq ▸ hlt) (lt_irrefl _)
  ext entry
  simp only [List.mem_toFinset, List.mem_map, Finset.mem_erase, mem_eraseIdx_iff hnodup hitem]
  constructor
  · rintro ⟨b, ⟨hne, hb⟩, rfl⟩
    refine ⟨fun heq => hne ?_, b, hb, rfl⟩
    have hkey : entryKey b = entryKey item := by
      have hpair := Prod.mk.inj heq
      unfold entryKey
      rw [hpair.1, hpair.2]
    exact hsorted.eq_of_key hb (List.mem_of_getElem? hitem) hkey
  · rintro ⟨hne, b, hb, rfl⟩
    exact ⟨b, ⟨fun heq => hne (congrArg HistoryEntryItem.entry heq), hb⟩, rfl⟩

/-- **A deletion takes the entry of the item from its day.** -/
theorem removeItem (h : Shows localTime s history) {itemType sectionIdentifier : Int}
    {index : Nat} {model : HistoryModel}
    (hremove : s.listModel.removeItemWithType itemType sectionIdentifier index = some model) :
    ∃ (history' : List HistorySection) (k place : Nat) (item : HistoryEntryItem),
      s.listModel.indexPathForItemType itemType sectionIdentifier index =
        some ⟨k, some place⟩ ∧
      s.listModel.itemAtIndexPath ⟨k, some place⟩ = some item ∧
      Shows localTime { s with listModel := model } history' ∧
      history'.map HistorySection.day =
        if s.firstSectionIndex ≤ k then
          HistoryDay.eraseEntry (history.map HistorySection.day) (k - s.firstSectionIndex)
            item.entry
        else history.map HistorySection.day := by
  obtain ⟨k, items, place, hsection, hitems, hplace, rfl⟩ :=
    ListModel.removeItemWithType_eq_some.1 hremove
  have hlt : place < items.length := by
    rw [itemForItemType_eq] at hplace
    simpa using List.lt_add_of_mem_findIdxs place (List.mem_of_getElem? hplace)
  have hitem : items[place]? = some items[place] := List.getElem?_eq_getElem hlt
  have hpath : s.listModel.indexPathForItemType itemType sectionIdentifier index =
      some ⟨k, some place⟩ := by
    unfold ListModel.indexPathForItemType
    simp [hsection, hitems, hplace]
  have hat : s.listModel.itemAtIndexPath ⟨k, some place⟩ = some items[place] := by
    unfold ListModel.itemAtIndexPath
    simp [hitems, hitem]
  by_cases hk : s.firstSectionIndex ≤ k
  · obtain ⟨j, rfl⟩ := Nat.exists_eq_add_of_le hk
    -- the section is the inserter's
    have hsections : (history.map HistorySection.items)[j]? = some items := by
      rw [← h.sections, List.getElem?_drop, hitems]
    rw [List.getElem?_map] at hsections
    obtain ⟨r, hr, rfl⟩ := Option.map_eq_some_iff.1 hsections
    have hsorted := h.sorted r (List.mem_of_getElem? hr)
    have hshows := h.setItems hr (hsorted.sublist (List.eraseIdx_sublist r.items place))
      (fun a ha => h.onTheirDay r (List.mem_of_getElem? hr) a (List.mem_of_mem_eraseIdx ha))
      s.notifications
    refine ⟨_, _, place, r.items[place], hpath, hat, hshows, ?_⟩
    rw [if_pos hk, Nat.add_sub_cancel_left, List.map_set]
    have hday : HistorySection.day { r with items := r.items.eraseIdx place } =
        { r.day with entries := r.day.entries.erase r.items[place].entry } := by
      unfold HistorySection.day
      dsimp only
      rw [toFinset_eraseIdx hsorted hitem]
    have hdays : (history.map HistorySection.day)[j]? = some r.day := by
      rw [List.getElem?_map, hr]
      rfl
    unfold HistoryDay.eraseEntry
    rw [hday, modify_eq_set_of_getElem? _ hdays]
  · refine ⟨history, k, place, items[place], hpath, hat,
      h.setOther (Nat.lt_of_not_le hk) (items.eraseIdx place), ?_⟩
    rw [if_neg hk]

end Shows

end IosChrome.Lists

import Mathlib.Data.String.Basic
import IosChrome.Lib.BinarySearch
import IosChrome.Lists.ListModel

/-!
# The history entry inserter

`HistoryEntryInserter` keeps the history entries of a list model in sections, one for each
local day. Its dates, its map from dates to section identifiers and the sections of the
model are three containers; where something belongs in them two binary searches say. A
method answers `none` where an assertion fails.

Times are in microseconds since the Windows epoch. The local midnight of a time and the
text of a section's header are the time zone's to say (`LocalTime`).
-/

namespace IosChrome.Lists

open Lib

/-! ## Items -/

/-- `HistoryEntryItem`: the object, with its URL and its time. An item of a section that is
not the inserter's is an object with a type; nobody asks for its URL and its time. -/
structure HistoryEntryItem where
  object : Nat
  type : Int
  URL : String
  timestamp : Int
  deriving DecidableEq, Repr

def HistoryEntryItem.isEqualToHistoryEntryItem (self item : HistoryEntryItem) : Bool :=
  item.URL = self.URL && item.timestamp = self.timestamp

instance : ListItem HistoryEntryItem where
  type := HistoryEntryItem.type
  isEqual self object := if self = object then true else self.isEqualToHistoryEntryItem object
  isEqual_self _ := if_pos rfl

structure TableViewTextHeaderFooterItem where
  type : Int
  text : String
  deriving DecidableEq, Repr

abbrev HistoryModel := ListModel HistoryEntryItem TableViewTextHeaderFooterItem

structure LocalTime where
  localMidnight : Int → Int
  /-- `history::GetRelativeDateLocalized`. -/
  relativeDateLocalized : Int → String

def unixEpoch : Int := 11644473600 * 1000000

/-- The date of a time: the seconds from the Unix epoch to its local midnight. -/
def LocalTime.date (localTime : LocalTime) (timestamp : Int) : Int :=
  (localTime.localMidnight timestamp - unixEpoch).tdiv 1000000

/-! ## The inserter -/

inductive Notification where
  | didInsertItem (indexPath : IndexPath)
  | didInsertSection (sectionIndex : Nat)
  | didRemoveSection (sectionIndex : Nat)
  deriving DecidableEq, Repr

structure HistoryEntryInserter where
  listModel : HistoryModel
  firstSectionIndex : Nat
  sectionIdentifierCount : Nat
  dates : List Int
  sectionIdentifiers : Dictionary Int Int
  /-- What the delegate has been told, with the list model as it was then. -/
  notifications : List (Notification × HistoryModel)

namespace HistoryEntryInserter

def initWithModel (listModel : HistoryModel) : HistoryEntryInserter where
  listModel := listModel
  firstSectionIndex := listModel.numberOfSections
  sectionIdentifierCount := 0
  dates := []
  sectionIdentifiers := []
  notifications := []

/-- `insertObject:atIndex:` of an ordered set. -/
def insertObject (dates : List Int) (date : Int) (index : Nat) : List Int :=
  if date ∈ dates then dates else dates.insertIdx index date

/-- Dates are ordered from most to least recent. -/
def dateComparator (obj1 obj2 : Int) : Ordering := compare obj2 obj1

/-- History entries are ordered from most to least recent. -/
def objectComparator (firstObject secondObject : HistoryEntryItem) : Ordering :=
  if ListItem.isEqual firstObject secondObject then .eq
  else if firstObject.timestamp > secondObject.timestamp then .lt
  else if firstObject.timestamp < secondObject.timestamp then .gt
  else if firstObject.URL < secondObject.URL then .lt
  else .gt

def sectionIdentifierForTimestamp (s : HistoryEntryInserter) (localTime : LocalTime)
    (timestamp : Int) : Option (Int × HistoryEntryInserter) :=
  let date := localTime.date timestamp
  -- messaged to nil, `integerValue` is 0
  let sectionIdentifier := (s.sectionIdentifiers.objectForKey date).getD 0
  if sectionIdentifier ≠ 0 then some (sectionIdentifier, s)
  else do
    let sectionIdentifier :=
      kSectionIdentifierEnumZero + s.firstSectionIndex + s.sectionIdentifierCount
    let index ← BinarySearch.indexOfObject dateComparator s.dates date .insertionIndex
    let insertionIndex := s.firstSectionIndex + index
    let inserted ← s.listModel.insertSectionWithIdentifier sectionIdentifier insertionIndex
    let header : TableViewTextHeaderFooterItem :=
      ⟨kItemTypeEnumZero, localTime.relativeDateLocalized timestamp⟩
    let listModel := inserted.setHeader (some header) sectionIdentifier
    some (sectionIdentifier,
      { s with
        listModel := listModel
        sectionIdentifierCount := s.sectionIdentifierCount + 1
        dates := insertObject s.dates date index
        sectionIdentifiers := s.sectionIdentifiers.setObject date sectionIdentifier
        notifications := s.notifications ++ [(.didInsertSection insertionIndex, listModel)] })

/-- What is done once the item's section is there. -/
def insertInSection (s : HistoryEntryInserter) (item : HistoryEntryItem)
    (sectionIdentifier : Int) : Option HistoryEntryInserter := do
  let items ← s.listModel.itemsInSectionWithIdentifier sectionIdentifier
  match BinarySearch.indexOfObject objectComparator items item .firstEqual with
  | some _ => some s
  | none =>
    let index ← BinarySearch.indexOfObject objectComparator items item .insertionIndex
    let sectionIndex ← s.listModel.sectionForSectionIdentifier sectionIdentifier
    let tableViewRow ← s.listModel.numberOfItemsInSection sectionIndex
    let listModel ← s.listModel.insertItem item sectionIdentifier index
    some { s with
      listModel := listModel
      notifications := s.notifications ++
        [(.didInsertItem ⟨sectionIndex, some tableViewRow⟩, listModel)] }

def insertHistoryEntryItem (s : HistoryEntryInserter) (localTime : LocalTime)
    (item : HistoryEntryItem) : Option HistoryEntryInserter := do
  let (sectionIdentifier, s) ← s.sectionIdentifierForTimestamp localTime item.timestamp
  s.insertInSection item sectionIdentifier

def removeSection (s : HistoryEntryInserter) (sectionIndex : Nat) :
    Option HistoryEntryInserter := do
  let sectionIdentifier ← s.listModel.sectionIdentifierForSection sectionIndex
  let items ← s.listModel.itemsInSectionWithIdentifier sectionIdentifier
  guard (items = [])
  let listModel ← s.listModel.removeSectionWithIdentifier sectionIdentifier
  let removed : HistoryEntryInserter :=
    match s.sectionIdentifiers.find? fun entry => entry.2 = sectionIdentifier with
    | some (date, _) =>
      { s with
        sectionIdentifiers := s.sectionIdentifiers.removeObjectForKey date
        dates := s.dates.erase date }
    | none => s
  some { removed with
    listModel := listModel
    notifications := s.notifications ++ [(.didRemoveSection sectionIndex, listModel)] }

end HistoryEntryInserter

end IosChrome.Lists

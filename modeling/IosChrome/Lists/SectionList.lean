import Mathlib.Data.List.Infix
import IosChrome.Lists.ListModel

/-!
# A list of sections

What a list model is for: one list of sections, each with all that belongs to it, so that
what happens to a section happens to all of it. `Agrees` says that a model answers every
query as such a list does, and `Represents` how the five containers of a model hold one;
`Represents.agrees` takes the second to the first.
-/

namespace IosChrome.Lists

open Lib

variable {I S : Type}

structure Section (I S : Type) where
  identifier : Int
  items : List I
  header : Option S
  footer : Option S
  collapsedKey : Option String
  deriving DecidableEq

/-- A section as it is added. -/
def Section.empty (identifier : Int) : Section I S := ⟨identifier, [], none, none, none⟩

structure SectionList (I S : Type) where
  sections : List (Section I S)
  collapsableMode : ListModelCollapsableMode
  collapsableMediator : ListModelCollapsedMediator

/-- The places of the items of a type. -/
def places [ListItem I] (itemType : Int) (items : List I) : List Nat :=
  items.findIdxs fun item => ListItem.type item = itemType

namespace SectionList

/-! ## Modifications -/

def find (list : SectionList I S) (identifier : Int) : Option (Section I S) :=
  Keyed.lookup Section.identifier list.sections identifier

/-- Changes the section with the identifier, if there is one. -/
def update (list : SectionList I S) (identifier : Int) (f : Section I S → Section I S) :
    SectionList I S :=
  { list with sections := list.sections.map fun s => if s.identifier = identifier then f s else s }

def perform [ListItem I] (list : SectionList I S) : ListModel.Modification I S → SectionList I S
  | .addSection identifier => { list with sections := list.sections ++ [.empty identifier] }
  | .insertSection identifier index =>
    { list with sections := list.sections.insertIdx index (.empty identifier) }
  | .addItem item identifier =>
    list.update identifier fun s => { s with items := s.items ++ [item] }
  | .insertItem item identifier index =>
    list.update identifier fun s => { s with items := s.items.insertIdx index item }
  | .removeItem itemType identifier index =>
    list.update identifier fun s =>
      { s with
        items := match (places itemType s.items)[index]? with
          | some place => s.items.eraseIdx place
          | none => s.items }
  | .removeSection identifier =>
    { list with sections := Keyed.remove Section.identifier list.sections identifier }
  | .deleteAllItems identifier => list.update identifier fun s => { s with items := [] }
  | .setHeader header identifier => list.update identifier fun s => { s with header := header }
  | .setFooter footer identifier => list.update identifier fun s => { s with footer := footer }
  | .setCollapsedKey identifier collapsedKey =>
    list.update identifier fun s => { s with collapsedKey := some collapsedKey }
  | .setCollapsed identifier collapsed =>
    match (list.find identifier).bind Section.collapsedKey with
    | some sectionKey =>
      { list with
        collapsableMediator := list.collapsableMediator.setSectionKey sectionKey collapsed }
    | none => list
  | .setCollapsableMode mode => { list with collapsableMode := mode }

theorem perform_removeItem [ListItem I] (list : SectionList I S) (itemType identifier : Int)
    (index : Nat) : list.perform (.removeItem itemType identifier index) =
      list.update identifier fun s =>
        { s with items := (places itemType s.items)[index]?.elim s.items s.items.eraseIdx } := by
  unfold perform
  refine congrArg (list.update identifier) (funext fun s => ?_)
  cases (places itemType s.items)[index]? with
  | some place => rfl
  | none => rfl

/-! ## Queries -/

def isCollapsed (list : SectionList I S) (s : Section I S) : Bool :=
  match s.collapsedKey with
  | some sectionKey => list.collapsableMediator.sectionKeyIsCollapsed sectionKey
  | none => false

/-- How many items of a section are shown. A collapsed section without items has no first
cell to show. -/
def shownItems (list : SectionList I S) (s : Section I S) : Option Nat :=
  if list.isCollapsed s then
    match list.collapsableMode with
    | .header => some 0
    | .firstCell => if s.items = [] then none else some 1
  else some s.items.length

/-- All items, in order, with their paths. -/
def entries (list : SectionList I S) : List (IndexPath × I) :=
  list.sections.zipIdx.flatMap fun (s, sectionIndex) =>
    s.items.zipIdx.map fun (item, itemIndex) => (⟨sectionIndex, some itemIndex⟩, item)

def itemAt (list : SectionList I S) (indexPath : IndexPath) : Option I :=
  (list.sections[indexPath.sectionIndex]?).bind fun s =>
    indexPath.item.bind fun itemIndex => s.items[itemIndex]?

/-- The items of an item's type before its first place. -/
def indexInItemType [DecidableEq I] [ListItem I] (items : List I) (item : I) : Nat :=
  (items.take (items.idxOf item)).countP fun other => ListItem.type other = ListItem.type item

end SectionList

/-- **The model answers every query as the list of sections does.** -/
structure Agrees [DecidableEq I] [ListItem I] (model : ListModel I S) (list : SectionList I S) :
    Prop where
  numberOfSections : model.numberOfSections = list.sections.length
  numberOfItemsInSection : ∀ k,
    model.numberOfItemsInSection k = (list.sections[k]?).bind list.shownItems
  sectionIsCollapsed : ∀ identifier,
    model.sectionIsCollapsed identifier = (list.find identifier).map list.isCollapsed
  sectionIdentifierForSection : ∀ k,
    model.sectionIdentifierForSection k = (list.sections[k]?).map Section.identifier
  sectionForSectionIdentifier : ∀ identifier,
    model.sectionForSectionIdentifier identifier =
      list.sections.findIdx? fun s => s.identifier = identifier
  hasSectionForSectionIdentifier : ∀ identifier,
    model.hasSectionForSectionIdentifier identifier = (list.find identifier).isSome
  headerForSection : ∀ k, model.headerForSection k = (list.sections[k]?).map Section.header
  footerForSection : ∀ k, model.footerForSection k = (list.sections[k]?).map Section.footer
  headerForSectionWithIdentifier : ∀ identifier,
    model.headerForSectionWithIdentifier identifier =
      (list.find identifier).bind Section.header
  footerForSectionWithIdentifier : ∀ identifier,
    model.footerForSectionWithIdentifier identifier =
      (list.find identifier).bind Section.footer
  itemsInSectionWithIdentifier : ∀ identifier,
    model.itemsInSectionWithIdentifier identifier = (list.find identifier).map Section.items
  hasItemAtIndexPath : ∀ indexPath,
    model.hasItemAtIndexPath indexPath = (indexPath.bind list.itemAt).isSome
  itemAtIndexPath : ∀ indexPath, model.itemAtIndexPath indexPath = list.itemAt indexPath
  itemTypeForIndexPath : ∀ indexPath,
    model.itemTypeForIndexPath indexPath = (list.itemAt indexPath).map ListItem.type
  indexInItemTypeForIndexPath : ∀ indexPath,
    model.indexInItemTypeForIndexPath indexPath =
      (list.sections[indexPath.sectionIndex]?).bind fun s =>
        (list.itemAt indexPath).map (SectionList.indexInItemType s.items)
  hasItemForItemType : ∀ itemType identifier index,
    model.hasItemForItemType itemType identifier index =
      some ((list.find identifier).bind fun s => (places itemType s.items)[index]?).isSome
  indexPathForItemType : ∀ itemType identifier index,
    model.indexPathForItemType itemType identifier index =
      (list.sections.findIdx? fun s => s.identifier = identifier).bind fun k =>
        (list.find identifier).map fun s => ⟨k, (places itemType s.items)[index]?⟩
  indexPathForItemTypeInAll : ∀ itemType,
    model.indexPathForItemTypeInAll itemType =
      (list.entries.find? fun entry => ListItem.type entry.2 = itemType).map Prod.fst
  indexPathsForItemType : ∀ itemType identifier,
    model.indexPathsForItemType itemType identifier =
      (list.sections.findIdx? fun s => s.identifier = identifier).bind fun k =>
        (list.find identifier).map fun s =>
          (places itemType s.items).map fun place => ⟨k, some place⟩
  hasItemInSection : ∀ item identifier,
    model.hasItemInSection item identifier =
      (list.find identifier).map fun s => s.items.any (ListItem.isEqual item)
  hasItem : ∀ item,
    model.hasItem item =
      some (list.sections.any fun s => s.items.any (ListItem.isEqual item))
  indexPathForItem : ∀ item,
    model.indexPathForItem item =
      (list.entries.find? fun entry => ListItem.isEqual item entry.2).map Prod.fst

/-- The containers of a model that are keyed by position hold the sections of the list. -/
structure HoldsItems (model : ListModel I S) (list : SectionList I S) : Prop where
  unique : Keyed.Unique Section.identifier list.sections
  identifiers : model.sectionIdentifiers = list.sections.map Section.identifier
  items : model.sections = list.sections.map Section.items

/-- How the containers of a model hold a list of sections. -/
structure Represents (model : ListModel I S) (list : SectionList I S) : Prop
    extends HoldsItems model list where
  headers : ∀ identifier,
    model.headers.objectForKey identifier = (list.find identifier).bind Section.header
  footers : ∀ identifier,
    model.footers.objectForKey identifier = (list.find identifier).bind Section.footer
  collapsedKeys : ∀ identifier,
    model.collapsedKeys.objectForKey identifier =
      (list.find identifier).bind Section.collapsedKey
  mode : model.collapsableMode = list.collapsableMode
  mediator : model.collapsableMediator = list.collapsableMediator

end IosChrome.Lists

import Mathlib.Data.Option.Basic
import IosChrome.Lib.Dictionary

/-!
# The list model

`ListModel`, the model behind table and collection views: sections with an identifier, a
header, a footer and items with a type, kept in five containers. Items are objects:
`=` on them is identity, and what `isEqual:` says is theirs to define (`ListItem`).
A method answers `none` where one of its assertions fails.
-/

namespace IosChrome.Lists

open Lib

/-- `ListItem`: the type of an item, which nothing changes once it is in a model,
and its `isEqual:`. -/
class ListItem (I : Type) where
  type : I → Int
  isEqual : I → I → Bool
  isEqual_self : ∀ item, isEqual item item = true

/-- An item that is a `ListItem` and nothing more: the object, and its type. -/
structure PlainItem where
  object : Nat
  type : Int
  deriving DecidableEq, Repr

instance : ListItem PlainItem where
  type := PlainItem.type
  isEqual item item' := item = item'
  isEqual_self _ := decide_eq_true rfl

def kSectionIdentifierEnumZero : Int := 10
def kItemTypeEnumZero : Int := 100

/-- `NSIndexPath`. No `item` is `NSNotFound`. -/
structure IndexPath where
  sectionIndex : Nat
  item : Option Nat
  deriving DecidableEq, Repr

inductive ListModelCollapsableMode where
  | header
  | firstCell
  deriving DecidableEq, Repr

/-- `ListModelCollapsedMediator`, with what the user defaults have under
`kListModelCollapsedKey`. -/
structure ListModelCollapsedMediator where
  collapsedSections : Dictionary String Bool
  deriving DecidableEq, Repr

def ListModelCollapsedMediator.setSectionKey (mediator : ListModelCollapsedMediator)
    (sectionKey : String) (collapsed : Bool) : ListModelCollapsedMediator :=
  { mediator with
    collapsedSections := mediator.collapsedSections.setObject sectionKey collapsed }

def ListModelCollapsedMediator.sectionKeyIsCollapsed (mediator : ListModelCollapsedMediator)
    (sectionKey : String) : Bool :=
  (mediator.collapsedSections.objectForKey sectionKey).getD false

structure ListModel (I S : Type) where
  sectionIdentifiers : List Int
  sections : List (List I)
  headers : Dictionary Int S
  footers : Dictionary Int S
  collapsedKeys : Dictionary Int String
  collapsableMode : ListModelCollapsableMode
  collapsableMediator : ListModelCollapsedMediator
  deriving DecidableEq, Repr

namespace ListModel

variable {I S : Type}

/-- `init`, where the user defaults are as earlier models left them. -/
def init (mediator : ListModelCollapsedMediator) : ListModel I S :=
  ⟨[], [], [], [], [], .header, mediator⟩

/-! ## Private methods -/

def internalSectionForIdentifier (model : ListModel I S) (sectionIdentifier : Int) : Option Nat :=
  model.sectionIdentifiers.idxOf? sectionIdentifier

/-- The enumeration of `itemForItemType`, from the index `idx` on. -/
def itemForItemTypeFrom [ListItem I] (itemType : Int) (index : Nat) :
    List I → Nat → Nat → Option Nat
  | [], _, _ => none
  | obj :: rest, idx, indexInItemType =>
    if ListItem.type obj = itemType then
      if indexInItemType = index then some idx
      else itemForItemTypeFrom itemType index rest (idx + 1) (indexInItemType + 1)
    else itemForItemTypeFrom itemType index rest (idx + 1) indexInItemType

def itemForItemType [ListItem I] (itemType : Int) (sectionItems : List I) (index : Nat) :
    Option Nat :=
  itemForItemTypeFrom itemType index sectionItems 0 0

/-- The loop of `indexInItemTypeForItem`; its result is `none` where the item is not found. -/
def indexInItemTypeFrom [DecidableEq I] [ListItem I] (item : I) : List I → Nat → Option Nat
  | [], _ => none
  | sectionItem :: rest, indexInItemType =>
    if sectionItem = item then some indexInItemType
    else if ListItem.type sectionItem = ListItem.type item then
      indexInItemTypeFrom item rest (indexInItemType + 1)
    else indexInItemTypeFrom item rest indexInItemType

/-- `indexOfObject:`. -/
def indexOfObject [ListItem I] (items : List I) (item : I) : Option Nat :=
  items.findIdx? fun obj => ListItem.isEqual item obj

def indexInItemTypeForItem [DecidableEq I] [ListItem I] (item : I) (sectionItems : List I) :
    Option Nat := do
  guard (indexOfObject sectionItems item).isSome
  indexInItemTypeFrom item sectionItems 0

/-! ## Sections -/

def hasSectionForSectionIdentifier (model : ListModel I S) (sectionIdentifier : Int) : Bool :=
  (model.internalSectionForIdentifier sectionIdentifier).isSome

def sectionForSectionIdentifier (model : ListModel I S) (sectionIdentifier : Int) : Option Nat :=
  model.internalSectionForIdentifier sectionIdentifier

/-! ## Modification methods -/

def addSectionWithIdentifier (model : ListModel I S) (sectionIdentifier : Int) :
    Option (ListModel I S) := do
  guard (kSectionIdentifierEnumZero ≤ sectionIdentifier)
  guard (model.internalSectionForIdentifier sectionIdentifier = none)
  some { model with
    sectionIdentifiers := model.sectionIdentifiers ++ [sectionIdentifier]
    sections := model.sections ++ [[]] }

def insertSectionWithIdentifier (model : ListModel I S) (sectionIdentifier : Int)
    (index : Nat) : Option (ListModel I S) := do
  guard (kSectionIdentifierEnumZero ≤ sectionIdentifier)
  guard (model.internalSectionForIdentifier sectionIdentifier = none)
  guard (index ≤ model.sections.length)
  some { model with
    sectionIdentifiers := model.sectionIdentifiers.insertIdx index sectionIdentifier
    sections := model.sections.insertIdx index [] }

def addItem [ListItem I] (model : ListModel I S) (item : I) (sectionIdentifier : Int) :
    Option (ListModel I S) := do
  guard (kItemTypeEnumZero ≤ ListItem.type item)
  let sectionIndex ← model.sectionForSectionIdentifier sectionIdentifier
  let items ← model.sections[sectionIndex]?
  some { model with sections := model.sections.set sectionIndex (items ++ [item]) }

def insertItem [ListItem I] (model : ListModel I S) (item : I) (sectionIdentifier : Int)
    (index : Nat) : Option (ListModel I S) := do
  guard (kItemTypeEnumZero ≤ ListItem.type item)
  let sectionIndex ← model.sectionForSectionIdentifier sectionIdentifier
  let items ← model.sections[sectionIndex]?
  guard (index ≤ items.length)
  some { model with sections := model.sections.set sectionIndex (items.insertIdx index item) }

/-- `removeItemWithType:fromSectionWithIdentifier:atIndex:`. -/
def removeItemWithType [ListItem I] (model : ListModel I S) (itemType : Int)
    (sectionIdentifier : Int) (index : Nat) : Option (ListModel I S) := do
  let sectionIndex ← model.sectionForSectionIdentifier sectionIdentifier
  let items ← model.sections[sectionIndex]?
  let item ← itemForItemType itemType items index
  some { model with sections := model.sections.set sectionIndex (items.eraseIdx item) }

def removeSectionWithIdentifier (model : ListModel I S) (sectionIdentifier : Int) :
    Option (ListModel I S) := do
  let sectionIndex ← model.sectionForSectionIdentifier sectionIdentifier
  some { model with
    sectionIdentifiers := model.sectionIdentifiers.eraseIdx sectionIndex
    sections := model.sections.eraseIdx sectionIndex
    collapsedKeys := model.collapsedKeys.removeObjectForKey sectionIdentifier }

def deleteAllItemsFromSectionWithIdentifier (model : ListModel I S) (sectionIdentifier : Int) :
    Option (ListModel I S) := do
  let sectionIndex ← model.sectionForSectionIdentifier sectionIdentifier
  let _ ← model.sections[sectionIndex]?
  some { model with sections := model.sections.set sectionIndex [] }

def setHeader (model : ListModel I S) (header : Option S) (sectionIdentifier : Int) :
    ListModel I S :=
  match header with
  | some header => { model with headers := model.headers.setObject sectionIdentifier header }
  | none => { model with headers := model.headers.removeObjectForKey sectionIdentifier }

def setFooter (model : ListModel I S) (footer : Option S) (sectionIdentifier : Int) :
    ListModel I S :=
  match footer with
  | some footer => { model with footers := model.footers.setObject sectionIdentifier footer }
  | none => { model with footers := model.footers.removeObjectForKey sectionIdentifier }

/-- `setSectionIdentifier:collapsedKey:`. -/
def setCollapsedKey (model : ListModel I S) (sectionIdentifier : Int) (collapsedKey : String) :
    Option (ListModel I S) := do
  guard (model.hasSectionForSectionIdentifier sectionIdentifier)
  guard (model.collapsedKeys.allKeysForObject collapsedKey = [])
  some { model with
    collapsedKeys := model.collapsedKeys.setObject sectionIdentifier collapsedKey }

/-- `setSection:collapsed:`. -/
def setCollapsed (model : ListModel I S) (sectionIdentifier : Int) (collapsed : Bool) :
    Option (ListModel I S) := do
  guard (model.hasSectionForSectionIdentifier sectionIdentifier)
  let sectionKey ← model.collapsedKeys.objectForKey sectionIdentifier
  some { model with
    collapsableMediator := model.collapsableMediator.setSectionKey sectionKey collapsed }

/-! ## Query model coordinates from index paths -/

def sectionIdentifierForSection (model : ListModel I S) (sectionIndex : Nat) : Option Int :=
  model.sectionIdentifiers[sectionIndex]?

def itemAtIndexPath (model : ListModel I S) (indexPath : IndexPath) : Option I := do
  let items ← model.sections[indexPath.sectionIndex]?
  let item ← indexPath.item
  items[item]?

def itemTypeForIndexPath [ListItem I] (model : ListModel I S) (indexPath : IndexPath) :
    Option Int :=
  (model.itemAtIndexPath indexPath).map ListItem.type

def indexInItemTypeForIndexPath [DecidableEq I] [ListItem I] (model : ListModel I S)
    (indexPath : IndexPath) : Option Nat := do
  let items ← model.sections[indexPath.sectionIndex]?
  let item ← model.itemAtIndexPath indexPath
  indexInItemTypeForItem item items

/-! ## Query items from index paths -/

def hasItemAtIndexPath (model : ListModel I S) (indexPath : Option IndexPath) : Bool :=
  match indexPath with
  | none => false
  | some indexPath =>
    match model.sections[indexPath.sectionIndex]?, indexPath.item with
    | some items, some item => decide (item < items.length)
    | _, _ => false

def headerForSectionWithIdentifier (model : ListModel I S) (sectionIdentifier : Int) : Option S :=
  model.headers.objectForKey sectionIdentifier

def footerForSectionWithIdentifier (model : ListModel I S) (sectionIdentifier : Int) : Option S :=
  model.footers.objectForKey sectionIdentifier

def headerForSection (model : ListModel I S) (sectionIndex : Nat) : Option (Option S) := do
  let sectionIdentifier ← model.sectionIdentifierForSection sectionIndex
  some (model.headers.objectForKey sectionIdentifier)

def footerForSection (model : ListModel I S) (sectionIndex : Nat) : Option (Option S) := do
  let sectionIdentifier ← model.sectionIdentifierForSection sectionIndex
  some (model.footers.objectForKey sectionIdentifier)

def itemsInSectionWithIdentifier (model : ListModel I S) (sectionIdentifier : Int) :
    Option (List I) := do
  let sectionIndex ← model.sectionForSectionIdentifier sectionIdentifier
  model.sections[sectionIndex]?

/-! ## Query index paths from model coordinates -/

/-- `hasItemForItemType:sectionIdentifier:atIndex:`. -/
def hasItemForItemType [ListItem I] (model : ListModel I S) (itemType : Int)
    (sectionIdentifier : Int) (index : Nat) : Option Bool :=
  if model.hasSectionForSectionIdentifier sectionIdentifier then do
    let sectionIndex ← model.sectionForSectionIdentifier sectionIdentifier
    let items ← model.sections[sectionIndex]?
    some (itemForItemType itemType items index).isSome
  else some false

/-- `indexPathForItemType:sectionIdentifier:atIndex:`. -/
def indexPathForItemType [ListItem I] (model : ListModel I S) (itemType : Int)
    (sectionIdentifier : Int) (index : Nat) : Option IndexPath := do
  let sectionIndex ← model.sectionForSectionIdentifier sectionIdentifier
  let items ← model.sections[sectionIndex]?
  some ⟨sectionIndex, itemForItemType itemType items index⟩

/-- The path of the first item that `first` finds in its section, from the section
`sectionIndex` on. -/
def firstIndexPathFrom (first : List I → Option Nat) : List (List I) → Nat → Option IndexPath
  | [], _ => none
  | items :: rest, sectionIndex =>
    match first items with
    | some itemIndex => some ⟨sectionIndex, some itemIndex⟩
    | none => firstIndexPathFrom first rest (sectionIndex + 1)

/-- `indexPathForItemType:`. -/
def indexPathForItemTypeInAll [ListItem I] (model : ListModel I S) (itemType : Int) :
    Option IndexPath :=
  firstIndexPathFrom (fun items => items.findIdx? fun obj => ListItem.type obj = itemType)
    model.sections 0

/-- The enumeration of `indexPathsForItemType`, from the item `itemIndex` on. -/
def indexPathsForItemTypeFrom [ListItem I] (itemType : Int) (sectionIndex : Nat) :
    List I → Nat → List IndexPath
  | [], _ => []
  | obj :: rest, itemIndex =>
    if ListItem.type obj = itemType then
      ⟨sectionIndex, some itemIndex⟩ ::
        indexPathsForItemTypeFrom itemType sectionIndex rest (itemIndex + 1)
    else indexPathsForItemTypeFrom itemType sectionIndex rest (itemIndex + 1)

def indexPathsForItemType [ListItem I] (model : ListModel I S) (itemType : Int)
    (sectionIdentifier : Int) : Option (List IndexPath) := do
  let sectionIndex ← model.sectionForSectionIdentifier sectionIdentifier
  let items ← model.sections[sectionIndex]?
  some (indexPathsForItemTypeFrom itemType sectionIndex items 0)

/-! ## Query index paths from items -/

/-- `hasItem:inSectionWithIdentifier:`. -/
def hasItemInSection [ListItem I] (model : ListModel I S) (item : I) (sectionIdentifier : Int) :
    Option Bool := do
  let items ← model.itemsInSectionWithIdentifier sectionIdentifier
  some (indexOfObject items item).isSome

/-- The loop of `hasItem:`. -/
def hasItemAmong [ListItem I] (model : ListModel I S) (item : I) : List Int → Option Bool
  | [] => some false
  | sectionIdentifier :: rest => do
    if ← model.hasItemInSection item sectionIdentifier then some true
    else model.hasItemAmong item rest

def hasItem [ListItem I] (model : ListModel I S) (item : I) : Option Bool :=
  model.hasItemAmong item model.sectionIdentifiers

def indexPathForItem [ListItem I] (model : ListModel I S) (item : I) : Option IndexPath :=
  firstIndexPathFrom (fun items => indexOfObject items item) model.sections 0

/-! ## Data sourcing -/

def sectionIsCollapsed (model : ListModel I S) (sectionIdentifier : Int) : Option Bool := do
  guard (model.hasSectionForSectionIdentifier sectionIdentifier)
  match model.collapsedKeys.objectForKey sectionIdentifier with
  | none => some false
  | some sectionKey => some (model.collapsableMediator.sectionKeyIsCollapsed sectionKey)

def numberOfSections (model : ListModel I S) : Nat := model.sections.length

def numberOfItemsInSection (model : ListModel I S) (sectionIndex : Nat) : Option Nat := do
  let items ← model.sections[sectionIndex]?
  let sectionIdentifier ← model.sectionIdentifierForSection sectionIndex
  if ← model.sectionIsCollapsed sectionIdentifier then
    match model.collapsableMode with
    | .header => some 0
    | .firstCell => do
      guard (0 < items.length)
      some 1
  else some items.length

/-! ## The modifications -/

/-- A call of a modification method, or of `setCollapsableMode:`. -/
inductive Modification (I S : Type) where
  | addSection (sectionIdentifier : Int)
  | insertSection (sectionIdentifier : Int) (index : Nat)
  | addItem (item : I) (sectionIdentifier : Int)
  | insertItem (item : I) (sectionIdentifier : Int) (index : Nat)
  | removeItem (itemType : Int) (sectionIdentifier : Int) (index : Nat)
  | removeSection (sectionIdentifier : Int)
  | deleteAllItems (sectionIdentifier : Int)
  | setHeader (header : Option S) (sectionIdentifier : Int)
  | setFooter (footer : Option S) (sectionIdentifier : Int)
  | setCollapsedKey (sectionIdentifier : Int) (collapsedKey : String)
  | setCollapsed (sectionIdentifier : Int) (collapsed : Bool)
  | setCollapsableMode (mode : ListModelCollapsableMode)

def perform [ListItem I] (model : ListModel I S) : Modification I S → Option (ListModel I S)
  | .addSection sectionIdentifier => model.addSectionWithIdentifier sectionIdentifier
  | .insertSection sectionIdentifier index =>
    model.insertSectionWithIdentifier sectionIdentifier index
  | .addItem item sectionIdentifier => model.addItem item sectionIdentifier
  | .insertItem item sectionIdentifier index => model.insertItem item sectionIdentifier index
  | .removeItem itemType sectionIdentifier index =>
    model.removeItemWithType itemType sectionIdentifier index
  | .removeSection sectionIdentifier => model.removeSectionWithIdentifier sectionIdentifier
  | .deleteAllItems sectionIdentifier =>
    model.deleteAllItemsFromSectionWithIdentifier sectionIdentifier
  | .setHeader header sectionIdentifier => some (model.setHeader header sectionIdentifier)
  | .setFooter footer sectionIdentifier => some (model.setFooter footer sectionIdentifier)
  | .setCollapsedKey sectionIdentifier collapsedKey =>
    model.setCollapsedKey sectionIdentifier collapsedKey
  | .setCollapsed sectionIdentifier collapsed => model.setCollapsed sectionIdentifier collapsed
  | .setCollapsableMode mode => some { model with collapsableMode := mode }

/-! ## What the methods that succeed do -/

section Specifications

variable {model model' : ListModel I S} {sectionIdentifier : Int}

theorem addSectionWithIdentifier_eq_some :
    model.addSectionWithIdentifier sectionIdentifier = some model' ↔
      kSectionIdentifierEnumZero ≤ sectionIdentifier ∧
      model.internalSectionForIdentifier sectionIdentifier = none ∧
      { model with
        sectionIdentifiers := model.sectionIdentifiers ++ [sectionIdentifier]
        sections := model.sections ++ [[]] } = model' := by
  simp [addSectionWithIdentifier, Option.bind_eq_some_iff, Option.guard_eq_some']

theorem insertSectionWithIdentifier_eq_some {index : Nat} :
    model.insertSectionWithIdentifier sectionIdentifier index = some model' ↔
      kSectionIdentifierEnumZero ≤ sectionIdentifier ∧
      model.internalSectionForIdentifier sectionIdentifier = none ∧
      index ≤ model.sections.length ∧
      { model with
        sectionIdentifiers := model.sectionIdentifiers.insertIdx index sectionIdentifier
        sections := model.sections.insertIdx index [] } = model' := by
  simp [insertSectionWithIdentifier, Option.bind_eq_some_iff, Option.guard_eq_some']

theorem addItem_eq_some [ListItem I] {item : I} :
    model.addItem item sectionIdentifier = some model' ↔
      kItemTypeEnumZero ≤ ListItem.type item ∧
      ∃ k items, model.sectionForSectionIdentifier sectionIdentifier = some k ∧
        model.sections[k]? = some items ∧
        { model with sections := model.sections.set k (items ++ [item]) } = model' := by
  simp [addItem, Option.bind_eq_some_iff, Option.guard_eq_some']

theorem insertItem_eq_some [ListItem I] {item : I} {index : Nat} :
    model.insertItem item sectionIdentifier index = some model' ↔
      kItemTypeEnumZero ≤ ListItem.type item ∧
      ∃ k items, model.sectionForSectionIdentifier sectionIdentifier = some k ∧
        model.sections[k]? = some items ∧ index ≤ items.length ∧
        { model with sections := model.sections.set k (items.insertIdx index item) } =
          model' := by
  simp [insertItem, Option.bind_eq_some_iff, Option.guard_eq_some']

theorem removeItemWithType_eq_some [ListItem I] {itemType : Int} {index : Nat} :
    model.removeItemWithType itemType sectionIdentifier index = some model' ↔
      ∃ k items place, model.sectionForSectionIdentifier sectionIdentifier = some k ∧
        model.sections[k]? = some items ∧
        itemForItemType itemType items index = some place ∧
        { model with sections := model.sections.set k (items.eraseIdx place) } = model' := by
  simp [removeItemWithType, Option.bind_eq_some_iff]

theorem removeSectionWithIdentifier_eq_some :
    model.removeSectionWithIdentifier sectionIdentifier = some model' ↔
      ∃ k, model.sectionForSectionIdentifier sectionIdentifier = some k ∧
        { model with
          sectionIdentifiers := model.sectionIdentifiers.eraseIdx k
          sections := model.sections.eraseIdx k
          collapsedKeys := model.collapsedKeys.removeObjectForKey sectionIdentifier } =
          model' := by
  simp [removeSectionWithIdentifier, Option.bind_eq_some_iff]

theorem deleteAllItems_eq_some :
    model.deleteAllItemsFromSectionWithIdentifier sectionIdentifier = some model' ↔
      ∃ k items, model.sectionForSectionIdentifier sectionIdentifier = some k ∧
        model.sections[k]? = some items ∧
        { model with sections := model.sections.set k [] } = model' := by
  simp [deleteAllItemsFromSectionWithIdentifier, Option.bind_eq_some_iff]

theorem setCollapsedKey_eq_some {collapsedKey : String} :
    model.setCollapsedKey sectionIdentifier collapsedKey = some model' ↔
      model.hasSectionForSectionIdentifier sectionIdentifier = true ∧
      model.collapsedKeys.allKeysForObject collapsedKey = [] ∧
      { model with
        collapsedKeys := model.collapsedKeys.setObject sectionIdentifier collapsedKey } =
        model' := by
  simp [setCollapsedKey, Option.bind_eq_some_iff, Option.guard_eq_some']

theorem setCollapsed_eq_some {collapsed : Bool} :
    model.setCollapsed sectionIdentifier collapsed = some model' ↔
      model.hasSectionForSectionIdentifier sectionIdentifier = true ∧
      ∃ sectionKey, model.collapsedKeys.objectForKey sectionIdentifier = some sectionKey ∧
        { model with
          collapsableMediator :=
            model.collapsableMediator.setSectionKey sectionKey collapsed } = model' := by
  simp [setCollapsed, Option.bind_eq_some_iff, Option.guard_eq_some']

end Specifications

end ListModel

end IosChrome.Lists

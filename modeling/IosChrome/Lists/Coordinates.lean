import IosChrome.Lib.Machine
import IosChrome.Lists.QueriesAgree

/-!
# Model coordinates

A section identifier, an item type and an index among the items of the type: three numbers
for each item, which two scans of a section take to an index path and back. As long as no
object is in the model twice, the coordinates that `hasItemForItemType` knows and the index
paths that have an item are in bijection (`coordinates_bijective`), and removing the item
with given coordinates removes the one at their path.
-/

namespace IosChrome.Lists

open Lib

variable {I S : Type}

namespace ListModel

/-- Every section has items and an identifier of its own, and only sections have a
collapsed key. -/
structure WellFormed (model : ListModel I S) : Prop where
  nodup : model.sectionIdentifiers.Nodup
  lengths : model.sectionIdentifiers.length = model.sections.length
  keys : ∀ identifier, identifier ∉ model.sectionIdentifiers →
    model.collapsedKeys.objectForKey identifier = none

theorem WellFormed.perform [ListItem I] {model model' : ListModel I S} (h : model.WellFormed)
    {modification : Modification I S} (hperform : model.perform modification = some model') :
    model'.WellFormed := by
  -- a new identifier is none of the old ones
  have hnew : ∀ {identifier : Int}, model.internalSectionForIdentifier identifier = none →
      (identifier :: model.sectionIdentifiers).Nodup := fun hnone =>
    List.nodup_cons.2 ⟨List.idxOf?_eq_none_iff.1 hnone, h.nodup⟩
  cases modification with
  | addSection identifier =>
    obtain ⟨-, hnone, rfl⟩ := addSectionWithIdentifier_eq_some.1 hperform
    have hperm : (model.sectionIdentifiers ++ [identifier]).Perm
        (identifier :: model.sectionIdentifiers) := List.perm_append_singleton _ _
    refine ⟨hperm.nodup_iff.2 (hnew hnone), by simp [h.lengths], fun id hid => h.keys id ?_⟩
    exact fun hmem => hid (List.mem_append_left _ hmem)
  | insertSection identifier index =>
    obtain ⟨-, hnone, hindex, rfl⟩ := insertSectionWithIdentifier_eq_some.1 hperform
    have hindex' : index ≤ model.sectionIdentifiers.length := h.lengths ▸ hindex
    refine ⟨(List.perm_insertIdx _ _ hindex').nodup_iff.2 (hnew hnone), ?_,
      fun id hid => h.keys id ?_⟩
    · dsimp only
      rw [List.length_insertIdx_of_le_length hindex', List.length_insertIdx_of_le_length hindex,
        h.lengths]
    · exact fun hmem => hid ((List.mem_insertIdx hindex').2 (.inr hmem))
  | addItem item identifier =>
    obtain ⟨-, k, items, -, -, rfl⟩ := addItem_eq_some.1 hperform
    exact ⟨h.nodup, by simp [h.lengths], h.keys⟩
  | insertItem item identifier index =>
    obtain ⟨-, k, items, -, -, -, rfl⟩ := insertItem_eq_some.1 hperform
    exact ⟨h.nodup, by simp [h.lengths], h.keys⟩
  | removeItem itemType identifier index =>
    obtain ⟨k, items, place, -, -, -, rfl⟩ := removeItemWithType_eq_some.1 hperform
    exact ⟨h.nodup, by simp [h.lengths], h.keys⟩
  | removeSection identifier =>
    obtain ⟨k, hsection, rfl⟩ := removeSectionWithIdentifier_eq_some.1 hperform
    refine ⟨h.nodup.sublist (List.eraseIdx_sublist _ _), ?_, fun id hid => ?_⟩
    · simp [List.length_eraseIdx, h.lengths]
    · by_cases heq : id = identifier
      · rw [heq]
        exact Dictionary.objectForKey_removeObjectForKey_same _ _
      · refine (Dictionary.objectForKey_removeObjectForKey_of_ne _ heq).trans (h.keys id ?_)
        intro hmem
        obtain ⟨j, hj⟩ := List.mem_iff_getElem?.1 hmem
        have hk : model.sectionIdentifiers[k]? = some identifier := by
          obtain ⟨hlt, hget, -⟩ := List.idxOf?_eq_some_iff.1 hsection
          exact List.getElem?_eq_some_iff.2 ⟨hlt, hget⟩
        refine hid (List.mem_eraseIdx_iff_getElem?.2 ⟨j, fun hkj => heq ?_, hj⟩)
        rw [hkj, hk] at hj
        exact (Option.some.inj hj).symm
  | deleteAllItems identifier =>
    obtain ⟨k, items, -, -, rfl⟩ := deleteAllItems_eq_some.1 hperform
    exact ⟨h.nodup, by simp [h.lengths], h.keys⟩
  | setHeader header identifier =>
    obtain rfl := Option.some.inj hperform
    cases header <;> exact ⟨h.nodup, h.lengths, h.keys⟩
  | setFooter footer identifier =>
    obtain rfl := Option.some.inj hperform
    cases footer <;> exact ⟨h.nodup, h.lengths, h.keys⟩
  | setCollapsedKey identifier collapsedKey =>
    obtain ⟨hsection, -, rfl⟩ := setCollapsedKey_eq_some.1 hperform
    refine ⟨h.nodup, h.lengths, fun id hid => ?_⟩
    have hne : id ≠ identifier := fun heq => by
      rw [heq] at hid
      have hnone := List.idxOf?_eq_none_iff.2 hid
      unfold hasSectionForSectionIdentifier internalSectionForIdentifier at hsection
      rw [hnone] at hsection
      cases hsection
    exact (Dictionary.objectForKey_setObject_of_ne _ _ hne).trans (h.keys id hid)
  | setCollapsed identifier collapsed =>
    obtain ⟨-, sectionKey, -, rfl⟩ := setCollapsed_eq_some.1 hperform
    exact ⟨h.nodup, h.lengths, h.keys⟩
  | setCollapsableMode mode =>
    obtain rfl := Option.some.inj hperform
    exact ⟨h.nodup, h.lengths, h.keys⟩

theorem WellFormed.holdsItems {model : ListModel I S} (h : model.WellFormed) :
    ∃ list : SectionList I S, HoldsItems model list := by
  let sections : List (Section I S) := (model.sectionIdentifiers.zip model.sections).map
    fun entry => ⟨entry.1, entry.2, none, none, none⟩
  have hidentifiers : sections.map Section.identifier = model.sectionIdentifiers :=
    (List.map_map ..).trans (List.map_fst_zip (Nat.le_of_eq h.lengths))
  have hitems : sections.map Section.items = model.sections :=
    (List.map_map ..).trans (List.map_snd_zip (Nat.le_of_eq h.lengths.symm))
  refine ⟨⟨sections, model.collapsableMode, model.collapsableMediator⟩, ?_,
    hidentifiers.symm, hitems.symm⟩
  unfold Keyed.Unique
  rw [hidentifiers]
  exact h.nodup

/-- A list model by itself. -/
def modelMachine [ListItem I] (mediator : ListModelCollapsedMediator) :
    Machine (ListModel I S) (Modification I S) where
  init model := model = ListModel.init mediator
  pre model modification := (model.perform modification).isSome
  step model modification := (model.perform modification).getD model

instance [ListItem I] (mediator : ListModelCollapsedMediator) (model : ListModel I S)
    (modification : Modification I S) :
    Decidable ((modelMachine mediator).pre model modification) :=
  inferInstanceAs (Decidable ((model.perform modification).isSome = true))

theorem WellFormed.reachable [ListItem I] {mediator : ListModelCollapsedMediator}
    {model : ListModel I S} (h : (modelMachine mediator).Reachable model) : model.WellFormed := by
  refine Machine.Reachable.invariant (fun s hs => ?_) (fun s modification hs hpre => ?_) h
  · obtain rfl : s = ListModel.init mediator := hs
    exact ⟨List.nodup_nil, rfl, fun _ _ => rfl⟩
  · obtain ⟨model', hperform⟩ := Option.isSome_iff_exists.1 hpre
    have hstep : (modelMachine mediator).step s modification = model' := by
      simp [modelMachine, hperform]
    rw [hstep]
    exact hs.perform hperform

end ListModel

/-! ## Places -/

section Places

variable [ListItem I]

/-- The place of an item is the one with its index among the items of its type. -/
theorem getElem?_places_iff [DecidableEq I] {items : List I} (hnodup : items.Nodup)
    {itemType : Int} {index place : Nat} :
    (places itemType items)[index]? = some place ↔
      ∃ item, items[place]? = some item ∧ ListItem.type item = itemType ∧
        SectionList.indexInItemType items item = index := by
  -- how many of the type come before a place
  have hcount : ∀ (hlt : place < items.length), ListItem.type items[place] = itemType →
      SectionList.indexInItemType items items[place] =
        items.countPBefore (fun item => ListItem.type item = itemType) place := by
    intro hlt htype
    unfold SectionList.indexInItemType
    rw [hnodup.idxOf_getElem place hlt, List.countPBefore_eq_countP_take, htype]
  unfold places
  constructor
  · intro h
    obtain ⟨hindex, hplace⟩ := List.getElem?_eq_some_iff.1 h
    have hnth : items.findIdxNth (fun item => ListItem.type item = itemType) index = place :=
      List.getElem_findIdxs_eq_findIdxNth.symm.trans hplace
    have hlt : place < items.length := by
      have hmem := List.getElem_mem hindex
      rw [hplace] at hmem
      simpa using List.lt_add_of_mem_findIdxs place hmem
    have htype : ListItem.type items[place] = itemType := by
      have hpos := List.getElem_getElem_findIdxs hindex
      simpa [hplace] using hpos
    rw [List.length_findIdxs] at hindex
    refine ⟨items[place], List.getElem?_eq_getElem hlt, htype, ?_⟩
    rw [hcount hlt htype, ← hnth, List.countPBefore_findIdxNth_of_lt_countP hindex]
  · rintro ⟨item, hitem, htype, rfl⟩
    obtain ⟨hlt, rfl⟩ := List.getElem?_eq_some_iff.1 hitem
    have hpos : decide (ListItem.type items[place] = itemType) = true := decide_eq_true htype
    have hindex : items.countPBefore (fun item => ListItem.type item = itemType) place <
        (items.findIdxs fun item => ListItem.type item = itemType).length := by
      rw [List.length_findIdxs]
      exact List.countPBefore_lt_countP_of_lt_length_of_pos hpos
    rw [hcount hlt htype, List.getElem?_eq_getElem hindex, List.getElem_findIdxs_eq_findIdxNth,
      List.findIdxNth_countPBefore_of_lt_length_of_pos hpos]

end Places

/-! ## Coordinates -/

variable [DecidableEq I] [ListItem I]

/-- The item at the path has the coordinates. -/
structure HasCoordinates (model : ListModel I S) (indexPath : IndexPath)
    (itemType sectionIdentifier : Int) (index : Nat) : Prop where
  hasItem : model.hasItemAtIndexPath (some indexPath) = true
  itemType : model.itemTypeForIndexPath indexPath = some itemType
  sectionIdentifier :
    model.sectionIdentifierForSection indexPath.sectionIndex = some sectionIdentifier
  index : model.indexInItemTypeForIndexPath indexPath = some index

/-- Coordinates and index paths lead to each other, and the removal of an item takes the one
at its path: `front` and `rest` are the other items of its section, in their order. -/
structure CoordinatesBijective (model : ListModel I S) : Prop where
  ofPath : ∀ indexPath, model.hasItemAtIndexPath (some indexPath) = true →
    ∃ itemType sectionIdentifier index,
      HasCoordinates model indexPath itemType sectionIdentifier index ∧
      model.indexPathForItemType itemType sectionIdentifier index = some indexPath
  hasItem : ∀ itemType sectionIdentifier index,
    model.hasItemForItemType itemType sectionIdentifier index = some true ↔
      ∃ indexPath, HasCoordinates model indexPath itemType sectionIdentifier index
  removal : ∀ indexPath itemType sectionIdentifier index,
    HasCoordinates model indexPath itemType sectionIdentifier index →
      ∃ front item rest,
        model.itemsInSectionWithIdentifier sectionIdentifier =
          some (front ++ item :: rest) ∧
        indexPath.item = some front.length ∧
        model.removeItemWithType itemType sectionIdentifier index =
          some { model with
            sections := model.sections.set indexPath.sectionIndex (front ++ rest) }

namespace HoldsItems

variable {model : ListModel I S} {list : SectionList I S}

omit [DecidableEq I] [ListItem I] in
theorem items_nodup (h : HoldsItems model list) (hnodup : model.sections.flatten.Nodup) {k : Nat}
    {s : Section I S} (hs : list.sections[k]? = some s) : s.items.Nodup := by
  refine (List.nodup_flatten.1 hnodup).1 s.items ?_
  rw [h.items]
  exact List.mem_map_of_mem (List.mem_of_getElem? hs)

theorem hasCoordinates_iff (h : HoldsItems model list) (hnodup : model.sections.flatten.Nodup)
    {indexPath : IndexPath} {itemType sectionIdentifier : Int} {index : Nat} :
    HasCoordinates model indexPath itemType sectionIdentifier index ↔
      ∃ k s place, indexPath = ⟨k, some place⟩ ∧ list.sections[k]? = some s ∧
        s.identifier = sectionIdentifier ∧ (places itemType s.items)[index]? = some place := by
  have hidentifier : model.sectionIdentifierForSection indexPath.sectionIndex =
      (list.sections[indexPath.sectionIndex]?).map Section.identifier := by
    unfold ListModel.sectionIdentifierForSection
    rw [h.identifiers, List.getElem?_map]
  have htype : model.itemTypeForIndexPath indexPath =
      (list.itemAt indexPath).map ListItem.type := by
    unfold ListModel.itemTypeForIndexPath
    rw [h.itemAtIndexPath]
  constructor
  · intro hcoordinates
    have hsection := hidentifier.symm.trans hcoordinates.sectionIdentifier
    obtain ⟨s, hs, hid⟩ := Option.map_eq_some_iff.1 hsection
    obtain ⟨item, hitem, hitemType⟩ := Option.map_eq_some_iff.1
      (htype.symm.trans hcoordinates.itemType)
    have hindex := hcoordinates.index
    rw [h.indexInItemType, hs, hitem] at hindex
    unfold SectionList.itemAt at hitem
    rw [hs, Option.bind_some] at hitem
    obtain ⟨place, hplace, hat⟩ := Option.bind_eq_some_iff.1 hitem
    refine ⟨indexPath.sectionIndex, s, place, ?_, hs, hid, ?_⟩
    · cases indexPath
      exact congrArg _ hplace
    · exact (getElem?_places_iff (h.items_nodup hnodup hs)).2
        ⟨item, hat, hitemType, Option.some.inj hindex⟩
  · rintro ⟨k, s, place, rfl, hs, hid, hplace⟩
    obtain ⟨item, hat, hitemType, hindex⟩ :=
      (getElem?_places_iff (h.items_nodup hnodup hs)).1 hplace
    have hitem : list.itemAt ⟨k, some place⟩ = some item := by
      unfold SectionList.itemAt
      rw [hs]
      exact hat
    refine ⟨?_, ?_, ?_, ?_⟩
    · rw [h.hasItemAtIndexPath, Option.bind_some, hitem]
      rfl
    · rw [htype, hitem, Option.map_some, hitemType]
    · rw [hidentifier, hs, Option.map_some, hid]
    · rw [h.indexInItemType, hs, hitem, Option.bind_some, Option.map_some, hindex]

omit [DecidableEq I] in
/-- What `hasItemForItemType` and `indexPathForItemType` find. -/
theorem hasItemForItemType_iff (h : HoldsItems model list) {itemType sectionIdentifier : Int}
    {index : Nat} :
    model.hasItemForItemType itemType sectionIdentifier index = some true ↔
      ∃ (k : Nat) (s : Section I S) (place : Nat),
        list.sections[k]? = some s ∧ s.identifier = sectionIdentifier ∧
          (places itemType s.items)[index]? = some place := by
  unfold ListModel.hasItemForItemType
  rw [h.hasSection]
  rcases h.located sectionIdentifier with
    ⟨hfind, -, -⟩ | ⟨k, s, hfind, hid, hs, -, hsection, hitems⟩
  · simp only [hfind, Option.isSome_none, Bool.false_eq_true, ↓reduceIte, Option.some.injEq,
      false_iff, not_exists]
    rintro k s place ⟨hs, hid, -⟩
    rw [← hid, h.find_at hs] at hfind
    cases hfind
  · simp only [hfind, Option.isSome_some, ↓reduceIte, hsection, hitems, itemForItemType_eq,
      Option.bind_eq_bind, Option.bind_some, Option.some.injEq, Option.isSome_iff_exists]
    constructor
    · rintro ⟨place, hplace⟩
      exact ⟨k, s, place, hs, hid, hplace⟩
    · rintro ⟨k', s', place, hs', hid', hplace⟩
      have hsame : s' = s := by
        have hfind' := h.find_at hs'
        rw [hid', hfind] at hfind'
        exact (Option.some.inj hfind').symm
      exact ⟨place, hsame ▸ hplace⟩

omit [DecidableEq I] in
theorem indexPathForItemType_eq (h : HoldsItems model list) {itemType : Int} {index k : Nat}
    {s : Section I S} (hs : list.sections[k]? = some s) :
    model.indexPathForItemType itemType s.identifier index =
      some ⟨k, (places itemType s.items)[index]?⟩ := by
  unfold ListModel.indexPathForItemType
  rcases h.located s.identifier with
    ⟨hfind, -, -⟩ | ⟨k', s', hfind, hid, hs', -, hsection, hitems⟩
  · rw [h.find_at hs] at hfind
    cases hfind
  · rw [h.find_at hs] at hfind
    obtain rfl := Option.some.inj hfind
    obtain rfl : k' = k := h.unique.index_eq hs' hs rfl
    simp [hsection, hitems, itemForItemType_eq]

omit [DecidableEq I] in
/-- What the removal of the item with given coordinates does. -/
theorem removeItemWithType_eq (h : HoldsItems model list) {itemType : Int} {index k place : Nat}
    {s : Section I S} (hs : list.sections[k]? = some s)
    (hplace : (places itemType s.items)[index]? = some place) :
    model.removeItemWithType itemType s.identifier index =
      some { model with sections := model.sections.set k (s.items.eraseIdx place) } := by
  rcases h.located s.identifier with
    ⟨hfind, -, -⟩ | ⟨k', s', hfind, hid, hs', -, hsection, hitems⟩
  · rw [h.find_at hs] at hfind
    cases hfind
  · rw [h.find_at hs] at hfind
    obtain rfl := Option.some.inj hfind
    obtain rfl : k' = k := h.unique.index_eq hs' hs rfl
    exact ListModel.removeItemWithType_eq_some.2 ⟨k', s.items, place, hsection, hitems,
      (itemForItemType_eq _ _ _).trans hplace, rfl⟩

end HoldsItems

/-- **Model coordinates and index paths are in bijection.** -/
theorem coordinates_bijective {mediator : ListModelCollapsedMediator} {model : ListModel I S}
    (hreachable : (ListModel.modelMachine mediator).Reachable model)
    (hnodup : model.sections.flatten.Nodup) : CoordinatesBijective model := by
  obtain ⟨list, h⟩ := (ListModel.WellFormed.reachable hreachable).holdsItems
  refine ⟨?_, ?_, ?_⟩
  · intro indexPath hitem
    rw [h.hasItemAtIndexPath, Option.bind_some] at hitem
    obtain ⟨item, hitem⟩ := Option.isSome_iff_exists.1 hitem
    obtain ⟨s, hs, hat⟩ := Option.bind_eq_some_iff.1 hitem
    obtain ⟨place, hplace, hat⟩ := Option.bind_eq_some_iff.1 hat
    -- the coordinates of the item
    have hcoordinate := (getElem?_places_iff (h.items_nodup hnodup hs)).2 ⟨item, hat, rfl, rfl⟩
    have hpath : indexPath = ⟨indexPath.sectionIndex, some place⟩ := by
      cases indexPath
      exact congrArg _ hplace
    refine ⟨ListItem.type item, s.identifier, SectionList.indexInItemType s.items item,
      (h.hasCoordinates_iff hnodup).2 ⟨_, s, place, hpath, hs, rfl, hcoordinate⟩, ?_⟩
    rw [h.indexPathForItemType_eq hs, hcoordinate]
    exact congrArg some hpath.symm
  · intro itemType sectionIdentifier index
    rw [h.hasItemForItemType_iff]
    constructor
    · rintro ⟨k, s, place, hs, hid, hplace⟩
      exact ⟨⟨k, some place⟩,
        (h.hasCoordinates_iff hnodup).2 ⟨k, s, place, rfl, hs, hid, hplace⟩⟩
    · rintro ⟨indexPath, hcoordinates⟩
      obtain ⟨k, s, place, -, hs, hid, hplace⟩ := (h.hasCoordinates_iff hnodup).1 hcoordinates
      exact ⟨k, s, place, hs, hid, hplace⟩
  · intro indexPath itemType sectionIdentifier index hcoordinates
    obtain ⟨k, s, place, rfl, hs, rfl, hplace⟩ := (h.hasCoordinates_iff hnodup).1 hcoordinates
    obtain ⟨item, hat, -, -⟩ := (getElem?_places_iff (h.items_nodup hnodup hs)).1 hplace
    obtain ⟨hlt, rfl⟩ := List.getElem?_eq_some_iff.1 hat
    refine ⟨s.items.take place, s.items[place], s.items.drop (place + 1), ?_, ?_, ?_⟩
    · rw [h.itemsInSection, h.find_at hs, List.getElem_cons_drop, List.take_append_drop]
      rfl
    · simp [Nat.min_eq_left (Nat.le_of_lt hlt)]
    · rw [h.removeItemWithType_eq hs hplace, List.eraseIdx_eq_take_drop_succ]

/-- A section with items of two types. -/
private def twoTypes : List (ListModel.Modification PlainItem PlainItem) :=
  [.addSection 10, .addItem ⟨0, 100⟩ 10, .addItem ⟨1, 101⟩ 10, .insertItem ⟨2, 100⟩ 10 1]

theorem coordinates_bijective_twoTypes :
    CoordinatesBijective ((ListModel.modelMachine ⟨[]⟩).exec (ListModel.init ⟨[]⟩) twoTypes) :=
  coordinates_bijective ⟨ListModel.init ⟨[]⟩, twoTypes, rfl, by decide +kernel, rfl⟩
    (by decide +kernel)

end IosChrome.Lists

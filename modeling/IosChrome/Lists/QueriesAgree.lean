import IosChrome.Lists.SectionList

/-!
# The queries of a list model

A model that represents a list of sections answers every query as the list does
(`Represents.agrees`). The loops over items come first, each equal to what its query
means; then where a section is found in the containers (`located`), which every query by
identifier splits on.
-/

namespace IosChrome.Lists

open Lib

variable {I S : Type}

/-! ## The loops -/

section Loops

variable [ListItem I]

theorem itemForItemTypeFrom_eq (itemType : Int) (index : Nat) : ∀ (items : List I)
    (idx indexInItemType : Nat), indexInItemType ≤ index →
    ListModel.itemForItemTypeFrom itemType index items idx indexInItemType =
      (items.findIdxs (fun item => ListItem.type item = itemType) idx)[index - indexInItemType]?
  | [], idx, _, _ => rfl
  | item :: items, idx, indexInItemType, hle => by
    unfold ListModel.itemForItemTypeFrom
    rw [List.findIdxs_cons]
    by_cases htype : ListItem.type item = itemType
    · rw [if_pos htype, if_pos (decide_eq_true htype)]
      by_cases hindex : indexInItemType = index
      · -- the item that is looked for
        rw [if_pos hindex, hindex, Nat.sub_self]
        rfl
      · have hlt : indexInItemType + 1 ≤ index := by omega
        have hsub : index - indexInItemType = index - (indexInItemType + 1) + 1 := by omega
        rw [if_neg hindex, itemForItemTypeFrom_eq itemType index items (idx + 1) _ hlt, hsub]
        rfl
    · rw [if_neg htype, if_neg (by simpa using htype)]
      exact itemForItemTypeFrom_eq itemType index items (idx + 1) _ hle

/-- `itemForItemType` finds the place with the index among those of the type. -/
theorem itemForItemType_eq (itemType : Int) (items : List I) (index : Nat) :
    ListModel.itemForItemType itemType items index = (places itemType items)[index]? :=
  itemForItemTypeFrom_eq itemType index items 0 0 (Nat.zero_le _)

theorem indexPathsForItemTypeFrom_eq (itemType : Int) (k : Nat) : ∀ (items : List I) (i : Nat),
    ListModel.indexPathsForItemTypeFrom itemType k items i =
      (items.findIdxs (fun item => ListItem.type item = itemType) i).map fun place =>
        ⟨k, some place⟩
  | [], _ => rfl
  | item :: items, i => by
    unfold ListModel.indexPathsForItemTypeFrom
    rw [List.findIdxs_cons]
    by_cases htype : ListItem.type item = itemType
    · rw [if_pos htype, if_pos (decide_eq_true htype),
        indexPathsForItemTypeFrom_eq itemType k items (i + 1)]
      rfl
    · rw [if_neg htype, if_neg (by simpa using htype)]
      exact indexPathsForItemTypeFrom_eq itemType k items (i + 1)

theorem indexInItemTypeFrom_eq [DecidableEq I] (item : I) : ∀ (items : List I) (n : Nat),
    item ∈ items →
    ListModel.indexInItemTypeFrom item items n =
      some (n + SectionList.indexInItemType items item)
  | other :: items, n, hmem => by
    unfold ListModel.indexInItemTypeFrom SectionList.indexInItemType
    by_cases heq : other = item
    · rw [if_pos heq, List.idxOf_cons_eq items heq]
      rfl
    · have hrest : item ∈ items := by
        rcases List.mem_cons.1 hmem with h | h
        · exact absurd h.symm heq
        · exact h
      have hidx : (other :: items).idxOf item = items.idxOf item + 1 :=
        List.idxOf_cons_ne items heq
      rw [if_neg heq, hidx, List.take_succ_cons, List.countP_cons]
      by_cases htype : ListItem.type other = ListItem.type item
      · rw [if_pos htype, indexInItemTypeFrom_eq item items _ hrest]
        have hadd : n + 1 + SectionList.indexInItemType items item =
            n + (SectionList.indexInItemType items item + 1) := by omega
        simpa [htype, SectionList.indexInItemType] using hadd
      · rw [if_neg htype, indexInItemTypeFrom_eq item items _ hrest]
        simp [htype, SectionList.indexInItemType]

theorem indexInItemTypeForItem_eq [DecidableEq I] {item : I} {items : List I}
    (hmem : item ∈ items) :
    ListModel.indexInItemTypeForItem item items =
      some (SectionList.indexInItemType items item) := by
  have hfound : (ListModel.indexOfObject items item).isSome = true :=
    List.findIdx?_isSome.trans (List.any_eq_true.2 ⟨item, hmem, ListItem.isEqual_self item⟩)
  unfold ListModel.indexInItemTypeForItem
  rw [indexInItemTypeFrom_eq item items 0 hmem, Nat.zero_add]
  simp [hfound]

omit [ListItem I] in
/-- What is found in one section. -/
theorem find?_zipIdx (p : I → Bool) (k : Nat) : ∀ (items : List I) (i : Nat),
    (((items.zipIdx i).map fun (item, j) => ((⟨k, some j⟩ : IndexPath), item)).find?
        fun entry => p entry.2).map Prod.fst =
      ((items.findIdx? p).map fun j => ⟨k, some (i + j)⟩)
  | [], _ => rfl
  | item :: items, i => by
    rw [List.zipIdx_cons, List.map_cons, List.find?_cons, List.findIdx?_cons]
    cases hp : p item with
    | true => rfl
    | false =>
      have ih := find?_zipIdx p k items (i + 1)
      simp only [Bool.false_eq_true, ↓reduceIte]
      rw [ih, Option.map_map]
      congr 1
      funext j
      have hadd : i + 1 + j = i + (j + 1) := by omega
      simp [hadd]

omit [ListItem I] in
theorem firstIndexPathFrom_eq {S : Type} (p : I → Bool) : ∀ (sections : List (Section I S))
    (k : Nat),
    ListModel.firstIndexPathFrom (fun items => items.findIdx? p)
        (sections.map Section.items) k =
      (((sections.zipIdx k).flatMap fun (s, sectionIndex) =>
          s.items.zipIdx.map fun (item, i) => ((⟨sectionIndex, some i⟩ : IndexPath), item)).find?
        fun entry => p entry.2).map Prod.fst
  | [], _ => rfl
  | s :: sections, k => by
    have hone := find?_zipIdx p k s.items 0
    have ih := firstIndexPathFrom_eq p sections (k + 1)
    rw [List.map_cons, ListModel.firstIndexPathFrom, List.zipIdx_cons, List.flatMap_cons,
      List.find?_append]
    cases hfind : s.items.findIdx? p with
    | none =>
      rw [hfind] at hone
      rw [Option.map_eq_none_iff.1 hone]
      simpa using ih
    | some i =>
      rw [hfind] at hone
      obtain ⟨entry, hentry, hpath⟩ := Option.map_eq_some_iff.1 hone
      rw [hentry]
      simpa using hpath.symm

end Loops

/-! ## Where a section is -/

namespace HoldsItems

variable {model : ListModel I S} {list : SectionList I S}

/-- No section has the identifier, or one has and it is found in all containers. -/
theorem located (h : HoldsItems model list) (identifier : Int) :
    (list.find identifier = none ∧
      (list.sections.findIdx? fun s => s.identifier = identifier) = none ∧
      model.sectionForSectionIdentifier identifier = none) ∨
    ∃ k s, list.find identifier = some s ∧ s.identifier = identifier ∧
      list.sections[k]? = some s ∧
      (list.sections.findIdx? fun s => s.identifier = identifier) = some k ∧
      model.sectionForSectionIdentifier identifier = some k ∧
      model.sections[k]? = some s.items := by
  have hsection : model.sectionForSectionIdentifier identifier =
      list.sections.findIdx? fun s => s.identifier = identifier := by
    unfold ListModel.sectionForSectionIdentifier ListModel.internalSectionForIdentifier
    rw [h.identifiers, List.idxOf?, List.findIdx?_map]
    congr 1
  cases hfind : list.find identifier with
  | none =>
    have hnone : (list.sections.findIdx? fun s => s.identifier = identifier) = none := by
      refine List.findIdx?_eq_none_iff.2 fun s hs => ?_
      simpa using Keyed.lookup_eq_none.1 hfind s hs
    exact .inl ⟨rfl, hnone, hsection.trans hnone⟩
  | some s =>
    obtain ⟨k, hk⟩ := List.mem_iff_getElem?.1 (Keyed.mem_of_lookup hfind)
    have hid : s.identifier = identifier := Keyed.key_of_lookup hfind
    have hidx := Keyed.findIdx?_key h.unique hk
    rw [hid] at hidx
    refine .inr ⟨k, s, rfl, hid, hk, hidx, hsection.trans hidx, ?_⟩
    rw [h.items, List.getElem?_map, hk]
    rfl

theorem hasSection (h : HoldsItems model list) (identifier : Int) :
    model.hasSectionForSectionIdentifier identifier = (list.find identifier).isSome := by
  have hsame : model.hasSectionForSectionIdentifier identifier =
      (model.sectionForSectionIdentifier identifier).isSome := rfl
  rcases h.located identifier with ⟨hfind, -, hsection⟩ | ⟨k, s, hfind, -, -, -, hsection, -⟩
  · rw [hsame, hsection, hfind]
    rfl
  · rw [hsame, hsection, hfind]
    rfl

theorem find_at (h : HoldsItems model list) {k : Nat} {s : Section I S}
    (hs : list.sections[k]? = some s) : list.find s.identifier = some s :=
  Keyed.lookup_getElem? h.unique hs

/-! ## The queries -/

theorem itemsInSection (h : HoldsItems model list) (identifier : Int) :
    model.itemsInSectionWithIdentifier identifier =
      (list.find identifier).map Section.items := by
  unfold ListModel.itemsInSectionWithIdentifier
  rcases h.located identifier with
    ⟨hfind, -, hsection⟩ | ⟨k, s, hfind, -, -, -, hsection, hitems⟩
  · rw [hsection, hfind]
    rfl
  · rw [hsection, hfind]
    exact hitems

theorem itemAtIndexPath (h : HoldsItems model list) (indexPath : IndexPath) :
    model.itemAtIndexPath indexPath = list.itemAt indexPath := by
  unfold ListModel.itemAtIndexPath SectionList.itemAt
  rw [h.items, List.getElem?_map]
  cases list.sections[indexPath.sectionIndex]? with
  | none => rfl
  | some s => rfl

theorem hasItemAtIndexPath (h : HoldsItems model list) (indexPath : Option IndexPath) :
    model.hasItemAtIndexPath indexPath = (indexPath.bind list.itemAt).isSome := by
  cases indexPath with
  | none => rfl
  | some indexPath =>
    unfold ListModel.hasItemAtIndexPath SectionList.itemAt
    dsimp only [Option.bind_some]
    rw [h.items, List.getElem?_map]
    cases list.sections[indexPath.sectionIndex]? with
    | none => rfl
    | some s =>
      cases indexPath.item with
      | none => rfl
      | some i =>
        by_cases hi : i < s.items.length
        · simp [hi]
        · simp [hi]

theorem indexInItemType [DecidableEq I] [ListItem I] (h : HoldsItems model list)
    (indexPath : IndexPath) :
    model.indexInItemTypeForIndexPath indexPath =
      (list.sections[indexPath.sectionIndex]?).bind fun s =>
        (list.itemAt indexPath).map (SectionList.indexInItemType s.items) := by
  unfold ListModel.indexInItemTypeForIndexPath
  rw [h.itemAtIndexPath, h.items, List.getElem?_map]
  unfold SectionList.itemAt
  cases list.sections[indexPath.sectionIndex]? with
  | none => rfl
  | some s =>
    cases hitem : indexPath.item.bind fun i => s.items[i]? with
    | none => simp [hitem]
    | some item =>
      have hmem : item ∈ s.items := by
        obtain ⟨i, -, hi⟩ := Option.bind_eq_some_iff.1 hitem
        exact List.mem_of_getElem? hi
      simp [hitem, indexInItemTypeForItem_eq hmem]

theorem hasItemAmong [ListItem I] (h : HoldsItems model list) (item : I) :
    ∀ sections : List (Section I S), (∀ s ∈ sections, s ∈ list.sections) →
      model.hasItemAmong item (sections.map Section.identifier) =
        some (sections.any fun s => s.items.any (ListItem.isEqual item))
  | [], _ => rfl
  | s :: sections, hsub => by
    have hs : list.find s.identifier = some s :=
      (Keyed.lookup_eq_some h.unique).2 ⟨hsub s List.mem_cons_self, rfl⟩
    have hrest := hasItemAmong h item sections fun s hs => hsub s (List.mem_cons_of_mem _ hs)
    rw [List.map_cons, ListModel.hasItemAmong, ListModel.hasItemInSection, h.itemsInSection, hs,
      hrest]
    cases hany : s.items.any (ListItem.isEqual item) with
    | true => simp [ListModel.indexOfObject, List.findIdx?_isSome, hany]
    | false => simp [ListModel.indexOfObject, List.findIdx?_isSome, hany]

end HoldsItems

namespace Represents

variable {model : ListModel I S} {list : SectionList I S}

theorem sectionIsCollapsed (h : Represents model list) (identifier : Int) :
    model.sectionIsCollapsed identifier = (list.find identifier).map list.isCollapsed := by
  unfold ListModel.sectionIsCollapsed
  rw [h.hasSection, h.collapsedKeys, h.mediator]
  cases list.find identifier with
  | none => rfl
  | some s =>
    unfold SectionList.isCollapsed
    cases hkey : s.collapsedKey <;> simp [hkey]

theorem numberOfItems (h : Represents model list) (k : Nat) :
    model.numberOfItemsInSection k = (list.sections[k]?).bind list.shownItems := by
  unfold ListModel.numberOfItemsInSection ListModel.sectionIdentifierForSection
  rw [h.items, h.identifiers, List.getElem?_map, List.getElem?_map]
  cases hs : list.sections[k]? with
  | none => rfl
  | some s =>
    have hcollapsed := h.sectionIsCollapsed s.identifier
    rw [h.find_at hs] at hcollapsed
    unfold SectionList.shownItems
    simp only [Option.map_some, Option.bind_eq_bind, Option.bind_some, hcollapsed, h.mode]
    cases list.isCollapsed s with
    | false => rfl
    | true =>
      cases list.collapsableMode with
      | header => rfl
      | firstCell =>
        cases hitems : s.items with
        | nil => rfl
        | cons item items => rfl

/-- **A model that represents a list of sections answers as the list does.** -/
theorem agrees [DecidableEq I] [ListItem I] (h : Represents model list) : Agrees model list where
  numberOfSections := by
    unfold ListModel.numberOfSections
    rw [h.items, List.length_map]
  numberOfItemsInSection := h.numberOfItems
  sectionIsCollapsed := h.sectionIsCollapsed
  sectionIdentifierForSection := fun k => by
    unfold ListModel.sectionIdentifierForSection
    rw [h.identifiers, List.getElem?_map]
  sectionForSectionIdentifier := fun identifier => by
    rcases h.located identifier with ⟨-, hidx, hsection⟩ | ⟨k, s, -, -, -, hidx, hsection, -⟩
    · rw [hsection, hidx]
    · rw [hsection, hidx]
  hasSectionForSectionIdentifier := h.hasSection
  headerForSection := fun k => by
    unfold ListModel.headerForSection ListModel.sectionIdentifierForSection
    rw [h.identifiers, List.getElem?_map]
    cases hs : list.sections[k]? with
    | none => rfl
    | some s => simp [h.headers, h.find_at hs]
  footerForSection := fun k => by
    unfold ListModel.footerForSection ListModel.sectionIdentifierForSection
    rw [h.identifiers, List.getElem?_map]
    cases hs : list.sections[k]? with
    | none => rfl
    | some s => simp [h.footers, h.find_at hs]
  headerForSectionWithIdentifier := h.headers
  footerForSectionWithIdentifier := h.footers
  itemsInSectionWithIdentifier := h.itemsInSection
  hasItemAtIndexPath := h.hasItemAtIndexPath
  itemAtIndexPath := h.itemAtIndexPath
  itemTypeForIndexPath := fun indexPath => by
    unfold ListModel.itemTypeForIndexPath
    rw [h.itemAtIndexPath]
  indexInItemTypeForIndexPath := h.indexInItemType
  hasItemForItemType := fun itemType identifier index => by
    unfold ListModel.hasItemForItemType
    rw [h.hasSection]
    rcases h.located identifier with
      ⟨hfind, -, -⟩ | ⟨k, s, hfind, -, -, -, hsection, hitems⟩
    · simp [hfind]
    · simp [hfind, hsection, hitems, itemForItemType_eq]
  indexPathForItemType := fun itemType identifier index => by
    unfold ListModel.indexPathForItemType
    rcases h.located identifier with
      ⟨hfind, hidx, hsection⟩ | ⟨k, s, hfind, -, -, hidx, hsection, hitems⟩
    · simp [hsection, hidx]
    · simp [hfind, hidx, hsection, hitems, itemForItemType_eq]
  indexPathForItemTypeInAll := fun itemType => by
    unfold ListModel.indexPathForItemTypeInAll
    rw [h.items]
    exact firstIndexPathFrom_eq _ list.sections 0
  indexPathsForItemType := fun itemType identifier => by
    unfold ListModel.indexPathsForItemType
    rcases h.located identifier with
      ⟨hfind, hidx, hsection⟩ | ⟨k, s, hfind, -, -, hidx, hsection, hitems⟩
    · simp [hsection, hidx]
    · simp [hfind, hidx, hsection, hitems, indexPathsForItemTypeFrom_eq, places]
  hasItemInSection := fun item identifier => by
    unfold ListModel.hasItemInSection
    rw [h.itemsInSection]
    cases list.find identifier with
    | none => rfl
    | some s => simp [ListModel.indexOfObject, List.findIdx?_isSome]
  hasItem := fun item => by
    unfold ListModel.hasItem
    rw [h.identifiers]
    exact h.hasItemAmong item list.sections fun s hs => hs
  indexPathForItem := fun item => by
    unfold ListModel.indexPathForItem
    rw [h.items]
    exact firstIndexPathFrom_eq _ list.sections 0

end Represents

end IosChrome.Lists

import Mathlib.Data.List.InsertIdx
import IosChrome.Lib.Machine
import IosChrome.Lists.QueriesAgree

/-!
# What belongs to a section

A list model keeps the header and the footer of a section under its identifier, and
removing the section removes neither: they are there again when a section is added with the
identifier. Nor does setting them ask for a section. Everything else a list model does is
what it would be on a list of sections (`Represents`), so that it answers as such a
list exactly along the runs that remove no section with a header or a footer, and set them
for sections only (`agrees_iff`).
-/

namespace IosChrome.Lists

open Lib

variable {I S : Type}

/-- The empty list, where the user defaults are as earlier models left them. -/
def SectionList.init (mediator : ListModelCollapsedMediator) : SectionList I S :=
  ⟨[], .header, mediator⟩

/-- A list model beside the list of sections it should be. -/
def listMachine [ListItem I] (mediator : ListModelCollapsedMediator) :
    Machine (ListModel I S × SectionList I S) (ListModel.Modification I S) where
  init s := s = (ListModel.init mediator, SectionList.init mediator)
  pre s modification := (s.1.perform modification).isSome
  step s modification :=
    ((s.1.perform modification).getD s.1, s.2.perform modification)

instance [ListItem I] (mediator : ListModelCollapsedMediator)
    (s : ListModel I S × SectionList I S) (modification : ListModel.Modification I S) :
    Decidable ((listMachine mediator).pre s modification) :=
  inferInstanceAs (Decidable ((s.1.perform modification).isSome = true))

/-- The modification leaves no header or footer without its section. -/
def ListModel.LeavesNone (model : ListModel I S) : ListModel.Modification I S → Prop
  | .removeSection identifier =>
    model.headerForSectionWithIdentifier identifier = none ∧
      model.footerForSectionWithIdentifier identifier = none
  | .setHeader header identifier =>
    header = none ∨ model.hasSectionForSectionIdentifier identifier = true
  | .setFooter footer identifier =>
    footer = none ∨ model.hasSectionForSectionIdentifier identifier = true
  | _ => True

namespace SectionList

variable {list : SectionList I S} {identifier : Int}

theorem find_update {f : Section I S → Section I S} (hf : ∀ s, (f s).identifier = s.identifier)
    (identifier' : Int) :
    (list.update identifier f).find identifier' =
      (list.find identifier').map fun s => if s.identifier = identifier then f s else s :=
  Keyed.lookup_map (fun s => by split <;> simp [hf]) list.sections identifier'

theorem map_update {β : Type} {f : Section I S → Section I S} {g : Section I S → β}
    (hg : ∀ s, g (f s) = g s) :
    (list.update identifier f).sections.map g = list.sections.map g := by
  unfold update
  rw [List.map_map]
  refine List.map_congr_left fun s _ => ?_
  simp only [Function.comp]
  split
  · exact hg s
  · rfl

theorem unique_update (h : Keyed.Unique Section.identifier list.sections)
    {f : Section I S → Section I S} (hf : ∀ s, (f s).identifier = s.identifier) :
    Keyed.Unique Section.identifier (list.update identifier f).sections := by
  unfold Keyed.Unique
  rw [map_update hf]
  exact h

/-- What an update does not touch is found as before. -/
theorem bind_find_update {α : Type} {f : Section I S → Section I S}
    (hf : ∀ s, (f s).identifier = s.identifier) {g : Section I S → Option α}
    (hg : ∀ s, g (f s) = g s) (identifier' : Int) :
    ((list.update identifier f).find identifier').bind g = (list.find identifier').bind g := by
  rw [find_update hf]
  cases list.find identifier' with
  | none => rfl
  | some s =>
    simp only [Option.map_some, Option.bind_some]
    split
    · exact hg s
    · rfl

/-- What an update sets is found at its section. -/
theorem bind_find_update_set {α : Type} {f : Section I S → Section I S}
    (hf : ∀ s, (f s).identifier = s.identifier) {g : Section I S → Option α} {a : Option α}
    (hset : ∀ s, g (f s) = a) (identifier' : Int) :
    ((list.update identifier f).find identifier').bind g =
      if identifier' = identifier then (list.find identifier).bind fun _ => a
      else (list.find identifier').bind g := by
  rw [find_update hf]
  by_cases heq : identifier' = identifier
  · subst heq
    rw [if_pos rfl]
    cases hs : list.find identifier' with
    | none => rfl
    | some s =>
      have hid : s.identifier = identifier' := Keyed.key_of_lookup hs
      simp [hid, hset]
  · rw [if_neg heq]
    cases hs : list.find identifier' with
    | none => rfl
    | some s =>
      have hid : s.identifier = identifier' := Keyed.key_of_lookup hs
      have hne : s.identifier ≠ identifier := fun h => heq (hid.symm.trans h)
      simp [hne]

theorem bind_find_insert {α : Type} (h : Keyed.Unique Section.identifier list.sections)
    (hnone : list.find identifier = none) {index : Nat} (hindex : index ≤ list.sections.length)
    {g : Section I S → Option α} (hg : g (.empty identifier) = none) (identifier' : Int) :
    (Keyed.lookup Section.identifier (list.sections.insertIdx index (.empty identifier))
        identifier').bind g = (list.find identifier').bind g := by
  have hperm : (list.sections.insertIdx index (.empty identifier)).Perm
      (.empty identifier :: list.sections) := List.perm_insertIdx _ _ hindex
  have hnew : Keyed.Unique Section.identifier (.empty identifier :: list.sections) := by
    refine List.nodup_cons.2 ⟨fun hmem => ?_, h⟩
    obtain ⟨s, hs, hid⟩ := List.mem_map.1 hmem
    exact Keyed.lookup_eq_none.1 hnone s hs hid
  rw [Keyed.lookup_perm hnew hperm, Keyed.lookup_cons]
  by_cases heq : (Section.empty identifier : Section I S).identifier = identifier'
  · have hid : identifier = identifier' := heq
    subst hid
    rw [if_pos heq, hnone]
    exact hg
  · rw [if_neg heq]
    rfl

theorem unique_insert (h : Keyed.Unique Section.identifier list.sections)
    (hnone : list.find identifier = none) {index : Nat} (hindex : index ≤ list.sections.length) :
    Keyed.Unique Section.identifier
      (list.sections.insertIdx index (.empty identifier)) := by
  have hnew : Keyed.Unique Section.identifier (.empty identifier :: list.sections) := by
    refine List.nodup_cons.2 ⟨fun hmem => ?_, h⟩
    obtain ⟨s, hs, hid⟩ := List.mem_map.1 hmem
    exact Keyed.lookup_eq_none.1 hnone s hs hid
  exact hnew.perm (List.perm_insertIdx _ _ hindex)

end SectionList

namespace Represents

variable {model : ListModel I S} {list : SectionList I S}

/-- No assertion holds where no section has the identifier. -/
theorem find_none_iff (h : Represents model list) (identifier : Int) :
    model.internalSectionForIdentifier identifier = none ↔ list.find identifier = none := by
  rcases h.located identifier with ⟨hfind, -, hsection⟩ | ⟨k, s, hfind, -, -, -, hsection, -⟩
  · exact ⟨fun _ => hfind, fun _ => hsection⟩
  · have hsome : model.internalSectionForIdentifier identifier = some k := hsection
    simp [hsome, hfind]

variable {identifier : Int}

/-- A section is inserted. -/
theorem insert (h : Represents model list) (hnone : list.find identifier = none) {index : Nat}
    (hindex : index ≤ list.sections.length) :
    Represents
      { model with
        sectionIdentifiers := model.sectionIdentifiers.insertIdx index identifier
        sections := model.sections.insertIdx index [] }
      { list with sections := list.sections.insertIdx index (.empty identifier) } where
  unique := SectionList.unique_insert h.unique hnone hindex
  identifiers := by
    dsimp only
    rw [List.map_insertIdx, h.identifiers]
    rfl
  items := by
    dsimp only
    rw [List.map_insertIdx, h.items]
    rfl
  headers := fun identifier' => (h.headers identifier').trans
    (SectionList.bind_find_insert h.unique hnone hindex rfl identifier').symm
  footers := fun identifier' => (h.footers identifier').trans
    (SectionList.bind_find_insert h.unique hnone hindex rfl identifier').symm
  collapsedKeys := fun identifier' => (h.collapsedKeys identifier').trans
    (SectionList.bind_find_insert h.unique hnone hindex rfl identifier').symm
  mode := h.mode
  mediator := h.mediator

/-- The items of a section change. -/
theorem setItems (h : Represents model list) {k : Nat} {items : List I}
    (hsection : model.sectionForSectionIdentifier identifier = some k)
    (hitems : model.sections[k]? = some items) (g : List I → List I) :
    Represents { model with sections := model.sections.set k (g items) }
      (list.update identifier fun s => { s with items := g s.items }) := by
  have hf : ∀ s : Section I S, ({ s with items := g s.items } : Section I S).identifier =
      s.identifier := fun _ => rfl
  rcases h.located identifier with ⟨-, -, hno⟩ | ⟨k', s, -, hid, hs, -, hk', hsItems⟩
  · rw [hno] at hsection
    cases hsection
  obtain rfl : k' = k := Option.some.inj (hk'.symm.trans hsection)
  obtain rfl : s.items = items := Option.some.inj (hsItems.symm.trans hitems)
  subst hid
  have hset := Keyed.map_update_eq_set h.unique hs fun s => { s with items := g s.items }
  have hsections : (list.update s.identifier fun s => { s with items := g s.items }).sections =
      list.sections.set k' { s with items := g s.items } := hset
  refine ⟨⟨SectionList.unique_update h.unique hf, ?_, ?_⟩, ?_, ?_, ?_, h.mode, h.mediator⟩
  · rw [hsections, List.map_set]
    dsimp only
    rw [h.identifiers]
    refine List.ext_getElem? fun j => ?_
    rw [List.getElem?_set]
    split
    next heq =>
      subst heq
      have hlt : k' < (list.sections.map Section.identifier).length := by
        rw [List.length_map]
        exact (List.getElem?_eq_some_iff.1 hs).1
      rw [if_pos hlt, List.getElem?_map, hs]
      rfl
    next => rfl
  · rw [hsections, List.map_set, h.items]
  · exact fun identifier' => (h.headers identifier').trans
      (SectionList.bind_find_update hf (fun _ => rfl) identifier').symm
  · exact fun identifier' => (h.footers identifier').trans
      (SectionList.bind_find_update hf (fun _ => rfl) identifier').symm
  · exact fun identifier' => (h.collapsedKeys identifier').trans
      (SectionList.bind_find_update hf (fun _ => rfl) identifier').symm

/-- A section is removed that has no header and no footer. -/
theorem remove (h : Represents model list) {k : Nat}
    (hsection : model.sectionForSectionIdentifier identifier = some k)
    (hheader : model.headers.objectForKey identifier = none)
    (hfooter : model.footers.objectForKey identifier = none) :
    Represents
      { model with
        sectionIdentifiers := model.sectionIdentifiers.eraseIdx k
        sections := model.sections.eraseIdx k
        collapsedKeys := model.collapsedKeys.removeObjectForKey identifier }
      { list with sections := Keyed.remove Section.identifier list.sections identifier } := by
  rcases h.located identifier with ⟨-, -, hno⟩ | ⟨k', s, -, hid, hs, -, hk', -⟩
  · rw [hno] at hsection
    cases hsection
  obtain rfl : k' = k := Option.some.inj (hk'.symm.trans hsection)
  subst hid
  have herase := Keyed.remove_eq_eraseIdx h.unique hs
  -- what is looked up by identifier
  have hkept : ∀ {α : Type} {g : Section I S → Option α} {found : Int → Option α},
      (∀ id, id ≠ s.identifier → found id = (list.find id).bind g) →
      found s.identifier = none →
      ∀ id, found id =
        (Keyed.lookup Section.identifier
          (Keyed.remove Section.identifier list.sections s.identifier) id).bind g := by
    intro α g found hfound hnone id
    by_cases heq : id = s.identifier
    · rw [heq, hnone, Keyed.lookup_remove_same]
      rfl
    · rw [Keyed.lookup_remove_of_ne _ heq]
      exact hfound id heq
  refine ⟨⟨h.unique.remove _, ?_, ?_⟩, hkept (fun id _ => h.headers id) hheader,
    hkept (fun id _ => h.footers id) hfooter, ?_, h.mode, h.mediator⟩
  · dsimp only
    rw [herase, h.identifiers, ← List.eraseIdx_map]
  · dsimp only
    rw [herase, h.items, ← List.eraseIdx_map]
  · exact hkept
      (fun id hne => (Dictionary.objectForKey_removeObjectForKey_of_ne _ hne).trans
        (h.collapsedKeys id))
      (Dictionary.objectForKey_removeObjectForKey_same _ _)

/-- What is kept under the identifier of a section is set. -/
theorem objectForKey_set {α : Type} {d d' : Dictionary Int α} (f : Section I S → Section I S)
    {g : Section I S → Option α} {a : Option α}
    (hd : ∀ id, d.objectForKey id = (list.find id).bind g)
    (hf : ∀ s, (f s).identifier = s.identifier) (hset : ∀ s, g (f s) = a)
    (hsame : d'.objectForKey identifier = a)
    (hother : ∀ id, id ≠ identifier → d'.objectForKey id = d.objectForKey id)
    (hok : a = none ∨ (list.find identifier).isSome = true) (id : Int) :
    d'.objectForKey id = ((list.update identifier f).find id).bind g := by
  rw [SectionList.bind_find_update_set hf hset]
  by_cases heq : id = identifier
  · rw [if_pos heq, heq, hsame]
    rcases hok with rfl | hsome
    · cases list.find identifier <;> rfl
    · obtain ⟨s, hs⟩ := Option.isSome_iff_exists.1 hsome
      rw [hs]
      rfl
  · rw [if_neg heq, hother id heq]
    exact hd id

/-- What is kept under the identifier of a section and is not set stays. -/
theorem objectForKey_kept {α : Type} {d : Dictionary Int α} (f : Section I S → Section I S)
    {g : Section I S → Option α} (hd : ∀ id, d.objectForKey id = (list.find id).bind g)
    (hf : ∀ s, (f s).identifier = s.identifier) (hg : ∀ s, g (f s) = g s) (id : Int) :
    d.objectForKey id = ((list.update identifier f).find id).bind g :=
  (hd id).trans (SectionList.bind_find_update hf hg id).symm

/-- A section changes in what is kept under its identifier. -/
theorem setKept (h : Represents model list) (f : Section I S → Section I S)
    (hf : ∀ s, (f s).identifier = s.identifier) (hitems : ∀ s, (f s).items = s.items)
    {headers footers : Dictionary Int S} {collapsedKeys : Dictionary Int String}
    (hheaders : ∀ id, headers.objectForKey id =
      ((list.update identifier f).find id).bind Section.header)
    (hfooters : ∀ id, footers.objectForKey id =
      ((list.update identifier f).find id).bind Section.footer)
    (hkeys : ∀ id, collapsedKeys.objectForKey id =
      ((list.update identifier f).find id).bind Section.collapsedKey) :
    Represents
      { model with headers := headers, footers := footers, collapsedKeys := collapsedKeys }
      (list.update identifier f) where
  unique := SectionList.unique_update h.unique hf
  identifiers := h.identifiers.trans (SectionList.map_update hf).symm
  items := h.items.trans (SectionList.map_update hitems).symm
  headers := hheaders
  footers := hfooters
  collapsedKeys := hkeys
  mode := h.mode
  mediator := h.mediator

theorem setHeader (h : Represents model list) {header : Option S}
    (hok : header = none ∨ model.hasSectionForSectionIdentifier identifier = true) :
    Represents (model.setHeader header identifier)
      (list.update identifier fun s => { s with header := header }) := by
  rw [h.hasSection] at hok
  let f : Section I S → Section I S := fun s => { s with header := header }
  have hset : ∀ headers : Dictionary Int S, headers.objectForKey identifier = header →
      (∀ id, id ≠ identifier → headers.objectForKey id = model.headers.objectForKey id) →
      Represents { model with headers := headers } (list.update identifier f) :=
    fun headers hsame hother => h.setKept f (fun _ => rfl) (fun _ => rfl)
      (objectForKey_set f h.headers (fun _ => rfl) (fun _ => rfl) hsame hother hok)
      (objectForKey_kept f h.footers (fun _ => rfl) fun _ => rfl)
      (objectForKey_kept f h.collapsedKeys (fun _ => rfl) fun _ => rfl)
  cases header with
  | none =>
    exact hset _ (Dictionary.objectForKey_removeObjectForKey_same _ _)
      fun id hne => Dictionary.objectForKey_removeObjectForKey_of_ne _ hne
  | some header =>
    exact hset _ (Dictionary.objectForKey_setObject_same _ _ _)
      fun id hne => Dictionary.objectForKey_setObject_of_ne _ _ hne

theorem setFooter (h : Represents model list) {footer : Option S}
    (hok : footer = none ∨ model.hasSectionForSectionIdentifier identifier = true) :
    Represents (model.setFooter footer identifier)
      (list.update identifier fun s => { s with footer := footer }) := by
  rw [h.hasSection] at hok
  let f : Section I S → Section I S := fun s => { s with footer := footer }
  have hset : ∀ footers : Dictionary Int S, footers.objectForKey identifier = footer →
      (∀ id, id ≠ identifier → footers.objectForKey id = model.footers.objectForKey id) →
      Represents { model with footers := footers } (list.update identifier f) :=
    fun footers hsame hother => h.setKept f (fun _ => rfl) (fun _ => rfl)
      (objectForKey_kept f h.headers (fun _ => rfl) fun _ => rfl)
      (objectForKey_set f h.footers (fun _ => rfl) (fun _ => rfl) hsame hother hok)
      (objectForKey_kept f h.collapsedKeys (fun _ => rfl) fun _ => rfl)
  cases footer with
  | none =>
    exact hset _ (Dictionary.objectForKey_removeObjectForKey_same _ _)
      fun id hne => Dictionary.objectForKey_removeObjectForKey_of_ne _ hne
  | some footer =>
    exact hset _ (Dictionary.objectForKey_setObject_same _ _ _)
      fun id hne => Dictionary.objectForKey_setObject_of_ne _ _ hne

theorem setCollapsedKey (h : Represents model list) {collapsedKey : String}
    (hok : model.hasSectionForSectionIdentifier identifier = true) :
    Represents
      { model with collapsedKeys := model.collapsedKeys.setObject identifier collapsedKey }
      (list.update identifier fun s => { s with collapsedKey := some collapsedKey }) := by
  rw [h.hasSection] at hok
  let f : Section I S → Section I S := fun s => { s with collapsedKey := some collapsedKey }
  exact h.setKept f (fun _ => rfl) (fun _ => rfl)
    (objectForKey_kept f h.headers (fun _ => rfl) fun _ => rfl)
    (objectForKey_kept f h.footers (fun _ => rfl) fun _ => rfl)
    (objectForKey_set f h.collapsedKeys (fun _ => rfl) (fun _ => rfl)
      (Dictionary.objectForKey_setObject_same _ _ _)
      (fun id hne => Dictionary.objectForKey_setObject_of_ne _ _ hne) (.inr hok))

/-! ## One step -/

theorem length_sections (h : Represents model list) :
    model.sections.length = list.sections.length := by
  rw [h.items, List.length_map]

theorem add (h : Represents model list) (hnone : list.find identifier = none) :
    Represents
      { model with
        sectionIdentifiers := model.sectionIdentifiers ++ [identifier]
        sections := model.sections ++ [[]] }
      { list with sections := list.sections ++ [.empty identifier] } := by
  have hadd := h.insert hnone (Nat.le_refl list.sections.length)
  have hidentifiers : model.sectionIdentifiers.insertIdx list.sections.length identifier =
      model.sectionIdentifiers ++ [identifier] := by
    have hlength : list.sections.length = model.sectionIdentifiers.length := by
      rw [h.identifiers, List.length_map]
    rw [hlength, List.insertIdx_length_self]
  have hsections : model.sections.insertIdx list.sections.length [] =
      model.sections ++ [[]] := by
    rw [← h.length_sections, List.insertIdx_length_self]
  rw [hidentifiers, hsections, List.insertIdx_length_self] at hadd
  exact hadd

/-- **A modification that leaves no header and no footer behind is what it is on a list of
sections.** -/
theorem perform [ListItem I] (h : Represents model list)
    {modification : ListModel.Modification I S} {model' : ListModel I S}
    (hperform : model.perform modification = some model')
    (hok : model.LeavesNone modification) :
    Represents model' (list.perform modification) := by
  cases modification with
  | addSection identifier =>
    obtain ⟨-, hnone, rfl⟩ := ListModel.addSectionWithIdentifier_eq_some.1 hperform
    exact h.add ((h.find_none_iff identifier).1 hnone)
  | insertSection identifier index =>
    obtain ⟨-, hnone, hindex, rfl⟩ :=
      ListModel.insertSectionWithIdentifier_eq_some.1 hperform
    exact h.insert ((h.find_none_iff identifier).1 hnone) (h.length_sections ▸ hindex)
  | addItem item identifier =>
    obtain ⟨-, k, items, hsection, hitems, rfl⟩ := ListModel.addItem_eq_some.1 hperform
    exact h.setItems hsection hitems fun items => items ++ [item]
  | insertItem item identifier index =>
    obtain ⟨-, k, items, hsection, hitems, -, rfl⟩ := ListModel.insertItem_eq_some.1 hperform
    exact h.setItems hsection hitems fun items => items.insertIdx index item
  | removeItem itemType identifier index =>
    obtain ⟨k, items, place, hsection, hitems, hplace, rfl⟩ :=
      ListModel.removeItemWithType_eq_some.1 hperform
    have hset := h.setItems hsection hitems fun items =>
      (places itemType items)[index]?.elim items items.eraseIdx
    rw [itemForItemType_eq] at hplace
    rw [hplace] at hset
    rwa [SectionList.perform_removeItem]
  | removeSection identifier =>
    obtain ⟨k, hsection, rfl⟩ := ListModel.removeSectionWithIdentifier_eq_some.1 hperform
    exact h.remove hsection hok.1 hok.2
  | deleteAllItems identifier =>
    obtain ⟨k, items, hsection, hitems, rfl⟩ := ListModel.deleteAllItems_eq_some.1 hperform
    exact h.setItems hsection hitems fun _ => []
  | setHeader header identifier =>
    obtain rfl := Option.some.inj hperform
    exact h.setHeader hok
  | setFooter footer identifier =>
    obtain rfl := Option.some.inj hperform
    exact h.setFooter hok
  | setCollapsedKey identifier collapsedKey =>
    obtain ⟨hsection, -, rfl⟩ := ListModel.setCollapsedKey_eq_some.1 hperform
    exact h.setCollapsedKey hsection
  | setCollapsed identifier collapsed =>
    obtain ⟨-, sectionKey, hkey, rfl⟩ := ListModel.setCollapsed_eq_some.1 hperform
    rw [h.collapsedKeys] at hkey
    simp only [SectionList.perform, hkey]
    exact { h with mediator := congrArg (·.setSectionKey sectionKey collapsed) h.mediator }
  | setCollapsableMode mode =>
    obtain rfl := Option.some.inj hperform
    exact { h with mode := rfl }

theorem isSome_of_update (h : Represents model list) {f : Section I S → Section I S}
    (hf : ∀ s, (f s).identifier = s.identifier) {s : Section I S}
    (hs : (list.update identifier f).find identifier = some s) :
    model.hasSectionForSectionIdentifier identifier = true := by
  rw [SectionList.find_update hf] at hs
  obtain ⟨s', hs', -⟩ := Option.map_eq_some_iff.1 hs
  rw [h.hasSection, hs']
  rfl

/-- **…and one that leaves one behind is not.** -/
theorem leavesNone [DecidableEq I] [ListItem I] (h : Represents model list)
    {modification : ListModel.Modification I S} {model' : ListModel I S}
    (hperform : model.perform modification = some model')
    (hagrees : Agrees model' (list.perform modification)) : model.LeavesNone modification := by
  cases modification with
  | removeSection identifier =>
    obtain ⟨k, hsection, rfl⟩ := ListModel.removeSectionWithIdentifier_eq_some.1 hperform
    have hgone : (list.perform (.removeSection identifier)).find identifier = none :=
      Keyed.lookup_remove_same list.sections identifier
    have hheader := hagrees.headerForSectionWithIdentifier identifier
    have hfooter := hagrees.footerForSectionWithIdentifier identifier
    rw [hgone] at hheader hfooter
    exact ⟨hheader, hfooter⟩
  | setHeader header identifier =>
    obtain rfl := Option.some.inj hperform
    cases header with
    | none => exact .inl rfl
    | some header =>
      refine .inr ?_
      have hheader := hagrees.headerForSectionWithIdentifier identifier
      have hset : (model.setHeader (some header) identifier).headerForSectionWithIdentifier
          identifier = some header := Dictionary.objectForKey_setObject_same _ _ _
      rw [hset] at hheader
      obtain ⟨s, hs, -⟩ := Option.bind_eq_some_iff.1 hheader.symm
      exact h.isSome_of_update (f := fun s => { s with header := some header }) (fun _ => rfl) hs
  | setFooter footer identifier =>
    obtain rfl := Option.some.inj hperform
    cases footer with
    | none => exact .inl rfl
    | some footer =>
      refine .inr ?_
      have hfooter := hagrees.footerForSectionWithIdentifier identifier
      have hset : (model.setFooter (some footer) identifier).footerForSectionWithIdentifier
          identifier = some footer := Dictionary.objectForKey_setObject_same _ _ _
      rw [hset] at hfooter
      obtain ⟨s, hs, -⟩ := Option.bind_eq_some_iff.1 hfooter.symm
      exact h.isSome_of_update (f := fun s => { s with footer := some footer }) (fun _ => rfl) hs
  | _ => trivial

theorem init (mediator : ListModelCollapsedMediator) :
    Represents (ListModel.init mediator : ListModel I S) (SectionList.init mediator) where
  unique := List.nodup_nil
  identifiers := rfl
  items := rfl
  headers := fun _ => rfl
  footers := fun _ => rfl
  collapsedKeys := fun _ => rfl
  mode := rfl
  mediator := rfl

end Represents

/-! ## Runs -/

section Runs

variable [DecidableEq I] [ListItem I]

/-- After the modification, the model answers as the list of sections does. -/
def AgreesAfter (mediator : ListModelCollapsedMediator)
    (s : ListModel I S × SectionList I S) (modification : ListModel.Modification I S) : Prop :=
  Agrees ((listMachine mediator).step s modification).1
    ((listMachine mediator).step s modification).2

variable (mediator : ListModelCollapsedMediator)

omit [DecidableEq I] in
theorem listMachine_step {s : ListModel I S × SectionList I S}
    {modification : ListModel.Modification I S}
    (hpre : (listMachine mediator).pre s modification) :
    ∃ model', s.1.perform modification = some model' ∧
      (listMachine mediator).step s modification = (model', s.2.perform modification) := by
  obtain ⟨model', hperform⟩ := Option.isSome_iff_exists.1 hpre
  refine ⟨model', hperform, ?_⟩
  unfold listMachine
  simp [hperform]

/-- **The model answers as a list of sections throughout a run exactly if no modification
leaves a header or a footer behind.** -/
theorem agrees_iff (modifications : List (ListModel.Modification I S))
    (hrun : (listMachine mediator).Run (ListModel.init mediator, SectionList.init mediator)
      modifications) :
    (Agrees (ListModel.init mediator : ListModel I S) (SectionList.init mediator) ∧
        (listMachine mediator).Always (AgreesAfter mediator)
          (ListModel.init mediator, SectionList.init mediator) modifications) ↔
      (listMachine mediator).Always (fun s modification => s.1.LeavesNone modification)
        (ListModel.init mediator, SectionList.init mediator) modifications := by
  have hiff : ∀ (s : ListModel I S × SectionList I S) modification, Represents s.1 s.2 →
      (listMachine mediator).pre s modification →
      (AgreesAfter mediator s modification ↔ s.1.LeavesNone modification) := by
    intro s modification h hpre
    obtain ⟨model', hperform, hstep⟩ := listMachine_step mediator hpre
    unfold AgreesAfter
    rw [hstep]
    exact ⟨h.leavesNone hperform, fun hok => (h.perform hperform hok).agrees⟩
  have hinit : Represents (ListModel.init mediator : ListModel I S) (SectionList.init mediator) :=
    Represents.init mediator
  have halways := Machine.always_iff_of_invariant (I := fun s => Represents s.1 s.2) hiff
    (fun s modification h hpre hagrees => by
      obtain ⟨model', hperform, hstep⟩ := listMachine_step mediator hpre
      rw [hstep]
      exact h.perform hperform ((hiff s modification h hpre).1 hagrees)) hinit hrun
  exact ⟨fun h => halways.1 h.2, fun h => ⟨hinit.agrees, halways.2 h⟩⟩

end Runs

/-- A section with a header is removed and its identifier used again. -/
private def usedAgain : List (ListModel.Modification PlainItem PlainItem) :=
  [.addSection 10, .setHeader (some ⟨0, 100⟩) 10, .removeSection 10, .addSection 10]

/-- The header is taken away before the section is removed. -/
private def headerTakenAway : List (ListModel.Modification PlainItem PlainItem) :=
  [.addSection 10, .setHeader (some ⟨0, 100⟩) 10, .setHeader none 10, .removeSection 10]

theorem agrees_iff_headerTakenAway :
    (Agrees (ListModel.init ⟨[]⟩ : ListModel PlainItem PlainItem) (SectionList.init ⟨[]⟩) ∧
        (listMachine ⟨[]⟩).Always (AgreesAfter ⟨[]⟩)
          (ListModel.init ⟨[]⟩, SectionList.init ⟨[]⟩) headerTakenAway) ↔
      (listMachine ⟨[]⟩).Always (fun s modification => s.1.LeavesNone modification)
        (ListModel.init ⟨[]⟩, SectionList.init ⟨[]⟩) headerTakenAway :=
  agrees_iff ⟨[]⟩ headerTakenAway (by decide +kernel)

/-- The new section has the header of the removed one. -/
theorem usedAgain_header :
    (listMachine ⟨[]⟩).Run (ListModel.init ⟨[]⟩, SectionList.init ⟨[]⟩) usedAgain ∧
    ((listMachine ⟨[]⟩).exec (ListModel.init ⟨[]⟩, SectionList.init ⟨[]⟩)
      usedAgain).1.headerForSection 0 = some (some ⟨0, 100⟩) ∧
    ¬ (listMachine ⟨[]⟩).Always (AgreesAfter ⟨[]⟩)
      (ListModel.init ⟨[]⟩, SectionList.init ⟨[]⟩) usedAgain := by
  refine ⟨by decide +kernel, by decide +kernel, fun h => ?_⟩
  have hagrees : AgreesAfter _ _ _ := h.2.2.2.1
  have hheader := hagrees.headerForSection 0
  revert hheader
  decide +kernel

end IosChrome.Lists

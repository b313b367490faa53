import IosChrome.ContentSuggestions.ClearSuggestion
import IosChrome.Lib.Machine
import IosChrome.Lib.SortedSet
import Mathlib.Data.Finset.Dedup
import Mathlib.Data.List.TakeWhile
import Mathlib.Logic.Embedding.Basic

/-!
# Where the updater puts a section

A section is inserted at the number of displayed sections that the data source lists before it.
That is its place while everything displayed before it is listed. A section that is no longer listed
but still displayed (a promo that was shown as often as it may be) is not counted, so that what
comes after it is put too far up. `Places` is the exact condition, and `sections_inOrder_iff` says
so of runs.

The collection view model is the list of its sections. The items in them are left out: when
`dataAvailableForSection:` returns early because of the items that are presented, the section is
displayed, and nothing would be inserted.
-/

namespace IosChrome.ContentSuggestions

open Lib Lib.SortedSet

structure ContentSuggestionsSectionInformation where
  sectionID : SectionID
  showIfEmpty : Bool
  deriving DecidableEq

/-- The answers of the data source at a moment, with the number of items for a section, and the
feature. -/
structure ContentSuggestionsDataSource where
  sectionsInfo : List ContentSuggestionsSectionInformation
  itemCount : ContentSuggestionsSectionInformation → Nat
  isDiscoverFeedEnabled : Bool

inductive UpdaterCall where
  | reloadAllData
  | dataAvailableForSection (sectionInfo : ContentSuggestionsSectionInformation)
  | addSection (sectionInfo : ContentSuggestionsSectionInformation)
  | clearSection (sectionInfo : ContentSuggestionsSectionInformation)
  | reloadSection (sectionInfo : ContentSuggestionsSectionInformation)
  deriving DecidableEq

def isFromContentSuggestionsService (sectionIdentifier : SectionID) : Bool :=
  sectionIdentifier = .articles || sectionIdentifier = .readingList

namespace ContentSuggestionsDataSource

variable (dataSource : ContentSuggestionsDataSource)

/-- The sections it lists. -/
def listed : List SectionID := dataSource.sectionsInfo.map (·.sectionID)

/-- Whether a section is inserted that may be displayed already. -/
def Inserts (model : List SectionID) (sectionInfo : ContentSuggestionsSectionInformation) : Prop :=
  ¬(sectionInfo.sectionID ∈ model ∨
    (sectionInfo.showIfEmpty = false ∧ dataSource.itemCount sectionInfo = 0) ∨
    (isFromContentSuggestionsService sectionInfo.sectionID = true ∧
      dataSource.isDiscoverFeedEnabled = true))

instance (model : List SectionID) (sectionInfo : ContentSuggestionsSectionInformation) :
    Decidable (dataSource.Inserts model sectionInfo) :=
  inferInstanceAs (Decidable (¬(_ ∨ _ ∨ _)))

end ContentSuggestionsDataSource

/-- The count of `addSectionsForSectionInfoToModel:` over the ordered sections. -/
def sectionIndex (model : List SectionID) (sectionIdentifier : SectionID) : List SectionID → Nat
  | [] => 0
  | orderedSectionIdentifier :: ordered =>
    if orderedSectionIdentifier = sectionIdentifier then 0
    else
      (if orderedSectionIdentifier ∈ model then 1 else 0) +
        sectionIndex model sectionIdentifier ordered

/-- One round of the loop, on the model and `addedSectionIdentifiers`. -/
def addSectionForInfo (dataSource : ContentSuggestionsDataSource)
    (state : List SectionID × List SectionID)
    (sectionInfo : ContentSuggestionsSectionInformation) : List SectionID × List SectionID :=
  if dataSource.Inserts state.1 sectionInfo then
    (state.1.insertIdx (sectionIndex state.1 sectionInfo.sectionID dataSource.listed)
      sectionInfo.sectionID, sectionInfo.sectionID :: state.2)
  else state

/-- `addSectionsForSectionInfoToModel:`, with the index set it returns. -/
def addSectionsForSectionInfoToModel (dataSource : ContentSuggestionsDataSource)
    (model : List SectionID) (sectionsInfo : List ContentSuggestionsSectionInformation) :
    List SectionID × Finset Nat :=
  let state := sectionsInfo.foldl (addSectionForInfo dataSource) (model, [])
  (state.1, (state.2.map (state.1.idxOf ·)).toFinset)

/-- The sections after a call. -/
def performUpdate (dataSource : ContentSuggestionsDataSource) (model : List SectionID) :
    UpdaterCall → List SectionID
  | .reloadAllData =>
    (addSectionsForSectionInfoToModel dataSource [] dataSource.sectionsInfo).1
  | .dataAvailableForSection sectionInfo =>
    (addSectionsForSectionInfoToModel dataSource model [sectionInfo]).1
  | .addSection sectionInfo =>
    if sectionInfo.sectionID ∈ model then model
    else (addSectionsForSectionInfoToModel dataSource model [sectionInfo]).1
  | .clearSection sectionInfo =>
    if sectionInfo.sectionID ∉ model then model else model.erase sectionInfo.sectionID
  | .reloadSection sectionInfo =>
    if sectionInfo.sectionID ∉ model then
      (addSectionsForSectionInfoToModel dataSource model [sectionInfo]).1
    else
      (addSectionsForSectionInfoToModel dataSource (model.erase sectionInfo.sectionID)
        [sectionInfo]).1

section Order

variable (order : SectionID ↪ Nat)

/-- The updater, for a data source that lists sections in the order whenever it is asked. -/
def updaterMachine : Machine (List SectionID) (ContentSuggestionsDataSource × UpdaterCall) where
  init model := model = []
  pre _ step := Sorted order step.1.listed
  step model step := performUpdate step.1 model step.2

/-- Where a section is inserted, all that is displayed before it is listed as well. Of a section that
is not listed itself, as many others have to be listed as are displayed before it. -/
def PlacesSection (dataSource : ContentSuggestionsDataSource) (model : List SectionID)
    (sectionInfo : ContentSuggestionsSectionInformation) : Prop :=
  dataSource.Inserts model sectionInfo →
    if sectionInfo.sectionID ∈ dataSource.listed then
      ∀ s ∈ model, order s < order sectionInfo.sectionID → s ∈ dataSource.listed
    else
      model.countP (fun s => order s < order sectionInfo.sectionID) =
        model.countP (· ∈ dataSource.listed)

/-- The section of a call is inserted in its place, if it is. A section that is reloaded is taken
out first. -/
def Places (dataSource : ContentSuggestionsDataSource) (model : List SectionID) :
    UpdaterCall → Prop
  | .reloadAllData => True
  | .dataAvailableForSection sectionInfo => PlacesSection order dataSource model sectionInfo
  | .addSection sectionInfo => PlacesSection order dataSource model sectionInfo
  | .clearSection _ => True
  | .reloadSection sectionInfo =>
    PlacesSection order dataSource (model.erase sectionInfo.sectionID) sectionInfo

end Order

variable {order : SectionID ↪ Nat} {dataSource : ContentSuggestionsDataSource}

theorem nodup_of_sorted {sections : List SectionID} (h : Sorted order sections) : sections.Nodup :=
  h.imp fun hlt heq => Nat.ne_of_lt hlt (congrArg order heq)

variable {model : List SectionID}

/-- The count goes over the sections listed before the new one. It is the same as over the
displayed ones. -/
theorem sectionIndex_eq (hmodel : model.Nodup) (x : SectionID) {ordered : List SectionID}
    (hordered : ordered.Nodup) :
    sectionIndex model x ordered = model.countP (· ∈ ordered.takeWhile (· ≠ x)) := by
  have hcount : ∀ ordered : List SectionID,
      sectionIndex model x ordered = (ordered.takeWhile (· ≠ x)).countP (· ∈ model) := by
    intro ordered
    induction ordered with
    | nil => rfl
    | cons y ordered ih =>
      rw [sectionIndex, List.takeWhile_cons]
      by_cases hy : y = x
      · simp [hy]
      · rw [if_neg hy, if_pos (decide_eq_true hy), List.countP_cons, ih, Nat.add_comm]
        by_cases hmem : y ∈ model <;> simp [hmem]
  rw [hcount, List.countP_eq_length_filter, List.countP_eq_length_filter]
  refine List.Perm.length_eq ((List.perm_ext_iff_of_nodup ?_ (hmodel.filter _)).2 fun s => ?_)
  · exact (hordered.sublist (List.takeWhile_sublist _)).filter _
  · simp only [List.mem_filter, decide_eq_true_eq]
    exact and_comm

theorem sectionIndex_le (hmodel : model.Nodup) (x : SectionID) {ordered : List SectionID}
    (hordered : ordered.Nodup) :
    sectionIndex model x ordered ≤ model.length := by
  rw [sectionIndex_eq hmodel x hordered]
  exact List.countP_le_length

/-- **One section is inserted in its place exactly on the condition.** -/
theorem addSectionForInfo_inOrder_iff (hlisted : Sorted order dataSource.listed)
    {model added : List SectionID} (hmodel : Sorted order model)
    (sectionInfo : ContentSuggestionsSectionInformation) :
    Sorted order (addSectionForInfo dataSource (model, added) sectionInfo).1 ↔
      PlacesSection order dataSource model sectionInfo := by
  rw [addSectionForInfo, PlacesSection]
  split
  · rename_i hinserts
    have hnew : sectionInfo.sectionID ∉ model := fun h => hinserts (Or.inl h)
    have hne : ∀ s ∈ model, order s ≠ order sectionInfo.sectionID := fun s hs heq =>
      hnew (order.injective heq ▸ hs)
    rw [sorted_insertIdx_iff hmodel hne
        (sectionIndex_le (nodup_of_sorted hmodel) _ (nodup_of_sorted hlisted)),
      sectionIndex_eq (nodup_of_sorted hmodel) _ (nodup_of_sorted hlisted), imp_iff_right hinserts]
    split
    · rename_i hmem
      -- The sections before it fall into those that are listed and the others.
      have hbefore : model.countP (· ∈ dataSource.listed.takeWhile (· ≠ sectionInfo.sectionID)) =
          (model.filter (· ∈ dataSource.listed)).countP
            (fun s => order s < order sectionInfo.sectionID) := by
        rw [List.countP_filter]
        refine List.countP_congr fun s _ => ?_
        simp only [Bool.and_eq_true, decide_eq_true_eq, hlisted.mem_takeWhile_iff hmem]
        exact and_comm
      rw [hbefore, List.countP_eq_countP_filter_add model _ (· ∈ dataSource.listed),
        Nat.left_eq_add, List.countP_eq_zero]
      refine ⟨fun h s hs hlt => by_contra fun hout => ?_, fun h s hs => ?_⟩
      · exact h s (List.mem_filter.2 ⟨hs, by simpa using hout⟩) (by simpa using hlt)
      · obtain ⟨hs, hout⟩ := List.mem_filter.1 hs
        simp only [decide_eq_true_eq, Bool.not_eq_true', decide_eq_false_iff_not] at hout ⊢
        exact fun hlt => hout (h s hs hlt)
    · rename_i hmem
      have hall : ∀ s ∈ dataSource.listed, decide (s ≠ sectionInfo.sectionID) = true := fun s hs =>
        decide_eq_true fun heq => hmem (heq ▸ hs)
      rw [List.takeWhile_eq_self_iff.2 hall]
      exact eq_comm
  · rename_i hskips
    exact ⟨fun _ h => absurd h hskips, fun _ => hmodel⟩

/-- Where the loop is, after it started with the sections `before`. -/
structure Adding (before : List SectionID) (state : List SectionID × List SectionID) : Prop where
  nodup : state.1.Nodup
  keeps : ∀ s ∈ before, s ∈ state.1
  mem_added : ∀ s, s ∈ state.2 ↔ s ∈ state.1 ∧ s ∉ before

/-- One round keeps the sections, and remembers the one it inserts. -/
theorem Adding.addSectionForInfo {before : List SectionID}
    {state : List SectionID × List SectionID} (h : Adding before state)
    (hlisted : dataSource.listed.Nodup) (sectionInfo : ContentSuggestionsSectionInformation) :
    Adding before (addSectionForInfo dataSource state sectionInfo) := by
  rw [ContentSuggestions.addSectionForInfo]
  split
  · rename_i hinserts
    have hnew : sectionInfo.sectionID ∉ state.1 := fun hin => hinserts (Or.inl hin)
    have hindex := sectionIndex_le h.nodup sectionInfo.sectionID hlisted
    refine ⟨?_, ?_, ?_⟩
    · exact (List.perm_insertIdx _ _ hindex).nodup_iff.2 (List.nodup_cons.2 ⟨hnew, h.nodup⟩)
    · intro s hs
      exact (List.mem_insertIdx hindex).2 (Or.inr (h.keeps s hs))
    · intro s
      rw [List.mem_cons, List.mem_insertIdx hindex, h.mem_added s]
      have hbefore : s = sectionInfo.sectionID → s ∉ before := fun heq hin =>
        hnew (heq ▸ h.keeps s hin)
      tauto
  · exact h

theorem Adding.foldl {before : List SectionID} (hlisted : dataSource.listed.Nodup) :
    ∀ (sectionsInfo : List ContentSuggestionsSectionInformation)
      {state : List SectionID × List SectionID}, Adding before state →
      Adding before (sectionsInfo.foldl (ContentSuggestions.addSectionForInfo dataSource) state)
  | [], _, h => h
  | sectionInfo :: rest, _, h => Adding.foldl hlisted rest (h.addSectionForInfo hlisted sectionInfo)

theorem adding_addSections (hlisted : dataSource.listed.Nodup) (hmodel : model.Nodup)
    (sectionsInfo : List ContentSuggestionsSectionInformation) :
    Adding model (sectionsInfo.foldl (addSectionForInfo dataSource) (model, [])) :=
  Adding.foldl hlisted sectionsInfo
    ⟨hmodel, fun _ hs => hs, fun s => by simp⟩

/-- The index set has the positions of the sections that were inserted. -/
theorem mem_addSections_indexSet (hlisted : dataSource.listed.Nodup) (hmodel : model.Nodup)
    (sectionsInfo : List ContentSuggestionsSectionInformation) (i : Nat) :
    i ∈ (addSectionsForSectionInfoToModel dataSource model sectionsInfo).2 ↔
      ∃ s, (addSectionsForSectionInfoToModel dataSource model sectionsInfo).1[i]? = some s ∧
        s ∉ model := by
  rw [addSectionsForSectionInfoToModel]
  have hadding := adding_addSections hlisted hmodel sectionsInfo
  generalize sectionsInfo.foldl (addSectionForInfo dataSource) (model, []) = state at hadding ⊢
  simp only [List.mem_toFinset, List.mem_map, hadding.mem_added]
  constructor
  · rintro ⟨s, ⟨hs, hnew⟩, rfl⟩
    exact ⟨s, List.getElem?_eq_some_iff.2
      ⟨List.idxOf_lt_length_of_mem hs, List.getElem_idxOf _⟩, hnew⟩
  · rintro ⟨s, hs, hnew⟩
    obtain ⟨hi, rfl⟩ := List.getElem?_eq_some_iff.1 hs
    exact ⟨_, ⟨List.getElem_mem hi, hnew⟩, hadding.nodup.idxOf_getElem i hi⟩

/-- Rounds with listed sections, from a model that has only such: nothing displayed is left out. -/
theorem foldl_inOrder (hlisted : Sorted order dataSource.listed) :
    ∀ (sectionsInfo : List ContentSuggestionsSectionInformation)
      {state : List SectionID × List SectionID},
      (∀ sectionInfo ∈ sectionsInfo, sectionInfo.sectionID ∈ dataSource.listed) →
      (∀ s ∈ state.1, s ∈ dataSource.listed) → Sorted order state.1 →
      Sorted order (sectionsInfo.foldl (addSectionForInfo dataSource) state).1
  | [], _, _, _, h => h
  | sectionInfo :: rest, (model, added), hinfos, hmodel, h => by
    refine foldl_inOrder hlisted rest (fun i hi => hinfos i (List.mem_cons_of_mem _ hi)) ?_ ?_
    · intro s hs
      rw [addSectionForInfo] at hs
      split at hs
      · rcases List.eq_or_mem_of_mem_insertIdx hs with rfl | hs
        · exact hinfos sectionInfo List.mem_cons_self
        · exact hmodel s hs
      · exact hmodel s hs
    · refine (addSectionForInfo_inOrder_iff hlisted h sectionInfo).2 fun _ => ?_
      rw [if_pos (hinfos sectionInfo List.mem_cons_self)]
      exact fun s hs _ => hmodel s hs

/-- A section that is displayed is not inserted. -/
theorem placesSection_of_mem {sectionInfo : ContentSuggestionsSectionInformation}
    (h : sectionInfo.sectionID ∈ model) :
    PlacesSection order dataSource model sectionInfo :=
  fun hinserts => absurd (Or.inl h) hinserts

/-- One call keeps the order exactly when it places its section. -/
theorem performUpdate_inOrder_iff (hlisted : Sorted order dataSource.listed)
    (hmodel : Sorted order model) (call : UpdaterCall) :
    Sorted order (performUpdate dataSource model call) ↔ Places order dataSource model call := by
  cases call with
  | reloadAllData =>
    refine ⟨fun _ => trivial, fun _ => ?_⟩
    refine foldl_inOrder hlisted dataSource.sectionsInfo (fun _ hi => List.mem_map_of_mem hi) ?_
      List.Pairwise.nil
    intro s hs
    cases hs
  | dataAvailableForSection sectionInfo =>
    exact addSectionForInfo_inOrder_iff hlisted hmodel sectionInfo
  | addSection sectionInfo =>
    rw [performUpdate, Places]
    split
    · rename_i hmem
      exact ⟨fun _ => placesSection_of_mem hmem, fun _ => hmodel⟩
    · exact addSectionForInfo_inOrder_iff hlisted hmodel sectionInfo
  | clearSection sectionInfo =>
    refine ⟨fun _ => trivial, fun _ => ?_⟩
    rw [performUpdate]
    split
    · exact hmodel
    · exact List.Pairwise.sublist List.erase_sublist hmodel
  | reloadSection sectionInfo =>
    have hsorted : Sorted order (model.erase sectionInfo.sectionID) :=
      List.Pairwise.sublist List.erase_sublist hmodel
    have herased := @addSectionForInfo_inOrder_iff order _ hlisted _ [] hsorted sectionInfo
    rw [performUpdate, Places]
    split
    · rename_i hmem
      rw [List.erase_of_not_mem hmem] at herased ⊢
      exact herased
    · exact herased

theorem nodup_performUpdate (hlisted : dataSource.listed.Nodup) (hmodel : model.Nodup)
    (call : UpdaterCall) : (performUpdate dataSource model call).Nodup := by
  cases call with
  | reloadAllData => exact (adding_addSections hlisted List.nodup_nil _).nodup
  | dataAvailableForSection sectionInfo => exact (adding_addSections hlisted hmodel _).nodup
  | addSection sectionInfo =>
    rw [performUpdate]
    split
    · exact hmodel
    · exact (adding_addSections hlisted hmodel _).nodup
  | clearSection sectionInfo =>
    rw [performUpdate]
    split
    · exact hmodel
    · exact hmodel.erase _
  | reloadSection sectionInfo =>
    rw [performUpdate]
    split
    · exact (adding_addSections hlisted hmodel _).nodup
    · exact (adding_addSections hlisted (hmodel.erase _) _).nodup

/-- **The sections are in order after every call of a run exactly when each call places its
section.** Each of them is there at most once in any case, and `addSectionsForSectionInfoToModel:`
returns the positions of the sections it inserted. -/
theorem sections_inOrder_iff (order : SectionID ↪ Nat)
    (steps : List (ContentSuggestionsDataSource × UpdaterCall))
    (hrun : (updaterMachine order).Run [] steps) :
    ((updaterMachine order).Always
        (fun model step => Sorted order (performUpdate step.1 model step.2)) [] steps ↔
      (updaterMachine order).Always (fun model step => Places order step.1 model step.2) []
        steps) ∧
      ((updaterMachine order).exec [] steps).Nodup ∧
      ∀ (dataSource : ContentSuggestionsDataSource) (model : List SectionID)
        (sectionsInfo : List ContentSuggestionsSectionInformation) (i : Nat),
        Sorted order dataSource.listed → model.Nodup →
        (i ∈ (addSectionsForSectionInfoToModel dataSource model sectionsInfo).2 ↔
          ∃ s, (addSectionsForSectionInfoToModel dataSource model sectionsInfo).1[i]? = some s ∧
            s ∉ model) := by
  refine ⟨?_, ?_, ?_⟩
  · exact Machine.always_iff_of_invariant (I := Sorted order)
      (fun _ step hmodel hpre => performUpdate_inOrder_iff hpre hmodel step.2)
      (fun _ _ _ _ h => h) List.Pairwise.nil hrun
  · exact Machine.Run.invariant (I := List.Nodup)
      (fun _ step hmodel hpre => nodup_performUpdate (nodup_of_sorted hpre) hmodel step.2)
      List.nodup_nil hrun
  · intro dataSource model sectionsInfo i hlisted hmodel
    exact mem_addSections_indexSet (nodup_of_sorted hlisted) hmodel sectionsInfo i

theorem SectionID.ctorIdx_injective : Function.Injective SectionID.ctorIdx := by
  intro a b h
  cases a <;> cases b <;> first | rfl | cases h

/-- The order of the mediator. -/
def mediatorOrder : SectionID ↪ Nat where
  toFun := SectionID.ctorIdx
  inj' := SectionID.ctorIdx_injective

/-- The data source lists the sections, all with an item. -/
def lists (sections : List SectionID) : ContentSuggestionsDataSource :=
  ⟨sections.map (⟨·, true⟩), fun _ => 1, false⟩

/-- A promo is displayed, and then there are articles, in front of a data source that lists the
sections. -/
def articlesAfterPromo (listed : List SectionID) :
    List (ContentSuggestionsDataSource × UpdaterCall) :=
  [(lists [.logo, .promo, .mostVisited], .reloadAllData),
    (lists listed, .dataAvailableForSection ⟨.articles, true⟩)]

instance (order : SectionID ↪ Nat) (sections : List SectionID) :
    Decidable (Sorted order sections) :=
  inferInstanceAs (Decidable (sections.Pairwise (order · < order ·)))

instance (order : SectionID ↪ Nat) (model : List SectionID)
    (step : ContentSuggestionsDataSource × UpdaterCall) :
    Decidable ((updaterMachine order).pre model step) :=
  inferInstanceAs (Decidable (Sorted order step.1.listed))

/-- The promo is still listed. -/
theorem sections_inOrder_iff_promoListed :
    (updaterMachine mediatorOrder).Run []
        (articlesAfterPromo [.logo, .promo, .mostVisited, .articles]) ∧
      (updaterMachine mediatorOrder).Always
        (fun model step => Sorted mediatorOrder (performUpdate step.1 model step.2)) []
        (articlesAfterPromo [.logo, .promo, .mostVisited, .articles]) := by
  have hrun : (updaterMachine mediatorOrder).Run []
      (articlesAfterPromo [.logo, .promo, .mostVisited, .articles]) := by decide
  refine ⟨hrun, (sections_inOrder_iff mediatorOrder _ hrun).1.2 ⟨trivial, fun _ => ?_, trivial⟩⟩
  rw [if_pos (by decide)]
  decide

/-- The promo was shown as often as it may be: it is not listed any more, and the articles are put
above the most visited sites. -/
theorem sections_inOrder_fails_promoNotListed :
    (updaterMachine mediatorOrder).Run [] (articlesAfterPromo [.logo, .mostVisited, .articles]) ∧
      (updaterMachine mediatorOrder).exec []
          (articlesAfterPromo [.logo, .mostVisited, .articles]) =
        [.logo, .promo, .articles, .mostVisited] ∧
      ¬Sorted mediatorOrder ((updaterMachine mediatorOrder).exec []
        (articlesAfterPromo [.logo, .mostVisited, .articles])) := by
  decide

end IosChrome.ContentSuggestions

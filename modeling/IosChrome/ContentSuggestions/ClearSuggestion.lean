import Mathlib.Data.List.Perm.Basic

/-!
# An invalidated suggestion

An item of the collection has an identifier object, made by `ConvertSuggestion` from the id of its
suggestion. When the service reports an id as invalidated, the mediator makes an identifier for it
anew, and the updater looks for the item that has it. It compares the two objects by their
addresses, not by `isEqual:`, and a new object has an address of its own (`fresh`): no item is ever
found, whatever the collection holds. `clearsExactly_iff` says what that comes to.

A pointer to an identifier is its index among all identifiers there ever were. The sections of the
collection view model stand one to one for the IDs of the section information.
-/

namespace IosChrome.ContentSuggestions

inductive SectionID where
  | logo
  | returnToRecentTab
  | promo
  | mostVisited
  | articles
  | readingList
  | learnMore
  | discover
  | unknown
  deriving DecidableEq

/-- `ContentSuggestionsSectionInformation`, an object with an address. -/
structure SectionInformation where
  address : Nat
  sectionID : SectionID
  deriving DecidableEq

structure ContentSuggestionIdentifier where
  idInSection : String
  sectionInfo : Option SectionInformation
  deriving DecidableEq

/-- `ContentSuggestion::ID`. -/
structure SuggestionID (C : Type) where
  category : C
  idWithinCategory : String
  deriving DecidableEq

/-- An item, with a pointer to its identifier if it has one. `madeFrom` is the suggestion it was
made from; no code reads it. -/
structure CSItem (C : Type) where
  suggestionIdentifier : Option Nat
  madeFrom : Option (SuggestionID C)
  deriving DecidableEq

structure CSSection (C : Type) where
  sectionIdentifier : SectionID
  items : List (CSItem C)
  deriving DecidableEq

/-- The collection and what the mediator knows of it. `identifiers` are the identifiers there ever
were, and `showIfEmpty` says for which sections an empty one shows a placeholder. -/
structure NTPCollection (C : Type) where
  identifiers : List ContentSuggestionIdentifier
  sections : List (CSSection C)
  sectionInformationByCategory : C → Option SectionInformation
  showIfEmpty : SectionID → Bool
  allocated : ∀ s ∈ sections, ∀ item ∈ s.items, ∀ pointer,
    item.suggestionIdentifier = some pointer → pointer < identifiers.length

namespace NTPCollection

variable {C : Type} (c : NTPCollection C)

/-- `[[ContentSuggestionIdentifier alloc] init]`, with its properties. -/
def newIdentifier (identifier : ContentSuggestionIdentifier) : NTPCollection C :=
  { c with
    identifiers := c.identifiers ++ [identifier]
    allocated := fun s hs item hitem pointer hpointer => by
      rw [List.length_append]
      exact Nat.lt_add_right 1 (c.allocated s hs item hitem pointer hpointer) }

/-- `ConvertSuggestion`, and the item at the end of its section. -/
def addSuggestion (i : Nat) (suggestionID : SuggestionID C) (sectionInfo : SectionInformation) :
    NTPCollection C :=
  { c.newIdentifier ⟨suggestionID.idWithinCategory, some sectionInfo⟩ with
    sections := c.sections.modify i fun s =>
      { s with items := s.items ++ [⟨some c.identifiers.length, some suggestionID⟩] }
    allocated := fun s hs item hitem pointer hpointer => by
      obtain ⟨k, hk, rfl⟩ := List.mem_iff_getElem.1 hs
      rw [List.length_modify] at hk
      rw [List.getElem_modify] at hitem
      have hmem := (c.newIdentifier ⟨suggestionID.idWithinCategory, some sectionInfo⟩).allocated
        c.sections[k] (List.getElem_mem hk) item
      split at hitem
      · rcases List.mem_append.1 hitem with hitem | hitem
        · exact hmem hitem pointer hpointer
        · rw [List.mem_singleton.1 hitem] at hpointer
          cases hpointer
          exact List.length_append ▸ Nat.lt_succ_self _
      · exact hmem hitem pointer hpointer }

/-- A message to nil is answered with zero, which is the logo's section. -/
def sectionIdentifierForInfo : Option SectionInformation → SectionID
  | none => .logo
  | some info => info.sectionID

/-- `dismissEntryAtIndexPath:`, with the placeholder of an emptied section. -/
def dismissEntryAtIndexPath (i j : Nat) : NTPCollection C :=
  { c with
    sections := c.sections.modify i fun s =>
      let rest := s.items.eraseIdx j
      { s with
        items :=
          if rest = [] ∧ c.showIfEmpty s.sectionIdentifier = true then [⟨none, none⟩] else rest }
    allocated := fun s hs item hitem pointer hpointer => by
      obtain ⟨k, hk, rfl⟩ := List.mem_iff_getElem.1 hs
      rw [List.length_modify] at hk
      rw [List.getElem_modify] at hitem
      have hmem := c.allocated c.sections[k] (List.getElem_mem hk) item
      split at hitem
      · dsimp only at hitem
        split at hitem
        · rw [List.mem_singleton.1 hitem] at hpointer
          cases hpointer
        · exact hmem (List.mem_of_mem_eraseIdx hitem) pointer hpointer
      · exact hmem hitem pointer hpointer }

/-- `clearSuggestion:` of `ContentSuggestionsCollectionUpdater`. -/
def clearSuggestion (pointer : Nat) : NTPCollection C :=
  let sectionInfo := c.identifiers[pointer]?.bind ContentSuggestionIdentifier.sectionInfo
  match c.sections.findIdx? (·.sectionIdentifier = sectionIdentifierForInfo sectionInfo) with
  | none => c
  | some i =>
    -- The identifiers are compared by their addresses.
    match c.sections[i]?.bind (·.items.findIdx? (·.suggestionIdentifier = some pointer)) with
    | none => c
    | some j => c.dismissEntryAtIndexPath i j

/-- `contentSuggestionsService:suggestionInvalidated:`. -/
def suggestionInvalidated (suggestionID : SuggestionID C) : NTPCollection C :=
  (c.newIdentifier ⟨suggestionID.idWithinCategory,
    c.sectionInformationByCategory suggestionID.category⟩).clearSuggestion c.identifiers.length

/-- The items made from suggestions. -/
def displayed : List (CSItem C) :=
  (c.sections.flatMap CSSection.items).filter (·.madeFrom.isSome)

def Displays (suggestionID : SuggestionID C) : Prop :=
  ∃ item ∈ c.displayed, item.madeFrom = some suggestionID

/-- **The item made from the suggestion is removed and no other one**; when there is none, the
model is as before. -/
structure ClearsExactly (suggestionID : SuggestionID C) : Prop where
  removed : c.Displays suggestionID → ∃ item, item.madeFrom = some suggestionID ∧
    c.displayed.Perm (item :: (c.suggestionInvalidated suggestionID).displayed)
  unchanged : ¬ c.Displays suggestionID →
    (c.suggestionInvalidated suggestionID).sections = c.sections

variable {c}

/-- No item has the identifier that is made next. -/
theorem fresh {s : CSSection C} (hs : s ∈ c.sections) {item : CSItem C} (hitem : item ∈ s.items) :
    item.suggestionIdentifier ≠ some c.identifiers.length := fun heq =>
  Nat.lt_irrefl _ (c.allocated s hs item hitem _ heq)

theorem sections_suggestionInvalidated (suggestionID : SuggestionID C) :
    (c.suggestionInvalidated suggestionID).sections = c.sections := by
  unfold suggestionInvalidated clearSuggestion
  dsimp only
  split
  · rfl
  · split
    · rfl
    · rename_i i _ j hj
      obtain ⟨s, hs, hitem⟩ := Option.bind_eq_some_iff.1 hj
      obtain ⟨hlt, hfound, -⟩ := List.findIdx?_eq_some_iff_getElem.1 hitem
      have hne := fresh (c := c) (List.mem_of_getElem? hs) (List.getElem_mem hlt)
      exact absurd (of_decide_eq_true hfound) hne

/-- **An invalidated suggestion is treated rightly if and only if no item was made from it.** -/
theorem clearsExactly_iff (c : NTPCollection C) (suggestionID : SuggestionID C) :
    c.ClearsExactly suggestionID ↔ ¬ c.Displays suggestionID := by
  have hsame := sections_suggestionInvalidated (c := c) suggestionID
  constructor
  · intro h hdisplays
    obtain ⟨item, -, hperm⟩ := h.removed hdisplays
    have hlength := hperm.length_eq
    rw [displayed, displayed, hsame, List.length_cons] at hlength
    omega
  · intro hnot
    exact ⟨fun hdisplays => absurd hdisplays hnot, fun _ => hsame⟩

/-- The collection with an article, made from the service. -/
def oneArticle : NTPCollection Unit :=
  NTPCollection.addSuggestion
    { identifiers := []
      sections := [⟨.articles, []⟩]
      sectionInformationByCategory := fun _ => some ⟨0, .articles⟩
      showIfEmpty := fun _ => false
      allocated := by simp } 0 ⟨(), "id"⟩ ⟨0, .articles⟩

/-- **Its suggestion is invalidated, and the article stays.** -/
theorem oneArticle_stays :
    (oneArticle.suggestionInvalidated ⟨(), "id"⟩).sections = oneArticle.sections ∧
      ¬ oneArticle.ClearsExactly ⟨(), "id"⟩ := by
  have hsame : (oneArticle.suggestionInvalidated ⟨(), "id"⟩).sections = oneArticle.sections := by
    decide
  refine ⟨hsame, fun h => ?_⟩
  obtain ⟨item, -, hperm⟩ := h.removed ⟨⟨some 0, some ⟨(), "id"⟩⟩, by decide, rfl⟩
  have hlength := hperm.length_eq
  rw [displayed, displayed, hsame, List.length_cons] at hlength
  omega

end NTPCollection

end IosChrome.ContentSuggestions

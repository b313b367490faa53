import Mathlib.Data.List.Forall2
import Mathlib.Data.List.Sort

/-!
# `hasDataSourceChanged`

When the reading list model has changed, the mediator builds the items of both sections anew and
compares them with the displayed ones, position by position. An item with the same URL is brought up
to date in place; then the two are compared, and a pair that is not equal means that the sections
have to be built again.

The comparison takes a URL for its host, and asks a text that may be nil whether it is equal to
another, which a nil text never is. So it takes two pages of a host for one, and finds an item
without a size and a date different from itself. `decidesRight_iff` says that nothing else goes
wrong.

The host of a URL, the texts and the order of entries with one update time are parameters. An item
is its value: the ones compared are never the same object.
-/

namespace IosChrome.Lists.ReadingList

inductive DistillationState where
  | waiting
  | processing
  | processed
  | willRetry
  | distillationError
  deriving DecidableEq

inductive UIDistillationStatus where
  | pending
  | success
  | failure
  deriving DecidableEq

def uiStatusFromModelStatus : DistillationState → UIDistillationStatus
  | .willRetry => .pending
  | .processing => .pending
  | .waiting => .pending
  | .processed => .success
  | .distillationError => .failure

/-- An entry; `distilledURL` is there when it is valid. -/
structure Entry (U : Type) where
  url : U
  title : String
  distilledURL : Option U
  distilledState : DistillationState
  distillationSize : Int
  distillationTime : Int
  isRead : Bool
  updateTime : Int

structure ListItem (U : Type) where
  title : String
  entryURL : U
  faviconPageURL : U
  distillationState : UIDistillationStatus
  distillationSizeText : Option String
  distillationDateText : Option String
  deriving DecidableEq

/-- `std::sort` of a section. It says nothing about the order of entries with one update time. -/
structure SortEntries (U : Type) where
  sort : List (Entry U) → List (Entry U)
  perm : ∀ vector, (sort vector).Perm vector
  sorted : ∀ vector, (sort vector).Pairwise fun rhs lhs => lhs.updateTime ≤ rhs.updateTime

/-- There is one. -/
def SortEntries.insertion (U : Type) : SortEntries U where
  sort vector := vector.insertionSort fun rhs lhs => lhs.updateTime ≤ rhs.updateTime
  perm vector := List.perm_insertionSort _ _
  sorted vector := by
    have htotal : Std.Total fun rhs lhs : Entry U => lhs.updateTime ≤ rhs.updateTime :=
      ⟨fun rhs lhs => le_total lhs.updateTime rhs.updateTime⟩
    have htrans : IsTrans (Entry U) fun rhs lhs => lhs.updateTime ≤ rhs.updateTime :=
      ⟨fun _ _ _ hfirst hsecond => le_trans hsecond hfirst⟩
    exact List.pairwise_insertionSort _ vector

/-- The host of a URL, the texts of a size and of a date, at the time they are asked for, and the
sort. -/
structure TextEnv (U H : Type) where
  host : U → H
  sizeText : Int → String
  dateText : Int → String
  sortEntries : SortEntries U

section

variable {U H : Type} (env : TextEnv U H)

def TextEnv.distillationSizeText (size : Int) : Option String :=
  if size = 0 then none else some (env.sizeText size)

def TextEnv.distillationDateText (date : Int) : Option String :=
  if date = 0 then none else some (env.dateText date)

/-- The entry is distilled, with a size and a time. -/
def Entry.HasDistillationDetails (entry : Entry U) : Prop :=
  entry.distilledState = .processed ∧ entry.distillationSize ≠ 0 ∧ entry.distillationTime ≠ 0

instance (entry : Entry U) : Decidable entry.HasDistillationDetails :=
  inferInstanceAs (Decidable (_ ∧ _))

def TextEnv.cellItemForReadingListEntry (entry : Entry U) : ListItem U where
  title := entry.title
  entryURL := entry.url
  faviconPageURL := entry.distilledURL.getD entry.url
  distillationState := uiStatusFromModelStatus entry.distilledState
  distillationDateText :=
    env.distillationDateText (if entry.HasDistillationDetails then entry.distillationTime else 0)
  distillationSizeText :=
    env.distillationSizeText (if entry.HasDistillationDetails then entry.distillationSize else 0)

/-- A message to nil is answered with NO, and nil is no string's equal. -/
def isEqualToString : Option String → Option String → Bool
  | some text, some other => text = other
  | _, _ => false

/-- `AreReadingListListItemsEqual`, for two items that are not one object. -/
def TextEnv.areEqual [DecidableEq H] (first second : ListItem U) : Bool :=
  first.title = second.title ∧ env.host first.entryURL = env.host second.entryURL ∧
    first.distillationState = second.distillationState ∧
    isEqualToString first.distillationSizeText second.distillationSizeText ∧
    isEqualToString first.distillationDateText second.distillationDateText

variable [DecidableEq U] [DecidableEq H]

/-- The displayed item, brought up to date if it has the URL of the new one. -/
def TextEnv.reconfigure (oldItem newItem : ListItem U) : ListItem U :=
  if oldItem.entryURL = newItem.entryURL then
    { (if env.areEqual oldItem newItem then oldItem
      else
        { oldItem with
          title := newItem.title
          entryURL := newItem.entryURL
          distillationState := newItem.distillationState
          distillationDateText := newItem.distillationDateText
          distillationSizeText := newItem.distillationSizeText }) with
      faviconPageURL := newItem.faviconPageURL }
  else oldItem

/-- The loop of `currentSection:isDifferentOfArray:`, with the displayed items it leaves. -/
def TextEnv.compareItems : List (ListItem U) → List (ListItem U) → Bool × List (ListItem U)
  | oldItem :: oldItems, newItem :: newItems =>
    let item := env.reconfigure oldItem newItem
    if env.areEqual item newItem then
      let (different, items) := TextEnv.compareItems oldItems newItems
      (different, item :: items)
    else (true, item :: oldItems)
  | oldItems, _ => (false, oldItems)

def TextEnv.isDifferentOfArray (currentSection array : List (ListItem U)) :
    Bool × List (ListItem U) :=
  if currentSection.length ≠ array.length then (true, currentSection)
  else env.compareItems currentSection array

/-- `fillReadItems:unreadItems:`, for the read entries or the others. -/
def TextEnv.fillItems (entries : List (Entry U)) (read : Bool) : List (ListItem U) :=
  (env.sortEntries.sort (entries.filter fun entry => entry.isRead = read)).map
    env.cellItemForReadingListEntry

/-- Whether the data source has changed, and the displayed items afterwards. -/
def TextEnv.hasDataSourceChanged (readItems unreadItems : List (ListItem U))
    (entries : List (Entry U)) : Bool × List (ListItem U) × List (ListItem U) :=
  let (readDifferent, readItems) := env.isDifferentOfArray readItems (env.fillItems entries true)
  if readDifferent then (true, readItems, unreadItems)
  else
    let (unreadDifferent, unreadItems) :=
      env.isDifferentOfArray unreadItems (env.fillItems entries false)
    (unreadDifferent, readItems, unreadItems)

/-! ## What is asked of it -/

/-- What an item shows. -/
def ListItem.shown (item : ListItem U) :
    U × String × UIDistillationStatus × Option String × Option String :=
  (item.entryURL, item.title, item.distillationState, item.distillationSizeText,
    item.distillationDateText)

def urls (items : List (ListItem U)) : List U := items.map ListItem.entryURL

/-- The displayed sections have the entries of the model, position by position. -/
def TextEnv.SameEntries (readItems unreadItems : List (ListItem U)) (entries : List (Entry U)) :
    Prop :=
  urls readItems = urls (env.fillItems entries true) ∧
    urls unreadItems = urls (env.fillItems entries false)

/-- **It says NO exactly for the same entries, and then every item shows its entry.** -/
structure TextEnv.DecidesRight (readItems unreadItems : List (ListItem U))
    (entries : List (Entry U)) : Prop where
  no_iff : (env.hasDataSourceChanged readItems unreadItems entries).1 = false ↔
    env.SameEntries readItems unreadItems entries
  shows : (env.hasDataSourceChanged readItems unreadItems entries).1 = false →
    (env.hasDataSourceChanged readItems unreadItems entries).2.1.map ListItem.shown =
        (env.fillItems entries true).map ListItem.shown ∧
      (env.hasDataSourceChanged readItems unreadItems entries).2.2.map ListItem.shown =
        (env.fillItems entries false).map ListItem.shown

/-- A pair of items that the comparison does not tell apart: one URL and both texts, or two URLs of
a host with everything else equal. -/
def TextEnv.Alike (oldItem newItem : ListItem U) : Prop :=
  if oldItem.entryURL = newItem.entryURL then
    newItem.distillationSizeText.isSome ∧ newItem.distillationDateText.isSome
  else env.areEqual oldItem newItem = true

/-- The condition: when the sections have the entries of the model, all of these are distilled with
a size and a time; when they have not, some pair of items can be told apart. -/
structure TextEnv.ToldApart (readItems unreadItems : List (ListItem U))
    (entries : List (Entry U)) : Prop where
  same : env.SameEntries readItems unreadItems entries →
    ∀ entry ∈ entries, entry.HasDistillationDetails
  other : ¬ env.SameEntries readItems unreadItems entries →
    ¬ (List.Forall₂ env.Alike readItems (env.fillItems entries true) ∧
      List.Forall₂ env.Alike unreadItems (env.fillItems entries false))

variable {env}

/-! ## One section -/

theorem isEqualToString_self (text : Option String) : isEqualToString text text = text.isSome := by
  cases text <;> simp [isEqualToString]

theorem isSome_of_isEqualToString {text other : Option String}
    (h : isEqualToString text other = true) : other.isSome ∧ text = other := by
  cases text <;> cases other <;> simp_all [isEqualToString]

theorem areEqual_reconfigure_iff {oldItem newItem : ListItem U} :
    env.areEqual (env.reconfigure oldItem newItem) newItem = true ↔
      env.Alike oldItem newItem := by
  unfold TextEnv.Alike TextEnv.reconfigure
  by_cases hurl : oldItem.entryURL = newItem.entryURL
  · rw [if_pos hurl, if_pos hurl]
    cases hequal : env.areEqual oldItem newItem with
    | true =>
      have h := hequal
      simp only [TextEnv.areEqual, decide_eq_true_eq] at h
      obtain ⟨-, -, -, hsize, hdate⟩ := h
      rw [if_pos rfl]
      exact ⟨fun _ => ⟨(isSome_of_isEqualToString hsize).1, (isSome_of_isEqualToString hdate).1⟩,
        fun _ => hequal⟩
    | false => simp [TextEnv.areEqual, isEqualToString_self]
  · rw [if_neg hurl, if_neg hurl]

/-- An item that was brought up to date shows the new one. -/
theorem shown_reconfigure {oldItem newItem : ListItem U}
    (hurl : oldItem.entryURL = newItem.entryURL) :
    (env.reconfigure oldItem newItem).shown = newItem.shown := by
  unfold TextEnv.reconfigure
  rw [if_pos hurl]
  split
  · rename_i h
    simp only [TextEnv.areEqual, decide_eq_true_eq] at h
    obtain ⟨htitle, -, hstate, hsize, hdate⟩ := h
    simp [ListItem.shown, hurl, htitle, hstate, (isSome_of_isEqualToString hsize).2,
      (isSome_of_isEqualToString hdate).2]
  · rfl

theorem compareItems_iff : ∀ {oldItems newItems : List (ListItem U)},
    oldItems.length = newItems.length →
      ((env.compareItems oldItems newItems).1 = false ↔
        List.Forall₂ env.Alike oldItems newItems)
  | [], [], _ => by simp [TextEnv.compareItems]
  | oldItem :: oldItems, newItem :: newItems, hlength => by
    have ih := compareItems_iff (Nat.succ.inj hlength)
    rw [List.forall₂_cons, ← areEqual_reconfigure_iff, ← ih, TextEnv.compareItems]
    split
    · rename_i h
      simp [h]
    · rename_i h
      simp [h]

theorem isDifferentOfArray_iff {oldItems newItems : List (ListItem U)} :
    (env.isDifferentOfArray oldItems newItems).1 = false ↔
      List.Forall₂ env.Alike oldItems newItems := by
  unfold TextEnv.isDifferentOfArray
  split
  · rename_i hlength
    simp only [Bool.true_eq_false, false_iff]
    exact fun h => hlength h.length_eq
  · rename_i hlength
    exact compareItems_iff (not_not.1 hlength)

theorem shown_compareItems : ∀ {oldItems newItems : List (ListItem U)},
    urls oldItems = urls newItems → List.Forall₂ env.Alike oldItems newItems →
      (env.compareItems oldItems newItems).2.map ListItem.shown = newItems.map ListItem.shown
  | [], [], _, _ => by simp [TextEnv.compareItems]
  | oldItem :: oldItems, newItem :: newItems, hurls, halike => by
    obtain ⟨hurl, hrest⟩ := List.cons.inj hurls
    obtain ⟨hitem, halike⟩ := List.forall₂_cons.1 halike
    have ih := shown_compareItems hrest halike
    rw [TextEnv.compareItems, if_pos (areEqual_reconfigure_iff.2 hitem)]
    simp only [List.map_cons, ih, shown_reconfigure hurl]
  | [], _ :: _, hurls, _ => by simp [urls] at hurls
  | _ :: _, [], hurls, _ => by simp [urls] at hurls

theorem shown_isDifferentOfArray {oldItems newItems : List (ListItem U)}
    (hurls : urls oldItems = urls newItems) (halike : List.Forall₂ env.Alike oldItems newItems) :
    (env.isDifferentOfArray oldItems newItems).2.map ListItem.shown =
      newItems.map ListItem.shown := by
  unfold TextEnv.isDifferentOfArray
  rw [if_neg (not_not.2 halike.length_eq)]
  exact shown_compareItems hurls halike

/-- With the same URLs, the items are alike when the new ones have both texts. -/
theorem forall₂_alike_iff : ∀ {oldItems newItems : List (ListItem U)},
    urls oldItems = urls newItems → (List.Forall₂ env.Alike oldItems newItems ↔
      ∀ item ∈ newItems, item.distillationSizeText.isSome ∧ item.distillationDateText.isSome)
  | [], [], _ => by simp
  | oldItem :: oldItems, newItem :: newItems, hurls => by
    obtain ⟨hurl, hrest⟩ := List.cons.inj hurls
    have ih := forall₂_alike_iff hrest
    rw [List.forall₂_cons, ih, List.forall_mem_cons, TextEnv.Alike, if_pos hurl]
  | [], _ :: _, hurls => by simp [urls] at hurls
  | _ :: _, [], hurls => by simp [urls] at hurls

/-! ## Both sections -/

theorem hasDataSourceChanged_iff {readItems unreadItems : List (ListItem U)}
    {entries : List (Entry U)} :
    (env.hasDataSourceChanged readItems unreadItems entries).1 = false ↔
      List.Forall₂ env.Alike readItems (env.fillItems entries true) ∧
        List.Forall₂ env.Alike unreadItems (env.fillItems entries false) := by
  rw [← isDifferentOfArray_iff, ← isDifferentOfArray_iff, TextEnv.hasDataSourceChanged]
  dsimp only
  split
  · rename_i h
    simp [h]
  · rename_i h
    simp [h]

omit [DecidableEq U] [DecidableEq H] in
theorem texts_iff (entry : Entry U) :
    ((env.cellItemForReadingListEntry entry).distillationSizeText.isSome ∧
      (env.cellItemForReadingListEntry entry).distillationDateText.isSome) ↔
        entry.HasDistillationDetails := by
  simp only [TextEnv.cellItemForReadingListEntry, TextEnv.distillationSizeText,
    TextEnv.distillationDateText]
  by_cases h : entry.HasDistillationDetails
  · simp [h, h.2.1, h.2.2]
  · simp [h]

omit [DecidableEq U] [DecidableEq H] in
theorem texts_fillItems_iff {entries : List (Entry U)} {read : Bool} :
    (∀ item ∈ env.fillItems entries read,
        item.distillationSizeText.isSome ∧ item.distillationDateText.isSome) ↔
      ∀ entry ∈ entries, entry.isRead = read → entry.HasDistillationDetails := by
  unfold TextEnv.fillItems
  simp only [List.forall_mem_map, texts_iff, (env.sortEntries.perm _).mem_iff, List.mem_filter,
    decide_eq_true_eq]
  exact ⟨fun h entry hmem hread => h entry ⟨hmem, hread⟩,
    fun h entry hentry => h entry hentry.1 hentry.2⟩

/-- The same entries are found unchanged when all of them have a size and a time. -/
theorem unchanged_iff_details {readItems unreadItems : List (ListItem U)}
    {entries : List (Entry U)} (hsame : env.SameEntries readItems unreadItems entries) :
    (env.hasDataSourceChanged readItems unreadItems entries).1 = false ↔
      ∀ entry ∈ entries, entry.HasDistillationDetails := by
  rw [hasDataSourceChanged_iff, forall₂_alike_iff hsame.1, forall₂_alike_iff hsame.2,
    texts_fillItems_iff, texts_fillItems_iff]
  constructor
  · intro h entry hmem
    cases hread : entry.isRead with
    | true => exact h.1 entry hmem hread
    | false => exact h.2 entry hmem hread
  · exact fun h => ⟨fun entry hmem _ => h entry hmem, fun entry hmem _ => h entry hmem⟩

/-- **The mediator decides right if and only if its comparison tells the items apart.** -/
theorem decidesRight_iff (env : TextEnv U H) (readItems unreadItems : List (ListItem U))
    (entries : List (Entry U)) : env.DecidesRight readItems unreadItems entries ↔
      env.ToldApart readItems unreadItems entries := by
  constructor
  · intro h
    refine ⟨fun hsame => (unchanged_iff_details hsame).1 (h.no_iff.2 hsame), fun hother => ?_⟩
    rw [← hasDataSourceChanged_iff]
    exact fun hno => hother (h.no_iff.1 hno)
  · intro h
    have hno : (env.hasDataSourceChanged readItems unreadItems entries).1 = false ↔
        env.SameEntries readItems unreadItems entries := by
      constructor
      · intro hno
        by_contra hother
        exact h.other hother (hasDataSourceChanged_iff.1 hno)
      · exact fun hsame => (unchanged_iff_details hsame).2 (h.same hsame)
    refine ⟨hno, fun hfalse => ?_⟩
    obtain ⟨hread, hunread⟩ := hno.1 hfalse
    obtain ⟨halike, halike'⟩ := hasDataSourceChanged_iff.1 hfalse
    have hsame := isDifferentOfArray_iff.2 halike
    have hshown := shown_isDifferentOfArray hread halike
    have hshown' := shown_isDifferentOfArray hunread halike'
    rw [TextEnv.hasDataSourceChanged]
    dsimp only
    rw [hsame, if_neg Bool.false_ne_true]
    exact ⟨hshown, hshown'⟩

/-- Pages are numbers, ten to a host. -/
def tenPages : TextEnv Nat Nat :=
  ⟨fun url => url / 10, fun _ => "size", fun _ => "date", .insertion Nat⟩

/-- **An entry that is not distilled is found changed although nothing is, and one entry is taken
for another of its host.** -/
theorem tenPages_wrong :
    (let entry : Entry Nat := ⟨1, "title", none, .waiting, 0, 0, false, 0⟩;
      ¬ tenPages.DecidesRight [] (tenPages.fillItems [entry] false) [entry]) ∧
    let entry : Entry Nat := ⟨1, "title", none, .processed, 1, 1, false, 0⟩
    ¬ tenPages.DecidesRight [] (tenPages.fillItems [entry] false) [{ entry with url := 2 }] := by
  refine ⟨fun h => ?_, fun h => ?_⟩
  · have hno := h.no_iff.2 ⟨by decide, rfl⟩
    exact absurd hno (by decide)
  · have hsame := h.no_iff.1 (by decide)
    exact absurd hsame.2 (by decide)

end

end IosChrome.Lists.ReadingList

import IosChrome.Lists.HistoryOrdered

/-!
# Runs of the inserter

Entries are inserted, the client deletes some of them and removes the sections it emptied.
Beside the inserter goes the list of days that its sections stand for. Whatever the time
zone, and whatever is in the list model before: the sections are those days, each with its
entries in order, and the delegate follows the rows (`history_ordered`).
-/

namespace IosChrome.Lists

open Lib

inductive HistoryCall where
  | insertHistoryEntryItem (item : HistoryEntryItem)
  | removeSection (sectionIndex : Nat)
  /-- The client removes an item from the list model. -/
  | removeItem (itemType sectionIdentifier : Int) (index : Nat)

def HistoryEntryInserter.perform (s : HistoryEntryInserter) (localTime : LocalTime) :
    HistoryCall → Option HistoryEntryInserter
  | .insertHistoryEntryItem item => s.insertHistoryEntryItem localTime item
  | .removeSection sectionIndex => s.removeSection sectionIndex
  | .removeItem itemType sectionIdentifier index => do
    let listModel ← s.listModel.removeItemWithType itemType sectionIdentifier index
    some { s with listModel := listModel }

/-- What a call makes of the days. The sections before the inserter's are no days. -/
def HistoryEntryInserter.daysAfter (s : HistoryEntryInserter) (localTime : LocalTime)
    (days : List HistoryDay) : HistoryCall → List HistoryDay
  | .insertHistoryEntryItem item =>
    HistoryDay.insertEntry days (localTime.date item.timestamp) item.entry
  | .removeSection sectionIndex => days.eraseIdx (sectionIndex - s.firstSectionIndex)
  | .removeItem itemType sectionIdentifier index =>
    match s.listModel.indexPathForItemType itemType sectionIdentifier index with
    | none => days
    | some indexPath =>
      match s.listModel.itemAtIndexPath indexPath with
      | none => days
      | some item =>
        if s.firstSectionIndex ≤ indexPath.sectionIndex then
          HistoryDay.eraseEntry days (indexPath.sectionIndex - s.firstSectionIndex) item.entry
        else days

/-- The inserter beside the days. Only sections of the inserter's that are empty are
removed, as its header asks for. -/
def historyMachine (localTime : LocalTime) (listModel : HistoryModel) :
    Machine (HistoryEntryInserter × List HistoryDay) HistoryCall where
  init s := s = (HistoryEntryInserter.initWithModel listModel, [])
  pre s
    | .insertHistoryEntryItem item => kItemTypeEnumZero ≤ item.type
    | .removeSection sectionIndex =>
      s.1.firstSectionIndex ≤ sectionIndex ∧ s.1.listModel.sections[sectionIndex]? = some []
    | .removeItem itemType sectionIdentifier index =>
      (s.1.listModel.removeItemWithType itemType sectionIdentifier index).isSome
  step s call := ((s.1.perform localTime call).getD s.1, s.1.daysAfter localTime s.2 call)

instance (localTime : LocalTime) (listModel : HistoryModel)
    (s : HistoryEntryInserter × List HistoryDay) (call : HistoryCall) :
    Decidable ((historyMachine localTime listModel).pre s call) :=
  match call with
  | .insertHistoryEntryItem item =>
    inferInstanceAs (Decidable (kItemTypeEnumZero ≤ item.type))
  | .removeSection sectionIndex =>
    inferInstanceAs (Decidable (s.1.firstSectionIndex ≤ sectionIndex ∧
      s.1.listModel.sections[sectionIndex]? = some []))
  | .removeItem itemType sectionIdentifier index =>
    inferInstanceAs (Decidable ((s.1.listModel.removeItemWithType itemType sectionIdentifier
      index).isSome = true))

/-- From most to least recent, those of one time by URL. -/
def HistoryEntryItem.Before (a b : HistoryEntryItem) : Prop :=
  b.timestamp < a.timestamp ∨ a.timestamp = b.timestamp ∧ a.URL < b.URL

/-- The sections from the first of the inserter's on are the days. -/
structure HistoryOrdered (localTime : LocalTime) (s : HistoryEntryInserter)
    (days : List HistoryDay) : Prop where
  numberOfSections : s.listModel.numberOfSections = s.firstSectionIndex + days.length
  decreasing : days.Pairwise fun a b => b.date < a.date
  sections : ∀ j day, days[j]? = some day →
    ∃ items, s.listModel.sections[s.firstSectionIndex + j]? = some items ∧
      items.Pairwise HistoryEntryItem.Before ∧
      (∀ item ∈ items, localTime.date item.timestamp = day.date) ∧
      ∀ entry, entry ∈ day.entries ↔ ∃ item ∈ items, item.entry = entry

/-- What the delegate is told in a call is what happens to the rows. A client that deletes an
item tells its table view itself. -/
def HistoryCall.Tells (counts : List (Option Nat)) (told : List (Notification × HistoryModel))
    (counts' : List (Option Nat)) : HistoryCall → Prop
  | .removeItem .. => told = []
  | _ => Matches counts told counts'

/-- The call succeeds, the delegate is told what happens to the rows, and afterwards the
sections are the days. -/
structure StepOrdered (localTime : LocalTime) (listModel : HistoryModel)
    (s : HistoryEntryInserter × List HistoryDay) (call : HistoryCall) : Prop where
  succeeds : (s.1.perform localTime call).isSome = true
  told : ∃ told, ((historyMachine localTime listModel).step s call).1.notifications =
      s.1.notifications ++ told ∧
    call.Tells (rowCounts s.1.listModel) told
      (rowCounts ((historyMachine localTime listModel).step s call).1.listModel)
  ordered : HistoryOrdered localTime ((historyMachine localTime listModel).step s call).1
    ((historyMachine localTime listModel).step s call).2

/-- The inserter shows a history of the days. -/
def ShowsDays (localTime : LocalTime) (s : HistoryEntryInserter × List HistoryDay) : Prop :=
  ∃ history, Shows localTime s.1 history ∧ s.2 = history.map HistorySection.day

section

variable {localTime : LocalTime} {listModel : HistoryModel}

theorem Shows.historyOrdered {s : HistoryEntryInserter} {history : List HistorySection}
    (h : Shows localTime s history) :
    HistoryOrdered localTime s (history.map HistorySection.day) where
  numberOfSections := by
    rw [List.length_map]
    exact h.length_sections
  decreasing := List.pairwise_map.2 (h.decreasing.imp fun {a b} hab => by
    have hlt : -a.date < -b.date := hab
    have hdates : b.date < a.date := by omega
    exact hdates)
  sections := fun j day hday => by
    rw [List.getElem?_map] at hday
    obtain ⟨r, hr, rfl⟩ := Option.map_eq_some_iff.1 hday
    have hmem := List.mem_of_getElem? hr
    refine ⟨r.items, h.itemsAt hr, (h.sorted r hmem).imp ?_, h.onTheirDay r hmem, ?_⟩
    · intro a b hab
      unfold entryKey at hab
      rw [Prod.Lex.toLex_lt_toLex] at hab
      unfold HistoryEntryItem.Before
      dsimp only at hab
      rcases hab with hlt | ⟨heq, hURL⟩
      · exact .inl (by omega)
      · exact .inr ⟨by omega, hURL⟩
    · intro entry
      simp [HistorySection.day]

/-- **One call.** -/
theorem ShowsDays.step {s : HistoryEntryInserter × List HistoryDay} (h : ShowsDays localTime s)
    {call : HistoryCall} (hpre : (historyMachine localTime listModel).pre s call) :
    ShowsDays localTime ((historyMachine localTime listModel).step s call) ∧
      StepOrdered localTime listModel s call := by
  obtain ⟨history, hshows, hdays⟩ := h
  -- it is enough to say what the call does
  suffices hcall : ∃ s' history' told, s.1.perform localTime call = some s' ∧
      Shows localTime s' history' ∧
      s.1.daysAfter localTime s.2 call = history'.map HistorySection.day ∧
      s'.notifications = s.1.notifications ++ told ∧
      call.Tells (rowCounts s.1.listModel) told (rowCounts s'.listModel) by
    obtain ⟨s', history', told, hperform, hshows', hdays', htold, hmatches⟩ := hcall
    have hstep : (historyMachine localTime listModel).step s call =
        (s', history'.map HistorySection.day) := by
      simp [historyMachine, hperform, hdays']
    have hordered := hshows'.historyOrdered
    refine ⟨?_, ⟨?_, ?_, ?_⟩⟩
    · rw [hstep]
      exact ⟨history', hshows', rfl⟩
    · rw [hperform]
      rfl
    · rw [hstep]
      exact ⟨told, htold, hmatches⟩
    · rw [hstep]
      exact hordered
  cases call with
  | insertHistoryEntryItem item =>
    obtain ⟨s', history', told, hperform, hshows', hdays', -, htold, hmatches⟩ :=
      hshows.insertHistoryEntryItem hpre
    refine ⟨s', history', told, hperform, hshows', ?_, htold, hmatches⟩
    rw [hdays', ← hdays]
    rfl
  | removeSection sectionIndex =>
    obtain ⟨hle, hempty⟩ := hpre
    obtain ⟨j, rfl⟩ := Nat.exists_eq_add_of_le hle
    have hitems : (history.map HistorySection.items)[j]? = some [] := by
      rw [← hshows.sections, List.getElem?_drop, hempty]
    rw [List.getElem?_map] at hitems
    obtain ⟨r, hr, hrempty⟩ := Option.map_eq_some_iff.1 hitems
    obtain ⟨s', told, hperform, hshows', -, htold, hmatches⟩ := hshows.removeSection hr hrempty
    refine ⟨s', history.eraseIdx j, told, hperform, hshows', ?_, htold, hmatches⟩
    unfold HistoryEntryInserter.daysAfter
    dsimp only
    rw [Nat.add_sub_cancel_left, hdays, List.eraseIdx_map]
  | removeItem itemType sectionIdentifier index =>
    obtain ⟨model, hremove⟩ := Option.isSome_iff_exists.1 hpre
    obtain ⟨history', k, place, item, hpath, hat, hshows', hdays'⟩ := hshows.removeItem hremove
    refine ⟨_, history', [], ?_, hshows', ?_, (List.append_nil _).symm, rfl⟩
    · simp [HistoryEntryInserter.perform, hremove]
    · unfold HistoryEntryInserter.daysAfter
      simp only [hpath, hat]
      rw [hdays', hdays]

/-- A list model whose identifiers leave those free that the inserter assigns. -/
theorem showsDays_init {mediator : ListModelCollapsedMediator}
    (hreachable : (ListModel.modelMachine mediator).Reachable listModel)
    (hfree : ∀ identifier ∈ listModel.sectionIdentifiers, ∀ k : Nat,
      identifier ≠ kSectionIdentifierEnumZero + listModel.numberOfSections + k) :
    ShowsDays localTime (HistoryEntryInserter.initWithModel listModel, []) := by
  have hwellFormed := ListModel.WellFormed.reachable hreachable
  have hbelow : ∀ identifier ∈ listModel.sectionIdentifiers,
      identifier < kSectionIdentifierEnumZero + listModel.numberOfSections := by
    intro identifier hmem
    by_contra hge
    obtain ⟨k, hk⟩ := Int.le.dest (not_lt.1 hge)
    exact hfree identifier hmem k hk.symm
  refine ⟨[], ⟨hwellFormed, Nat.le_refl _, ?_, ?_, rfl, List.nodup_nil, fun _ => rfl,
    List.Pairwise.nil, ?_, ?_, ?_, ?_, ?_⟩, rfl⟩
  · exact List.drop_eq_nil_of_le (Nat.le_of_eq hwellFormed.lengths)
  · exact List.drop_eq_nil_of_le (Nat.le_refl _)
  · exact fun r hr => absurd hr List.not_mem_nil
  · exact fun identifier hmem => hbelow identifier (List.mem_of_mem_take hmem)
  · intro identifier hle
    refine hwellFormed.keys identifier fun hmem => ?_
    exact absurd (hbelow identifier hmem) (not_lt.2 hle)
  · exact fun r hr => absurd hr List.not_mem_nil
  · exact fun r hr => absurd hr List.not_mem_nil

/-- **Throughout a run the sections are the days that were inserted and are not removed.** -/
theorem history_ordered {mediator : ListModelCollapsedMediator}
    (hreachable : (ListModel.modelMachine mediator).Reachable listModel)
    (hfree : ∀ identifier ∈ listModel.sectionIdentifiers, ∀ k : Nat,
      identifier ≠ kSectionIdentifierEnumZero + listModel.numberOfSections + k)
    {calls : List HistoryCall}
    (hrun : (historyMachine localTime listModel).Run
      (HistoryEntryInserter.initWithModel listModel, []) calls) :
    HistoryOrdered localTime (HistoryEntryInserter.initWithModel listModel) [] ∧
      (historyMachine localTime listModel).Always (StepOrdered localTime listModel)
        (HistoryEntryInserter.initWithModel listModel, []) calls := by
  have hinit : ShowsDays localTime (HistoryEntryInserter.initWithModel listModel, []) :=
    showsDays_init hreachable hfree
  refine ⟨?_, Machine.always_of_invariant (fun s call h hpre => (h.step hpre).1)
    (fun s call h hpre => (h.step hpre).2) hinit hrun⟩
  obtain ⟨history, hshows, hdays⟩ := hinit
  have hordered := hshows.historyOrdered
  rw [← hdays] at hordered
  exact hordered

end

/-- A time zone in which days begin as in UTC, read on January 2nd, 1970. -/
private def utc : LocalTime where
  localMidnight timestamp := timestamp / 86400000000 * 86400000000
  relativeDateLocalized timestamp :=
    if timestamp < unixEpoch + 86400000000 then "Yesterday - Thursday, January 1, 1970"
    else "Today - Friday, January 2, 1970"

/-- The model of the history page: one section, for the status of the entries. -/
private def historyPage : HistoryModel :=
  (ListModel.modelMachine ⟨[]⟩).exec (ListModel.init ⟨[]⟩) [.addSection 10]

/-- A day of two entries, one of them inserted twice, that is deleted and removed after
the next day has come before it. -/
private def twoDays : List HistoryCall :=
  [.insertHistoryEntryItem ⟨0, 100, "b", unixEpoch + 5⟩,
    .insertHistoryEntryItem ⟨1, 100, "c", unixEpoch + 86400000005⟩,
    .insertHistoryEntryItem ⟨2, 100, "a", unixEpoch + 5⟩,
    .insertHistoryEntryItem ⟨3, 100, "b", unixEpoch + 5⟩,
    .insertHistoryEntryItem ⟨4, 100, "d", unixEpoch + 86400000007⟩,
    .removeItem 100 11 1, .removeItem 100 11 0, .removeSection 2, .removeItem 100 12 0]

theorem history_ordered_twoDays :
    HistoryOrdered utc (HistoryEntryInserter.initWithModel historyPage) [] ∧
      (historyMachine utc historyPage).Always (StepOrdered utc historyPage)
        (HistoryEntryInserter.initWithModel historyPage, []) twoDays := by
  have hreachable : (ListModel.modelMachine ⟨[]⟩).Reachable historyPage :=
    ⟨ListModel.init ⟨[]⟩, [.addSection 10], rfl, by decide +kernel, rfl⟩
  have hfree : ∀ identifier ∈ historyPage.sectionIdentifiers, ∀ k : Nat,
      identifier ≠ kSectionIdentifierEnumZero + historyPage.numberOfSections + k := by
    have hidentifiers : historyPage.sectionIdentifiers = [10] := by decide +kernel
    have hsections : historyPage.numberOfSections = 1 := by decide +kernel
    intro identifier hmem k
    rw [hidentifiers, List.mem_singleton] at hmem
    rw [hmem, hsections]
    unfold kSectionIdentifierEnumZero
    omega
  exact history_ordered hreachable hfree (by decide +kernel)

end IosChrome.Lists

import IosChrome.Lib.Keyed
import IosChrome.Lib.Machine
import Mathlib.Data.Nat.Basic

/-!
# The states of the web view's navigations

`CRWWKNavigationStates` has a record for each navigation that was reported to it,
with an index that counts the records made. The last added navigation is the one
whose record has the highest index, so an index should tell when a navigation was
first reported, and an update of a record keeps its index.

When a navigation finishes, a workaround drops the records of all older ones. An
older navigation may be reported after that, and is then given a new record, with
the highest index of all: it becomes the last added navigation
(`lateCommit_reorders`). In the runs in which a navigation that was reported
before still has its record whenever it is reported again (`StillRecorded`), the
records are in the order of the first reports, the last added navigation is the
latest of them, and an update does not change it (`firstReported_order`).
-/

namespace IosChrome.Navigation

open IosChrome.Lib

inductive WKNavigationState where
  | NONE
  | REQUESTED
  | STARTED
  | REDIRECTED
  | PROVISIONALY_FAILED
  | COMMITTED
  | FINISHED
  | FAILED
  deriving DecidableEq

def WKNavigationState.toInt : WKNavigationState → Int
  | .NONE => 0
  | .REQUESTED => 1
  | .STARTED => 2
  | .REDIRECTED => 3
  | .PROVISIONALY_FAILED => 4
  | .COMMITTED => 5
  | .FINISHED => 6
  | .FAILED => 7

structure CRWWKNavigationsStateRecord (Context : Type) where
  state : WKNavigationState
  index : Nat
  committed : Bool
  context : Option Context
  deriving DecidableEq

/-- The records under the key of their navigation; the null navigation has one of
its own. `clearOldNavigationRecords` is the workaround's feature. -/
structure CRWWKNavigationStates (WKNavigation Context : Type) where
  records : List (Option WKNavigation × CRWWKNavigationsStateRecord Context)
  lastStateIndex : Nat
  clearOldNavigationRecords : Bool
  deriving DecidableEq

section

variable {WKNavigation Context : Type} [DecidableEq WKNavigation]

namespace CRWWKNavigationStates

variable (s : CRWWKNavigationStates WKNavigation Context)

/-- `[_records objectForKey:]`. -/
def record (key : Option WKNavigation) : Option (CRWWKNavigationsStateRecord Context) :=
  (Keyed.lookup Prod.fst s.records key).map Prod.snd

def setState (state : WKNavigationState) (navigation : Option WKNavigation) :
    CRWWKNavigationStates WKNavigation Context :=
  let known := s.record navigation
  let lastStateIndex := if known.isSome then s.lastStateIndex else s.lastStateIndex + 1
  let record := match known with
    | none => { state := state, index := lastStateIndex, committed := false, context := none }
    | some record => { record with state := state }
  let record := if state = .COMMITTED then { record with committed := true } else record
  let records :=
    if state = .FINISHED ∧ s.clearOldNavigationRecords then
      s.records.filter fun entry => ¬ entry.2.index < record.index
    else s.records
  { s with
    records := Keyed.put Prod.fst records (navigation, record)
    lastStateIndex := lastStateIndex }

def removeNavigation (navigation : Option WKNavigation) :
    CRWWKNavigationStates WKNavigation Context × Option Context :=
  ({ s with records := Keyed.remove Prod.fst s.records navigation },
    (s.record navigation).bind CRWWKNavigationsStateRecord.context)

def setContext (context : Option Context) (navigation : Option WKNavigation) :
    CRWWKNavigationStates WKNavigation Context :=
  let known := s.record navigation
  let lastStateIndex := if known.isSome then s.lastStateIndex else s.lastStateIndex + 1
  let record := match known with
    | none => { state := .NONE, index := lastStateIndex, committed := false, context := context }
    | some record => { record with context := context }
  { s with
    records := Keyed.put Prod.fst s.records (navigation, record)
    lastStateIndex := lastStateIndex }

/-- One turn of the loop of `getLastAddedNavigation:record:`, which starts at index 0. -/
def laterRecord (last : Option (Option WKNavigation × CRWWKNavigationsStateRecord Context))
    (entry : Option WKNavigation × CRWWKNavigationsStateRecord Context) :
    Option (Option WKNavigation × CRWWKNavigationsStateRecord Context) :=
  if (last.map fun entry => entry.2.index).getD 0 < entry.2.index then some entry else last

def getLastAddedNavigation : Option (Option WKNavigation × CRWWKNavigationsStateRecord Context) :=
  s.records.foldl laterRecord none

/-- The null navigation's key is answered as nil. -/
def lastAddedNavigation : Option WKNavigation :=
  s.getLastAddedNavigation.bind Prod.fst

end CRWWKNavigationStates

/-! ## What is reported -/

/-- The records with what was reported: when each navigation was first reported, and
the last state it was reported in. The null navigation's key is used for one
navigation after another; a removal ends the one it stands for. -/
structure ReportedNavigations (WKNavigation Context : Type) where
  states : CRWWKNavigationStates WKNavigation Context
  firstReported : Option WKNavigation → Option Nat
  lastState : Option WKNavigation → WKNavigationState
  reports : Nat

inductive NavigationReport (WKNavigation Context : Type) where
  | setState (state : WKNavigationState) (navigation : Option WKNavigation)
  | setContext (context : Option Context) (navigation : Option WKNavigation)
  | removeNavigation (navigation : Option WKNavigation)

namespace ReportedNavigations

variable (s : ReportedNavigations WKNavigation Context)

def report (navigation : Option WKNavigation) (state : WKNavigationState)
    (states : CRWWKNavigationStates WKNavigation Context) :
    ReportedNavigations WKNavigation Context where
  states := states
  firstReported := fun key =>
    if key = navigation then some ((s.firstReported key).getD s.reports) else s.firstReported key
  lastState := fun key => if key = navigation then state else s.lastState key
  reports := s.reports + 1

def step : NavigationReport WKNavigation Context → ReportedNavigations WKNavigation Context
  | .setState state navigation => s.report navigation state (s.states.setState state navigation)
  | .setContext context navigation =>
    s.report navigation (s.lastState navigation) (s.states.setContext context navigation)
  | .removeNavigation navigation =>
    { s with
      states := (s.states.removeNavigation navigation).1
      firstReported := fun key => if key = none ∧ navigation = none then none else s.firstReported key
      lastState := fun key => if key = none ∧ navigation = none then .NONE else s.lastState key }

/-- The orders in which the web view reports a navigation: its states rise, but a
redirect may come again and a commit after the finish. -/
def Allowed : NavigationReport WKNavigation Context → Prop
  | .setState state navigation =>
    if s.firstReported navigation = none then
      state = .REQUESTED ∨ state = .STARTED ∨ state = .COMMITTED
    else
      (s.lastState navigation).toInt < state.toInt ∨
        s.lastState navigation = .REDIRECTED ∧ state = .REDIRECTED ∨
        s.lastState navigation = .FINISHED ∧ state = .COMMITTED ∨ navigation = none
  | .setContext _ _ => True
  | .removeNavigation navigation => (s.states.record navigation).isSome

end ReportedNavigations

end

/-- A new object. -/
def navigationMachine (WKNavigation Context : Type) [DecidableEq WKNavigation] :
    Machine (ReportedNavigations WKNavigation Context) (NavigationReport WKNavigation Context) where
  init s := s.states.records = [] ∧ s.states.lastStateIndex = 0 ∧
    (∀ key, s.firstReported key = none) ∧ ∀ key, s.lastState key = .NONE
  pre s report := s.Allowed report
  step := ReportedNavigations.step

namespace ReportedNavigations

section

variable {WKNavigation Context : Type} [DecidableEq WKNavigation]
  (s : ReportedNavigations WKNavigation Context)

/-- When a navigation that is known was first reported. -/
def moment (key : Option WKNavigation) : Nat := (s.firstReported key).getD 0

/-- The records are in the order of the first reports, and the last added navigation
is the latest of those recorded. -/
structure InReportOrder : Prop where
  ordered : ∀ entry ∈ s.states.records, ∀ entry' ∈ s.states.records,
    entry.2.index < entry'.2.index ↔ s.moment entry.1 < s.moment entry'.1
  latest : ∀ last, s.states.getLastAddedNavigation = some last →
    last ∈ s.states.records ∧ ∀ entry ∈ s.states.records, s.moment entry.1 ≤ s.moment last.1

/-- A report of a navigation that was reported before leaves the last added one. -/
def UpdateKeepsLast : NavigationReport WKNavigation Context → Prop
  | .setState state navigation => s.firstReported navigation ≠ none →
    (s.step (.setState state navigation)).states.lastAddedNavigation = s.states.lastAddedNavigation
  | .setContext context navigation => s.firstReported navigation ≠ none →
    (s.step (.setContext context navigation)).states.lastAddedNavigation =
      s.states.lastAddedNavigation
  | .removeNavigation _ => True

/-- A navigation that was reported before is recorded. -/
def StillRecorded : NavigationReport WKNavigation Context → Prop
  | .setState _ navigation | .setContext _ navigation =>
    s.firstReported navigation ≠ none → (s.states.record navigation).isSome
  | .removeNavigation _ => True

end

end ReportedNavigations

/-! ## What a report does to the records -/

namespace CRWWKNavigationStates

section

variable {WKNavigation Context : Type} [DecidableEq WKNavigation]
  {s s' : CRWWKNavigationStates WKNavigation Context}

/-- **What a report of `key` does**: the other records keep their index or are dropped,
and `key` keeps its index or is given the next one. -/
structure Filed (s s' : CRWWKNavigationStates WKNavigation Context)
    (key : Option WKNavigation) : Prop where
  lastStateIndex : s'.lastStateIndex =
    if (s.record key).isSome then s.lastStateIndex else s.lastStateIndex + 1
  unique : Keyed.Unique Prod.fst s.records → Keyed.Unique Prod.fst s'.records
  origin : ∀ entry' ∈ s'.records,
    (∃ entry ∈ s.records, entry.1 = entry'.1 ∧ entry.2.index = entry'.2.index) ∨
      entry'.1 = key ∧ entry'.2.index = s.lastStateIndex + 1 ∧ s.record key = none
  /-- What is not older than the record of `key` stays. -/
  stays : ∀ old, s.record key = some old → ∀ entry ∈ s.records, old.index ≤ entry.2.index →
    Keyed.Unique Prod.fst s.records →
      ∃ entry' ∈ s'.records, entry'.1 = entry.1 ∧ entry'.2.index = entry.2.index

theorem mem_of_record {key : Option WKNavigation}
    {record : CRWWKNavigationsStateRecord Context} (h : s.record key = some record) :
    (key, record) ∈ s.records := by
  obtain ⟨entry, hlookup, rfl⟩ := Option.map_eq_some_iff.1 h
  obtain rfl := Keyed.key_of_lookup hlookup
  exact Keyed.mem_of_lookup hlookup

theorem record_of_mem (hunique : Keyed.Unique Prod.fst s.records)
    {entry : Option WKNavigation × CRWWKNavigationsStateRecord Context} (h : entry ∈ s.records) :
    s.record entry.1 = some entry.2 := by
  unfold record
  rw [(Keyed.lookup_eq_some hunique).2 ⟨h, rfl⟩]
  rfl

theorem filed_put {key : Option WKNavigation} {record : CRWWKNavigationsStateRecord Context}
    {kept : List (Option WKNavigation × CRWWKNavigationsStateRecord Context)} {index : Nat}
    (hlast : index = if (s.record key).isSome then s.lastStateIndex else s.lastStateIndex + 1)
    (hindex : record.index = ((s.record key).map CRWWKNavigationsStateRecord.index).getD index)
    (hkept : kept.Sublist s.records)
    (hstay : ∀ entry ∈ s.records, record.index ≤ entry.2.index → entry ∈ kept) :
    Filed s
      { s with records := Keyed.put Prod.fst kept (key, record), lastStateIndex := index }
      key where
  lastStateIndex := hlast
  unique hunique := Keyed.Unique.put (List.Nodup.sublist (hkept.map _) hunique) _
  origin entry' hentry' := by
    rcases Keyed.mem_put.1 hentry' with ⟨hold, -⟩ | rfl
    · exact .inl ⟨entry', hkept.subset hold, rfl, rfl⟩
    · cases hrecord : s.record key with
      | none =>
        rw [hrecord] at hindex hlast
        exact .inr ⟨rfl, hindex.trans hlast, rfl⟩
      | some old =>
        rw [hrecord] at hindex
        exact .inl ⟨(key, old), mem_of_record hrecord, rfl, hindex.symm⟩
  stays old hold entry hentry hle hunique := by
    rw [hold] at hindex
    have hindex' : record.index = old.index := hindex
    by_cases hkey : entry.1 = key
    · have hsame : some entry.2 = some old := by
        rw [← hold, ← hkey]
        exact (record_of_mem hunique hentry).symm
      refine ⟨(key, record), Keyed.mem_put.2 (.inr rfl), hkey.symm, ?_⟩
      rw [Option.some.inj hsame]
      exact hindex'
    · exact ⟨entry, Keyed.mem_put.2 (.inl ⟨hstay entry hentry (hindex'.symm ▸ hle), hkey⟩),
        rfl, rfl⟩

theorem filed_setContext (context : Option Context) (navigation : Option WKNavigation) :
    Filed s (s.setContext context navigation) navigation := by
  unfold setContext
  refine filed_put rfl ?_ (List.Sublist.refl _) fun _ hentry _ => hentry
  cases s.record navigation <;> rfl

theorem filed_setState (state : WKNavigationState) (navigation : Option WKNavigation) :
    Filed s (s.setState state navigation) navigation := by
  unfold setState
  refine filed_put rfl ?_ ?_ fun entry hentry hle => ?_
  · cases s.record navigation <;> (dsimp only; split <;> rfl)
  · split
    · exact List.filter_sublist
    · exact List.Sublist.refl _
  · split
    · exact List.mem_filter.2 ⟨hentry, decide_eq_true (not_lt.2 hle)⟩
    · exact hentry

/-! ## The last added navigation -/

omit [DecidableEq WKNavigation] in
theorem foldl_laterRecord : ∀ (records : List (Option WKNavigation ×
    CRWWKNavigationsStateRecord Context)) (last : Option (Option WKNavigation ×
      CRWWKNavigationsStateRecord Context)),
    (records.foldl laterRecord last = last ∨
      ∃ entry ∈ records, records.foldl laterRecord last = some entry) ∧
    (last.map fun entry => entry.2.index).getD 0 ≤
      ((records.foldl laterRecord last).map fun entry => entry.2.index).getD 0 ∧
    ∀ entry ∈ records, entry.2.index ≤
      ((records.foldl laterRecord last).map fun entry => entry.2.index).getD 0
  | [], last => ⟨.inl rfl, le_refl _, fun _ hentry => absurd hentry List.not_mem_nil⟩
  | entry :: records, last => by
    obtain ⟨hfrom, hstart, hall⟩ := foldl_laterRecord records (laterRecord last entry)
    rw [List.foldl_cons]
    by_cases hlater : (last.map fun entry => entry.2.index).getD 0 < entry.2.index
    · have hnext : laterRecord last entry = some entry := if_pos hlater
      rw [hnext] at hfrom hstart hall ⊢
      have hentry : entry.2.index ≤
          ((records.foldl laterRecord (some entry)).map fun entry => entry.2.index).getD 0 := hstart
      refine ⟨.inr ?_, Nat.le_trans (le_of_lt hlater) hentry, fun other hother => ?_⟩
      · rcases hfrom with hsame | ⟨other, hother, hfound⟩
        · exact ⟨entry, List.mem_cons_self, hsame⟩
        · exact ⟨other, List.mem_cons_of_mem _ hother, hfound⟩
      · rcases List.mem_cons.1 hother with rfl | hother
        · exact hentry
        · exact hall other hother
    · have hnext : laterRecord last entry = last := if_neg hlater
      rw [hnext] at hfrom hstart hall ⊢
      refine ⟨hfrom.imp_right ?_, hstart, fun other hother => ?_⟩
      · rintro ⟨other, hother, hfound⟩
        exact ⟨other, List.mem_cons_of_mem _ hother, hfound⟩
      · rcases List.mem_cons.1 hother with rfl | hother
        · exact Nat.le_trans (not_lt.1 hlater) hstart
        · exact hall other hother

omit [DecidableEq WKNavigation] in
/-- **The last added navigation has the highest index.** -/
theorem getLastAddedNavigation_eq_some {last : Option WKNavigation ×
      CRWWKNavigationsStateRecord Context} (h : s.getLastAddedNavigation = some last) :
    last ∈ s.records ∧ ∀ entry ∈ s.records, entry.2.index ≤ last.2.index := by
  obtain ⟨hfrom, -, hall⟩ := foldl_laterRecord s.records none
  unfold getLastAddedNavigation at h
  rw [h] at hfrom hall
  refine ⟨?_, hall⟩
  rcases hfrom with hnone | ⟨entry, hentry, hfound⟩
  · cases hnone
  · exact Option.some.inj hfound ▸ hentry

omit [DecidableEq WKNavigation] in
/-- There is a last added navigation unless there is none at all. -/
theorem exists_getLastAddedNavigation {entry : Option WKNavigation ×
      CRWWKNavigationsStateRecord Context} (hentry : entry ∈ s.records) (hindex : 0 < entry.2.index) :
    ∃ last, s.getLastAddedNavigation = some last := by
  obtain ⟨-, -, hall⟩ := foldl_laterRecord s.records none
  have hle := hall entry hentry
  unfold getLastAddedNavigation
  cases hlast : s.records.foldl laterRecord none with
  | some last => exact ⟨last, rfl⟩
  | none =>
    rw [hlast] at hle
    exact absurd hle (not_le.2 hindex)

end

end CRWWKNavigationStates

/-! ## Runs -/

namespace ReportedNavigations

variable {WKNavigation Context : Type} [DecidableEq WKNavigation]
  {s : ReportedNavigations WKNavigation Context}

/-- Each recorded navigation was reported, and the indices, which are those of the
records made, rise with the first reports. -/
structure Numbered (s : ReportedNavigations WKNavigation Context) : Prop where
  unique : Keyed.Unique Prod.fst s.states.records
  index_pos : ∀ entry ∈ s.states.records, 0 < entry.2.index
  index_le : ∀ entry ∈ s.states.records, entry.2.index ≤ s.states.lastStateIndex
  reported : ∀ entry ∈ s.states.records, s.firstReported entry.1 ≠ none
  moment_lt : ∀ entry ∈ s.states.records, s.moment entry.1 < s.reports
  rising : ∀ entry ∈ s.states.records, ∀ entry' ∈ s.states.records,
    entry.2.index < entry'.2.index → s.moment entry.1 < s.moment entry'.1
  distinct : ∀ entry ∈ s.states.records, ∀ entry' ∈ s.states.records,
    entry.2.index = entry'.2.index → entry.1 = entry'.1

omit [DecidableEq WKNavigation] in
theorem Numbered.inReportOrder (h : s.Numbered) : s.InReportOrder where
  ordered entry hentry entry' hentry' := by
    refine ⟨h.rising entry hentry entry' hentry', fun hlt => ?_⟩
    rcases Nat.lt_trichotomy entry.2.index entry'.2.index with hless | heq | hmore
    · exact hless
    · rw [h.distinct entry hentry entry' hentry' heq] at hlt
      exact absurd hlt (lt_irrefl _)
    · exact absurd hlt (lt_asymm (h.rising entry' hentry' entry hentry hmore))
  latest last hlast := by
    obtain ⟨hmem, hhighest⟩ := CRWWKNavigationStates.getLastAddedNavigation_eq_some hlast
    refine ⟨hmem, fun entry hentry => ?_⟩
    rcases Nat.lt_or_eq_of_le (hhighest entry hentry) with hlt | heq
    · exact le_of_lt (h.rising entry hentry last hmem hlt)
    · rw [h.distinct entry hentry last hmem heq]

/-- **A report of a navigation that is recorded, or new, keeps the numbering.** -/
theorem Numbered.report (h : s.Numbered) {navigation : Option WKNavigation}
    {states : CRWWKNavigationStates WKNavigation Context}
    (hfiled : CRWWKNavigationStates.Filed s.states states navigation)
    (hstill : s.firstReported navigation ≠ none → (s.states.record navigation).isSome)
    (state : WKNavigationState) : (s.report navigation state states).Numbered := by
  have hlast : s.states.lastStateIndex ≤ states.lastStateIndex := by
    rw [hfiled.lastStateIndex]
    split <;> omega
  -- a record from before has the navigation it had, and its moment
  have hold : ∀ {entry entry' : Option WKNavigation × CRWWKNavigationsStateRecord Context},
      entry ∈ s.states.records → entry.1 = entry'.1 →
        (s.report navigation state states).firstReported entry'.1 ≠ none ∧
        (s.report navigation state states).moment entry'.1 = s.moment entry.1 := by
    intro entry entry' hentry hkey
    obtain ⟨t, ht⟩ := Option.ne_none_iff_exists'.1 (h.reported entry hentry)
    have hsame : (s.report navigation state states).firstReported entry'.1 = some t := by
      show (if entry'.1 = navigation then _ else _) = some t
      rw [← hkey]
      by_cases hnavigation : entry.1 = navigation
      · rw [if_pos hnavigation, ht]
        rfl
      · rw [if_neg hnavigation, ht]
    unfold moment
    rw [hsame, ht]
    exact ⟨Option.some_ne_none t, rfl⟩
  -- a new record is the first report of its navigation
  have hfresh : s.states.record navigation = none →
      (s.report navigation state states).firstReported navigation = some s.reports := by
    intro hnone
    have hunreported : s.firstReported navigation = none := by
      by_contra hreported
      have hsome := hstill hreported
      rw [hnone] at hsome
      cases hsome
    show (if navigation = navigation then _ else _) = _
    rw [if_pos rfl, hunreported]
    rfl
  have hmomentFresh : s.states.record navigation = none →
      (s.report navigation state states).moment navigation = s.reports := by
    intro hnone
    unfold moment
    rw [hfresh hnone]
    rfl
  refine ⟨hfiled.unique h.unique, ?_, ?_, ?_, ?_, ?_, ?_⟩
  · intro entry' hentry'
    rcases hfiled.origin entry' hentry' with ⟨entry, hentry, -, hindex⟩ | ⟨-, hindex, -⟩
    · exact hindex ▸ h.index_pos entry hentry
    · omega
  · intro entry' hentry'
    show _ ≤ states.lastStateIndex
    rcases hfiled.origin entry' hentry' with ⟨entry, hentry, -, hindex⟩ | ⟨-, hindex, hnone⟩
    · exact hindex ▸ Nat.le_trans (h.index_le entry hentry) hlast
    · rw [hindex, hfiled.lastStateIndex, hnone]
      exact le_refl _
  · intro entry' hentry'
    rcases hfiled.origin entry' hentry' with ⟨entry, hentry, hkey, -⟩ | ⟨hkey, -, hnone⟩
    · exact (hold hentry hkey).1
    · rw [hkey, hfresh hnone]
      exact Option.some_ne_none _
  · intro entry' hentry'
    show _ < s.reports + 1
    rcases hfiled.origin entry' hentry' with ⟨entry, hentry, hkey, -⟩ | ⟨hkey, -, hnone⟩
    · rw [(hold hentry hkey).2]
      exact Nat.lt_succ_of_lt (h.moment_lt entry hentry)
    · rw [hkey, hmomentFresh hnone]
      exact Nat.lt_succ_self _
  · intro entry₁ hentry₁ entry₂ hentry₂ hlt
    rcases hfiled.origin entry₁ hentry₁ with ⟨old₁, hold₁, hkey₁, hindex₁⟩ | ⟨hkey₁, hindex₁, hnone₁⟩
    · rw [(hold hold₁ hkey₁).2]
      rcases hfiled.origin entry₂ hentry₂ with
        ⟨old₂, hold₂, hkey₂, hindex₂⟩ | ⟨hkey₂, hindex₂, hnone₂⟩
      · rw [(hold hold₂ hkey₂).2]
        exact h.rising old₁ hold₁ old₂ hold₂ (by omega)
      · rw [hkey₂, hmomentFresh hnone₂]
        exact h.moment_lt old₁ hold₁
    · -- nothing has a higher index than the new record
      rcases hfiled.origin entry₂ hentry₂ with ⟨old₂, hold₂, -, hindex₂⟩ | ⟨-, hindex₂, -⟩
      · have hle := h.index_le old₂ hold₂
        omega
      · omega
  · intro entry₁ hentry₁ entry₂ hentry₂ heq
    rcases hfiled.origin entry₁ hentry₁ with ⟨old₁, hold₁, hkey₁, hindex₁⟩ | ⟨hkey₁, hindex₁, -⟩
    · rcases hfiled.origin entry₂ hentry₂ with ⟨old₂, hold₂, hkey₂, hindex₂⟩ | ⟨-, hindex₂, -⟩
      · rw [← hkey₁, ← hkey₂]
        exact h.distinct old₁ hold₁ old₂ hold₂ (by omega)
      · have hle := h.index_le old₁ hold₁
        omega
    · rcases hfiled.origin entry₂ hentry₂ with ⟨old₂, hold₂, -, hindex₂⟩ | ⟨hkey₂, -, -⟩
      · have hle := h.index_le old₂ hold₂
        omega
      · rw [hkey₁, hkey₂]

/-- **An update of a recorded navigation leaves the last added one.** -/
theorem Numbered.lastAddedNavigation_filed (h : s.Numbered) {navigation : Option WKNavigation}
    {states : CRWWKNavigationStates WKNavigation Context}
    (hfiled : CRWWKNavigationStates.Filed s.states states navigation)
    (hrecorded : (s.states.record navigation).isSome) :
    states.lastAddedNavigation = s.states.lastAddedNavigation := by
  obtain ⟨old, hold⟩ := Option.isSome_iff_exists.1 hrecorded
  have holdMem := CRWWKNavigationStates.mem_of_record hold
  obtain ⟨last, hlast⟩ :=
    CRWWKNavigationStates.exists_getLastAddedNavigation holdMem (h.index_pos _ holdMem)
  obtain ⟨hmem, hhighest⟩ := CRWWKNavigationStates.getLastAddedNavigation_eq_some hlast
  -- the last added record is not dropped
  obtain ⟨kept, hkept, hkey, hindex⟩ :=
    hfiled.stays old hold last hmem (hhighest _ holdMem) h.unique
  have hpos : 0 < kept.2.index := hindex ▸ h.index_pos last hmem
  obtain ⟨last', hlast'⟩ := CRWWKNavigationStates.exists_getLastAddedNavigation hkept hpos
  obtain ⟨hmem', hhighest'⟩ := CRWWKNavigationStates.getLastAddedNavigation_eq_some hlast'
  have hsame : last'.1 = last.1 := by
    rcases hfiled.origin last' hmem' with ⟨entry, hentry, hkey', hindex'⟩ | ⟨-, -, hnone⟩
    · have hle := hhighest' kept hkept
      have hle' := hhighest entry hentry
      rw [← hkey']
      exact h.distinct entry hentry last hmem (by omega)
    · rw [hnone] at hold
      cases hold
  unfold CRWWKNavigationStates.lastAddedNavigation
  rw [hlast, hlast']
  exact hsame

theorem Numbered.removeNavigation (h : s.Numbered) (navigation : Option WKNavigation) :
    (s.step (.removeNavigation navigation)).Numbered := by
  have hmem : ∀ entry ∈ (s.step (.removeNavigation navigation)).states.records,
      entry ∈ s.states.records ∧
        (s.step (.removeNavigation navigation)).firstReported entry.1 = s.firstReported entry.1 := by
    intro entry hentry
    obtain ⟨hold, hne⟩ := Keyed.mem_remove.1 hentry
    refine ⟨hold, if_neg ?_⟩
    rintro ⟨hkey, rfl⟩
    exact hne hkey
  have hmoment : ∀ entry ∈ (s.step (.removeNavigation navigation)).states.records,
      (s.step (.removeNavigation navigation)).moment entry.1 = s.moment entry.1 := by
    intro entry hentry
    unfold moment
    rw [(hmem entry hentry).2]
  refine ⟨h.unique.remove navigation, fun entry hentry => h.index_pos entry (hmem entry hentry).1,
    fun entry hentry => h.index_le entry (hmem entry hentry).1, fun entry hentry => ?_,
    fun entry hentry => ?_, fun entry hentry entry' hentry' => ?_,
    fun entry hentry entry' hentry' => h.distinct entry (hmem entry hentry).1 entry'
      (hmem entry' hentry').1⟩
  · rw [(hmem entry hentry).2]
    exact h.reported entry (hmem entry hentry).1
  · rw [hmoment entry hentry]
    exact h.moment_lt entry (hmem entry hentry).1
  · rw [hmoment entry hentry, hmoment entry' hentry']
    exact h.rising entry (hmem entry hentry).1 entry' (hmem entry' hentry').1

theorem Numbered.step (h : s.Numbered) (report : NavigationReport WKNavigation Context)
    (hstill : s.StillRecorded report) : (s.step report).Numbered := by
  cases report with
  | setState state navigation =>
    exact h.report (CRWWKNavigationStates.filed_setState state navigation) hstill state
  | setContext context navigation =>
    exact h.report (CRWWKNavigationStates.filed_setContext context navigation) hstill _
  | removeNavigation navigation => exact h.removeNavigation navigation

theorem Numbered.updateKeepsLast (h : s.Numbered) (report : NavigationReport WKNavigation Context)
    (hstill : s.StillRecorded report) : s.UpdateKeepsLast report := by
  cases report with
  | setState state navigation =>
    intro hreported
    exact h.lastAddedNavigation_filed (CRWWKNavigationStates.filed_setState state navigation)
      (hstill hreported)
  | setContext context navigation =>
    intro hreported
    exact h.lastAddedNavigation_filed (CRWWKNavigationStates.filed_setContext context navigation)
      (hstill hreported)
  | removeNavigation navigation => trivial

theorem numbered_init (h : (navigationMachine WKNavigation Context).init s) : s.Numbered := by
  obtain ⟨hrecords, -⟩ := h
  have hnone : ∀ entry, entry ∉ s.states.records := fun entry hentry =>
    absurd (hrecords ▸ hentry) List.not_mem_nil
  refine ⟨?_, fun entry hentry => absurd hentry (hnone entry),
    fun entry hentry => absurd hentry (hnone entry), fun entry hentry => absurd hentry (hnone entry),
    fun entry hentry => absurd hentry (hnone entry), fun entry hentry => absurd hentry (hnone entry),
    fun entry hentry => absurd hentry (hnone entry)⟩
  unfold Keyed.Unique
  rw [hrecords]
  exact List.nodup_nil

/-- **In every run in which what was reported before is still recorded when it is
reported again, the records are in the order of the first reports, and no update
changes the last added navigation.** -/
theorem firstReported_order {reports : List (NavigationReport WKNavigation Context)}
    (hinit : (navigationMachine WKNavigation Context).init s)
    (hrun : (navigationMachine WKNavigation Context).Run s reports)
    (hstill : (navigationMachine WKNavigation Context).Always StillRecorded s reports) :
    ((navigationMachine WKNavigation Context).exec s reports).InReportOrder ∧
      (navigationMachine WKNavigation Context).Always UpdateKeepsLast s reports := by
  have hstep : ∀ (s : ReportedNavigations WKNavigation Context) report, s.Numbered →
      (navigationMachine WKNavigation Context).pre s report → s.StillRecorded report →
        ((navigationMachine WKNavigation Context).step s report).Numbered :=
    fun s report h _ hstill => h.step report hstill
  constructor
  · exact (Machine.Guarded.invariant hstep (numbered_init hinit) hrun hstill).inReportOrder
  · exact Machine.Guarded.always_of_invariant hstep
      (fun s report h _ hstill => h.updateKeepsLast report hstill) (numbered_init hinit) hrun hstill

/-! ## An older navigation that commits after a newer one has finished -/

instance : DecidablePred s.Allowed
  | .setState state navigation =>
    inferInstanceAs (Decidable (if s.firstReported navigation = none then
      state = .REQUESTED ∨ state = .STARTED ∨ state = .COMMITTED
    else
      (s.lastState navigation).toInt < state.toInt ∨
        s.lastState navigation = .REDIRECTED ∧ state = .REDIRECTED ∨
        s.lastState navigation = .FINISHED ∧ state = .COMMITTED ∨ navigation = none))
  | .setContext _ _ => isTrue trivial
  | .removeNavigation _ => inferInstanceAs (Decidable (_ = true))

instance : DecidablePred s.StillRecorded
  | .setState _ navigation => inferInstanceAs (Decidable (s.firstReported navigation ≠ none → _))
  | .setContext _ navigation => inferInstanceAs (Decidable (s.firstReported navigation ≠ none → _))
  | .removeNavigation _ => isTrue trivial

instance (s : ReportedNavigations WKNavigation Context)
    (report : NavigationReport WKNavigation Context) :
    Decidable ((navigationMachine WKNavigation Context).pre s report) :=
  inferInstanceAs (Decidable (s.Allowed report))

private def noNavigations : ReportedNavigations Nat Unit where
  states := { records := [], lastStateIndex := 0, clearOldNavigationRecords := true }
  firstReported := fun _ => none
  lastState := fun _ => .NONE
  reports := 0

private def twoNavigations : List (NavigationReport Nat Unit) :=
  [.setState .REQUESTED (some 1), .setState .STARTED (some 1), .setState .REQUESTED (some 2),
    .setState .STARTED (some 2), .setState .COMMITTED (some 2), .setState .FINISHED (some 2)]

/-- Two navigations, of which the newer one finishes. -/
theorem firstReported_order_twoNavigations :
    ((navigationMachine Nat Unit).exec noNavigations twoNavigations).InReportOrder ∧
      (navigationMachine Nat Unit).Always UpdateKeepsLast noNavigations twoNavigations :=
  firstReported_order ⟨rfl, rfl, fun _ => rfl, fun _ => rfl⟩ (by decide) (by decide)

/-- **The older navigation commits after that**, and is the last added one. -/
theorem lateCommit_reorders :
    (navigationMachine Nat Unit).Run noNavigations
        (twoNavigations ++ [.setState .COMMITTED (some 1)]) ∧
      ((navigationMachine Nat Unit).exec noNavigations
        (twoNavigations ++ [.setState .COMMITTED (some 1)])).states.lastAddedNavigation = some 1 ∧
      ¬ ((navigationMachine Nat Unit).exec noNavigations
        (twoNavigations ++ [.setState .COMMITTED (some 1)])).InReportOrder := by
  refine ⟨by decide, by decide, fun horder => ?_⟩
  have hlater := (horder.ordered (some 2, ⟨.FINISHED, 2, true, none⟩) (by decide)
    (some 1, ⟨.COMMITTED, 3, true, none⟩) (by decide)).1 (by decide)
  exact absurd hlater (by decide)

end ReportedNavigations

end IosChrome.Navigation

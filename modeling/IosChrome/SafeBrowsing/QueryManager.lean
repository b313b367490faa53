import IosChrome.Lib.Machine
import IosChrome.Lib.Keyed

/-!
# The Safe Browsing query manager

`SafeBrowsingQueryManager` starts one URL checker for each query and reports
its verdict to the observers. A checker whose verdict is an error page first
stores the `UnsafeResource` the page is made from. The results are kept by
query, but a resource does not know its query: `storeUnsafeResource` gives it
to the first pending query with its URL and frame kind that has none.

Each query is reported once, whatever the order (`queries_reported_once`).
Whether the report can be used, an error page with a resource and a safe
verdict without one, depends on the resource having reached the query whose
checker stored it. It does in every run in which no earlier query for the same
URL and frame kind is still pending without a resource when a checker stores
its own (`reports_sound_of_storedInTurn`). Two checks of one URL that finish in
the other order break it (`overtaking_unsound`).
-/

namespace IosChrome.SafeBrowsing

open IosChrome.Lib

/-! ## The manager -/

/-- `SafeBrowsingQueryManager::Query`. -/
structure Query (U : Type) where
  url : U
  httpMethod : String
  /-- -1 for the main frame. -/
  mainFrameItemId : Int
  queryId : Nat
  deriving DecidableEq

/-- `network::mojom::RequestDestination`, as far as the two frame kinds use it. -/
inductive RequestDestination where
  | kDocument
  | kIframe
  deriving DecidableEq

/-- `security_interstitials::UnsafeResource`. -/
structure UnsafeResource (U : Type) where
  url : U
  requestDestination : RequestDestination
  deriving DecidableEq

/-- `SafeBrowsingQueryManager::Result`. -/
structure Result (U : Type) where
  proceed : Bool
  showErrorPage : Bool
  resource : Option (UnsafeResource U)
  deriving DecidableEq

variable {U : Type}

namespace Query

def isMainFrame (query : Query U) : Bool := query.mainFrameItemId = -1

/-- `Query::operator<`. -/
def lt (query other : Query U) : Bool := query.queryId < other.queryId

def requestDestination (query : Query U) : RequestDestination :=
  if query.isMainFrame then .kDocument else .kIframe

end Query

def UnsafeResource.isMainFrame (resource : UnsafeResource U) : Bool :=
  resource.requestDestination = .kDocument

def Result.default : Result U := ⟨false, false, none⟩

/-- An entry of the `results_` map. -/
abbrev Entry (U : Type) := Query U × Result U

def Entry.queryId (entry : Entry U) : Nat := entry.1.queryId

/-- `results_.insert`: the map is ordered by `operator<`, and an equivalent key
stays as it is. -/
def insertResult : List (Entry U) → Entry U → List (Entry U)
  | [], entry => [entry]
  | first :: rest, entry =>
    if entry.1.lt first.1 then entry :: first :: rest
    else if first.1.lt entry.1 then first :: insertResult rest entry
    else first :: rest

/-- What `StoreUnsafeResource` searches for. -/
def takesResource [DecidableEq U] (resource : UnsafeResource U) (entry : Entry U) : Bool :=
  entry.1.url = resource.url && resource.isMainFrame == entry.1.isMainFrame &&
    entry.2.resource.isNone

def attachResource [DecidableEq U] (resource : UnsafeResource U) : List (Entry U) → List (Entry U)
  | [] => []
  | entry :: rest =>
    if takesResource resource entry then
      (entry.1, { entry.2 with resource := some resource }) :: rest
    else entry :: attachResource resource rest

/-- The members of `SafeBrowsingQueryManager`, and what it told its observers. -/
structure SafeBrowsingQueryManager (U : Type) where
  results : List (Entry U)
  reports : List (Entry U)
  deriving DecidableEq

namespace SafeBrowsingQueryManager

def startQuery (manager : SafeBrowsingQueryManager U) (query : Query U) :
    SafeBrowsingQueryManager U :=
  { manager with results := insertResult manager.results (query, .default) }

def storeUnsafeResource [DecidableEq U] (manager : SafeBrowsingQueryManager U)
    (resource : UnsafeResource U) : SafeBrowsingQueryManager U :=
  { manager with results := attachResource resource manager.results }

def urlCheckFinished (manager : SafeBrowsingQueryManager U) (query : Query U)
    (proceed showErrorPage : Bool) : SafeBrowsingQueryManager U :=
  match Keyed.lookup Entry.queryId manager.results query.queryId with
  | none => manager
  | some entry =>
    { results := Keyed.remove Entry.queryId manager.results query.queryId
      reports := manager.reports ++
        [(query, ⟨proceed, showErrorPage, entry.2.resource⟩)] }

end SafeBrowsingQueryManager

/-! ## Its checkers -/

/-- The checker of one query, and whether it has stored a resource. -/
structure UrlChecker (U : Type) where
  query : Query U
  stored : Bool
  deriving DecidableEq

def UrlChecker.queryId (checker : UrlChecker U) : Nat := checker.query.queryId

/-- The manager, the checkers at work, and every query started. -/
structure QuerySystem (U : Type) where
  manager : SafeBrowsingQueryManager U
  checkers : List (UrlChecker U)
  started : List (Query U)
  deriving DecidableEq

inductive QueryCall (U : Type) where
  | startQuery (query : Query U)
  | storeUnsafeResource (query : Query U) (resource : UnsafeResource U)
  | urlCheckFinished (query : Query U) (proceed showErrorPage : Bool)
  deriving DecidableEq

namespace QuerySystem

def start : QuerySystem U := ⟨⟨[], []⟩, [], []⟩

def step [DecidableEq U] (s : QuerySystem U) : QueryCall U → QuerySystem U
  | .startQuery query =>
    { manager := s.manager.startQuery query
      checkers := s.checkers ++ [⟨query, false⟩]
      started := s.started ++ [query] }
  | .storeUnsafeResource query resource =>
    { s with
      manager := s.manager.storeUnsafeResource resource
      checkers := Keyed.put UrlChecker.queryId s.checkers ⟨query, true⟩ }
  | .urlCheckFinished query proceed showErrorPage =>
    { s with
      manager := s.manager.urlCheckFinished query proceed showErrorPage
      checkers := Keyed.remove UrlChecker.queryId s.checkers query.queryId }

/-- Query ids are unique. A checker stores at most one resource, for the URL
and frame it checks, and then says that an error page is shown in place of the
page; one that has stored none never does
(`HandleBlockingPageRequestOnUIThread`). -/
def Pre (s : QuerySystem U) : QueryCall U → Prop
  | .startQuery query => query.queryId ∉ s.started.map Query.queryId
  | .storeUnsafeResource query resource =>
    ⟨query, false⟩ ∈ s.checkers ∧ resource.url = query.url ∧
      resource.requestDestination = query.requestDestination
  | .urlCheckFinished query proceed showErrorPage =>
    ⟨query, showErrorPage⟩ ∈ s.checkers ∧ (showErrorPage → proceed = false)

instance [DecidableEq U] (s : QuerySystem U) (call : QueryCall U) : Decidable (s.Pre call) := by
  cases call <;> unfold Pre <;> infer_instance

/-- The manager driven by its owner and its checkers. -/
def machine (U : Type) [DecidableEq U] : Machine (QuerySystem U) (QueryCall U) :=
  ⟨(· = start), Pre, step⟩

instance [DecidableEq U] (s : QuerySystem U) (call : QueryCall U) :
    Decidable ((machine U).pre s call) :=
  inferInstanceAs (Decidable (s.Pre call))

end QuerySystem

/-- **What a report promises its observers**: with an error page a resource of
the query's own URL and frame kind, and with a safe verdict none. -/
def SoundReport (report : Entry U) : Prop :=
  (report.2.showErrorPage → ∃ resource, report.2.resource = some resource ∧
    resource.url = report.1.url ∧ resource.isMainFrame = report.1.isMainFrame) ∧
  (report.2.proceed → report.2.resource = none)

/-- When a checker stores its resource, no query with a lower id for the same
URL and frame kind is pending without one. -/
def StoredInTurn (s : QuerySystem U) : QueryCall U → Prop
  | .startQuery _ => True
  | .storeUnsafeResource query _ => ∀ entry ∈ s.manager.results, entry.1.url = query.url →
      entry.1.isMainFrame = query.isMainFrame → entry.2.resource = none →
      query.queryId ≤ entry.1.queryId
  | .urlCheckFinished _ _ _ => True

instance [DecidableEq U] (s : QuerySystem U) (call : QueryCall U) :
    Decidable (StoredInTurn s call) := by
  cases call <;> unfold StoredInTurn <;> infer_instance

/-! ## The map of results -/

theorem mem_insertResult {x : Entry U} : ∀ {entries : List (Entry U)} {entry : Entry U},
    entry ∈ insertResult entries x → entry = x ∨ entry ∈ entries
  | [], _, h => Or.inl (List.mem_singleton.1 h)
  | first :: rest, entry, h => by
    unfold insertResult at h
    by_cases hbefore : x.1.lt first.1 = true
    · rw [if_pos hbefore] at h
      exact List.mem_cons.1 h
    · by_cases hafter : first.1.lt x.1 = true
      · rw [if_neg hbefore, if_pos hafter] at h
        rcases List.mem_cons.1 h with rfl | h
        · exact Or.inr List.mem_cons_self
        · rcases mem_insertResult h with rfl | h
          · exact Or.inl rfl
          · exact Or.inr (List.mem_cons_of_mem _ h)
      · rw [if_neg hbefore, if_neg hafter] at h
        exact Or.inr h

theorem insertResult_perm {x : Entry U} : ∀ {entries : List (Entry U)},
    (∀ entry ∈ entries, entry.queryId ≠ x.queryId) →
      (insertResult entries x).Perm (x :: entries)
  | [], _ => List.Perm.refl _
  | first :: rest, hfresh => by
    unfold insertResult
    by_cases hbefore : x.1.lt first.1 = true
    · rw [if_pos hbefore]
    · by_cases hafter : first.1.lt x.1 = true
      · rw [if_neg hbefore, if_pos hafter]
        have hrest := insertResult_perm (x := x) fun entry he =>
          hfresh entry (List.mem_cons_of_mem _ he)
        exact (hrest.cons first).trans (List.Perm.swap x first rest)
      · -- neither before nor after is the same id
        exfalso
        have hne : first.1.queryId ≠ x.1.queryId := hfresh first List.mem_cons_self
        simp only [Query.lt, decide_eq_true_eq] at hbefore hafter
        omega

/-- The order of the map: a query started later has a higher id. -/
def Sorted (entries : List (Entry U)) : Prop :=
  entries.Pairwise fun a b => a.queryId < b.queryId

theorem Sorted.unique {entries : List (Entry U)} (h : Sorted entries) :
    Keyed.Unique Entry.queryId entries :=
  List.pairwise_map.2 (h.imp fun hlt => Nat.ne_of_lt hlt)

theorem Sorted.insertResult {x : Entry U} : ∀ {entries : List (Entry U)}, Sorted entries →
    Sorted (insertResult entries x)
  | [], _ => List.pairwise_singleton _ _
  | first :: rest, hsorted => by
    obtain ⟨hfirst, hrest⟩ := List.pairwise_cons.1 hsorted
    unfold SafeBrowsing.insertResult
    by_cases hbefore : x.1.lt first.1 = true
    · rw [if_pos hbefore]
      have hlt : x.queryId < first.queryId := of_decide_eq_true hbefore
      refine List.pairwise_cons.2 ⟨?_, hsorted⟩
      intro entry he
      rcases List.mem_cons.1 he with rfl | he
      · exact hlt
      · exact Nat.lt_trans hlt (hfirst entry he)
    · by_cases hafter : first.1.lt x.1 = true
      · rw [if_neg hbefore, if_pos hafter]
        have hlt : first.queryId < x.queryId := of_decide_eq_true hafter
        refine List.pairwise_cons.2 ⟨?_, Sorted.insertResult hrest⟩
        intro entry he
        rcases mem_insertResult he with rfl | he
        · exact hlt
        · exact hfirst entry he
      · rw [if_neg hbefore, if_neg hafter]
        exact hsorted

/-! ## Where a resource goes -/

section

variable [DecidableEq U]

theorem map_fst_attachResource (resource : UnsafeResource U) : ∀ entries : List (Entry U),
    (attachResource resource entries).map Prod.fst = entries.map Prod.fst
  | [] => rfl
  | entry :: rest => by
    unfold attachResource
    by_cases htakes : takesResource resource entry = true
    · rw [if_pos htakes]
      rfl
    · rw [if_neg htakes, List.map_cons, List.map_cons, map_fst_attachResource resource rest]

theorem takesResource_iff {resource : UnsafeResource U} {entry : Entry U} :
    takesResource resource entry = true ↔ entry.1.url = resource.url ∧
      resource.isMainFrame = entry.1.isMainFrame ∧ entry.2.resource = none := by
  simp [takesResource, and_assoc]

/-- An entry is as it was, or one that was without a resource and has it now. -/
theorem mem_attachResource {resource : UnsafeResource U} : ∀ {entries : List (Entry U)}
    {entry : Entry U}, entry ∈ attachResource resource entries →
      entry ∈ entries ∨ ∃ old ∈ entries, takesResource resource old = true ∧
        entry = (old.1, { old.2 with resource := some resource })
  | [], _, h => Or.inl h
  | first :: rest, entry, h => by
    unfold attachResource at h
    by_cases htakes : takesResource resource first = true
    · rw [if_pos htakes] at h
      rcases List.mem_cons.1 h with rfl | h
      · exact Or.inr ⟨first, List.mem_cons_self, htakes, rfl⟩
      · exact Or.inl (List.mem_cons_of_mem _ h)
    · rw [if_neg htakes] at h
      rcases List.mem_cons.1 h with rfl | h
      · exact Or.inl List.mem_cons_self
      · rcases mem_attachResource h with h | ⟨old, hold, hold_takes, rfl⟩
        · exact Or.inl (List.mem_cons_of_mem _ h)
        · exact Or.inr ⟨old, List.mem_cons_of_mem _ hold, hold_takes, rfl⟩

/-- **The first entry that takes the resource gets it**, and no other entry
changes. -/
theorem mem_attachResource_first {resource : UnsafeResource U} {own : Entry U} :
    ∀ {entries : List (Entry U)}, Sorted entries → own ∈ entries →
      takesResource resource own = true →
      (∀ entry ∈ entries, takesResource resource entry = true →
        own.queryId ≤ entry.queryId) →
      ∀ {entry : Entry U}, entry ∈ attachResource resource entries →
        entry = (own.1, { own.2 with resource := some resource }) ∨
          (entry ∈ entries ∧ entry.queryId ≠ own.queryId)
  | [], _, hown, _, _, _, _ => absurd hown List.not_mem_nil
  | first :: rest, hsorted, hown, htakes, hfirst, entry, h => by
    obtain ⟨hbefore, hrest⟩ := List.pairwise_cons.1 hsorted
    unfold attachResource at h
    rcases List.mem_cons.1 hown with rfl | hown'
    · rw [if_pos htakes] at h
      rcases List.mem_cons.1 h with rfl | h
      · exact Or.inl rfl
      · exact Or.inr ⟨List.mem_cons_of_mem _ h, Nat.ne_of_gt (hbefore entry h)⟩
    · -- the head comes before its owner, so it does not take the resource
      have hlt : first.queryId < own.queryId := hbefore own hown'
      by_cases htakes' : takesResource resource first = true
      · have hle := hfirst first List.mem_cons_self htakes'
        omega
      · rw [if_neg htakes'] at h
        rcases List.mem_cons.1 h with rfl | h
        · exact Or.inr ⟨List.mem_cons_self, Nat.ne_of_lt hlt⟩
        · have hrest' := mem_attachResource_first hrest hown' htakes
            (fun entry he => hfirst entry (List.mem_cons_of_mem _ he)) h
          rcases hrest' with rfl | ⟨he, hne⟩
          · exact Or.inl rfl
          · exact Or.inr ⟨List.mem_cons_of_mem _ he, hne⟩

end

/-! ## Queries, checkers and entries -/

/-- **Each query has its checker at work or one report**, and the entries left
in the map are those of the checkers at work. -/
structure ReportedOnce (s : QuerySystem U) : Prop where
  ids : (s.started.map Query.queryId).Nodup
  accounted : s.started.Perm
    (s.checkers.map UrlChecker.query ++ s.manager.reports.map Prod.fst)
  entries : (s.manager.results.map Prod.fst).Perm (s.checkers.map UrlChecker.query)

/-- What holds in every state, whatever the order of the calls. -/
structure Wired (s : QuerySystem U) : Prop extends ReportedOnce s where
  sorted : Sorted s.manager.results
  fits : ∀ entry ∈ s.manager.results, ∀ resource, entry.2.resource = some resource →
    resource.url = entry.1.url ∧ resource.isMainFrame = entry.1.isMainFrame

/-- What holds while every resource reaches the query of its checker. -/
structure Placed (s : QuerySystem U) : Prop where
  stored : ∀ checker ∈ s.checkers, ∀ entry ∈ s.manager.results,
    entry.queryId = checker.queryId → entry.2.resource.isSome = checker.stored
  reports : ∀ report ∈ s.manager.reports, SoundReport report

namespace Wired

variable {s : QuerySystem U}

theorem checkers_unique (h : Wired s) : Keyed.Unique UrlChecker.queryId s.checkers := by
  have hnodup := (h.accounted.map Query.queryId).nodup_iff.1 h.ids
  rw [List.map_append, List.map_map] at hnodup
  exact (List.nodup_append.1 hnodup).1

theorem started_of_entry (h : Wired s) {entry : Entry U} (he : entry ∈ s.manager.results) :
    entry.queryId ∈ s.started.map Query.queryId := by
  have hchecker : entry.1 ∈ s.checkers.map UrlChecker.query :=
    h.entries.subset (List.mem_map_of_mem he)
  exact List.mem_map_of_mem (h.accounted.symm.subset (List.mem_append_left _ hchecker))

theorem entry_of_checker (h : Wired s) {checker : UrlChecker U} (hc : checker ∈ s.checkers) :
    ∃ result, (checker.query, result) ∈ s.manager.results := by
  have hq : checker.query ∈ s.manager.results.map Prod.fst :=
    h.entries.symm.subset (List.mem_map_of_mem hc)
  obtain ⟨⟨query, result⟩, he, rfl⟩ := List.mem_map.1 hq
  exact ⟨result, he⟩

/-- What a checker's last call does. -/
theorem urlCheckFinished_eq (h : Wired s) {checker : UrlChecker U} (hc : checker ∈ s.checkers)
    (proceed showErrorPage : Bool) : ∃ result, (checker.query, result) ∈ s.manager.results ∧
      s.manager.urlCheckFinished checker.query proceed showErrorPage =
        { results := Keyed.remove Entry.queryId s.manager.results checker.queryId
          reports := s.manager.reports ++
            [(checker.query, ⟨proceed, showErrorPage, result.resource⟩)] } := by
  obtain ⟨result, hown⟩ := h.entry_of_checker hc
  refine ⟨result, hown, ?_⟩
  have hlookup : Keyed.lookup Entry.queryId s.manager.results checker.query.queryId =
      some (checker.query, result) :=
    (Keyed.lookup_eq_some h.sorted.unique).2 ⟨hown, rfl⟩
  unfold SafeBrowsingQueryManager.urlCheckFinished
  rw [hlookup]
  rfl

end Wired

/-! ## Every call keeps them -/

namespace QuerySystem

variable [DecidableEq U] {s : QuerySystem U}

theorem wired_startQuery (h : Wired s) {query : Query U}
    (hfresh : query.queryId ∉ s.started.map Query.queryId) :
    Wired (s.step (.startQuery query)) := by
  have hperm : (insertResult s.manager.results (query, .default)).Perm
      ((query, .default) :: s.manager.results) :=
    insertResult_perm fun entry he hid => hfresh
      (show (Entry.queryId (query, .default)) ∈ _ from hid ▸ h.started_of_entry he)
  refine ⟨⟨?_, ?_, ?_⟩, h.sorted.insertResult, ?_⟩
  · show ((s.started ++ [query]).map Query.queryId).Nodup
    rw [List.map_append]
    exact List.concat_eq_append ▸ h.ids.concat hfresh
  · show (s.started ++ [query]).Perm
      ((s.checkers ++ [UrlChecker.mk query false]).map UrlChecker.query ++ s.manager.reports.map Prod.fst)
    rw [List.map_append, List.append_assoc]
    have hlast := h.accounted.append_right [query]
    rw [List.append_assoc] at hlast
    exact hlast.trans (List.perm_append_comm.append_left _)
  · show ((insertResult s.manager.results (query, .default)).map Prod.fst).Perm
      ((s.checkers ++ [UrlChecker.mk query false]).map UrlChecker.query)
    rw [List.map_append]
    have hnew : (query :: s.manager.results.map Prod.fst).Perm
        (query :: s.checkers.map UrlChecker.query) := h.entries.cons query
    exact ((hperm.map Prod.fst).trans hnew).trans (List.perm_append_singleton query _).symm
  · intro entry he resource hresource
    rcases mem_insertResult he with rfl | he
    · cases hresource
    · exact h.fits entry he resource hresource

theorem wired_storeUnsafeResource (h : Wired s) {query : Query U} {resource : UnsafeResource U}
    (hc : ⟨query, false⟩ ∈ s.checkers) : Wired (s.step (.storeUnsafeResource query resource)) := by
  have hkeys := map_fst_attachResource resource s.manager.results
  have hput : ((Keyed.put UrlChecker.queryId s.checkers ⟨query, true⟩).map UrlChecker.query).Perm
      (s.checkers.map UrlChecker.query) := by
    have hperm := (Keyed.perm_remove h.checkers_unique hc).map UrlChecker.query
    unfold Keyed.put
    rw [List.map_append]
    exact (List.perm_append_singleton query _).trans hperm.symm
  refine ⟨⟨h.ids, ?_, ?_⟩, ?_, ?_⟩
  · exact h.accounted.trans (hput.symm.append_right _)
  · show ((attachResource resource s.manager.results).map Prod.fst).Perm _
    rw [hkeys]
    exact h.entries.trans hput.symm
  · show Sorted (attachResource resource s.manager.results)
    have hsorted : (s.manager.results.map Prod.fst).Pairwise
        fun a b => a.queryId < b.queryId := List.pairwise_map.2 h.sorted
    rw [← hkeys] at hsorted
    exact (List.pairwise_map (f := Prod.fst)).1 hsorted
  · intro entry he kept hkept
    rcases mem_attachResource he with he | ⟨old, _, htakes, rfl⟩
    · exact h.fits entry he kept hkept
    · obtain ⟨hurl, hframe, _⟩ := takesResource_iff.1 htakes
      obtain rfl : resource = kept := Option.some.inj hkept
      exact ⟨hurl.symm, hframe⟩

theorem wired_urlCheckFinished (h : Wired s) {checker : UrlChecker U} (hc : checker ∈ s.checkers)
    (proceed showErrorPage : Bool) :
    Wired (s.step (.urlCheckFinished checker.query proceed showErrorPage)) := by
  obtain ⟨result, hown, heq⟩ := h.urlCheckFinished_eq hc proceed showErrorPage
  have hcheckers := (Keyed.perm_remove h.checkers_unique hc).map UrlChecker.query
  have hresults := (Keyed.perm_remove h.sorted.unique hown).map Prod.fst
  have hstep : s.step (.urlCheckFinished checker.query proceed showErrorPage) =
      { s with
        manager := s.manager.urlCheckFinished checker.query proceed showErrorPage
        checkers := Keyed.remove UrlChecker.queryId s.checkers checker.queryId } := rfl
  rw [hstep, heq]
  refine ⟨⟨h.ids, ?_, ?_⟩, List.Pairwise.sublist List.filter_sublist h.sorted, ?_⟩
  · show s.started.Perm (_ ++ (s.manager.reports ++ [_]).map Prod.fst)
    rw [List.map_append, ← List.append_assoc]
    have hleft := hcheckers.append_right (s.manager.reports.map Prod.fst)
    exact (h.accounted.trans hleft).trans
      (List.perm_append_singleton checker.query _).symm
  · have hboth := (hresults.symm.trans h.entries).trans hcheckers
    exact (List.perm_cons checker.query).1 hboth
  · intro entry he
    exact h.fits entry (Keyed.mem_remove.1 he).1

theorem wired_step (h : Wired s) (call : QueryCall U) (hpre : s.Pre call) :
    Wired (s.step call) := by
  cases call with
  | startQuery query => exact wired_startQuery h hpre
  | storeUnsafeResource query resource => exact wired_storeUnsafeResource h hpre.1
  | urlCheckFinished query proceed showErrorPage =>
    exact wired_urlCheckFinished h hpre.1 proceed showErrorPage

theorem placed_startQuery (hw : Wired s) (h : Placed s) {query : Query U}
    (hfresh : query.queryId ∉ s.started.map Query.queryId) :
    Placed (s.step (.startQuery query)) := by
  refine ⟨?_, h.reports⟩
  intro checker hc entry he hid
  rcases List.mem_append.1 hc with hc | hc
  · rcases mem_insertResult he with rfl | he
    · -- a checker at work has not the new id
      obtain ⟨result, hown⟩ := hw.entry_of_checker hc
      have hstarted : checker.queryId ∈ s.started.map Query.queryId := hw.started_of_entry hown
      rw [← hid] at hstarted
      exact absurd hstarted hfresh
    · exact h.stored checker hc entry he hid
  · obtain rfl := List.mem_singleton.1 hc
    rcases mem_insertResult he with rfl | he
    · rfl
    · have hstarted := hw.started_of_entry he
      rw [hid] at hstarted
      exact absurd hstarted hfresh

theorem placed_storeUnsafeResource (hw : Wired s) (h : Placed s) {query : Query U}
    {resource : UnsafeResource U} (hpre : s.Pre (.storeUnsafeResource query resource))
    (hturn : StoredInTurn s (.storeUnsafeResource query resource)) :
    Placed (s.step (.storeUnsafeResource query resource)) := by
  obtain ⟨hc, hurl, hdestination⟩ := hpre
  obtain ⟨result, hown⟩ := hw.entry_of_checker hc
  have hframe : resource.isMainFrame = query.isMainFrame := by
    unfold UnsafeResource.isMainFrame
    rw [hdestination]
    unfold Query.requestDestination
    by_cases hmain : query.isMainFrame = true
    · simp [hmain]
    · simp [hmain]
  have hnone : result.resource = none :=
    Option.isSome_eq_false_iff.1 (h.stored _ hc _ hown rfl) |> Option.isNone_iff_eq_none.1
  have htakes : takesResource resource (query, result) = true :=
    takesResource_iff.2 ⟨hurl.symm, hframe, hnone⟩
  have hfirst : ∀ entry ∈ s.manager.results, takesResource resource entry = true →
      query.queryId ≤ entry.1.queryId := by
    intro entry he hentry
    obtain ⟨hsame, hkind, hwithout⟩ := takesResource_iff.1 hentry
    exact hturn entry he (hsame.trans hurl) (hkind.symm.trans hframe) hwithout
  refine ⟨?_, h.reports⟩
  intro checker hchecker entry he hid
  have hentry := mem_attachResource_first hw.sorted hown htakes hfirst he
  rcases Keyed.mem_put.1 hchecker with ⟨hold, hne⟩ | rfl
  · rcases hentry with rfl | ⟨he, _⟩
    · exact absurd hid.symm hne
    · exact h.stored checker hold entry he hid
  · rcases hentry with rfl | ⟨_, hne⟩
    · rfl
    · exact absurd hid hne

theorem placed_urlCheckFinished (hw : Wired s) (h : Placed s) {checker : UrlChecker U}
    (hc : checker ∈ s.checkers) {proceed : Bool}
    (hverdict : checker.stored = true → proceed = false) :
    Placed (s.step (.urlCheckFinished checker.query proceed checker.stored)) := by
  obtain ⟨result, hown, heq⟩ := hw.urlCheckFinished_eq hc proceed checker.stored
  have hstep : s.step (.urlCheckFinished checker.query proceed checker.stored) =
      { s with
        manager := s.manager.urlCheckFinished checker.query proceed checker.stored
        checkers := Keyed.remove UrlChecker.queryId s.checkers checker.queryId } := rfl
  rw [hstep, heq]
  refine ⟨?_, ?_⟩
  · intro other hother entry he
    exact h.stored other (Keyed.mem_remove.1 hother).1 entry (Keyed.mem_remove.1 he).1
  · intro report hreport
    rcases List.mem_append.1 hreport with hreport | hreport
    · exact h.reports report hreport
    · obtain rfl := List.mem_singleton.1 hreport
      have hstored : result.resource.isSome = checker.stored := h.stored checker hc _ hown rfl
      constructor
      · intro hshow
        obtain ⟨resource, hresource⟩ := Option.isSome_iff_exists.1 (hstored.trans hshow)
        exact ⟨resource, hresource, hw.fits _ hown resource hresource⟩
      · intro hproceed
        cases hresource : result.resource with
        | none => rfl
        | some resource =>
          rw [hresource] at hstored
          rw [hverdict hstored.symm] at hproceed
          cases hproceed

theorem placed_step (hw : Wired s) (h : Placed s) (call : QueryCall U) (hpre : s.Pre call)
    (hturn : StoredInTurn s call) : Placed (s.step call) := by
  cases call with
  | startQuery query => exact placed_startQuery hw h hpre
  | storeUnsafeResource query resource => exact placed_storeUnsafeResource hw h hpre hturn
  | urlCheckFinished query proceed showErrorPage =>
    exact placed_urlCheckFinished hw h hpre.1 hpre.2

omit [DecidableEq U] in
theorem start_wired : Wired (start : QuerySystem U) :=
  ⟨⟨List.nodup_nil, List.Perm.refl _, List.Perm.refl _⟩, List.Pairwise.nil,
    fun _ he => absurd he List.not_mem_nil⟩

omit [DecidableEq U] in
theorem start_placed : Placed (start : QuerySystem U) :=
  ⟨fun _ hc => absurd hc List.not_mem_nil, fun _ hr => absurd hr List.not_mem_nil⟩

/-- **In every run each query is reported exactly once.** -/
theorem queries_reported_once {calls : List (QueryCall U)}
    (hrun : (machine U).Run start calls) : ReportedOnce ((machine U).exec start calls) :=
  (Machine.Run.invariant (I := Wired) (fun _ call h hpre => wired_step h call hpre)
    start_wired hrun).toReportedOnce

/-- **The reports are sound in every run whose resources are stored in turn.** -/
theorem reports_sound_of_storedInTurn {calls : List (QueryCall U)}
    (hrun : (machine U).Run start calls)
    (hturn : (machine U).Always StoredInTurn start calls) :
    ReportedOnce ((machine U).exec start calls) ∧
      ∀ report ∈ ((machine U).exec start calls).manager.reports, SoundReport report := by
  have hinv := Machine.Guarded.invariant (I := fun s => Wired s ∧ Placed s)
    (fun s call h hpre hturn =>
      ⟨wired_step h.1 call hpre, placed_step h.1 h.2 call hpre hturn⟩)
    ⟨start_wired, start_placed⟩ hrun hturn
  exact ⟨hinv.1.toReportedOnce, hinv.2.reports⟩

/-- Two checks of one URL that finish in the order they were started. -/
private def inTurn : List (QueryCall Nat) :=
  [.startQuery ⟨7, "GET", -1, 0⟩, .startQuery ⟨7, "GET", -1, 1⟩,
    .storeUnsafeResource ⟨7, "GET", -1, 0⟩ ⟨7, .kDocument⟩,
    .storeUnsafeResource ⟨7, "GET", -1, 1⟩ ⟨7, .kDocument⟩,
    .urlCheckFinished ⟨7, "GET", -1, 0⟩ false true,
    .urlCheckFinished ⟨7, "GET", -1, 1⟩ false true]

theorem reports_sound_inTurn :
    ReportedOnce ((machine Nat).exec start inTurn) ∧
      ∀ report ∈ ((machine Nat).exec start inTurn).manager.reports, SoundReport report :=
  reports_sound_of_storedInTurn (by decide +kernel) (by decide +kernel)

theorem queries_reported_once_inTurn : ReportedOnce ((machine Nat).exec start inTurn) :=
  queries_reported_once (by decide +kernel)

/-- The second check stores its resource first and finishes. -/
private def overtaking : List (QueryCall Nat) :=
  [.startQuery ⟨7, "GET", -1, 0⟩, .startQuery ⟨7, "GET", -1, 1⟩,
    .storeUnsafeResource ⟨7, "GET", -1, 1⟩ ⟨7, .kDocument⟩,
    .urlCheckFinished ⟨7, "GET", -1, 1⟩ false true]

/-- **The error page of an overtaking check has no resource**: the earlier
query took it. -/
theorem overtaking_unsound : (machine Nat).Run start overtaking ∧
    (⟨7, "GET", -1, 1⟩, ⟨false, true, none⟩) ∈
      ((machine Nat).exec start overtaking).manager.reports ∧
    ¬ ∀ report ∈ ((machine Nat).exec start overtaking).manager.reports, SoundReport report := by
  have hreports : ((machine Nat).exec start overtaking).manager.reports =
      [(⟨7, "GET", -1, 1⟩, ⟨false, true, none⟩)] := by decide +kernel
  refine ⟨by decide +kernel, by rw [hreports]; exact List.mem_singleton_self _, ?_⟩
  rw [hreports]
  intro hsound
  obtain ⟨resource, hresource, _⟩ := (hsound _ (List.mem_singleton_self _)).1 rfl
  cases hresource

end QuerySystem

end IosChrome.SafeBrowsing

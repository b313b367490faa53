import IosChrome.ReadingList.DownloadService

/-!
# No entry is forgotten

An unread entry that still wants its offline version is tended: a delayed task
is posted for it, or the service will go through the entries it found
unprocessed when the model loaded, or a download of it is queued or at work, or
it is in a waiting list. The waiting lists are never emptied, so an unread entry
in one is scheduled at the next change of connection it waits for; a read one is
passed over, and is not tended by a list.

`step_tended_iff` below says at which steps this is lost:

* an entry whose state is `PROCESSING` is read when its delayed task, or that of
  the load, comes to it, or is moved to the read ones while its download is
  queued, and nothing else tends it;
* a delayed task finds an entry with seven failures that is not given up;
* a download ends under another URL than its own, that of the redirect of a PDF.
-/

namespace IosChrome.ReadingList

open IosChrome.Lib

variable {U : Type}

/-- The entry wants an offline version, or is said to be getting one. -/
def ReadingListEntry.awaits (entry : ReadingListEntry U) : Prop :=
  (entry.isRead = false ∧ entry.isSettled = false) ∨ entry.distilledState = .processing

instance (entry : ReadingListEntry U) : Decidable entry.awaits :=
  inferInstanceAs (Decidable (_ ∨ _))

variable {entry : ReadingListEntry U}

theorem ReadingListEntry.awaits.unsettled (h : entry.awaits) :
    entry.isSettled = false := by
  rcases h with h | h
  · exact h.2
  · unfold ReadingListEntry.isSettled
    rw [h]
    rfl

namespace DownloadService

/-- A waiting list has the entry, and will schedule it: read entries are passed
over. -/
def Listed (s : DownloadService U) (entry : ReadingListEntry U) : Prop :=
  entry.isRead = false ∧
    (entry.url ∈ s.urlToDownloadCellular ∨ entry.url ∈ s.urlToDownloadWifi)

/-- Something other than the task at work will come to the entry. -/
def TendedElsewhere (s : DownloadService U) (entry : ReadingListEntry U) : Prop :=
  entry.url ∈ s.delayed ∨ entry.url ∈ s.unprocessedEntries ∨
    ⟨.download, entry.url⟩ ∈ s.downloader.tasks ∨ s.Listed entry

def Tended (s : DownloadService U) (entry : ReadingListEntry U) : Prop :=
  s.TendedElsewhere entry ∨ s.downloader.current = some ⟨.download, entry.url⟩

def AllTended (s : DownloadService U) : Prop :=
  ∀ entry ∈ s.entries, entry.awaits → s.Tended entry

section

variable [DecidableEq U]

instance (s : DownloadService U) (entry : ReadingListEntry U) : Decidable (s.Listed entry) :=
  inferInstanceAs (Decidable (_ ∧ _))

instance (s : DownloadService U) (entry : ReadingListEntry U) :
    Decidable (s.TendedElsewhere entry) :=
  inferInstanceAs (Decidable (_ ∨ _))

instance (s : DownloadService U) (entry : ReadingListEntry U) : Decidable (s.Tended entry) :=
  inferInstanceAs (Decidable (_ ∨ _))

instance (s : DownloadService U) : Decidable s.AllTended :=
  inferInstanceAs (Decidable (∀ entry ∈ s.entries, _))

/-- The condition on a step: what it takes an entry from is not the last to tend
it. -/
def StaysTended (s : DownloadService U) : ServiceCall U → Prop
  | .moveEntry url isRead => isRead = true → ∀ entry ∈ s.getEntryByURL url,
      entry.distilledState = .processing →
        Tended { s with downloader := s.downloader.cancelDownloadOfflineURL url }
          { entry with isRead := true }
  | .downloadEntry url _ _ => ∀ entry ∈ s.getEntryByURL url, entry.awaits →
      entry.isRead = true ∨ kNumberOfFailsBeforeStop ≤ entry.failedDownloadCounter →
        Tended { s with delayed := s.delayed.erase url } entry
  | .downloadUnprocessedEntries => ∀ url ∈ s.unprocessedEntries,
      ∀ entry ∈ s.getEntryByURL url, entry.isRead = true →
        entry.distilledState = .processing → Tended { s with unprocessedEntries := [] } entry
  | .result (.replied success _) => ∀ operation ∈ s.downloader.posted.head?,
      operation.endsTask success = true → ∀ task ∈ s.downloader.current,
        operation.reportedURL ≠ task.url → ∀ entry ∈ s.getEntryByURL task.url,
          entry.awaits → s.TendedElsewhere entry
  | _ => True

instance (s : DownloadService U) : ∀ call, Decidable (s.StaysTended call)
  | .moveEntry url _ => inferInstanceAs (Decidable (_ → ∀ entry ∈ s.getEntryByURL url, _ → _))
  | .downloadEntry url _ _ =>
    inferInstanceAs (Decidable (∀ entry ∈ s.getEntryByURL url, _ → _ → _))
  | .downloadUnprocessedEntries => inferInstanceAs (Decidable (∀ url ∈ s.unprocessedEntries,
      ∀ entry ∈ s.getEntryByURL url, _ → _ → Tended { s with unprocessedEntries := [] } entry))
  | .result (.replied success _) =>
    inferInstanceAs (Decidable (∀ operation ∈ s.downloader.posted.head?,
      operation.endsTask success = true → ∀ task ∈ s.downloader.current,
        operation.reportedURL ≠ task.url → ∀ entry ∈ s.getEntryByURL task.url,
          entry.awaits → s.TendedElsewhere entry))
  | .addEntry _ | .removeEntry _ | .connectionChanged _ | .cleanUpFiles | .backgroundRan ..
  | .result (.downloadOfflineURL _) | .result (.removeOfflineURL _)
  | .result (.cancelDownloadOfflineURL _) | .result .cancelTask | .result (.redirectedTo _)
  | .result (.hasMimeType _) | .result (.distilled ..) | .result (.urlLoadComplete ..) =>
    inferInstanceAs (Decidable True)

/-- The waiting lists are gone through by the changes of connection they wait
for: that of all entries when there is a connection again, that of the entries
with more failures when it is a wifi. -/
def ReplaysLists (s : DownloadService U) : ServiceCall U → Prop
  | .connectionChanged type => ∀ entry ∈ s.entries, entry.isRead = false →
      entry.isSettled = false →
      (type ≠ .connectionNone ∧ s.hadConnection = false ∧ entry.url ∈ s.urlToDownloadCellular ∨
        type = .connectionWifi ∧ entry.url ∈ s.urlToDownloadWifi) →
      entry.url ∈ (s.onConnectionChanged type).delayed
  | _ => True

/-! ## Entries -/

variable {s : DownloadService U}

theorem mem_updateEntry {url : U} {update : ReadingListEntry U → ReadingListEntry U}
    (h : entry ∈ (s.updateEntry url update).entries) :
    entry ∈ s.entries ∧ entry.url ≠ url ∨ ∃ old ∈ s.entries, old.url = url ∧ entry = update old := by
  obtain ⟨old, hold, rfl⟩ := List.mem_map.1 h
  by_cases hurl : old.url = url
  · rw [if_pos hurl]
    exact .inr ⟨old, hold, hurl, rfl⟩
  · rw [if_neg hurl]
    exact .inl ⟨hold, hurl⟩

/-- The entries have different URLs. -/
def Distinct (s : DownloadService U) : Prop := Keyed.Unique ReadingListEntry.url s.entries

theorem updateEntry_urls {url : U} {update : ReadingListEntry U → ReadingListEntry U}
    (hurl : ∀ entry, (update entry).url = entry.url) :
    (s.updateEntry url update).entries.map ReadingListEntry.url =
      s.entries.map ReadingListEntry.url := by
  show (s.entries.map _).map _ = _
  rw [List.map_map]
  apply List.map_congr_left
  intro entry _
  show (if _ then _ else _ : ReadingListEntry U).url = _
  by_cases hentry : entry.url = url
  · rw [if_pos hentry, hurl]
  · rw [if_neg hentry]

omit [DecidableEq U] in
theorem Distinct.of_urls {s' : DownloadService U} (h : s.Distinct)
    (hurls : s'.entries.map ReadingListEntry.url = s.entries.map ReadingListEntry.url) :
    s'.Distinct := by
  show (s'.entries.map ReadingListEntry.url).Nodup
  rw [hurls]
  exact h

theorem Distinct.updateEntry (h : s.Distinct) {url : U}
    {update : ReadingListEntry U → ReadingListEntry U}
    (hurl : ∀ entry, (update entry).url = entry.url) : (s.updateEntry url update).Distinct :=
  h.of_urls (updateEntry_urls hurl)

theorem Distinct.getEntryByURL (h : s.Distinct) (he : entry ∈ s.entries) :
    s.getEntryByURL entry.url = some entry :=
  (Keyed.lookup_eq_some h).2 ⟨he, rfl⟩

/-- The entry of a URL that was updated. -/
theorem Distinct.getEntryByURL_updateEntry (h : s.Distinct) {url : U}
    {update : ReadingListEntry U → ReadingListEntry U} (hentry : s.getEntryByURL url = some entry)
    (hurl : ∀ entry, (update entry).url = entry.url) :
    (s.updateEntry url update).getEntryByURL url = some (update entry) := by
  obtain ⟨hmem, rfl⟩ := (Keyed.lookup_eq_some h).1 hentry
  apply (Keyed.lookup_eq_some (h.updateEntry hurl)).2
  refine ⟨List.mem_map.2 ⟨entry, hmem, ?_⟩, hurl entry⟩
  rw [if_pos rfl]

/-! ## What schedules -/

/-- Nothing is taken from an entry, and no entry changes. -/
structure Grows (s s' : DownloadService U) : Prop where
  entries : s'.entries = s.entries
  downloader : s'.downloader = s.downloader
  unprocessed : s'.unprocessedEntries = s.unprocessedEntries
  cellular : s'.urlToDownloadCellular = s.urlToDownloadCellular
  wifi : s'.urlToDownloadWifi = s.urlToDownloadWifi
  disk : s'.disk = s.disk
  ran : s'.ran = s.ran
  delayed : s.delayed ⊆ s'.delayed

omit [DecidableEq U] in
theorem Grows.refl (s : DownloadService U) : Grows s s :=
  ⟨rfl, rfl, rfl, rfl, rfl, rfl, rfl, List.Subset.refl _⟩

omit [DecidableEq U] in
theorem Grows.trans {s s' s'' : DownloadService U} (h : Grows s s') (h' : Grows s' s'') :
    Grows s s'' :=
  ⟨h'.entries.trans h.entries, h'.downloader.trans h.downloader,
    h'.unprocessed.trans h.unprocessed, h'.cellular.trans h.cellular, h'.wifi.trans h.wifi,
    h'.disk.trans h.disk, h'.ran.trans h.ran, List.Subset.trans h.delayed h'.delayed⟩

omit [DecidableEq U] in
theorem Grows.tended {s s' : DownloadService U} (h : Grows s s') (ht : s.Tended entry) :
    s'.Tended entry := by
  unfold Tended TendedElsewhere Listed at *
  rw [h.downloader, h.unprocessed, h.cellular, h.wifi]
  rcases ht with (hdelayed | hrest) | hcurrent
  · exact .inl (.inl (h.delayed hdelayed))
  · exact .inl (.inr hrest)
  · exact .inr hcurrent

omit [DecidableEq U] in
theorem Grows.allTended {s s' : DownloadService U} (h : Grows s s') (ht : s.AllTended) :
    s'.AllTended := by
  intro entry he hawaits
  rw [h.entries] at he
  exact h.tended (ht entry he hawaits)

theorem scheduleDownloadEntry_grows (s : DownloadService U) (url : U) :
    Grows s (s.scheduleDownloadEntry url) := by
  unfold scheduleDownloadEntry
  cases s.getEntryByURL url with
  | none => exact Grows.refl s
  | some entry =>
    by_cases h : entry.isSettled = true ∨ entry.isRead = true
    · simp only [if_pos h]
      exact Grows.refl s
    · simp only [if_neg h]
      exact ⟨rfl, rfl, rfl, rfl, rfl, rfl, rfl, List.subset_append_left _ _⟩

theorem foldl_scheduleDownloadEntry_grows : ∀ (urls : List U) (s : DownloadService U),
    Grows s (urls.foldl scheduleDownloadEntry s)
  | [], s => Grows.refl s
  | url :: urls, s => (scheduleDownloadEntry_grows s url).trans
      (foldl_scheduleDownloadEntry_grows urls (s.scheduleDownloadEntry url))

/-- An unread entry that wants its offline version is scheduled. -/
theorem scheduleDownloadEntry_delayed {url : U} (hentry : s.getEntryByURL url = some entry)
    (hunread : entry.isRead = false) (hunsettled : entry.isSettled = false) :
    url ∈ (s.scheduleDownloadEntry url).delayed := by
  unfold scheduleDownloadEntry
  have hnot : ¬ (entry.isSettled = true ∨ entry.isRead = true) := by
    rw [hunread, hunsettled]
    simp
  simp only [hentry, if_neg hnot]
  exact List.mem_append_right _ (List.mem_singleton_self _)

theorem foldl_scheduleDownloadEntry_delayed {url : U} (hunread : entry.isRead = false)
    (hunsettled : entry.isSettled = false) :
    ∀ (urls : List U) (s : DownloadService U), url ∈ urls →
      s.getEntryByURL url = some entry → url ∈ (urls.foldl scheduleDownloadEntry s).delayed
  | [], _, hmem, _ => absurd hmem List.not_mem_nil
  | first :: urls, s, hmem, hentry => by
    have hgrows := scheduleDownloadEntry_grows s first
    rcases List.mem_cons.1 hmem with rfl | hmem
    · exact (foldl_scheduleDownloadEntry_grows urls _).delayed
        (scheduleDownloadEntry_delayed hentry hunread hunsettled)
    · apply foldl_scheduleDownloadEntry_delayed hunread hunsettled urls _ hmem
      unfold getEntryByURL
      rw [hgrows.entries]
      exact hentry

/-- A schedule is for an entry that wants its offline version. -/
theorem mem_scheduleDownloadEntry {url other : U}
    (h : other ∈ (s.scheduleDownloadEntry url).delayed) :
    other ∈ s.delayed ∨ other = url ∧ ∃ entry, s.getEntryByURL url = some entry ∧
      entry.isRead = false := by
  unfold scheduleDownloadEntry at h
  cases hentry : s.getEntryByURL url with
  | none =>
    simp only [hentry] at h
    exact .inl h
  | some entry =>
    simp only [hentry] at h
    by_cases hskip : entry.isSettled = true ∨ entry.isRead = true
    · rw [if_pos hskip] at h
      exact .inl h
    · rw [if_neg hskip] at h
      rcases List.mem_append.1 h with h | h
      · exact .inl h
      · exact .inr ⟨List.mem_singleton.1 h, entry, rfl,
          Bool.not_eq_true _ ▸ (not_or.1 hskip).2⟩

theorem mem_foldl_scheduleDownloadEntry {url : U} (hread : entry.isRead = true) :
    ∀ (urls : List U) (s : DownloadService U),
      s.getEntryByURL url = some entry → url ∈ (urls.foldl scheduleDownloadEntry s).delayed →
        url ∈ s.delayed
  | [], _, _, h => h
  | first :: urls, s, hentry, h => by
    have hsame : (s.scheduleDownloadEntry first).getEntryByURL url = some entry := by
      unfold getEntryByURL
      rw [(scheduleDownloadEntry_grows s first).entries]
      exact hentry
    have hmem := mem_foldl_scheduleDownloadEntry hread urls _ hsame h
    rcases mem_scheduleDownloadEntry hmem with hmem | ⟨rfl, found, hfound, hunread⟩
    · exact hmem
    · rw [hentry] at hfound
      obtain rfl : entry = found := Option.some.inj hfound
      rw [hread] at hunread
      cases hunread

omit [DecidableEq U] in
theorem tended_iff_has : s.Tended entry ↔
    entry.url ∈ s.delayed ∨ entry.url ∈ s.unprocessedEntries ∨ s.Listed entry ∨
      s.downloader.Has entry.url := by
  unfold Tended TendedElsewhere URLDownloader.Has
  tauto

/-! ## The model changes -/

/-- Cancelling the download of one URL leaves the other entries tended. -/
theorem tended_cancel {url : U} {other : ReadingListEntry U} (hne : other.url ≠ url)
    (h : s.Tended other) :
    Tended { s with downloader := s.downloader.cancelDownloadOfflineURL url } other := by
  have htask : (⟨.download, other.url⟩ : Task U) ≠ ⟨.download, url⟩ :=
    fun he => hne (Task.mk.inj he).2
  rcases h with (h | h | h | h) | h
  · exact .inl (.inl h)
  · exact .inl (.inr (.inl h))
  · refine .inl (.inr (.inr (.inl ?_)))
    exact List.mem_filter.2 ⟨h, decide_eq_true htask⟩
  · exact .inl (.inr (.inr (.inr h)))
  · exact .inr h

theorem Distinct.append (h : s.Distinct) (hnew : s.getEntryByURL entry.url = none) :
    Distinct { s with entries := s.entries ++ [entry] } := by
  have hput := Keyed.Unique.put h entry
  unfold Keyed.put at hput
  rw [Keyed.remove_of_lookup_none hnew] at hput
  exact hput

theorem allTended_addEntry (hdistinct : s.Distinct) (h : s.AllTended)
    (hnew : s.getEntryByURL entry.url = none) (hwaiting : entry.distilledState = .waiting) :
    ({ s with entries := s.entries ++ [entry] }.processNewEntry entry.url).AllTended := by
  have hentry : ({ s with entries := s.entries ++ [entry] } : DownloadService U).getEntryByURL
      entry.url = some entry :=
    (hdistinct.append hnew).getEntryByURL (List.mem_append_right _ (List.mem_singleton_self _))
  have hothers : ∀ other ∈ s.entries, other.url ≠ entry.url :=
    fun other hother => Keyed.lookup_eq_none.1 hnew other hother
  unfold processNewEntry
  simp only [hentry]
  by_cases hread : entry.isRead = true
  · rw [if_pos hread]
    intro other hother hawaits
    rcases List.mem_append.1 hother with hother | hother
    · exact tended_cancel (hothers other hother) (h other hother hawaits)
    · -- the new entry is read, and nothing is done for it yet
      obtain rfl := List.mem_singleton.1 hother
      rcases hawaits with ⟨hunread, _⟩ | hprocessing
      · rw [hread] at hunread
        cases hunread
      · rw [hwaiting] at hprocessing
        cases hprocessing
  · rw [if_neg hread]
    have hgrows := scheduleDownloadEntry_grows
      ({ s with entries := s.entries ++ [entry] } : DownloadService U) entry.url
    intro other hother hawaits
    rw [hgrows.entries] at hother
    rcases List.mem_append.1 hother with hother | hother
    · exact hgrows.tended (h other hother hawaits)
    · obtain rfl := List.mem_singleton.1 hother
      exact .inl (.inl (scheduleDownloadEntry_delayed hentry (Bool.not_eq_true _ ▸ hread)
        hawaits.unsettled))

variable (isValid : U → Bool) (counter : FailureCounter U)

theorem allTended_moveEntry_iff (hdistinct : s.Distinct) (h : s.AllTended) {url : U} (isRead : Bool)
    (hpre : s.getEntryByURL url ≠ none) :
    (s.step isValid counter (.moveEntry url isRead)).AllTended ↔
      s.StaysTended (.moveEntry url isRead) := by
  obtain ⟨entry, hentry⟩ := Option.ne_none_iff_exists'.1 hpre
  obtain ⟨hmem, rfl⟩ := (Keyed.lookup_eq_some hdistinct).1 hentry
  have hmoved := hdistinct.getEntryByURL_updateEntry hentry
    (fun entry => (rfl : ({ entry with isRead := isRead } : ReadingListEntry U).url = entry.url))
  show (processNewEntry (s.updateEntry entry.url fun entry => { entry with isRead := isRead })
    entry.url).AllTended ↔ _
  unfold processNewEntry
  simp only [hmoved]
  cases isRead with
  | true =>
    rw [if_pos rfl]
    constructor
    · intro hall _ found hfound hprocessing
      obtain rfl : entry = found := Option.some.inj (hentry.symm.trans hfound)
      have hnow : ({ entry with isRead := true } : ReadingListEntry U) ∈
          (s.updateEntry entry.url fun entry => { entry with isRead := true }).entries :=
        (Keyed.mem_of_lookup hmoved)
      exact hall { entry with isRead := true } hnow (.inr hprocessing)
    · intro hstays other hother hawaits
      rcases mem_updateEntry hother with ⟨hother, hne⟩ | ⟨old, hold, hurl, rfl⟩
      · exact tended_cancel hne (h other hother hawaits)
      · -- what the read entry still awaits is the end of its download
        obtain rfl : old = entry := hdistinct.eq_of_mem hold hmem hurl
        rcases hawaits with ⟨hunread, _⟩ | hprocessing
        · cases hunread
        · exact hstays rfl old hentry hprocessing
  | false =>
    rw [if_neg Bool.false_ne_true]
    have hgrows := scheduleDownloadEntry_grows
      (s.updateEntry entry.url fun entry => { entry with isRead := false }) entry.url
    refine iff_of_true ?_ (fun hread => by cases hread)
    intro other hother hawaits
    rw [hgrows.entries] at hother
    rcases mem_updateEntry hother with ⟨hother, _⟩ | ⟨old, hold, hurl, rfl⟩
    · exact hgrows.tended (h other hother hawaits)
    · obtain rfl : old = entry := hdistinct.eq_of_mem hold hmem hurl
      exact .inl (.inl (scheduleDownloadEntry_delayed hmoved rfl hawaits.unsettled))

theorem allTended_removeEntry (hplaced : Placed s.downloader) (h : s.AllTended) (url : U) :
    AllTended { s with
      downloader := s.downloader.removeOfflineURL url
      entries := Keyed.remove ReadingListEntry.url s.entries url } := by
  intro entry he hawaits
  obtain ⟨he, hne⟩ := Keyed.mem_remove.1 he
  rw [tended_iff_has]
  rcases tended_iff_has.1 (h entry he hawaits) with h | h | h | h
  · exact .inl h
  · exact .inr (.inl h)
  · exact .inr (.inr (.inl h))
  · refine .inr (.inr (.inr ?_))
    show (s.downloader.removeOfflineURL url).Has entry.url
    rw [removeOfflineURL_eq, hplaced.queue_has]
    have htask : (⟨.download, entry.url⟩ : Task U) ≠ ⟨.download, url⟩ :=
      fun he => hne (Task.mk.inj he).2
    rcases h with h | h
    · exact .inl (List.mem_append_left _ (List.mem_filter.2 ⟨h, decide_eq_true htask⟩))
    · exact .inr h

/-! ## Delayed tasks -/

/-- Without one of its delayed tasks another entry is tended as before. -/
theorem tended_erase {url : U} {other : ReadingListEntry U} (hne : other.url ≠ url)
    (h : s.Tended other) :
    Tended { s with delayed := s.delayed.erase url } other := by
  rcases h with (h | h) | h
  · exact .inl (.inl ((List.mem_erase_of_ne hne).2 h))
  · exact .inl (.inr h)
  · exact .inr h

/-- The download of an entry that starts is queued or at work. -/
theorem startDownload_has (hplaced : Placed s.downloader) (url : U) :
    (s.startDownload counter url).downloader.Has url := by
  show (s.downloader.downloadOfflineURL url).Has url
  rw [downloadOfflineURL_eq hplaced, hplaced.queue_has]
  left
  by_cases h : (⟨.download, url⟩ : Task U) ∈ s.downloader.tasks
  · rw [if_pos h]
    exact h
  · rw [if_neg h]
    exact List.mem_append_right _ (List.mem_singleton_self _)

theorem startDownload_has_of_has (hplaced : Placed s.downloader) {url other : U}
    (h : s.downloader.Has other) :
    (s.startDownload counter url).downloader.Has other := by
  show (s.downloader.downloadOfflineURL url).Has other
  rw [downloadOfflineURL_eq hplaced, hplaced.queue_has]
  rcases h with h | h
  · left
    by_cases hmem : (⟨.download, url⟩ : Task U) ∈ s.downloader.tasks
    · rw [if_pos hmem]
      exact h
    · rw [if_neg hmem]
      exact List.mem_append_left _ h
  · exact .inr h

theorem allTended_startDownload (hplaced : Placed s.downloader) (url : U)
    (h : ∀ entry ∈ s.entries, entry.url ≠ url → entry.awaits → s.Tended entry) :
    (s.startDownload counter url).AllTended := by
  intro entry he hawaits
  rw [tended_iff_has]
  rcases mem_updateEntry he with ⟨he, hne⟩ | ⟨old, _, hurl, rfl⟩
  · rcases tended_iff_has.1 (h entry he hne hawaits) with h | h | h | h
    · exact .inl h
    · exact .inr (.inl h)
    · exact .inr (.inr (.inl h))
    · exact .inr (.inr (.inr (startDownload_has_of_has counter hplaced h)))
  · refine .inr (.inr (.inr ?_))
    show (s.startDownload counter url).downloader.Has old.url
    rw [hurl]
    exact startDownload_has counter hplaced url

omit [DecidableEq U] in
/-- With longer waiting lists everything stays tended. -/
theorem Tended.of_lists (h : s.Tended entry) {cellular wifi : List U}
    (hcellular : s.urlToDownloadCellular ⊆ cellular) (hwifi : s.urlToDownloadWifi ⊆ wifi) :
    Tended { s with urlToDownloadCellular := cellular, urlToDownloadWifi := wifi } entry := by
  rw [tended_iff_has] at h ⊢
  rcases h with h | h | ⟨hunread, h | h⟩ | h
  · exact .inl h
  · exact .inr (.inl h)
  · exact .inr (.inr (.inl ⟨hunread, .inl (hcellular h)⟩))
  · exact .inr (.inr (.inl ⟨hunread, .inr (hwifi h)⟩))
  · exact .inr (.inr (.inr h))

/-- A delayed task of an entry that is not settled starts the download, or puts the entry in
waiting lists. With seven failures it does neither. -/
theorem downloadUnsettled_cases (entry : ReadingListEntry U) (offline wifi : Bool) :
    (s.downloadUnsettled counter entry offline wifi = s.startDownload counter entry.url ∧
      entry.failedDownloadCounter < kNumberOfFailsBeforeStop) ∨
    ∃ cellular wifiList, s.downloadUnsettled counter entry offline wifi =
        { s with urlToDownloadCellular := cellular, urlToDownloadWifi := wifiList } ∧
      s.urlToDownloadCellular ⊆ cellular ∧ s.urlToDownloadWifi ⊆ wifiList ∧
      if entry.failedDownloadCounter < kNumberOfFailsBeforeStop then entry.url ∈ wifiList
      else cellular = s.urlToDownloadCellular ∧ wifiList = s.urlToDownloadWifi := by
  have hlast : entry.url ∈ s.urlToDownloadWifi ++ [entry.url] :=
    List.mem_append_right _ (List.mem_singleton_self _)
  unfold downloadUnsettled
  by_cases hfew : entry.failedDownloadCounter < kNumberOfFailsBeforeStop
  · simp only [if_pos hfew]
    by_cases hoffline : offline = true
    · rw [if_pos hoffline]
      refine .inr ⟨_, _, rfl, ?_, List.subset_append_left _ _, hlast⟩
      by_cases hcell : entry.failedDownloadCounter < kNumberOfFailsBeforeWifiOnly
      · rw [if_pos hcell]
        exact List.subset_append_left _ _
      · rw [if_neg hcell]
        exact List.Subset.refl _
    · rw [if_neg hoffline]
      by_cases hcell : entry.failedDownloadCounter < kNumberOfFailsBeforeWifiOnly
      · rw [if_pos hcell]
        exact .inl ⟨rfl, hfew⟩
      · rw [if_neg hcell]
        by_cases hwifi : wifi = true
        · rw [if_pos hwifi]
          exact .inl ⟨rfl, hfew⟩
        · rw [if_neg hwifi]
          exact .inr ⟨_, _, rfl, List.Subset.refl _, List.subset_append_left _ _, hlast⟩
  · have hcell : ¬ entry.failedDownloadCounter < kNumberOfFailsBeforeWifiOnly := by
      unfold kNumberOfFailsBeforeWifiOnly
      unfold kNumberOfFailsBeforeStop at hfew
      omega
    simp only [if_neg hfew, if_neg hcell, ite_self]
    exact .inr ⟨_, _, rfl, List.Subset.refl _, List.Subset.refl _, rfl, rfl⟩

/-- A delayed task keeps an unread entry with less than seven failures, and
leaves the others as they are. -/
theorem allTended_downloadUnsettled (hdistinct : s.Distinct) (hplaced : Placed s.downloader)
    (hentry : entry ∈ s.entries) (hunread : entry.isRead = false) (offline wifi : Bool)
    (hfew : entry.failedDownloadCounter < kNumberOfFailsBeforeStop)
    (h : ∀ other ∈ s.entries, other.url ≠ entry.url → other.awaits → s.Tended other) :
    (s.downloadUnsettled counter entry offline wifi).AllTended := by
  rcases s.downloadUnsettled_cases counter entry offline wifi with
    ⟨heq, _⟩ | ⟨cellular, wifiList, heq, hcellular, hwifi, hlisted⟩
  · rw [heq]
    exact allTended_startDownload counter hplaced entry.url h
  · rw [heq]
    rw [if_pos hfew] at hlisted
    intro other hother hawaits
    by_cases hsame : other.url = entry.url
    · obtain rfl : other = entry := hdistinct.eq_of_mem hother hentry hsame
      exact .inl (.inr (.inr (.inr ⟨hunread, .inr hlisted⟩)))
    · exact (h other hother hsame hawaits).of_lists hcellular hwifi

/-- A delayed task that finds seven failures does nothing. -/
theorem downloadUnsettled_given_up (offline wifi : Bool)
    (hmany : kNumberOfFailsBeforeStop ≤ entry.failedDownloadCounter) :
    s.downloadUnsettled counter entry offline wifi = s := by
  rcases s.downloadUnsettled_cases counter entry offline wifi with
    ⟨_, hfew⟩ | ⟨cellular, wifiList, heq, _, _, hsame⟩
  · exact absurd hmany (Nat.not_le.2 hfew)
  · rw [if_neg (Nat.not_lt.2 hmany)] at hsame
    obtain ⟨rfl, rfl⟩ := hsame
    exact heq

theorem allTended_downloadEntry_iff (hdistinct : s.Distinct) (hplaced : Placed s.downloader)
    (h : s.AllTended) (url : U) (offline wifi : Bool) :
    (s.step isValid counter (.downloadEntry url offline wifi)).AllTended ↔
      s.StaysTended (.downloadEntry url offline wifi) := by
  have hothers : ∀ other ∈ s.entries, other.url ≠ url → other.awaits →
      Tended { s with delayed := s.delayed.erase url } other :=
    fun other hother hne hawaits => tended_erase hne (h other hother hawaits)
  show (downloadEntry counter { s with delayed := s.delayed.erase url } url offline wifi).AllTended
    ↔ ∀ entry ∈ s.getEntryByURL url, _
  have hget : ({ s with delayed := s.delayed.erase url } : DownloadService U).getEntryByURL url =
      s.getEntryByURL url := rfl
  unfold downloadEntry
  rw [hget]
  cases hentry : s.getEntryByURL url with
  | none =>
    refine iff_of_true ?_ (fun entry he => by cases he)
    intro other hother hawaits
    exact hothers other hother (Keyed.lookup_eq_none.1 hentry other hother) hawaits
  | some entry =>
    obtain ⟨hmem, rfl⟩ := (Keyed.lookup_eq_some hdistinct).1 hentry
    -- what is left when the task does nothing for its entry
    have hleft : AllTended { s with delayed := s.delayed.erase entry.url } ↔
        (entry.awaits → Tended { s with delayed := s.delayed.erase entry.url } entry) := by
      constructor
      · intro hall
        exact hall entry hmem
      · intro hown other hother hawaits
        by_cases hsame : other.url = entry.url
        · obtain rfl : other = entry := hdistinct.eq_of_mem hother hmem hsame
          exact hown hawaits
        · exact hothers other hother hsame hawaits
    simp only [Option.mem_def, Option.some.injEq, forall_eq']
    by_cases hskip : entry.isSettled = true ∨ entry.isRead = true
    · rw [if_pos hskip, hleft]
      constructor
      · intro hown hawaits _
        exact hown hawaits
      · intro hstays hawaits
        refine hstays hawaits (.inl ?_)
        rcases hskip with hsettled | hread
        · rw [hawaits.unsettled] at hsettled
          cases hsettled
        · exact hread
    · rw [if_neg hskip]
      obtain ⟨hunsettled, hunread⟩ := not_or.1 hskip
      by_cases hfew : entry.failedDownloadCounter < kNumberOfFailsBeforeStop
      · refine iff_of_true (allTended_downloadUnsettled counter
          (s := { s with delayed := s.delayed.erase entry.url }) hdistinct hplaced hmem
          (Bool.not_eq_true _ ▸ hunread) offline wifi hfew hothers) ?_
        intro _ hnot
        rcases hnot with hread | hmany
        · exact absurd hread hunread
        · exact absurd hfew (Nat.not_lt.2 hmany)
      · have hmany := Nat.not_lt.1 hfew
        rw [downloadUnsettled_given_up counter offline wifi hmany, hleft]
        constructor
        · intro hown hawaits _
          exact hown hawaits
        · intro hstays hawaits
          exact hstays hawaits (.inr hmany)

theorem allTended_downloadUnprocessedEntries_iff (hdistinct : s.Distinct) (h : s.AllTended) :
    (s.step isValid counter .downloadUnprocessedEntries).AllTended ↔
      s.StaysTended .downloadUnprocessedEntries := by
  have hgrows := foldl_scheduleDownloadEntry_grows s.unprocessedEntries
    { s with unprocessedEntries := [] }
  constructor
  · intro hall url hmem entry hentry hread hprocessing
    obtain ⟨he, rfl⟩ := (Keyed.lookup_eq_some hdistinct).1 hentry
    have hnow : entry ∈ (s.step isValid counter .downloadUnprocessedEntries).entries := by
      show entry ∈ (s.unprocessedEntries.foldl scheduleDownloadEntry _).entries
      rw [hgrows.entries]
      exact he
    rcases tended_iff_has.1 (hall entry hnow (.inr hprocessing)) with hd | hu | ⟨hunread, _⟩ | hhas
    · -- nothing was scheduled for a read entry
      exact .inl (.inl (mem_foldl_scheduleDownloadEntry hread _ _ hentry hd))
    · exact .inl (.inr (.inl (hgrows.unprocessed ▸ hu)))
    · rw [hread] at hunread
      cases hunread
    · have hbefore : s.downloader.Has entry.url := hgrows.downloader ▸ hhas
      exact tended_iff_has.2 (.inr (.inr (.inr hbefore)))
  · intro hstays entry he hawaits
    have he : entry ∈ s.entries := hgrows.entries ▸ he
    have hentry := hdistinct.getEntryByURL he
    by_cases hmem : entry.url ∈ s.unprocessedEntries
    · by_cases hread : entry.isRead = true
      · rcases hawaits with ⟨hunread, _⟩ | hprocessing
        · rw [hread] at hunread
          cases hunread
        · exact hgrows.tended (hstays entry.url hmem entry hentry hread hprocessing)
      · exact .inl (.inl (foldl_scheduleDownloadEntry_delayed (Bool.not_eq_true _ ▸ hread)
          hawaits.unsettled _ _ hmem hentry))
    · apply hgrows.tended
      rcases h entry he hawaits with (hd | hu | hrest) | hcurrent
      · exact .inl (.inl hd)
      · exact absurd hu hmem
      · exact .inl (.inr (.inr hrest))
      · exact .inr hcurrent

/-- The first waiting list is gone through where there was no connection. -/
theorem replayCellular_grows (s : DownloadService U) :
    Grows s (if s.hadConnection = true then s
      else s.urlToDownloadCellular.foldl scheduleDownloadEntry { s with hadConnection := true }) := by
  by_cases hhad : s.hadConnection = true
  · rw [if_pos hhad]
    exact Grows.refl s
  · rw [if_neg hhad]
    have hset : Grows s { s with hadConnection := true } :=
      ⟨rfl, rfl, rfl, rfl, rfl, rfl, rfl, List.Subset.refl _⟩
    exact hset.trans (foldl_scheduleDownloadEntry_grows _ _)

theorem onConnectionChanged_grows (s : DownloadService U) (type : ConnectionType) :
    Grows s (s.onConnectionChanged type) := by
  unfold onConnectionChanged
  by_cases hnone : type = .connectionNone
  · rw [if_pos hnone]
    exact ⟨rfl, rfl, rfl, rfl, rfl, rfl, rfl, List.Subset.refl _⟩
  · rw [if_neg hnone]
    have hcellular := replayCellular_grows s
    by_cases hwifi : type = .connectionWifi
    · simp only [if_pos hwifi]
      exact hcellular.trans (foldl_scheduleDownloadEntry_grows _ _)
    · simp only [if_neg hwifi]
      exact hcellular

theorem replaysLists (hdistinct : s.Distinct) (call : ServiceCall U) :
    s.ReplaysLists call := by
  cases call with
  | connectionChanged type =>
    intro entry he hunread hunsettled hlisted
    have hentry := hdistinct.getEntryByURL he
    have hsome : type ≠ .connectionNone := by
      rcases hlisted with ⟨hsome, _⟩ | ⟨rfl, _⟩
      · exact hsome
      · intro hnone
        cases hnone
    unfold onConnectionChanged
    rw [if_neg hsome]
    have hcellular : s.hadConnection = false → entry.url ∈ s.urlToDownloadCellular →
        entry.url ∈ (if s.hadConnection = true then s else
          s.urlToDownloadCellular.foldl scheduleDownloadEntry
            { s with hadConnection := true }).delayed := by
      intro hhad hmem
      rw [if_neg (by rw [hhad]; exact Bool.false_ne_true)]
      exact foldl_scheduleDownloadEntry_delayed hunread hunsettled _ _ hmem hentry
    have hgrows := replayCellular_grows s
    by_cases hwifi : type = .connectionWifi
    · simp only [if_pos hwifi]
      rcases hlisted with ⟨_, hhad, hmem⟩ | ⟨_, hmem⟩
      · exact (foldl_scheduleDownloadEntry_grows _ _).delayed (hcellular hhad hmem)
      · apply foldl_scheduleDownloadEntry_delayed hunread hunsettled
        · rw [hgrows.wifi]
          exact hmem
        · unfold getEntryByURL
          rw [hgrows.entries]
          exact hentry
    · simp only [if_neg hwifi]
      rcases hlisted with ⟨_, hhad, hmem⟩ | ⟨hwifi', _⟩
      · exact hcellular hhad hmem
      · exact absurd hwifi' hwifi
  | _ => trivial

/-! ## Results -/

/-- `OnDownloadEnd` has been called for `url`. -/
structure Reported (s s' : DownloadService U) (url : U) : Prop where
  downloader : s'.downloader = s.downloader
  unprocessed : s'.unprocessedEntries = s.unprocessedEntries
  cellular : s'.urlToDownloadCellular = s.urlToDownloadCellular
  wifi : s'.urlToDownloadWifi = s.urlToDownloadWifi
  urls : s'.entries.map ReadingListEntry.url = s.entries.map ReadingListEntry.url
  delayed : s.delayed ⊆ s'.delayed
  scheduled : ∀ other ∈ s'.delayed, other ∈ s.delayed ∨ other = url
  kept : ∀ entry ∈ s.entries, entry.url ≠ url → entry ∈ s'.entries
  entries : ∀ entry ∈ s'.entries, entry ∈ s.entries ∧ entry.url ≠ url ∨
    entry.url = url ∧ (entry.awaits → url ∈ s'.delayed)

omit [DecidableEq U] in
theorem Reported.listed_iff {s s' : DownloadService U} {url : U} (h : Reported s s' url)
    (entry : ReadingListEntry U) : s'.Listed entry ↔ s.Listed entry := by
  unfold Listed
  rw [h.cellular, h.wifi]

theorem mem_updateEntry_of_ne {url : U} (update : ReadingListEntry U → ReadingListEntry U)
    (he : entry ∈ s.entries) (hne : entry.url ≠ url) :
    entry ∈ (s.updateEntry url update).entries :=
  List.mem_map.2 ⟨entry, he, if_neg hne⟩

/-- The entry is given a state in which nothing more is downloaded. -/
theorem reported_updateEntry (url : U) {update : ReadingListEntry U → ReadingListEntry U}
    (hurl : ∀ entry, (update entry).url = entry.url) (hdone : ∀ entry, ¬ (update entry).awaits) :
    Reported s (s.updateEntry url update) url := by
  refine ⟨rfl, rfl, rfl, rfl, updateEntry_urls hurl, List.Subset.refl _, fun _ h => .inl h,
    fun entry he hne => mem_updateEntry_of_ne update he hne, ?_⟩
  intro entry he
  rcases mem_updateEntry he with h | ⟨old, _, hold, rfl⟩
  · exact .inl h
  · exact .inr ⟨(hurl old).trans hold, fun hawaits => absurd hawaits (hdone old)⟩

theorem downloadFailed_reported (hdistinct : s.Distinct) (url : U) :
    Reported s (s.downloadFailed counter url) url := by
  have herror : Reported s (s.setEntryDistilledState counter url .distillationError) url := by
    apply reported_updateEntry
    · exact fun _ => rfl
    · rintro entry (⟨_, hunsettled⟩ | hprocessing)
      · cases hunsettled
      · cases hprocessing
  unfold downloadFailed
  cases hentry : s.getEntryByURL url with
  | none => exact herror
  | some entry =>
    obtain ⟨hmem, rfl⟩ := (Keyed.lookup_eq_some hdistinct).1 hentry
    by_cases hfew : entry.failedDownloadCounter + 1 < kNumberOfFailsBeforeStop
    · -- the entry waits for its next try
      simp only [if_pos hfew]
      have hretried : (s.setEntryDistilledState counter entry.url .willRetry).getEntryByURL
          entry.url = some { entry with
            distilledState := .willRetry
            failedDownloadCounter := counter.afterState entry .willRetry } :=
        hdistinct.getEntryByURL_updateEntry hentry (fun _ => rfl)
      have hgrows := scheduleDownloadEntry_grows
        (s.setEntryDistilledState counter entry.url .willRetry) entry.url
      have hurls := (congrArg (List.map ReadingListEntry.url) hgrows.entries).trans
        (updateEntry_urls fun _ => rfl)
      refine ⟨hgrows.downloader, hgrows.unprocessed, hgrows.cellular, hgrows.wifi, hurls,
        hgrows.delayed, ?_, ?_, ?_⟩
      · intro other hother
        rcases mem_scheduleDownloadEntry hother with h | ⟨h, _⟩
        · exact .inl h
        · exact .inr h
      · intro other hother hne
        rw [hgrows.entries]
        exact mem_updateEntry_of_ne _ hother hne
      · intro other hother
        rw [hgrows.entries] at hother
        rcases mem_updateEntry hother with h | ⟨old, hold, hurl, rfl⟩
        · exact .inl h
        · obtain rfl : old = entry := hdistinct.eq_of_mem hold hmem hurl
          refine .inr ⟨rfl, fun hawaits => ?_⟩
          rcases hawaits with ⟨hunread, hunsettled⟩ | hprocessing
          · exact scheduleDownloadEntry_delayed hretried hunread hunsettled
          · cases hprocessing
    · simp only [if_neg hfew]
      exact herror

theorem onDownloadEnd_reported (hdistinct : s.Distinct) (url : U) (success : SuccessState)
    (distilledPath : Option (OfflinePage U)) :
    Reported s (s.onDownloadEnd counter url success distilledPath) url := by
  have hinfo : Reported s (s.setEntryDistilledInfo counter url) url := by
    apply reported_updateEntry
    · exact fun _ => rfl
    · rintro entry (⟨_, hunsettled⟩ | hprocessing)
      · cases hunsettled
      · cases hprocessing
  have hfailed := downloadFailed_reported counter hdistinct url
  unfold onDownloadEnd
  cases distilledPath with
  | none => exact hfailed
  | some page =>
    cases success with
    | downloadSuccess => exact hinfo
    | downloadExists => exact hinfo
    | error => exact hfailed

/-- The service after a result that leaves the task at work. -/
theorem downloaderStep_goesOn {call : DownloaderCall U}
    (h : GoesOn s.downloader (s.downloader.step isValid call)) :
    s.downloaderStep counter isValid call =
      { s with downloader := s.downloader.step isValid call } := by
  show List.foldl _ _ (List.drop _ _) = _
  rw [h.completions, List.drop_length]
  rfl

/-- The service after a result that ends the task. -/
theorem downloaderStep_ends {call : DownloaderCall U} {completion : Completion U}
    (h : Ends s.downloader (s.downloader.step isValid call) completion) :
    s.downloaderStep counter isValid call =
      onCompletion counter { s with downloader := s.downloader.step isValid call } completion := by
  show List.foldl _ _ (List.drop _ _) = _
  rw [h.completions, List.drop_left]
  rfl

omit [DecidableEq U] in
/-- The task stays at work, and nothing is said about any entry. -/
theorem tended_iff_of_goesOn {d' : URLDownloader U} (h : GoesOn s.downloader d')
    (entry : ReadingListEntry U) :
    Tended { s with downloader := d', ran := none } entry ↔ s.Tended entry := by
  unfold Tended TendedElsewhere Listed
  show (_ ∨ _ ∨ _ ∈ d'.tasks ∨ _) ∨ d'.current = _ ↔ _
  rw [h.tasks, h.current_eq]

omit [DecidableEq U] in
/-- The task ends, and nothing is said about any entry. -/
theorem tended_iff_of_ends {d' : URLDownloader U} {completion : Completion U}
    (h : Ends s.downloader d' completion) (entry : ReadingListEntry U) :
    Tended { s with downloader := d', ran := none } entry ↔ s.TendedElsewhere entry := by
  rw [tended_iff_has, h.has_iff]
  unfold TendedElsewhere Listed
  tauto

theorem allTended_result_iff (hdistinct : s.Distinct) (hplaced : Placed s.downloader)
    (h : s.AllTended) {call : DownloaderCall U} (hback : call.comesBack = true)
    (hpre : s.downloader.Pre call) :
    (s.step isValid counter (.result call)).AllTended ↔ s.StaysTended (.result call) := by
  show (downloaderStep counter isValid { s with ran := none } call).AllTended ↔ _
  rcases hplaced.result isValid hpre hback with ⟨hnone, hgoes⟩ | ⟨completion, hsome, hends⟩
  · rw [downloaderStep_goesOn isValid counter
      (s := { s with ran := none }) hgoes]
    refine iff_of_true ?_ ?_
    · intro entry he hawaits
      exact (tended_iff_of_goesOn hgoes entry).2 (h entry he hawaits)
    · cases call with
      | replied success size =>
        intro operation hposted hendsTask
        rw [completionOf_eq_none hnone hposted] at hendsTask
        cases hendsTask
      | _ => trivial
  · obtain ⟨success, size, operation, rfl, hposted, hendsTask, hreply⟩ :=
      completionOf_eq_some hsome
    rw [downloaderStep_ends isValid counter (s := { s with ran := none }) hends]
    cases completion with
    | delete url ok =>
      obtain rfl := deletePath_of_delete hreply
      refine iff_of_true ?_ ?_
      · intro entry he hawaits
        apply (tended_iff_of_ends hends entry).2
        rcases h entry he hawaits with helsewhere | hcurrent
        · exact helsewhere
        · cases task_of_deletePath hplaced hposted hcurrent
      · intro found hfound _ task htask hne
        obtain rfl := Option.some.inj (hposted.symm.trans hfound)
        rw [task_of_deletePath hplaced hposted htask] at hne
        exact absurd rfl hne
    | download url distilledUrl state path bytes title =>
      have hurl := reportedURL_of_download hreply
      have hreported := onDownloadEnd_reported counter
        (s := { s with downloader := s.downloader.step isValid (.replied success size), ran := none })
        hdistinct url state path
      show AllTended (onDownloadEnd counter { s with
        downloader := s.downloader.step isValid (.replied success size), ran := none }
          url state path) ↔ _
      constructor
      · intro hall found hfound _ task htask hne entry hentry hawaits
        obtain rfl := Option.some.inj (hposted.symm.trans hfound)
        rw [hurl] at hne
        obtain ⟨he, heurl⟩ := (Keyed.lookup_eq_some hdistinct).1 hentry
        -- the entry of the task is as it was, and so is what tends it
        have hnow := hreported.kept entry he (fun hsame => hne (hsame.symm.trans heurl))
        rw [← heurl] at hne
        apply (tended_iff_of_ends hends entry).1
        have htended := hall entry hnow hawaits
        rw [tended_iff_has] at htended ⊢
        rw [hreported.downloader, hreported.unprocessed, hreported.listed_iff] at htended
        rcases htended with hdelayed | hrest
        · rcases hreported.scheduled entry.url hdelayed with hold | hsame
          · exact .inl hold
          · exact absurd hsame.symm hne
        · exact .inr hrest
      · intro hstays entry he hawaits
        rcases hreported.entries entry he with ⟨hold, hne⟩ | ⟨hsame, hscheduled⟩
        · have helsewhere : s.TendedElsewhere entry := by
            rcases h entry hold hawaits with helsewhere | hcurrent
            · exact helsewhere
            · exact hstays operation hposted hendsTask _ hcurrent
                (fun hsame => hne (hsame.symm.trans hurl)) entry
                (hdistinct.getEntryByURL hold) hawaits
          have hbefore := (tended_iff_of_ends hends entry).2 helsewhere
          rw [tended_iff_has] at hbefore ⊢
          rw [hreported.downloader, hreported.unprocessed, hreported.listed_iff]
          rcases hbefore with hdelayed | hrest
          · exact .inl (hreported.delayed hdelayed)
          · exact .inr hrest
        · exact .inl (.inl (hsame ▸ hscheduled hawaits))

/-! ## Runs -/

/-- What holds in every state. -/
structure Settled (s : DownloadService U) : Prop where
  distinct : s.Distinct
  placed : Placed s.downloader

omit [DecidableEq U] in
theorem Settled.of_grows {s s' : DownloadService U} (h : Settled s) (hgrows : Grows s s') :
    Settled s' :=
  ⟨h.distinct.of_urls (congrArg _ hgrows.entries), hgrows.downloader ▸ h.placed⟩

theorem processNewEntry_settled (h : Settled s) (url : U) :
    Settled (s.processNewEntry url) := by
  have hcancel : Settled { s with downloader := s.downloader.cancelDownloadOfflineURL url } :=
    ⟨h.distinct, by
      show Placed (s.downloader.cancelDownloadOfflineURL url)
      rw [cancelDownloadOfflineURL_eq h.placed]
      exact h.placed.queue _⟩
  unfold processNewEntry
  cases s.getEntryByURL url with
  | none => exact hcancel
  | some entry =>
    by_cases hread : entry.isRead = true
    · simp only [if_pos hread]
      exact hcancel
    · simp only [if_neg hread]
      exact h.of_grows (scheduleDownloadEntry_grows s url)

theorem startDownload_settled (h : Settled s) (url : U) :
    Settled (s.startDownload counter url) := by
  refine ⟨h.distinct.updateEntry fun _ => rfl, ?_⟩
  show Placed (s.downloader.downloadOfflineURL url)
  rw [downloadOfflineURL_eq h.placed]
  exact h.placed.queue _

theorem downloadEntry_settled (h : Settled s) (url : U) (offline wifi : Bool) :
    Settled (s.downloadEntry counter url offline wifi) := by
  unfold downloadEntry
  cases s.getEntryByURL url with
  | none => exact h
  | some entry =>
    by_cases hskip : entry.isSettled = true ∨ entry.isRead = true
    · simp only [if_pos hskip]
      exact h
    · simp only [if_neg hskip]
      rcases s.downloadUnsettled_cases counter entry offline wifi with ⟨heq, _⟩ | ⟨_, _, heq, _⟩
      · rw [heq]
        exact startDownload_settled counter h entry.url
      · rw [heq]
        exact ⟨h.distinct, h.placed⟩

theorem result_settled (h : Settled s) {call : DownloaderCall U} (hback : call.comesBack = true)
    (hpre : s.downloader.Pre call) :
    Settled (s.step isValid counter (.result call)) := by
  show Settled (downloaderStep counter isValid { s with ran := none } call)
  rcases h.placed.result isValid hpre hback with ⟨_, hgoes⟩ | ⟨completion, _, hends⟩
  · rw [downloaderStep_goesOn isValid counter (s := { s with ran := none }) hgoes]
    exact ⟨h.distinct, hgoes.placed⟩
  · rw [downloaderStep_ends isValid counter (s := { s with ran := none }) hends]
    cases completion with
    | delete url ok => exact ⟨h.distinct, hends.placed⟩
    | download url distilledUrl state path bytes title =>
      have hreported := onDownloadEnd_reported counter
        (s := { s with downloader := s.downloader.step isValid call, ran := none })
        h.distinct url state path
      refine ⟨h.distinct.of_urls hreported.urls, ?_⟩
      show Placed (onDownloadEnd counter { s with
        downloader := s.downloader.step isValid call, ran := none } url state path).downloader
      rw [hreported.downloader]
      exact hends.placed

/-- A result comes back only to what the downloader waits for. -/
theorem pre_of_result {call : DownloaderCall U} (h : s.Pre (.result call)) :
    call.comesBack = true ∧ s.downloader.Pre call := by
  cases call with
  | replied success size => exact ⟨rfl, h.2⟩
  | _ => exact h

theorem step_settled (h : Settled s) (call : ServiceCall U) (hpre : s.Pre call) :
    Settled (s.step isValid counter call) := by
  cases call with
  | addEntry entry =>
    exact processNewEntry_settled (s := { s with entries := s.entries ++ [entry] })
      ⟨h.distinct.append hpre.1, h.placed⟩ entry.url
  | moveEntry url isRead =>
    exact processNewEntry_settled (s := s.updateEntry url fun entry => { entry with isRead := isRead })
      ⟨h.distinct.updateEntry fun _ => rfl, h.placed⟩ url
  | removeEntry url =>
    exact ⟨Keyed.Unique.remove h.distinct url, h.placed.queue _⟩
  | downloadEntry url offline wifi =>
    exact downloadEntry_settled counter (s := { s with delayed := s.delayed.erase url })
      ⟨h.distinct, h.placed⟩ url offline wifi
  | connectionChanged type => exact h.of_grows (onConnectionChanged_grows s type)
  | cleanUpFiles => exact ⟨h.distinct, h.placed⟩
  | downloadUnprocessedEntries =>
    have hcleared : Settled { s with unprocessedEntries := [] } := ⟨h.distinct, h.placed⟩
    exact hcleared.of_grows (foldl_scheduleDownloadEntry_grows _ _)
  | backgroundRan success size directoryCreated =>
    unfold DownloadService.step
    cases s.downloader.posted with
    | nil => exact h
    | cons operation rest => exact ⟨h.distinct, h.placed⟩
  | result call =>
    obtain ⟨hback, hpre⟩ := pre_of_result hpre
    exact result_settled isValid counter h hback hpre

/-- **One step keeps every entry tended exactly if it meets the condition.** -/
theorem step_tended_iff (hs : Settled s) (h : s.AllTended) (call : ServiceCall U)
    (hpre : s.Pre call) :
    (s.step isValid counter call).AllTended ↔ s.StaysTended call := by
  cases call with
  | addEntry entry =>
    exact iff_of_true (allTended_addEntry hs.distinct h hpre.1 hpre.2.1) trivial
  | moveEntry url isRead => exact allTended_moveEntry_iff isValid counter hs.distinct h isRead hpre
  | removeEntry url => exact iff_of_true (allTended_removeEntry hs.placed h url) trivial
  | downloadEntry url offline wifi =>
    exact allTended_downloadEntry_iff isValid counter hs.distinct hs.placed h url offline wifi
  | connectionChanged type =>
    exact iff_of_true ((onConnectionChanged_grows s type).allTended h) trivial
  | cleanUpFiles => exact iff_of_true h trivial
  | downloadUnprocessedEntries =>
    exact allTended_downloadUnprocessedEntries_iff isValid counter hs.distinct h
  | backgroundRan success size directoryCreated =>
    refine iff_of_true ?_ trivial
    unfold DownloadService.step
    cases s.downloader.posted with
    | nil => exact h
    | cons operation rest => exact h
  | result call =>
    obtain ⟨hback, hpre⟩ := pre_of_result hpre
    exact allTended_result_iff isValid counter hs.distinct hs.placed h hback hpre

/-- The service when the model has loaded with these entries. -/
def start (entries : List (ReadingListEntry U)) (disk : List U) (hadConnection : Bool)
    (emptyUrl : U) (savedSize : Nat) : DownloadService U :=
  syncWithModel
    { entries := entries, downloader := .start emptyUrl savedSize, urlToDownloadCellular := []
      urlToDownloadWifi := [], hadConnection := hadConnection, delayed := []
      processedDirectories := none, unprocessedEntries := [], disk := disk, ran := none }

def machine (isValid : U → Bool) (counter : FailureCounter U) :
    Machine (DownloadService U) (ServiceCall U) where
  init s := ∃ entries disk hadConnection emptyUrl savedSize,
    Keyed.Unique ReadingListEntry.url entries ∧
      s = start entries disk hadConnection emptyUrl savedSize
  pre := Pre
  step := step isValid counter

instance (s : DownloadService U) : ∀ call, Decidable (s.Pre call)
  | .addEntry _ => inferInstanceAs (Decidable (_ ∧ _ ∧ _))
  | .moveEntry .. | .removeEntry _ => inferInstanceAs (Decidable (_ ≠ _))
  | .downloadEntry .. => inferInstanceAs (Decidable (_ ∈ _))
  | .connectionChanged _ => inferInstanceAs (Decidable True)
  | .cleanUpFiles => inferInstanceAs (Decidable (_ ≠ _))
  | .downloadUnprocessedEntries => inferInstanceAs (Decidable (_ = _))
  | .backgroundRan success _ directoryCreated =>
    inferInstanceAs (Decidable (_ ∧ _ ∧ ∀ operation ∈ s.downloader.posted.head?,
      CanReturn s.disk success directoryCreated operation))
  | .result (.replied ..) => inferInstanceAs (Decidable (_ ∧ URLDownloader.Pre ..))
  | .result (.downloadOfflineURL _) | .result (.removeOfflineURL _)
  | .result (.cancelDownloadOfflineURL _) | .result .cancelTask | .result (.redirectedTo _)
  | .result (.hasMimeType _) | .result (.distilled ..) | .result (.urlLoadComplete ..) =>
    inferInstanceAs (Decidable (_ ∧ URLDownloader.Pre ..))

instance (isValid : U → Bool) (counter : FailureCounter U) (s : DownloadService U)
    (call : ServiceCall U) : Decidable ((machine isValid counter).pre s call) :=
  inferInstanceAs (Decidable (s.Pre call))

omit [DecidableEq U] in
theorem start_settled {entries : List (ReadingListEntry U)}
    (h : Keyed.Unique ReadingListEntry.url entries) (disk : List U) (hadConnection : Bool)
    (emptyUrl : U) (savedSize : Nat) :
    Settled (start entries disk hadConnection emptyUrl savedSize) :=
  ⟨h, ⟨fun _ => ⟨rfl, rfl, rfl, rfl⟩, fun hbusy => by cases hbusy⟩⟩

omit [DecidableEq U] in
/-- When the model has loaded, the service will come to every entry that wants
its offline version. -/
theorem start_allTended (entries : List (ReadingListEntry U)) (disk : List U)
    (hadConnection : Bool) (emptyUrl : U) (savedSize : Nat) :
    (start entries disk hadConnection emptyUrl savedSize).AllTended := by
  intro entry he hawaits
  refine .inl (.inr (.inl (List.mem_map_of_mem (List.mem_filter.2 ⟨he, ?_⟩))))
  rw [hawaits.unsettled]
  rfl

/-- **Every entry stays tended in a run exactly if each of its steps meets the
condition**, and the waiting lists are always gone through. -/
theorem entries_tended_iff (isValid : U → Bool) (counter : FailureCounter U)
    {s₀ : DownloadService U} {calls : List (ServiceCall U)}
    (hinit : (machine isValid counter).init s₀) (hrun : (machine isValid counter).Run s₀ calls) :
    ((machine isValid counter).Always (fun s call => (s.step isValid counter call).AllTended)
      s₀ calls ↔ (machine isValid counter).Always StaysTended s₀ calls) ∧
    (machine isValid counter).Always ReplaysLists s₀ calls := by
  obtain ⟨entries, disk, hadConnection, emptyUrl, savedSize, hunique, rfl⟩ := hinit
  have hsettled := start_settled hunique disk hadConnection emptyUrl savedSize
  refine ⟨?_, Machine.always_of_invariant (I := Settled)
    (fun s call h hpre => step_settled isValid counter h call hpre)
    (fun s call h _ => replaysLists h.distinct call) hsettled hrun⟩
  exact Machine.always_iff_of_invariant (I := fun s => Settled s ∧ s.AllTended)
    (fun s call h hpre => step_tended_iff isValid counter h.1 h.2 call hpre)
    (fun s call h hpre htended => ⟨step_settled isValid counter h.1 call hpre, htended⟩)
    ⟨hsettled, start_allTended entries disk hadConnection emptyUrl savedSize⟩ hrun

end

/-- An entry is added without a connection, downloaded once there is one, and
removed. -/
private def cameOnline : List (ServiceCall Nat) :=
  [.cleanUpFiles, .downloadUnprocessedEntries, .addEntry ⟨1, false, .waiting, 0⟩,
    .downloadEntry 1 true false, .connectionChanged .connectionWifi, .downloadEntry 1 false true,
    .backgroundRan false 0 false, .result (.replied false 0), .result (.distilled "page" "title"),
    .backgroundRan true 10 true, .result (.replied true 10), .downloadEntry 1 false true,
    .removeEntry 1]

/-- Validity for the runs below: 0 is the empty URL. -/
private def isNonzero (url : Nat) : Bool := url ≠ 0

theorem entries_tended_iff_cameOnline :
    ((machine isNonzero (countFailures Nat)).Always
      (fun s call => (s.step isNonzero (countFailures Nat) call).AllTended)
      (start [] [] false 0 0) cameOnline ↔
    (machine isNonzero (countFailures Nat)).Always StaysTended (start [] [] false 0 0) cameOnline) ∧
    (machine isNonzero (countFailures Nat)).Always ReplaysLists (start [] [] false 0 0)
      cameOnline :=
  entries_tended_iff isNonzero (countFailures Nat) ⟨[], [], false, 0, 0, List.nodup_nil, rfl⟩
    (by decide +kernel)

/-- An entry is marked read while its download is queued behind another. -/
private def markedRead : List (ServiceCall Nat) :=
  [.addEntry ⟨1, false, .waiting, 0⟩, .addEntry ⟨2, false, .waiting, 0⟩,
    .downloadEntry 1 false true, .downloadEntry 2 false true, .moveEntry 2 true]

/-- **An entry marked read is left in `PROCESSING`** with nothing outstanding:
its download is cancelled, and its state is not set back. -/
theorem markedRead_forgotten :
    (machine isNonzero (countFailures Nat)).init (start [] [] true 0 0) ∧
    (machine isNonzero (countFailures Nat)).Run (start [] [] true 0 0) markedRead ∧
    ((machine isNonzero (countFailures Nat)).exec (start [] [] true 0 0) markedRead).entries =
      [⟨1, false, .processing, 0⟩, ⟨2, true, .processing, 0⟩] ∧
    ¬ ((machine isNonzero (countFailures Nat)).exec (start [] [] true 0 0) markedRead).AllTended :=
  ⟨⟨[], [], true, 0, 0, List.nodup_nil, rfl⟩, by decide +kernel, by decide +kernel,
    by decide +kernel⟩

end DownloadService

end IosChrome.ReadingList

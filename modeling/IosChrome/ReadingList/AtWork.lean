import IosChrome.ReadingList.URLDownloader

/-!
# The task the downloader is at

Whatever its members hold, the downloader is either free, with an empty queue
and nothing awaited, or at work on the task it took last, waiting for exactly
one result (`Placed`). A result ends that task, with the callback
`completionOf` reads off what was awaited, or it does not, and the task stays
the one at work. `CancelTask` is left out: it has no caller.
-/

namespace IosChrome.ReadingList

variable {U : Type}

/-- The results the downloader waits for. -/
structure Waits (d : URLDownloader U) (posted : List (Posted U)) (distilling loading : Option U) :
    Prop where
  posted : d.posted = posted
  distilling : d.distilling = distilling
  loading : d.loading = loading

/-- What the downloader waits for while `task` is at work. -/
inductive AtWork (d : URLDownloader U) : Task U → Prop where
  | deleting (url : U) (hwaits : Waits d [.deletePath url] none none) : AtWork d ⟨.delete, url⟩
  | checking (url : U) (hwaits : Waits d [.pathExists url] none none) : AtWork d ⟨.download, url⟩
  | distilling (url : U) (horiginal : d.originalUrl = url) (hwaits : Waits d [] (some url) none) :
    AtWork d ⟨.download, url⟩
  | loading (url pdfUrl : U) (horiginal : d.originalUrl = url)
      (hwaits : Waits d [] none (some pdfUrl)) : AtWork d ⟨.download, url⟩
  | savingPDF (url pdfUrl : U) (hwaits : Waits d [.savePDF pdfUrl ⟨url, .pdf⟩] none none) :
    AtWork d ⟨.download, url⟩
  | savingHTML (url : U) (title : String) (hwaits : Waits d [.saveHTML url title] none none) :
    AtWork d ⟨.download, url⟩
  | cleaning (url reported : U) (title : String) (path : Option (OfflinePage U))
      (hwaits : Waits d [.cleanUp reported title path] none none) : AtWork d ⟨.download, url⟩

structure Placed (d : URLDownloader U) : Prop where
  free : d.working = false → d.tasks = [] ∧ Waits d [] none none
  busy : d.working = true → ∃ task, d.begun.getLast? = some task ∧ AtWork d task

namespace URLDownloader

/-- The task at work. -/
def current (d : URLDownloader U) : Option (Task U) :=
  if d.working then d.begun.getLast? else none

/-- A download of `url` is queued or at work. -/
def Has (d : URLDownloader U) (url : U) : Prop :=
  ⟨.download, url⟩ ∈ d.tasks ∨ d.current = some ⟨.download, url⟩

instance [DecidableEq U] (d : URLDownloader U) (url : U) : Decidable (d.Has url) :=
  inferInstanceAs (Decidable (_ ∨ _))

variable {d : URLDownloader U}

theorem current_free (h : d.working = false) : d.current = none := by
  unfold current
  rw [h]
  rfl

theorem current_busy (h : d.working = true) :
    d.current = d.begun.getLast? := by
  unfold current
  rw [h]
  rfl

end URLDownloader

theorem AtWork.congr {d e : URLDownloader U} {task : Task U} (h : AtWork d task)
    (hposted : e.posted = d.posted) (hdistilling : e.distilling = d.distilling)
    (hloading : e.loading = d.loading) (horiginal : e.originalUrl = d.originalUrl) :
    AtWork e task := by
  have waits : ∀ {posted distilling loading}, Waits d posted distilling loading →
      Waits e posted distilling loading :=
    fun hw => ⟨hposted.trans hw.posted, hdistilling.trans hw.distilling,
      hloading.trans hw.loading⟩
  cases h with
  | deleting url hwaits => exact .deleting url (waits hwaits)
  | checking url hwaits => exact .checking url (waits hwaits)
  | distilling url hurl hwaits => exact .distilling url (horiginal.trans hurl) (waits hwaits)
  | loading url pdfUrl hurl hwaits =>
    exact .loading url pdfUrl (horiginal.trans hurl) (waits hwaits)
  | savingPDF url pdfUrl hwaits => exact .savingPDF url pdfUrl (waits hwaits)
  | savingHTML url title hwaits => exact .savingHTML url title (waits hwaits)
  | cleaning url reported title path hwaits =>
    exact .cleaning url reported title path (waits hwaits)

variable {d : URLDownloader U}

theorem Placed.current_eq (h : Placed d) {task : Task U} (hcurrent : d.current = some task) :
    d.working = true ∧ AtWork d task := by
  cases hworking : d.working with
  | false =>
    rw [URLDownloader.current_free hworking] at hcurrent
    cases hcurrent
  | true =>
    obtain ⟨last, hlast, hwork⟩ := h.busy hworking
    rw [URLDownloader.current_busy hworking, hlast] at hcurrent
    exact ⟨rfl, Option.some.inj hcurrent ▸ hwork⟩

/-! ## Taking the next task -/

/-- A downloader free to take a task takes the front one. -/
theorem placed_handleNextTask (hworking : d.working = false) (hwaits : Waits d [] none none) :
    Placed d.handleNextTask ∧
      d.handleNextTask.current = d.tasks.head? ∧ d.handleNextTask.tasks = d.tasks.tail ∧
      d.handleNextTask.posted = d.tasks.head?.toList.map Task.operation := by
  cases htasks : d.tasks with
  | nil =>
    rw [URLDownloader.handleNextTask_nil htasks]
    refine ⟨⟨fun _ => ⟨htasks, hwaits⟩, ?_⟩, URLDownloader.current_free hworking, htasks,
      hwaits.posted⟩
    intro hbusy
    rw [hworking] at hbusy
    cases hbusy
  | cons task rest =>
    rw [URLDownloader.handleNextTask_cons hworking htasks]
    have hlast : (d.begun ++ [task]).getLast? = some task := List.getLast?_concat
    have hposted : d.posted ++ [task.operation] = [task.operation] := by
      rw [hwaits.posted]
      rfl
    refine ⟨⟨fun hfree => (by cases hfree), fun _ => ⟨task, hlast, ?_⟩⟩, hlast, rfl, hposted⟩
    obtain ⟨type, url⟩ := task
    cases type with
    | delete => exact .deleting url ⟨hposted, hwaits.distilling, hwaits.loading⟩
    | download => exact .checking url ⟨hposted, hwaits.distilling, hwaits.loading⟩

namespace URLDownloader

/-- The queue changes, and a free downloader takes from it. -/
def queue (d : URLDownloader U) (tasks : List (Task U)) : URLDownloader U :=
  handleNextTask { d with tasks := tasks }

theorem queue_busy (h : d.working = true) (tasks : List (Task U)) :
    d.queue tasks = { d with tasks := tasks } :=
  handleNextTask_working (d := { d with tasks := tasks }) h

end URLDownloader

theorem Placed.queue (h : Placed d) (tasks : List (Task U)) :
    Placed (d.queue tasks) := by
  cases hworking : d.working with
  | false =>
    obtain ⟨_, hwaits⟩ := h.free hworking
    exact (placed_handleNextTask (d := { d with tasks := tasks }) hworking
      ⟨hwaits.posted, hwaits.distilling, hwaits.loading⟩).1
  | true =>
    rw [URLDownloader.queue_busy hworking]
    refine ⟨fun hfree => ?_, fun _ => ?_⟩
    · have hnot : d.working = false := hfree
      rw [hworking] at hnot
      cases hnot
    · obtain ⟨task, hlast, hwork⟩ := h.busy hworking
      exact ⟨task, hlast, hwork.congr rfl rfl rfl rfl⟩

/-- The task at work stays at work, and a download in the new queue is queued or
at work. -/
theorem Placed.queue_has (h : Placed d) (tasks : List (Task U)) (url : U) :
    (d.queue tasks).Has url ↔
      ⟨.download, url⟩ ∈ tasks ∨ d.current = some ⟨.download, url⟩ := by
  cases hworking : d.working with
  | false =>
    obtain ⟨_, hwaits⟩ := h.free hworking
    obtain ⟨_, hcurrent, htasks, _⟩ := placed_handleNextTask (d := { d with tasks := tasks }) hworking
      ⟨hwaits.posted, hwaits.distilling, hwaits.loading⟩
    unfold URLDownloader.Has URLDownloader.queue
    rw [hcurrent, htasks, URLDownloader.current_free hworking]
    cases tasks with
    | nil => simp
    | cons task rest => simp [or_comm, eq_comm]
  | true =>
    rw [URLDownloader.queue_busy hworking]
    exact Iff.rfl

section

variable [DecidableEq U]

theorem downloadOfflineURL_eq (h : Placed d) (url : U) :
    d.downloadOfflineURL url = d.queue (if ⟨.download, url⟩ ∈ d.tasks then d.tasks
      else d.tasks ++ [⟨.download, url⟩]) := by
  unfold URLDownloader.downloadOfflineURL
  by_cases hmem : (⟨.download, url⟩ : Task U) ∈ d.tasks
  · rw [if_pos hmem, if_pos hmem]
    have hworking : d.working = true := by
      by_contra hfree
      rw [(h.free (Bool.not_eq_true _ ▸ hfree)).1] at hmem
      cases hmem
    exact (URLDownloader.queue_busy hworking d.tasks).symm
  · rw [if_neg hmem, if_neg hmem]
    rfl

theorem removeOfflineURL_eq (d : URLDownloader U) (url : U) : d.removeOfflineURL url =
    d.queue (d.tasks.filter (· ≠ ⟨.download, url⟩) ++ [⟨.delete, url⟩]) := rfl

theorem cancelDownloadOfflineURL_eq (h : Placed d) (url : U) :
    d.cancelDownloadOfflineURL url = d.queue (d.tasks.filter (· ≠ ⟨.download, url⟩)) := by
  cases hworking : d.working with
  | true => exact (URLDownloader.queue_busy hworking _).symm
  | false =>
    have htasks : d.tasks.filter (· ≠ ⟨.download, url⟩) = [] := by
      rw [(h.free hworking).1]
      rfl
    exact (URLDownloader.handleNextTask_nil htasks).symm

end

/-! ## The results -/

namespace DownloaderCall

/-- Not a call of the owner. -/
def comesBack : DownloaderCall U → Bool
  | .replied _ _ | .redirectedTo _ | .hasMimeType _ | .distilled _ _ | .urlLoadComplete _ _ => true
  | _ => false

end DownloaderCall

namespace URLDownloader

/-- The callback a reply leads to at once. -/
def completionOfReply (d : URLDownloader U) (success : Bool) (size : Nat) :
    Posted U → Option (Completion U)
  | .deletePath url => some (.delete url success)
  | .pathExists url =>
    if success then some (.download url d.distilledUrl .downloadExists none d.savedSize "") else none
  | .savePDF pdfUrl page =>
    if success then
      some (.download pdfUrl d.distilledUrl .downloadSuccess (some page) (d.savedSize + size) "")
    else none
  | .saveHTML pageUrl title =>
    if success then
      some (.download pageUrl d.distilledUrl .downloadSuccess (some ⟨pageUrl, .html⟩)
        (d.savedSize + size) title)
    else none
  | .cleanUp url title path =>
    some (.download url d.distilledUrl .error path d.savedSize title)

def completionOf (d : URLDownloader U) : DownloaderCall U → Option (Completion U)
  | .replied success size => d.posted.head?.bind (d.completionOfReply success size)
  | _ => none

end URLDownloader

/-- Whether the task ends when the operation replies. -/
def Posted.endsTask (success : Bool) : Posted U → Bool
  | .pathExists _ | .savePDF _ _ | .saveHTML _ _ => success
  | .deletePath _ | .cleanUp _ _ _ => true

/-- The URL the callback at the end is called with. -/
def Posted.reportedURL : Posted U → U
  | .pathExists url | .deletePath url | .cleanUp url _ _ => url
  | .savePDF pdfUrl _ => pdfUrl
  | .saveHTML pageUrl _ => pageUrl

/-- The task goes on. -/
structure GoesOn (d d' : URLDownloader U) : Prop where
  completions : d'.completions = d.completions
  tasks : d'.tasks = d.tasks
  begun : d'.begun = d.begun
  working : d'.working = d.working
  /-- After the check, a clean up is of the task's own URL or that of its PDF. -/
  checked : d'.posted.head? ≠ d'.current.map Task.operation
  cleanUp : ∀ reported title path, d'.posted = [.cleanUp reported title path] →
    d'.current = some ⟨.download, reported⟩ ∨ ∃ page, d.posted = [.savePDF reported page]
  placed : Placed d'

/-- The task ends with a callback, and the next one is taken. -/
structure Ends (d d' : URLDownloader U) (completion : Completion U) : Prop where
  completions : d'.completions = d.completions ++ [completion]
  tasks : d'.tasks = d.tasks.tail
  current : d'.current = d.tasks.head?
  posted : d'.posted = d'.current.toList.map Task.operation
  placed : Placed d'

theorem GoesOn.current_eq {d d' : URLDownloader U} (h : GoesOn d d') :
    d'.current = d.current := by
  unfold URLDownloader.current
  rw [h.begun, h.working]

/-- The operation behind a callback. -/
theorem completionOf_eq_some {call : DownloaderCall U} {completion : Completion U}
    (h : d.completionOf call = some completion) :
    ∃ success size operation, call = .replied success size ∧ d.posted.head? = some operation ∧
      operation.endsTask success = true ∧
      d.completionOfReply success size operation = some completion := by
  cases call with
  | replied success size =>
    obtain ⟨operation, hposted, hreply⟩ := Option.bind_eq_some_iff.1 h
    refine ⟨success, size, operation, rfl, hposted, ?_, hreply⟩
    cases operation with
    | deletePath url => rfl
    | cleanUp url title path => rfl
    | pathExists url =>
      cases success with
      | true => rfl
      | false => cases hreply
    | savePDF pdfUrl page =>
      cases success with
      | true => rfl
      | false => cases hreply
    | saveHTML pageUrl title =>
      cases success with
      | true => rfl
      | false => cases hreply
  | _ => cases h

theorem completionOf_eq_none {success : Bool} {size : Nat} {operation : Posted U}
    (h : d.completionOf (.replied success size) = none) (hposted : d.posted.head? = some operation)
    : operation.endsTask success = false := by
  have hreply : d.completionOfReply success size operation = none := by
    unfold URLDownloader.completionOf at h
    rw [hposted] at h
    exact h
  cases operation with
  | deletePath url => cases hreply
  | cleanUp url title path => cases hreply
  | pathExists url =>
    cases success with
    | true => cases hreply
    | false => rfl
  | savePDF pdfUrl page =>
    cases success with
    | true => cases hreply
    | false => rfl
  | saveHTML pageUrl title =>
    cases success with
    | true => cases hreply
    | false => rfl

theorem reportedURL_of_download {success : Bool} {size : Nat}
    {operation : Posted U} {url distilledUrl : U} {state : SuccessState}
    {path : Option (OfflinePage U)} {bytes : Nat} {title : String}
    (h : d.completionOfReply success size operation =
      some (.download url distilledUrl state path bytes title)) : operation.reportedURL = url := by
  cases operation with
  | deletePath _ => cases h
  | cleanUp _ _ _ =>
    cases h
    rfl
  | pathExists _ =>
    cases success with
    | true =>
      cases h
      rfl
    | false => cases h
  | savePDF _ _ =>
    cases success with
    | true =>
      cases h
      rfl
    | false => cases h
  | saveHTML _ _ =>
    cases success with
    | true =>
      cases h
      rfl
    | false => cases h

theorem deletePath_of_delete {success ok : Bool} {size : Nat} {operation : Posted U} {url : U}
    (h : d.completionOfReply success size operation = some (.delete url ok)) :
    operation = .deletePath url := by
  cases operation with
  | deletePath _ =>
    cases h
    rfl
  | cleanUp _ _ _ => cases h
  | pathExists _ => cases success <;> cases h
  | savePDF _ _ => cases success <;> cases h
  | saveHTML _ _ => cases success <;> cases h

/-- Only a deletion waits for its directory to be deleted. -/
theorem task_of_deletePath (h : Placed d) {url : U} {task : Task U}
    (hposted : d.posted.head? = some (.deletePath url)) (hcurrent : d.current = some task) :
    task = ⟨.delete, url⟩ := by
  cases (h.current_eq hcurrent).2 with
  | deleting other hwaits =>
    rw [hwaits.posted] at hposted
    cases hposted
    rfl
  | checking _ hwaits => rw [hwaits.posted] at hposted; cases hposted
  | distilling _ _ hwaits => rw [hwaits.posted] at hposted; cases hposted
  | loading _ _ _ hwaits => rw [hwaits.posted] at hposted; cases hposted
  | savingPDF _ _ hwaits => rw [hwaits.posted] at hposted; cases hposted
  | savingHTML _ _ hwaits => rw [hwaits.posted] at hposted; cases hposted
  | cleaning _ _ _ _ hwaits => rw [hwaits.posted] at hposted; cases hposted

/-- What is queued is queued or at work when the task has ended, and nothing
else is. -/
theorem Ends.has_iff {d d' : URLDownloader U} {completion : Completion U}
    (h : Ends d d' completion) (url : U) : d'.Has url ↔ ⟨.download, url⟩ ∈ d.tasks := by
  unfold URLDownloader.Has
  rw [h.tasks, h.current]
  cases d.tasks with
  | nil => simp
  | cons task rest => simp [or_comm, eq_comm]

theorem ends_of_handleNextTask {d e : URLDownloader U} {completion : Completion U}
    (hcompletions : e.completions = d.completions) (htasks : e.tasks = d.tasks)
    (hwaits : Waits e [] none none) :
    Ends d (e.runCompletion completion).handleNextTask completion := by
  obtain ⟨hplaced, hcurrent, htail, hposted⟩ := placed_handleNextTask
    (d := e.runCompletion completion) rfl ⟨hwaits.posted, hwaits.distilling, hwaits.loading⟩
  refine ⟨?_, ?_, ?_, by rw [hcurrent]; exact hposted, hplaced⟩
  · rw [URLDownloader.handleNextTask_completions]
    exact congrArg (· ++ [completion]) hcompletions
  · rw [htail]
    exact congrArg List.tail htasks
  · rw [hcurrent]
    exact congrArg List.head? htasks

/-- The task at work goes on, whatever it waits for next. -/
theorem goesOn_of_atWork {d d' : URLDownloader U} {url : U}
    (hlast : d.begun.getLast? = some ⟨.download, url⟩) (hworking : d.working = true)
    (hcompletions : d'.completions = d.completions) (htasks : d'.tasks = d.tasks)
    (hbegun : d'.begun = d.begun) (hworking' : d'.working = d.working)
    (hchecked : d'.posted.head? ≠ some (.pathExists url))
    (hcleanUp : ∀ reported title path, d'.posted = [.cleanUp reported title path] →
      reported = url ∨ ∃ page, d.posted = [.savePDF reported page])
    (hwork : AtWork d' ⟨.download, url⟩) : GoesOn d d' := by
  have hlast' : d'.begun.getLast? = some ⟨.download, url⟩ := by
    rw [hbegun]
    exact hlast
  have hcurrent : d'.current = some ⟨.download, url⟩ := by
    rw [URLDownloader.current_busy (hworking'.trans hworking)]
    exact hlast'
  refine ⟨hcompletions, htasks, hbegun, hworking', ?_, ?_, ⟨?_, fun _ => ⟨_, hlast', hwork⟩⟩⟩
  · rw [hcurrent]
    exact hchecked
  · intro reported title path hposted
    rcases hcleanUp reported title path hposted with rfl | hpdf
    · exact .inl hcurrent
    · exact .inr hpdf
  · intro hfree
    rw [hworking', hworking] at hfree
    cases hfree

/-- What a result does. -/
def Result (d d' : URLDownloader U) (completion : Option (Completion U)) : Prop :=
  completion = none ∧ GoesOn d d' ∨ ∃ c, completion = some c ∧ Ends d d' c

section

variable [DecidableEq U] (isValid : U → Bool)

theorem AtWork.replied {task : Task U} (hwork : AtWork d task)
    (hlast : d.begun.getLast? = some task) (hworking : d.working = true) (hpre : d.posted ≠ [])
    (success : Bool) (size : Nat) :
    Result d (d.step isValid (.replied success size)) (d.completionOf (.replied success size)) := by
  have hstep : ∀ operation, d.posted = [operation] → d.step isValid (.replied success size) =
      URLDownloader.reply { d with posted := [] } success size operation := by
    intro operation hposted
    exact URLDownloader.step_replied isValid hposted success size
  have hcompletion : ∀ operation, d.posted = [operation] →
      d.completionOf (.replied success size) = d.completionOfReply success size operation := by
    intro operation hposted
    show d.posted.head?.bind _ = _
    rw [hposted]
    rfl
  cases hwork with
  | distilling url _ hwaits => exact absurd hwaits.posted hpre
  | loading url pdfUrl _ hwaits => exact absurd hwaits.posted hpre
  | deleting url hwaits =>
    rw [hstep _ hwaits.posted, hcompletion _ hwaits.posted]
    exact .inr ⟨_, rfl, ends_of_handleNextTask rfl rfl ⟨rfl, hwaits.distilling, hwaits.loading⟩⟩
  | cleaning url reported title path hwaits =>
    rw [hstep _ hwaits.posted, hcompletion _ hwaits.posted]
    exact .inr ⟨_, rfl, ends_of_handleNextTask rfl rfl ⟨rfl, rfl, hwaits.loading⟩⟩
  | checking url hwaits =>
    rw [hstep _ hwaits.posted, hcompletion _ hwaits.posted]
    cases success with
    | true =>
      exact .inr ⟨_, rfl, ends_of_handleNextTask rfl rfl ⟨rfl, rfl, hwaits.loading⟩⟩
    | false =>
      have hnone : ([] : List (Posted U)).head? ≠ some (.pathExists url) := fun he => by cases he
      have hnever : ∀ reported title path, ([] : List (Posted U)) = [.cleanUp reported title path] →
          reported = url ∨ ∃ page, d.posted = [.savePDF reported page] :=
        fun _ _ _ he => by cases he
      exact .inl ⟨rfl, goesOn_of_atWork hlast hworking rfl rfl rfl rfl hnone hnever
        (.distilling url rfl ⟨rfl, rfl, hwaits.loading⟩)⟩
  | savingPDF url pdfUrl hwaits =>
    rw [hstep _ hwaits.posted, hcompletion _ hwaits.posted]
    cases success with
    | true =>
      exact .inr ⟨_, rfl, ends_of_handleNextTask
        (e := { d with posted := [], distilling := none, savedSize := d.savedSize + size })
        rfl rfl ⟨rfl, rfl, hwaits.loading⟩⟩
    | false =>
      have hchecked : [Posted.cleanUp pdfUrl "" (some ⟨url, .pdf⟩)].head? ≠
          some (.pathExists url) := fun he => by cases he
      have hcleanUp : ∀ reported title path, [Posted.cleanUp pdfUrl "" (some ⟨url, .pdf⟩)] =
          [.cleanUp reported title path] →
          reported = url ∨ ∃ page, d.posted = [.savePDF reported page] := by
        intro reported title path he
        obtain ⟨rfl, _, _⟩ := Posted.cleanUp.inj (List.head_eq_of_cons_eq he)
        exact .inr ⟨_, hwaits.posted⟩
      exact .inl ⟨rfl, goesOn_of_atWork hlast hworking rfl rfl rfl rfl hchecked hcleanUp
        (.cleaning url pdfUrl "" _ ⟨rfl, hwaits.distilling, hwaits.loading⟩)⟩
  | savingHTML url title hwaits =>
    rw [hstep _ hwaits.posted, hcompletion _ hwaits.posted]
    cases success with
    | true =>
      exact .inr ⟨_, rfl, ends_of_handleNextTask
        (e := { d with posted := [], distilling := none, savedSize := d.savedSize + size })
        rfl rfl ⟨rfl, rfl, hwaits.loading⟩⟩
    | false =>
      have hchecked : [Posted.cleanUp url title (some ⟨url, .html⟩)].head? ≠
          some (.pathExists url) := fun he => by cases he
      have hcleanUp : ∀ reported title' path, [Posted.cleanUp url title (some ⟨url, .html⟩)] =
          [.cleanUp reported title' path] →
          reported = url ∨ ∃ page, d.posted = [.savePDF reported page] := by
        intro reported title' path he
        exact .inl (Posted.cleanUp.inj (List.head_eq_of_cons_eq he)).1.symm
      exact .inl ⟨rfl, goesOn_of_atWork hlast hworking rfl rfl rfl rfl hchecked hcleanUp
        (.cleaning url url title _ ⟨rfl, hwaits.distilling, hwaits.loading⟩)⟩

omit [DecidableEq U] in
/-- The page at work, where one is distilled. -/
theorem Placed.distilling (h : Placed d) (hpre : d.distilling ≠ none) :
    ∃ url, d.begun.getLast? = some ⟨.download, url⟩ ∧ d.working = true ∧ d.originalUrl = url ∧
      Waits d [] (some url) none := by
  cases hworking : d.working with
  | false => exact absurd (h.free hworking).2.distilling hpre
  | true =>
    obtain ⟨task, hlast, hwork⟩ := h.busy hworking
    cases hwork with
    | distilling url horiginal hwaits => exact ⟨url, hlast, rfl, horiginal, hwaits⟩
    | deleting _ hwaits => exact absurd hwaits.distilling hpre
    | checking _ hwaits => exact absurd hwaits.distilling hpre
    | loading _ _ _ hwaits => exact absurd hwaits.distilling hpre
    | savingPDF _ _ hwaits => exact absurd hwaits.distilling hpre
    | savingHTML _ _ hwaits => exact absurd hwaits.distilling hpre
    | cleaning _ _ _ _ hwaits => exact absurd hwaits.distilling hpre

omit [DecidableEq U] in
/-- The PDF at work, where one is loaded. -/
theorem Placed.loading (h : Placed d) (hpre : d.loading ≠ none) :
    ∃ url pdfUrl, d.begun.getLast? = some ⟨.download, url⟩ ∧ d.working = true ∧
      d.originalUrl = url ∧ Waits d [] none (some pdfUrl) := by
  cases hworking : d.working with
  | false => exact absurd (h.free hworking).2.loading hpre
  | true =>
    obtain ⟨task, hlast, hwork⟩ := h.busy hworking
    cases hwork with
    | loading url pdfUrl horiginal hwaits => exact ⟨url, pdfUrl, hlast, rfl, horiginal, hwaits⟩
    | deleting _ hwaits => exact absurd hwaits.loading hpre
    | checking _ hwaits => exact absurd hwaits.loading hpre
    | distilling _ _ hwaits => exact absurd hwaits.loading hpre
    | savingPDF _ _ hwaits => exact absurd hwaits.loading hpre
    | savingHTML _ _ hwaits => exact absurd hwaits.loading hpre
    | cleaning _ _ _ _ hwaits => exact absurd hwaits.loading hpre

omit [DecidableEq U] in
/-- A task waits for one background operation on its own URL. -/
theorem goesOn_posted {d d' : URLDownloader U} {url : U} {operation : Posted U}
    (hlast : d.begun.getLast? = some ⟨.download, url⟩) (hworking : d.working = true)
    (hcompletions : d'.completions = d.completions) (htasks : d'.tasks = d.tasks)
    (hbegun : d'.begun = d.begun) (hworking' : d'.working = d.working)
    (hposted : d'.posted = [operation]) (hnot : operation ≠ .pathExists url)
    (hown : ∀ reported title path, operation = .cleanUp reported title path → reported = url)
    (hwork : AtWork d' ⟨.download, url⟩) : GoesOn d d' := by
  apply goesOn_of_atWork hlast hworking hcompletions htasks hbegun hworking' ?_ ?_ hwork
  · rw [hposted]
    intro he
    exact hnot (Option.some.inj he)
  · intro reported title path hcleanUp
    rw [hposted] at hcleanUp
    exact .inl (hown reported title path (List.head_eq_of_cons_eq hcleanUp))

omit [DecidableEq U] in
/-- A task waits for something that is not in the background. -/
theorem goesOn_elsewhere {d d' : URLDownloader U} {url : U}
    (hlast : d.begun.getLast? = some ⟨.download, url⟩) (hworking : d.working = true)
    (hcompletions : d'.completions = d.completions) (htasks : d'.tasks = d.tasks)
    (hbegun : d'.begun = d.begun) (hworking' : d'.working = d.working) (hposted : d'.posted = [])
    (hwork : AtWork d' ⟨.download, url⟩) : GoesOn d d' := by
  apply goesOn_of_atWork hlast hworking hcompletions htasks hbegun hworking' ?_ ?_ hwork
  · rw [hposted]
    intro he
    cases he
  · intro reported title path he
    rw [hposted] at he
    cases he

theorem Placed.distilled (h : Placed d) (html title : String) (hpre : d.distilling ≠ none) :
    GoesOn d (d.step isValid (.distilled html title)) := by
  obtain ⟨url, hlast, hworking, horiginal, hwaits⟩ := h.distilling hpre
  have hstep : d.step isValid (.distilled html title) =
      URLDownloader.distillerCallback isValid { d with distilling := none } url html title :=
    URLDownloader.step_distilled isValid hwaits.distilling html title
  rw [hstep]
  unfold URLDownloader.distillerCallback
  by_cases hempty : html = ""
  · rw [if_pos hempty]
    by_cases hpdf : d.mimeType = pdfMimeType
    · rw [if_pos hpdf]
      exact goesOn_elsewhere hlast hworking rfl rfl rfl rfl hwaits.posted
        (.loading url _ horiginal ⟨hwaits.posted, rfl, rfl⟩)
    · rw [if_neg hpdf]
      have hposted : d.posted ++ [Posted.cleanUp url "" none] = [.cleanUp url "" none] := by
        rw [hwaits.posted]
        rfl
      exact goesOn_posted hlast hworking rfl rfl rfl rfl hposted (fun he => by cases he)
        (fun _ _ _ he => (Posted.cleanUp.inj he).1.symm)
        (.cleaning url url "" none ⟨hposted, rfl, hwaits.loading⟩)
  · rw [if_neg hempty]
    have hposted : d.posted ++ [Posted.saveHTML url title] = [.saveHTML url title] := by
      rw [hwaits.posted]
      rfl
    exact goesOn_posted hlast hworking rfl rfl rfl rfl hposted (fun he => by cases he)
      (fun _ _ _ he => by cases he) (.savingHTML url title ⟨hposted, rfl, hwaits.loading⟩)

theorem Placed.urlLoadComplete (h : Placed d) (responsePathEmpty : Bool) (mimeType : String)
    (hpre : d.loading ≠ none) :
    GoesOn d (d.step isValid (.urlLoadComplete responsePathEmpty mimeType)) := by
  obtain ⟨url, pdfUrl, hlast, hworking, horiginal, hwaits⟩ := h.loading hpre
  have hstep : d.step isValid (.urlLoadComplete responsePathEmpty mimeType) =
      URLDownloader.onURLLoadComplete { d with loading := none } pdfUrl responsePathEmpty
        mimeType :=
    URLDownloader.step_urlLoadComplete isValid hwaits.loading responsePathEmpty mimeType
  rw [hstep]
  show GoesOn d (if responsePathEmpty = true ∨ mimeType ≠ d.mimeType then
    URLDownloader.post _ (.cleanUp d.originalUrl "" (some ⟨d.originalUrl, .pdf⟩))
    else URLDownloader.post _ (.savePDF pdfUrl ⟨d.originalUrl, .pdf⟩))
  rw [horiginal]
  by_cases hfails : responsePathEmpty = true ∨ mimeType ≠ d.mimeType
  · rw [if_pos hfails]
    have hposted : d.posted ++ [Posted.cleanUp url "" (some ⟨url, .pdf⟩)] =
        [.cleanUp url "" (some ⟨url, .pdf⟩)] := by
      rw [hwaits.posted]
      rfl
    exact goesOn_posted hlast hworking rfl rfl rfl rfl hposted (fun he => by cases he)
      (fun _ _ _ he => (Posted.cleanUp.inj he).1.symm)
      (.cleaning url url "" _ ⟨hposted, hwaits.distilling, rfl⟩)
  · rw [if_neg hfails]
    have hposted : d.posted ++ [Posted.savePDF pdfUrl ⟨url, .pdf⟩] =
        [.savePDF pdfUrl ⟨url, .pdf⟩] := by
      rw [hwaits.posted]
      rfl
    exact goesOn_posted hlast hworking rfl rfl rfl rfl hposted (fun he => by cases he)
      (fun _ _ _ he => by cases he) (.savingPDF url pdfUrl ⟨hposted, hwaits.distilling, rfl⟩)

/-- **Every result ends the task at work or leaves it at work.** -/
theorem Placed.result (h : Placed d) {call : DownloaderCall U} (hpre : d.Pre call)
    (hback : call.comesBack = true) :
    Result d (d.step isValid call) (d.completionOf call) := by
  cases call with
  | downloadOfflineURL _ => cases hback
  | removeOfflineURL _ => cases hback
  | cancelDownloadOfflineURL _ => cases hback
  | cancelTask => cases hback
  | replied success size =>
    cases hworking : d.working with
    | false => exact absurd (h.free hworking).2.posted hpre
    | true =>
      obtain ⟨task, hlast, hwork⟩ := h.busy hworking
      exact hwork.replied isValid hlast hworking hpre success size
  | redirectedTo redirectedUrl =>
    obtain ⟨url, hlast, hworking, horiginal, hwaits⟩ := h.distilling hpre
    exact .inl ⟨rfl, goesOn_elsewhere hlast hworking rfl rfl rfl rfl hwaits.posted
      (.distilling url horiginal ⟨hwaits.posted, hwaits.distilling, hwaits.loading⟩)⟩
  | hasMimeType mimeType =>
    obtain ⟨url, hlast, hworking, horiginal, hwaits⟩ := h.distilling hpre
    exact .inl ⟨rfl, goesOn_elsewhere hlast hworking rfl rfl rfl rfl hwaits.posted
      (.distilling url horiginal ⟨hwaits.posted, hwaits.distilling, hwaits.loading⟩)⟩
  | distilled html title => exact .inl ⟨rfl, h.distilled isValid html title hpre⟩
  | urlLoadComplete responsePathEmpty mimeType =>
    exact .inl ⟨rfl, h.urlLoadComplete isValid responsePathEmpty mimeType hpre⟩

end

end IosChrome.ReadingList

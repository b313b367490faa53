import IosChrome.Lib.Machine
import IosChrome.ReadingList.AtWork
import Mathlib.Algebra.GroupWithZero.Nat

/-!
# A download reports its own results

`Job` collects what the results of one task say and nothing else: the last
redirect its page reported, the bytes it has written, how it went. `Downloads`
runs the downloader next to the job of the task it has taken, so "the callback
is called with the results of that very download" is a statement about pairs of
a job and a callback (`Job.Reports`).

The queue is served in order whatever happens (`queueOrder`). The rest, one
task at a time, one callback for each, with its own results, and the next task
after it, holds in every run in which no step meets one of the places where a
member still holds what an earlier download left, or a URL stands for another
(`OwnResults`): `sound_of_ownResults`.

* A download that finds its directory already there reports the distilled URL
  and the size of the download before it.
* A page that is distilled to nothing is taken for a PDF when the page before
  it was one.
* A PDF behind a redirect is reported under the URL it was redirected to.
* `CancelTask` cancels the reply that would clear `working_`, so no task is
  handled after it, unless a PDF is being loaded, which goes on.
-/

namespace IosChrome.ReadingList

open IosChrome.Lib

/-! ## The results of one task -/

structure Job (U : Type) where
  task : Task U
  distilledUrl : U
  /-- The mime type its page reported, if it did. -/
  mimeType : Option String
  savedSize : Nat
  outcome : Option SuccessState
  deriving DecidableEq

variable {U : Type}

namespace Job

def begin (task : Task U) : Job U := ⟨task, task.url, none, 0, none⟩

/-- What has been decided stays. -/
def conclude (job : Job U) (outcome : SuccessState) : Job U :=
  { job with outcome := some (job.outcome.getD outcome) }

def save (job : Job U) (success : Bool) (size : Nat) : Job U :=
  conclude { job with savedSize := if success then job.savedSize + size else job.savedSize }
    (URLDownloader.saveState success)

def reply (job : Job U) (success : Bool) (size : Nat) : Posted U → Job U
  | .pathExists _ => if success then job.conclude .downloadExists else job
  | .savePDF _ _ | .saveHTML _ _ => job.save success size
  | .deletePath _ | .cleanUp _ _ _ => job

/-- What a call tells of the task. `d` says which background task replies. -/
def hear (d : URLDownloader U) (job : Job U) : DownloaderCall U → Job U
  | .replied success size =>
    match d.posted with
    | [] => job
    | operation :: _ => job.reply success size operation
  | .redirectedTo redirectedUrl => { job with distilledUrl := redirectedUrl }
  | .hasMimeType mimeType => { job with mimeType := some mimeType }
  | .distilled html _ =>
    -- nothing distilled, and not a PDF either
    if html = "" ∧ job.mimeType ≠ some pdfMimeType then job.conclude .error else job
  | .urlLoadComplete responsePathEmpty mimeType =>
    if responsePathEmpty ∨ mimeType ≠ pdfMimeType then job.conclude .error else job
  | .downloadOfflineURL _ | .removeOfflineURL _ | .cancelDownloadOfflineURL _ | .cancelTask => job

/-- The callback is the one of this task, with its results. -/
def Reports (job : Job U) : Completion U → Prop
  | .download url distilledUrl success _ size _ =>
    job.task = ⟨.download, url⟩ ∧ distilledUrl = job.distilledUrl ∧ size = job.savedSize ∧
      job.outcome = some success
  | .delete url _ => job.task = ⟨.delete, url⟩

end Job

/-! ## The downloader and the jobs of its tasks -/

structure Downloads (U : Type) where
  downloader : URLDownloader U
  /-- The task taken from the queue that has not ended. -/
  job : Option (Job U)
  /-- The tasks that have ended, with the callback run at their end. -/
  finished : List (Job U × Completion U)
  deriving DecidableEq

namespace URLDownloader

/-- How many results the downloader waits for. -/
def awaited (d : URLDownloader U) : Nat :=
  d.posted.length + d.distilling.toList.length + d.loading.toList.length

end URLDownloader

/-- How many results can still come of a background task, itself included. -/
def Posted.rank : Posted U → Nat
  | .deletePath _ | .cleanUp _ _ _ => 1
  | .savePDF _ _ | .saveHTML _ _ => 2
  | .pathExists _ => 5

def URLDownloader.rank (d : URLDownloader U) : Nat :=
  (d.posted.map Posted.rank).sum + 4 * d.distilling.toList.length + 3 * d.loading.toList.length

namespace DownloaderCall

def isResult : DownloaderCall U → Bool
  | .replied _ _ | .distilled _ _ | .urlLoadComplete _ _ => true
  | _ => false

/-- What a call does to the queue before any task is taken from it. -/
def queueAfter [DecidableEq U] (tasks : List (Task U)) : DownloaderCall U → List (Task U)
  | .downloadOfflineURL url =>
    if ⟨.download, url⟩ ∈ tasks then tasks else tasks ++ [⟨.download, url⟩]
  | .removeOfflineURL url => tasks.filter (· ≠ ⟨.download, url⟩) ++ [⟨.delete, url⟩]
  | .cancelDownloadOfflineURL url => tasks.filter (· ≠ ⟨.download, url⟩)
  | _ => tasks

end DownloaderCall

namespace Downloads

def start (emptyUrl : U) (savedSize : Nat) : Downloads U :=
  ⟨.start emptyUrl savedSize, none, []⟩

/-- The current job after a call, the end of the task aside. A task whose
background task or distiller is cancelled has no job any more. -/
def heard (s : Downloads U) : DownloaderCall U → Option (Job U)
  | .cancelTask =>
    if s.downloader.posted = [] ∧ s.downloader.distilling = none then s.job else none
  | call => s.job.map fun job => job.hear s.downloader call

section

variable [DecidableEq U] (isValid : U → Bool)

def step (s : Downloads U) (call : DownloaderCall U) : Downloads U :=
  let d := s.downloader.step isValid call
  let job := s.heard call
  let ended := d.completions.drop s.downloader.completions.length
  let begun := d.begun.drop s.downloader.begun.length
  { downloader := d
    job := (begun.getLast?.map Job.begin).or (if ended = [] then job else none)
    finished := s.finished ++ job.toList.zip ended }

def machine : Machine (Downloads U) (DownloaderCall U) :=
  ⟨fun s => ∃ emptyUrl savedSize, s = start emptyUrl savedSize,
    fun s call => s.downloader.Pre call, step isValid⟩

instance (s : Downloads U) (call : DownloaderCall U) :
    Decidable ((machine isValid).pre s call) :=
  inferInstanceAs (Decidable (s.downloader.Pre call))

/-- The queue after a call, behind the tasks taken before it, is the tasks
taken and the queue the call asks for: tasks are taken from the front. -/
def QueueOrder (s : Downloads U) (call : DownloaderCall U) : Prop :=
  (s.step isValid call).downloader.begun ++ (s.step isValid call).downloader.tasks =
    s.downloader.begun ++ call.queueAfter s.downloader.tasks

/-- A result ends the task or leaves fewer results to come. -/
def Progress (s : Downloads U) (call : DownloaderCall U) : Prop :=
  call.isResult → s.finished.length < (s.step isValid call).finished.length ∨
    (s.step isValid call).downloader.rank < s.downloader.rank

end

/-- One task at a time, each with one callback that reports its own results,
and none left in the queue while there is no task at work. -/
structure Sound (s : Downloads U) : Prop where
  inTurn : s.downloader.begun =
    s.finished.map (fun entry => entry.1.task) ++ s.job.toList.map Job.task
  once : s.downloader.completions = s.finished.map Prod.snd
  reports : ∀ entry ∈ s.finished, entry.1.Reports entry.2
  next : s.job = none → s.downloader.tasks = []
  awaits : s.job ≠ none → s.downloader.awaited = 1

/-- What succeeds in the background is this task's own: a directory that is
there finds the members as its download would leave them, and a PDF is saved for
a page that said it is one. -/
def NothingStale (s : Downloads U) : List (Posted U) → Prop
  | .pathExists url :: _ => s.downloader.distilledUrl = url ∧ s.downloader.savedSize = 0
  | .savePDF _ _ :: _ => s.job.bind Job.mimeType = some pdfMimeType
  | _ => True

instance [DecidableEq U] (s : Downloads U) (posted : List (Posted U)) :
    Decidable (NothingStale s posted) := by
  rcases posted with _ | ⟨_ | _ | _ | _ | _, rest⟩ <;> unfold NothingStale <;> infer_instance

/-- The steps at which no member speaks for another download, no URL for
another, and no reply is cancelled. -/
def OwnResults (s : Downloads U) : DownloaderCall U → Prop
  | .cancelTask => s.downloader.posted = [] ∧ s.downloader.distilling = none
  | .replied success _ => success = true → NothingStale s s.downloader.posted
  | .urlLoadComplete responsePathEmpty mimeType =>
    responsePathEmpty = false → mimeType = s.downloader.mimeType →
      s.downloader.loading = some s.downloader.originalUrl
  | _ => True

instance [DecidableEq U] (s : Downloads U) : ∀ call, Decidable (OwnResults s call)
  | .cancelTask => inferInstanceAs (Decidable (_ ∧ _))
  | .replied .. => inferInstanceAs (Decidable (_ → NothingStale ..))
  | .urlLoadComplete .. => inferInstanceAs (Decidable (_ → _ → _ = _))
  | .downloadOfflineURL _ | .removeOfflineURL _ | .cancelDownloadOfflineURL _ | .redirectedTo _
  | .hasMimeType _ | .distilled .. => inferInstanceAs (Decidable True)

end Downloads

/-! ## The queue -/

namespace URLDownloader

variable [DecidableEq U] (isValid : U → Bool) (d : URLDownloader U)

/-- What is taken and what is queued, one behind the other. -/
def line (d : URLDownloader U) : List (Task U) := d.begun ++ d.tasks

omit [DecidableEq U] in
theorem line_handleNextTask : d.handleNextTask.line = d.line := handleNextTask_queue d

omit [DecidableEq U] in
theorem line_downloadCompletionHandler (url : U) (title : String)
    (path : Option (OfflinePage U)) (success : SuccessState) :
    (d.downloadCompletionHandler url title path success).line = d.line := by
  unfold downloadCompletionHandler
  by_cases h : success = .error
  · rw [if_pos h]
    rfl
  · rw [if_neg h]
    exact line_handleNextTask _

omit [DecidableEq U] in
theorem line_reply (success : Bool) (size : Nat) (operation : Posted U) :
    (d.reply success size operation).line = d.line := by
  cases operation with
  | deletePath url => exact line_handleNextTask _
  | pathExists url =>
    cases success with
    | true => exact line_downloadCompletionHandler d url "" none .downloadExists
    | false => rfl
  | savePDF pdfUrl page => exact line_downloadCompletionHandler (d.saveFile success size) _ _ _ _
  | saveHTML pageUrl title => exact line_downloadCompletionHandler (d.saveFile success size) _ _ _ _
  | cleanUp url title path => exact line_handleNextTask _

omit [DecidableEq U] in
theorem line_distillerCallback (pageUrl : U) (html title : String) :
    (d.distillerCallback isValid pageUrl html title).line = d.line := by
  unfold distillerCallback
  by_cases hempty : html = ""
  · rw [if_pos hempty]
    by_cases hpdf : d.mimeType = pdfMimeType
    · rw [if_pos hpdf]
      rfl
    · rw [if_neg hpdf]
      exact line_downloadCompletionHandler d _ _ _ _
  · rw [if_neg hempty]
    rfl

omit [DecidableEq U] in
theorem line_onURLLoadComplete (pdfUrl : U) (responsePathEmpty : Bool) (mimeType : String) :
    (d.onURLLoadComplete pdfUrl responsePathEmpty mimeType).line = d.line := by
  show (if _ then _ else _ : URLDownloader U).line = _
  by_cases h : responsePathEmpty = true ∨ mimeType ≠ d.mimeType
  · rw [if_pos h]
    exact line_downloadCompletionHandler d _ _ _ _
  · rw [if_neg h]
    rfl

end URLDownloader

/-- **Tasks are taken in queue order**, whatever is called and whatever comes
back. -/
theorem Downloads.queueOrder [DecidableEq U] (isValid : U → Bool) (s : Downloads U)
    (call : DownloaderCall U) : s.QueueOrder isValid call := by
  show (s.downloader.step isValid call).line = _
  cases call with
  | downloadOfflineURL url =>
    show (URLDownloader.downloadOfflineURL _ _).line = _ ++ (if _ then _ else _)
    unfold URLDownloader.downloadOfflineURL
    by_cases h : (⟨.download, url⟩ : Task U) ∈ s.downloader.tasks
    · rw [if_pos h, if_pos h]
      rfl
    · rw [if_neg h, if_neg h]
      exact URLDownloader.line_handleNextTask _
  | removeOfflineURL url => exact URLDownloader.line_handleNextTask _
  | cancelDownloadOfflineURL url => rfl
  | cancelTask => rfl
  | replied success size =>
    unfold URLDownloader.step
    cases s.downloader.posted with
    | nil => rfl
    | cons operation rest => exact URLDownloader.line_reply _ success size operation
  | redirectedTo redirectedUrl => rfl
  | hasMimeType mimeType => rfl
  | distilled html title =>
    unfold URLDownloader.step
    cases s.downloader.distilling with
    | none => rfl
    | some pageUrl => exact URLDownloader.line_distillerCallback isValid _ pageUrl html title
  | urlLoadComplete responsePathEmpty mimeType =>
    unfold URLDownloader.step
    cases s.downloader.loading with
    | none => rfl
    | some pdfUrl => exact URLDownloader.line_onURLLoadComplete _ pdfUrl responsePathEmpty mimeType

/-! ## Where a task is -/

/-- The members hold the data of this job. -/
structure Owns (d : URLDownloader U) (job : Job U) (url : U) : Prop where
  task : job.task = ⟨.download, url⟩
  original : d.originalUrl = url
  distilled : d.distilledUrl = job.distilledUrl
  size : d.savedSize = job.savedSize
  mimeType : ∀ mimeType, job.mimeType = some mimeType → d.mimeType = mimeType

/-- A job that has come to its PDF: still open if its page said so, and else an
error already. -/
def Job.IsPDF (job : Job U) : Prop :=
  job.mimeType = some pdfMimeType ∧ job.outcome = none ∨
    job.mimeType ≠ some pdfMimeType ∧ job.outcome = some .error

variable {job : Job U}

theorem Job.conclude_open (h : job.outcome = none) (outcome : SuccessState) :
    (job.conclude outcome).outcome = some outcome := by
  show some (job.outcome.getD outcome) = _
  rw [h]
  rfl

theorem Job.IsPDF.conclude_error (h : job.IsPDF) :
    (job.conclude .error).outcome = some .error := by
  rcases h with ⟨_, hopen⟩ | ⟨_, herror⟩
  · exact Job.conclude_open hopen .error
  · show some (job.outcome.getD .error) = _
    rw [herror]
    rfl

theorem Job.IsPDF.outcome_none (h : job.IsPDF) (hmime : job.mimeType = some pdfMimeType) :
    job.outcome = none := by
  rcases h with ⟨_, hopen⟩ | ⟨hnot, _⟩
  · exact hopen
  · exact absurd hmime hnot

/-- The places a task can be in, and what it waits for there. -/
inductive Stage (d : URLDownloader U) (job : Job U) : Prop where
  | deleting (url : U) (htask : job.task = ⟨.delete, url⟩)
      (hwaits : Waits d [.deletePath url] none none)
  | checking (url : U) (hjob : job = Job.begin ⟨.download, url⟩)
      (hwaits : Waits d [.pathExists url] none none)
  | distilling (url : U) (hown : Owns d job url) (hopen : job.outcome = none)
      (hwaits : Waits d [] (some url) none)
  | loading (url pdfUrl : U) (hown : Owns d job url) (hpdf : job.IsPDF)
      (hmime : d.mimeType = pdfMimeType) (hwaits : Waits d [] none (some pdfUrl))
  | savingPDF (url : U) (hown : Owns d job url) (hpdf : job.IsPDF)
      (hwaits : Waits d [.savePDF url ⟨url, .pdf⟩] none none)
  | savingHTML (url : U) (title : String) (hown : Owns d job url) (hopen : job.outcome = none)
      (hwaits : Waits d [.saveHTML url title] none none)
  | cleaning (url : U) (title : String) (path : Option (OfflinePage U)) (hown : Owns d job url)
      (hfailed : job.outcome = some .error) (hwaits : Waits d [.cleanUp url title path] none none)

variable {d : URLDownloader U}

theorem Stage.awaited (h : Stage d job) : d.awaited = 1 := by
  unfold URLDownloader.awaited
  cases h <;> next hwaits => rw [hwaits.posted, hwaits.distilling, hwaits.loading]; rfl

namespace Downloads

/-- What holds after every step of a run whose steps all meet `OwnResults`. -/
structure Inv (s : Downloads U) : Prop where
  inTurn : s.downloader.begun =
    s.finished.map (fun entry => entry.1.task) ++ s.job.toList.map Job.task
  once : s.downloader.completions = s.finished.map Prod.snd
  reports : ∀ entry ∈ s.finished, entry.1.Reports entry.2
  idle : s.job = none → s.downloader.tasks = [] ∧ s.downloader.working = false ∧
    Waits s.downloader [] none none
  stage : ∀ job, s.job = some job → s.downloader.working = true ∧ Stage s.downloader job

theorem Inv.sound {s : Downloads U} (h : Inv s) : Sound s := by
  refine ⟨h.inTurn, h.once, h.reports, fun hjob => (h.idle hjob).1, ?_⟩
  intro hjob
  obtain ⟨job, hjob⟩ := Option.ne_none_iff_exists'.1 hjob
  exact (h.stage job hjob).2.awaited

theorem start_inv (emptyUrl : U) (savedSize : Nat) : Inv (start emptyUrl savedSize) := by
  refine ⟨rfl, rfl, ?_, fun _ => ⟨rfl, rfl, rfl, rfl, rfl⟩, ?_⟩
  · intro entry he
    cases he
  · intro job hjob
    cases hjob

/-! ## The two kinds of steps -/

/-- **The downloader is free to take a task.** It takes the front task, and
waits for that task's first result. -/
theorem inv_handleNextTask {finished : List (Job U × Completion U)} (hworking : d.working = false)
    (hwaits : Waits d [] none none) (hturn : d.begun = finished.map fun entry => entry.1.task)
    (honce : d.completions = finished.map Prod.snd)
    (hreports : ∀ entry ∈ finished, entry.1.Reports entry.2) :
    Inv ⟨d.handleNextTask, d.tasks.head?.map Job.begin, finished⟩ := by
  cases htasks : d.tasks with
  | nil =>
    rw [URLDownloader.handleNextTask_nil htasks]
    refine ⟨?_, honce, hreports, fun _ => ⟨htasks, hworking, hwaits⟩, ?_⟩
    · show d.begun = _ ++ []
      rw [List.append_nil, hturn]
    · intro job hjob
      cases hjob
  | cons task rest =>
    rw [URLDownloader.handleNextTask_cons hworking htasks]
    refine ⟨?_, honce, hreports, ?_, ?_⟩
    · show d.begun ++ [task] = _ ++ [task]
      rw [hturn]
    · intro hjob
      cases hjob
    · intro job hjob
      obtain rfl : Job.begin task = job := Option.some.inj hjob
      refine ⟨rfl, ?_⟩
      have hposted : d.posted ++ [task.operation] = [task.operation] := by
        rw [hwaits.posted, List.nil_append]
      obtain ⟨type, url⟩ := task
      cases type with
      | delete => exact .deleting url rfl ⟨hposted, hwaits.distilling, hwaits.loading⟩
      | download => exact .checking url rfl ⟨hposted, hwaits.distilling, hwaits.loading⟩

section

variable [DecidableEq U] (isValid : U → Bool) {s : Downloads U} {call : DownloaderCall U}

/-- A step that neither ends a task nor takes one. -/
theorem step_within (hd : s.downloader.step isValid call = d)
    (hbegun : d.begun = s.downloader.begun)
    (hcompletions : d.completions = s.downloader.completions) :
    s.step isValid call = ⟨d, s.heard call, s.finished⟩ := by
  show Downloads.mk _ _ _ = _
  simp only [hd, hbegun, hcompletions, List.drop_length, List.getLast?_nil, Option.map_none,
    Option.none_or, if_true, List.zip_nil_right, List.append_nil]

/-- A step after which the downloader looks for its next task. -/
theorem step_next {ended : List (Completion U)}
    (hd : s.downloader.step isValid call = d.handleNextTask) (hworking : d.working = false)
    (hbegun : d.begun = s.downloader.begun)
    (hcompletions : d.completions = s.downloader.completions ++ ended)
    (hheard : ended = [] → s.heard call = none) :
    s.step isValid call = ⟨d.handleNextTask, d.tasks.head?.map Job.begin,
      s.finished ++ (s.heard call).toList.zip ended⟩ := by
  have hended : d.handleNextTask.completions.drop s.downloader.completions.length = ended := by
    rw [URLDownloader.handleNextTask_completions, hcompletions, List.drop_left]
  have hjob : (if ended = [] then s.heard call else none) = none := by
    by_cases h : ended = []
    · rw [if_pos h, hheard h]
    · rw [if_neg h]
  show Downloads.mk _ _ _ = _
  simp only [hd, hended, hjob, Option.or_none]
  cases htasks : d.tasks with
  | nil =>
    rw [URLDownloader.handleNextTask_nil htasks, hbegun, List.drop_length]
    rfl
  | cons task rest =>
    rw [URLDownloader.handleNextTask_cons hworking htasks]
    simp only [hbegun, List.drop_left]
    rfl

/-- What is shown of each step. -/
structure Kept (s : Downloads U) (call : DownloaderCall U) : Prop where
  inv : Inv (s.step isValid call)
  progress : s.Progress isValid call

/-- **A task goes on**: its job hears the call and it is at its next place. -/
theorem kept_within (h : Inv s) {job heard : Job U} (hjob : s.job = some job)
    (hd : s.downloader.step isValid call = d) (hbegun : d.begun = s.downloader.begun)
    (hcompletions : d.completions = s.downloader.completions) (hworking : d.working = true)
    (hheard : s.heard call = some heard) (htask : heard.task = job.task) (hstage : Stage d heard)
    (hrank : call.isResult = true → d.rank < s.downloader.rank) : s.Kept isValid call := by
  have hstep := step_within isValid hd hbegun hcompletions
  constructor
  · rw [hstep, hheard]
    refine ⟨?_, ?_, h.reports, ?_, ?_⟩
    · show d.begun = _ ++ [heard.task]
      rw [hbegun, h.inTurn, hjob, htask]
      rfl
    · exact hcompletions.trans h.once
    · intro hnone
      cases hnone
    · intro other hother
      obtain rfl : heard = other := Option.some.inj hother
      exact ⟨hworking, hstage⟩
  · intro hresult
    right
    rw [hstep]
    exact hrank hresult

/-- **A task ends** with a callback that reports the job. -/
theorem kept_end (h : Inv s) {job heard : Job U} {completion : Completion U}
    (hjob : s.job = some job)
    (hd : s.downloader.step isValid call = (d.runCompletion completion).handleNextTask)
    (hbegun : d.begun = s.downloader.begun)
    (hcompletions : d.completions = s.downloader.completions) (hwaits : Waits d [] none none)
    (hheard : s.heard call = some heard) (htask : heard.task = job.task)
    (hreports : heard.Reports completion) :
    s.Kept isValid call := by
  have hlast : (d.runCompletion completion).completions =
      s.downloader.completions ++ [completion] := congrArg (· ++ [completion]) hcompletions
  have hstep := step_next isValid hd rfl hbegun hlast
    (fun hnil => absurd hnil (List.cons_ne_nil _ _))
  have hzip : (s.heard call).toList.zip [completion] = [(heard, completion)] := by
    rw [hheard]
    rfl
  rw [hzip] at hstep
  constructor
  · rw [hstep]
    apply inv_handleNextTask (d := d.runCompletion completion) rfl
      ⟨hwaits.posted, hwaits.distilling, hwaits.loading⟩
    · show d.begun = _
      rw [hbegun, h.inTurn, hjob, List.map_append]
      show _ ++ [job.task] = _ ++ [heard.task]
      rw [htask]
    · rw [hlast, h.once, List.map_append]
      rfl
    · intro entry he
      rcases List.mem_append.1 he with he | he
      · exact h.reports entry he
      · obtain rfl := List.mem_singleton.1 he
        exact hreports
  · intro _
    left
    rw [hstep]
    show _ < (s.finished ++ [_]).length
    rw [List.length_append]
    exact Nat.lt_succ_self _

/-! ## The calls of the owner -/

omit [DecidableEq U] in
theorem Stage.withTasks (h : Stage d job) (tasks : List (Task U)) :
    Stage { d with tasks := tasks } job := by
  have waits : ∀ {posted distilling loading}, Waits d posted distilling loading →
      Waits { d with tasks := tasks } posted distilling loading :=
    fun hw => ⟨hw.posted, hw.distilling, hw.loading⟩
  have owns : ∀ {url}, Owns d job url → Owns { d with tasks := tasks } job url :=
    fun ho => ⟨ho.task, ho.original, ho.distilled, ho.size, ho.mimeType⟩
  cases h with
  | deleting url htask hwaits => exact .deleting url htask (waits hwaits)
  | checking url hjob hwaits => exact .checking url hjob (waits hwaits)
  | distilling url hown hopen hwaits => exact .distilling url (owns hown) hopen (waits hwaits)
  | loading url pdfUrl hown hpdf hmime hwaits =>
    exact .loading url pdfUrl (owns hown) hpdf hmime (waits hwaits)
  | savingPDF url hown hpdf hwaits => exact .savingPDF url (owns hown) hpdf (waits hwaits)
  | savingHTML url title hown hopen hwaits =>
    exact .savingHTML url title (owns hown) hopen (waits hwaits)
  | cleaning url title path hown hfailed hwaits =>
    exact .cleaning url title path (owns hown) hfailed (waits hwaits)

/-- The queue changes while a task is at work. -/
theorem kept_queued (h : Inv s) (hjob : s.job = some job)
    {tasks : List (Task U)}
    (hd : s.downloader.step isValid call =
      URLDownloader.handleNextTask { s.downloader with tasks := tasks })
    (hheard : s.heard call = s.job) (hresult : call.isResult = false) : s.Kept isValid call := by
  obtain ⟨hworking, hstage⟩ := h.stage job hjob
  rw [URLDownloader.handleNextTask_working
    (show ({ s.downloader with tasks := tasks } : URLDownloader U).working = true from hworking)] at hd
  apply kept_within isValid h hjob hd rfl rfl hworking (hheard.trans hjob) rfl
    (Stage.withTasks hstage tasks)
  intro htrue
  rw [hresult] at htrue
  cases htrue

/-- A task arrives while there is none. -/
theorem kept_arrived (h : Inv s) (hjob : s.job = none) {tasks : List (Task U)}
    (hd : s.downloader.step isValid call =
      URLDownloader.handleNextTask { s.downloader with tasks := tasks })
    (hheard : s.heard call = s.job) (hresult : call.isResult = false) : s.Kept isValid call := by
  obtain ⟨_, hworking, hwaits⟩ := h.idle hjob
  have hnone : s.heard call = none := hheard.trans hjob
  have hstep := step_next isValid hd hworking rfl (List.append_nil _).symm (fun _ => hnone)
  rw [hnone] at hstep
  constructor
  · rw [hstep]
    have hfinished : s.finished ++ (none : Option (Job U)).toList.zip [] = s.finished :=
      List.append_nil _
    rw [hfinished]
    have hturn := h.inTurn
    rw [hjob] at hturn
    exact inv_handleNextTask hworking ⟨hwaits.posted, hwaits.distilling, hwaits.loading⟩
      (hturn.trans (List.append_nil _)) h.once h.reports
  · intro htrue
    rw [hresult] at htrue
    cases htrue

theorem kept_queue (h : Inv s) {tasks : List (Task U)}
    (hd : s.downloader.step isValid call =
      URLDownloader.handleNextTask { s.downloader with tasks := tasks })
    (hheard : s.heard call = s.job) (hresult : call.isResult = false) : s.Kept isValid call := by
  cases hjob : s.job with
  | none => exact kept_arrived isValid h hjob hd hheard hresult
  | some job => exact kept_queued isValid h hjob hd hheard hresult

omit [DecidableEq U] in
theorem heard_of_map (s : Downloads U) (call : DownloaderCall U)
    (hsame : ∀ job : Job U, job.hear s.downloader call = job)
    (hheard : s.heard call = s.job.map fun job => job.hear s.downloader call) :
    s.heard call = s.job := by
  rw [hheard]
  cases s.job with
  | none => rfl
  | some job => exact congrArg some (hsame job)

theorem kept_downloadOfflineURL (h : Inv s) (url : U) :
    s.Kept isValid (.downloadOfflineURL url) := by
  have hheard := heard_of_map s (.downloadOfflineURL url) (fun _ => rfl) rfl
  by_cases hmem : (⟨.download, url⟩ : Task U) ∈ s.downloader.tasks
  · -- already queued, so a task is at work
    have hd : s.downloader.step isValid (.downloadOfflineURL url) =
        URLDownloader.handleNextTask { s.downloader with tasks := s.downloader.tasks } := by
      have hworking : s.downloader.working = true := by
        cases hjob : s.job with
        | none =>
          rw [(h.idle hjob).1] at hmem
          cases hmem
        | some job => exact (h.stage job hjob).1
      show (if _ then _ else _ : URLDownloader U) = _
      rw [if_pos hmem]
      exact (URLDownloader.handleNextTask_working (d := s.downloader) hworking).symm
    exact kept_queue isValid h hd hheard rfl
  · have hd : s.downloader.step isValid (.downloadOfflineURL url) = URLDownloader.handleNextTask
        { s.downloader with tasks := s.downloader.tasks ++ [⟨.download, url⟩] } := by
      show (if _ then _ else _ : URLDownloader U) = _
      rw [if_neg hmem]
    exact kept_queue isValid h hd hheard rfl

theorem kept_removeOfflineURL (h : Inv s) (url : U) : s.Kept isValid (.removeOfflineURL url) := by
  have hd : s.downloader.step isValid (.removeOfflineURL url) = URLDownloader.handleNextTask
      { s.downloader with
        tasks := s.downloader.tasks.filter (· ≠ ⟨.download, url⟩) ++ [⟨.delete, url⟩] } := rfl
  exact kept_queue isValid h hd (heard_of_map s (.removeOfflineURL url) (fun _ => rfl) rfl) rfl

theorem kept_cancelDownloadOfflineURL (h : Inv s) (url : U) :
    s.Kept isValid (.cancelDownloadOfflineURL url) := by
  have hheard := heard_of_map s (.cancelDownloadOfflineURL url) (fun _ => rfl) rfl
  have hd : s.downloader.step isValid (.cancelDownloadOfflineURL url) =
      URLDownloader.handleNextTask
        { s.downloader with tasks := s.downloader.tasks.filter (· ≠ ⟨.download, url⟩) } := by
    cases hjob : s.job with
    | none =>
      have htasks : s.downloader.tasks.filter (· ≠ ⟨.download, url⟩) = [] := by
        rw [(h.idle hjob).1]
        rfl
      exact (URLDownloader.handleNextTask_nil htasks).symm
    | some job =>
      have hworking := (h.stage job hjob).1
      exact (URLDownloader.handleNextTask_working
        (d := { s.downloader with tasks := s.downloader.tasks.filter (· ≠ ⟨.download, url⟩) })
        hworking).symm
  exact kept_queue isValid h hd hheard rfl

theorem kept_cancelTask (h : Inv s)
    (hnothing : s.downloader.posted = [] ∧ s.downloader.distilling = none) :
    s.Kept isValid .cancelTask := by
  have hd : s.downloader.step isValid .cancelTask = s.downloader := by
    show { s.downloader with posted := [], distilling := none } = s.downloader
    rw [← hnothing.1, ← hnothing.2]
  have hheard : s.heard .cancelTask = s.job := if_pos hnothing
  have hstep := step_within isValid hd rfl rfl
  rw [hheard] at hstep
  exact ⟨hstep.symm ▸ h, fun hresult => by cases hresult⟩

/-! ## The results -/

omit [DecidableEq U] in
theorem rank_of_waits {posted : List (Posted U)} {distilling loading : Option U}
    (h : Waits d posted distilling loading) :
    d.rank = (posted.map Posted.rank).sum + 4 * distilling.toList.length +
      3 * loading.toList.length := by
  unfold URLDownloader.rank
  rw [h.posted, h.distilling, h.loading]

omit [DecidableEq U] in
theorem rank_lt {d before : URLDownloader U} {posted posted' : List (Posted U)}
    {distilling distilling' loading loading' : Option U}
    (h : Waits before posted distilling loading) (h' : Waits d posted' distilling' loading')
    (hlt : (posted'.map Posted.rank).sum + 4 * distilling'.toList.length +
        3 * loading'.toList.length <
      (posted.map Posted.rank).sum + 4 * distilling.toList.length + 3 * loading.toList.length) :
    d.rank < before.rank := by
  rw [rank_of_waits h, rank_of_waits h']
  exact hlt

theorem step_replied {operation : Posted U} (success : Bool) (size : Nat)
    (h : d.posted = [operation]) : d.step isValid (.replied success size) =
      URLDownloader.reply { d with posted := [] } success size operation := by
  show (match d.posted with
    | [] => d
    | operation :: rest => _ : URLDownloader U) = _
  rw [h]

omit [DecidableEq U] in
theorem heard_replied {operation : Posted U} (success : Bool) (size : Nat) (hjob : s.job = some job)
    (h : s.downloader.posted = [operation]) :
    s.heard (.replied success size) = some (job.reply success size operation) := by
  show s.job.map (fun job => match s.downloader.posted with
    | [] => job
    | operation :: _ => job.reply success size operation) = _
  rw [hjob, h]
  rfl

theorem kept_deleted (h : Inv s) (hjob : s.job = some job) {url : U}
    (htask : job.task = ⟨.delete, url⟩) (hwaits : Waits s.downloader [.deletePath url] none none)
    (success : Bool) (size : Nat) : s.Kept isValid (.replied success size) := by
  have hd : s.downloader.step isValid (.replied success size) =
      (URLDownloader.runCompletion { s.downloader with posted := [] }
        (.delete url success)).handleNextTask := step_replied isValid success size hwaits.posted
  exact kept_end isValid h hjob hd rfl rfl ⟨rfl, hwaits.distilling, hwaits.loading⟩
    (heard_replied success size hjob hwaits.posted) rfl htask

theorem kept_looked (h : Inv s) (hjob : s.job = some job) {url : U}
    (hbegin : job = Job.begin ⟨.download, url⟩)
    (hwaits : Waits s.downloader [.pathExists url] none none) (success : Bool) (size : Nat)
    (hown : success = true → s.downloader.distilledUrl = url ∧ s.downloader.savedSize = 0) :
    s.Kept isValid (.replied success size) := by
  have hd := step_replied isValid success size hwaits.posted
  have hheard := heard_replied success size hjob hwaits.posted
  cases success with
  | true =>
    obtain ⟨hdistilled, hsize⟩ := hown rfl
    have hend : s.downloader.step isValid (.replied true size) =
        (URLDownloader.runCompletion { s.downloader with posted := [], distilling := none }
          (.download url s.downloader.distilledUrl .downloadExists none s.downloader.savedSize
            "")).handleNextTask := hd
    apply kept_end isValid h hjob hend rfl rfl ⟨rfl, rfl, hwaits.loading⟩ hheard rfl
    -- the members still say what this download would have left
    show (job.conclude .downloadExists).Reports
      (.download url s.downloader.distilledUrl .downloadExists none s.downloader.savedSize "")
    rw [hbegin, hdistilled, hsize]
    exact ⟨rfl, rfl, rfl, rfl⟩
  | false =>
    apply kept_within isValid h hjob hd rfl rfl (h.stage job hjob).1 hheard rfl
    · refine .distilling url ⟨?_, rfl, ?_, ?_, ?_⟩ ?_ ⟨rfl, rfl, hwaits.loading⟩
      · exact congrArg Job.task hbegin
      · exact (congrArg Job.distilledUrl hbegin).symm
      · exact (congrArg Job.savedSize hbegin).symm
      · intro mimeType hmime
        have hnone : job.mimeType = none := congrArg Job.mimeType hbegin
        exact absurd (hnone.symm.trans hmime) (Option.some_ne_none mimeType).symm
      · exact congrArg Job.outcome hbegin
    · intro _
      exact rank_lt hwaits ⟨rfl, rfl, hwaits.loading⟩ (Nat.lt_succ_self 4)

/-- A file of the download is saved, or is not. -/
theorem kept_saved (h : Inv s) (hjob : s.job = some job) {url : U}
    {operation : Posted U} {title : String} {page : OfflinePage U}
    (hown : Owns s.downloader job url)
    (hwaits : Waits s.downloader [operation] none none) (success : Bool) (size : Nat)
    (hopen : success = true → job.outcome = none)
    (herror : (job.conclude .error).outcome = some .error)
    (hreply : ∀ d : URLDownloader U, d.reply success size operation =
      (d.saveFile success size).downloadCompletionHandler url title (some page)
        (URLDownloader.saveState success))
    (hsave : job.reply success size operation = job.save success size)
    (hrank : operation.rank = 2) : s.Kept isValid (.replied success size) := by
  have hd := step_replied isValid success size hwaits.posted
  rw [hreply] at hd
  have hheard := heard_replied success size hjob hwaits.posted
  rw [hsave] at hheard
  cases success with
  | true =>
    have hend : s.downloader.step isValid (.replied true size) =
        (URLDownloader.runCompletion
          { s.downloader with
            posted := [], distilling := none, savedSize := s.downloader.savedSize + size }
          (.download url s.downloader.distilledUrl .downloadSuccess (some page)
            (s.downloader.savedSize + size) title)).handleNextTask := hd
    apply kept_end isValid h hjob hend rfl rfl ⟨rfl, rfl, hwaits.loading⟩ hheard rfl
    refine ⟨hown.task, hown.distilled, ?_, ?_⟩
    · show s.downloader.savedSize + size = job.savedSize + size
      rw [hown.size]
    · exact Job.conclude_open (hopen rfl) .downloadSuccess
  | false =>
    apply kept_within isValid h hjob hd rfl rfl (h.stage job hjob).1 hheard rfl
    · refine .cleaning url title (some page) ⟨hown.task, hown.original, hown.distilled,
        hown.size, hown.mimeType⟩ ?_ ⟨rfl, hwaits.distilling, hwaits.loading⟩
      exact herror
    · intro _
      have hlt : ([Posted.cleanUp url title (some page)].map Posted.rank).sum <
          ([operation].map Posted.rank).sum := by
        rw [List.map_singleton, List.map_singleton, List.sum_singleton, List.sum_singleton, hrank]
        exact Nat.lt_succ_self 1
      exact rank_lt hwaits ⟨rfl, hwaits.distilling, hwaits.loading⟩ hlt

theorem kept_cleaned (h : Inv s) (hjob : s.job = some job) {url : U} {title : String}
    {path : Option (OfflinePage U)} (hown : Owns s.downloader job url)
    (hfailed : job.outcome = some .error)
    (hwaits : Waits s.downloader [.cleanUp url title path] none none) (success : Bool) (size : Nat)
    : s.Kept isValid (.replied success size) := by
  have hd : s.downloader.step isValid (.replied success size) =
      (URLDownloader.runCompletion { s.downloader with posted := [], distilling := none }
        (.download url s.downloader.distilledUrl .error path s.downloader.savedSize
          title)).handleNextTask := step_replied isValid success size hwaits.posted
  exact kept_end isValid h hjob hd rfl rfl ⟨rfl, rfl, hwaits.loading⟩
    (heard_replied success size hjob hwaits.posted) rfl
    ⟨hown.task, hown.distilled, hown.size, hfailed⟩

theorem kept_replied (h : Inv s) (success : Bool) (size : Nat)
    (hpre : s.downloader.posted ≠ [])
    (hown : success = true → NothingStale s s.downloader.posted) :
    s.Kept isValid (.replied success size) := by
  cases hjob : s.job with
  | none => exact absurd (h.idle hjob).2.2.posted hpre
  | some job =>
    cases (h.stage job hjob).2 with
    | deleting url htask hwaits => exact kept_deleted isValid h hjob htask hwaits success size
    | checking url hbegin hwaits =>
      rw [hwaits.posted] at hown
      exact kept_looked isValid h hjob hbegin hwaits success size hown
    | distilling url _ _ hwaits => exact absurd hwaits.posted hpre
    | loading url _ _ _ _ hwaits => exact absurd hwaits.posted hpre
    | savingPDF url hjobOwn hpdf hwaits =>
      rw [hwaits.posted] at hown
      have hopen : success = true → job.outcome = none := by
        intro hsuccess
        have hmime : s.job.bind Job.mimeType = some pdfMimeType := hown hsuccess
        rw [hjob] at hmime
        exact hpdf.outcome_none hmime
      exact kept_saved isValid h hjob hjobOwn hwaits success size hopen hpdf.conclude_error
        (fun _ => rfl) rfl rfl
    | savingHTML url title hjobOwn hopen hwaits =>
      exact kept_saved isValid h hjob hjobOwn hwaits success size (fun _ => hopen)
        (Job.conclude_open hopen .error) (fun _ => rfl) rfl rfl
    | cleaning url title path hjobOwn hfailed hwaits =>
      exact kept_cleaned isValid h hjob hjobOwn hfailed hwaits success size

omit [DecidableEq U] in
/-- The page at work, where one is distilled. -/
theorem stage_of_distilling (h : Inv s) (hpre : s.downloader.distilling ≠ none) :
    ∃ job url, s.job = some job ∧ Owns s.downloader job url ∧ job.outcome = none ∧
      Waits s.downloader [] (some url) none := by
  cases hjob : s.job with
  | none => exact absurd (h.idle hjob).2.2.distilling hpre
  | some job =>
    cases (h.stage job hjob).2 with
    | distilling url hown hopen hwaits => exact ⟨job, url, rfl, hown, hopen, hwaits⟩
    | deleting _ _ hwaits => exact absurd hwaits.distilling hpre
    | checking _ _ hwaits => exact absurd hwaits.distilling hpre
    | loading _ _ _ _ _ hwaits => exact absurd hwaits.distilling hpre
    | savingPDF _ _ _ hwaits => exact absurd hwaits.distilling hpre
    | savingHTML _ _ _ _ hwaits => exact absurd hwaits.distilling hpre
    | cleaning _ _ _ _ _ hwaits => exact absurd hwaits.distilling hpre

omit [DecidableEq U] in
theorem stage_of_loading (h : Inv s) (hpre : s.downloader.loading ≠ none) :
    ∃ job url pdfUrl, s.job = some job ∧ Owns s.downloader job url ∧ job.IsPDF ∧
      s.downloader.mimeType = pdfMimeType ∧ Waits s.downloader [] none (some pdfUrl) := by
  cases hjob : s.job with
  | none => exact absurd (h.idle hjob).2.2.loading hpre
  | some job =>
    cases (h.stage job hjob).2 with
    | loading url pdfUrl hown hpdf hmime hwaits =>
      exact ⟨job, url, pdfUrl, rfl, hown, hpdf, hmime, hwaits⟩
    | deleting _ _ hwaits => exact absurd hwaits.loading hpre
    | checking _ _ hwaits => exact absurd hwaits.loading hpre
    | distilling _ _ _ hwaits => exact absurd hwaits.loading hpre
    | savingPDF _ _ _ hwaits => exact absurd hwaits.loading hpre
    | savingHTML _ _ _ _ hwaits => exact absurd hwaits.loading hpre
    | cleaning _ _ _ _ _ hwaits => exact absurd hwaits.loading hpre

theorem kept_redirectedTo (h : Inv s) (redirectedUrl : U)
    (hpre : s.downloader.distilling ≠ none) : s.Kept isValid (.redirectedTo redirectedUrl) := by
  obtain ⟨job, url, hjob, hown, hopen, hwaits⟩ := stage_of_distilling h hpre
  have hheard : s.heard (.redirectedTo redirectedUrl) =
      some { job with distilledUrl := redirectedUrl } := by
    show s.job.map _ = _
    rw [hjob]
    rfl
  have hd : s.downloader.step isValid (.redirectedTo redirectedUrl) =
      { s.downloader with distilledUrl := redirectedUrl } := rfl
  apply kept_within isValid h hjob hd rfl rfl (h.stage job hjob).1 hheard rfl
  · exact .distilling url ⟨hown.task, hown.original, rfl, hown.size, hown.mimeType⟩ hopen
      ⟨hwaits.posted, hwaits.distilling, hwaits.loading⟩
  · intro hresult
    cases hresult

theorem kept_hasMimeType (h : Inv s) (mimeType : String)
    (hpre : s.downloader.distilling ≠ none) : s.Kept isValid (.hasMimeType mimeType) := by
  obtain ⟨job, url, hjob, hown, hopen, hwaits⟩ := stage_of_distilling h hpre
  have hheard : s.heard (.hasMimeType mimeType) =
      some { job with mimeType := some mimeType } := by
    show s.job.map _ = _
    rw [hjob]
    rfl
  have hd : s.downloader.step isValid (.hasMimeType mimeType) =
      { s.downloader with mimeType := mimeType } := rfl
  apply kept_within isValid h hjob hd rfl rfl (h.stage job hjob).1 hheard rfl
  · refine .distilling url ⟨hown.task, hown.original, hown.distilled, hown.size, ?_⟩ hopen
      ⟨hwaits.posted, hwaits.distilling, hwaits.loading⟩
    intro reported hreported
    exact Option.some.inj hreported
  · intro hresult
    cases hresult

theorem kept_distilled (h : Inv s) (html title : String)
    (hpre : s.downloader.distilling ≠ none) : s.Kept isValid (.distilled html title) := by
  obtain ⟨job, url, hjob, hown, hopen, hwaits⟩ := stage_of_distilling h hpre
  have hworking := (h.stage job hjob).1
  have hd : s.downloader.step isValid (.distilled html title) =
      URLDownloader.distillerCallback isValid { s.downloader with distilling := none }
        url html title := URLDownloader.step_distilled isValid hwaits.distilling html title
  have hheard : s.heard (.distilled html title) = some
      (if html = "" ∧ job.mimeType ≠ some pdfMimeType then job.conclude .error else job) := by
    show s.job.map _ = _
    rw [hjob]
    rfl
  unfold URLDownloader.distillerCallback at hd
  by_cases hempty : html = ""
  · rw [if_pos hempty] at hd
    by_cases hpdf : s.downloader.mimeType = pdfMimeType
    · rw [if_pos hpdf] at hd
      have hmime : s.downloader.mimeType = pdfMimeType := hpdf
      by_cases hreported : job.mimeType = some pdfMimeType
      · rw [if_neg (fun hnot => hnot.2 hreported)] at hheard
        apply kept_within isValid h hjob hd rfl rfl hworking hheard rfl
        · exact .loading url _ ⟨hown.task, hown.original, hown.distilled, hown.size,
            hown.mimeType⟩ (.inl ⟨hreported, hopen⟩) hmime ⟨hwaits.posted, rfl, rfl⟩
        · intro _
          exact rank_lt hwaits ⟨hwaits.posted, rfl, rfl⟩ (Nat.lt_succ_self 3)
      · -- the mime type is that of an earlier page
        rw [if_pos ⟨hempty, hreported⟩] at hheard
        apply kept_within isValid h hjob hd rfl rfl hworking hheard rfl
        · exact .loading url _ ⟨hown.task, hown.original, hown.distilled, hown.size,
            hown.mimeType⟩ (.inr ⟨hreported, Job.conclude_open hopen .error⟩) hmime
            ⟨hwaits.posted, rfl, rfl⟩
        · intro _
          exact rank_lt hwaits ⟨hwaits.posted, rfl, rfl⟩ (Nat.lt_succ_self 3)
    · have hnot : job.mimeType ≠ some pdfMimeType := fun hreported =>
        hpdf (hown.mimeType _ hreported)
      rw [if_neg hpdf] at hd
      rw [if_pos ⟨hempty, hnot⟩] at hheard
      have hposted : s.downloader.posted ++ [Posted.cleanUp url "" none] =
          [.cleanUp url "" none] := by
        rw [hwaits.posted]
        rfl
      have hfailed := Job.conclude_open hopen .error
      apply kept_within isValid h hjob hd rfl rfl hworking hheard rfl
      · exact .cleaning url "" none ⟨hown.task, hown.original, hown.distilled, hown.size,
          hown.mimeType⟩ hfailed ⟨hposted, rfl, hwaits.loading⟩
      · intro _
        exact rank_lt hwaits ⟨hposted, rfl, hwaits.loading⟩ (show 1 < 4 by decide)
  · rw [if_neg hempty] at hd
    rw [if_neg (fun hnot => hempty hnot.1)] at hheard
    have hposted : s.downloader.posted ++ [Posted.saveHTML url title] =
        [.saveHTML url title] := by
      rw [hwaits.posted]
      rfl
    apply kept_within isValid h hjob hd rfl rfl hworking hheard rfl
    · exact .savingHTML url title ⟨hown.task, hown.original, hown.distilled, hown.size,
        hown.mimeType⟩ hopen ⟨hposted, rfl, hwaits.loading⟩
    · intro _
      exact rank_lt hwaits ⟨hposted, rfl, hwaits.loading⟩ (show 2 < 4 by decide)

theorem kept_urlLoadComplete (h : Inv s) (responsePathEmpty : Bool) (mimeType : String)
    (hpre : s.downloader.loading ≠ none)
    (hresults : OwnResults s (.urlLoadComplete responsePathEmpty mimeType)) :
    s.Kept isValid (.urlLoadComplete responsePathEmpty mimeType) := by
  obtain ⟨job, url, pdfUrl, hjob, hown, hpdf, hmime, hwaits⟩ := stage_of_loading h hpre
  have hworking := (h.stage job hjob).1
  have hd : s.downloader.step isValid (.urlLoadComplete responsePathEmpty mimeType) =
      URLDownloader.onURLLoadComplete { s.downloader with loading := none }
        pdfUrl responsePathEmpty mimeType :=
    URLDownloader.step_urlLoadComplete isValid hwaits.loading responsePathEmpty mimeType
  have hheard : s.heard (.urlLoadComplete responsePathEmpty mimeType) = some
      (if responsePathEmpty = true ∨ mimeType ≠ pdfMimeType then job.conclude .error
        else job) := by
    show s.job.map _ = _
    rw [hjob]
    rfl
  have hcases : s.downloader.step isValid (.urlLoadComplete responsePathEmpty mimeType) =
      if responsePathEmpty = true ∨ mimeType ≠ pdfMimeType then
        URLDownloader.post { s.downloader with loading := none }
          (.cleanUp url "" (some ⟨url, .pdf⟩))
      else URLDownloader.post { s.downloader with loading := none } (.savePDF pdfUrl ⟨url, .pdf⟩) := by
    rw [hd]
    show (if responsePathEmpty = true ∨ mimeType ≠ s.downloader.mimeType then
      URLDownloader.post _ (.cleanUp s.downloader.originalUrl "" (some ⟨_, .pdf⟩))
      else URLDownloader.post _ (.savePDF pdfUrl ⟨s.downloader.originalUrl, .pdf⟩)) = _
    rw [hmime, hown.original]
  by_cases hfails : responsePathEmpty = true ∨ mimeType ≠ pdfMimeType
  · rw [if_pos hfails] at hcases hheard
    have hposted : s.downloader.posted ++ [Posted.cleanUp url "" (some ⟨url, .pdf⟩)] =
        [.cleanUp url "" (some ⟨url, .pdf⟩)] := by
      rw [hwaits.posted]
      rfl
    apply kept_within isValid h hjob hcases rfl rfl hworking hheard rfl
    · exact .cleaning url "" (some ⟨url, .pdf⟩) ⟨hown.task, hown.original, hown.distilled,
        hown.size, hown.mimeType⟩ hpdf.conclude_error ⟨hposted, hwaits.distilling, rfl⟩
    · intro _
      exact rank_lt hwaits ⟨hposted, hwaits.distilling, rfl⟩ (show 1 < 3 by decide)
  · rw [if_neg hfails] at hcases hheard
    -- the file was loaded from the URL of the download
    have hsame : pdfUrl = url := by
      obtain ⟨hpath, hresponse⟩ := not_or.1 hfails
      have hloading := hresults (Bool.not_eq_true _ ▸ hpath)
        ((not_not.1 hresponse).trans hmime.symm)
      rw [hwaits.loading, hown.original] at hloading
      exact Option.some.inj hloading
    have hposted : s.downloader.posted ++ [Posted.savePDF pdfUrl ⟨url, .pdf⟩] =
        [.savePDF url ⟨url, .pdf⟩] := by
      rw [hwaits.posted, hsame]
      rfl
    apply kept_within isValid h hjob hcases rfl rfl hworking hheard rfl
    · exact .savingPDF url ⟨hown.task, hown.original, hown.distilled, hown.size, hown.mimeType⟩
        hpdf ⟨hposted, hwaits.distilling, rfl⟩
    · intro _
      exact rank_lt hwaits ⟨hposted, hwaits.distilling, rfl⟩ (show 2 < 3 by decide)

theorem kept_step (h : Inv s) (call : DownloaderCall U) (hpre : s.downloader.Pre call)
    (hresults : OwnResults s call) : s.Kept isValid call := by
  cases call with
  | downloadOfflineURL url => exact kept_downloadOfflineURL isValid h url
  | removeOfflineURL url => exact kept_removeOfflineURL isValid h url
  | cancelDownloadOfflineURL url => exact kept_cancelDownloadOfflineURL isValid h url
  | cancelTask => exact kept_cancelTask isValid h hresults
  | replied success size => exact kept_replied isValid h success size hpre hresults
  | redirectedTo redirectedUrl => exact kept_redirectedTo isValid h redirectedUrl hpre
  | hasMimeType mimeType => exact kept_hasMimeType isValid h mimeType hpre
  | distilled html title => exact kept_distilled isValid h html title hpre
  | urlLoadComplete responsePathEmpty mimeType =>
    exact kept_urlLoadComplete isValid h responsePathEmpty mimeType hpre hresults

/-- **Every download reports its own results** in every run in which no member
speaks for another download and no reply is cancelled. -/
theorem sound_of_ownResults {s₀ : Downloads U} {calls : List (DownloaderCall U)}
    (hinit : (machine isValid).init s₀) (hrun : (machine isValid).Run s₀ calls)
    (hresults : (machine isValid).Always OwnResults s₀ calls) :
    Sound ((machine isValid).exec s₀ calls) ∧
      (machine isValid).Always (QueueOrder isValid) s₀ calls ∧
      (machine isValid).Always (Progress isValid) s₀ calls := by
  obtain ⟨emptyUrl, savedSize, rfl⟩ := hinit
  have hinv := Machine.Guarded.invariant (I := Inv)
    (fun _ call h hpre hresults => (kept_step isValid h call hpre hresults).inv)
    (start_inv emptyUrl savedSize) hrun hresults
  refine ⟨hinv.sound, ?_, ?_⟩
  · exact Machine.always_of_forall _ (fun s call => s.queueOrder isValid call) _ _
  · have hboth := Machine.Guarded.always_of_invariant (I := Inv)
      (fun _ call h hpre hresults => (kept_step isValid h call hpre hresults).inv)
      (fun _ call h hpre hresults => (kept_step isValid h call hpre hresults).progress)
      (start_inv emptyUrl savedSize) hrun hresults
    exact hboth

end

/-- Validity for the runs below: 0 is the empty URL. -/
private def nonzero (url : Nat) : Bool := url ≠ 0

/-- A redirected page, a PDF, a page that fails, and a deletion. -/
private def inOrder : List (DownloaderCall Nat) :=
  [.downloadOfflineURL 1, .downloadOfflineURL 2, .downloadOfflineURL 3, .removeOfflineURL 1,
    .replied false 0, .hasMimeType "text/html", .redirectedTo 9, .distilled "page" "title",
    .replied true 10,
    .replied false 0, .hasMimeType pdfMimeType, .distilled "" "",
    .urlLoadComplete false pdfMimeType, .replied true 20,
    .replied false 0, .hasMimeType "text/html", .distilled "" "", .replied true 0,
    .replied true 0]

theorem sound_inOrder :
    Sound ((machine nonzero).exec (start 0 0) inOrder) ∧
      (machine nonzero).Always (QueueOrder nonzero) (start 0 0) inOrder ∧
      (machine nonzero).Always (Progress nonzero) (start 0 0) inOrder :=
  sound_of_ownResults nonzero ⟨0, 0, rfl⟩ (by decide +kernel) (by decide +kernel)

/-- A PDF behind a redirect. -/
private def redirectedPDF : List (DownloaderCall Nat) :=
  [.downloadOfflineURL 1, .replied false 0, .redirectedTo 9, .hasMimeType pdfMimeType,
    .distilled "" "", .urlLoadComplete false pdfMimeType, .replied true 20]

/-- A page whose directory is found after another page was saved. -/
private def foundAfterAnother : List (DownloaderCall Nat) :=
  [.downloadOfflineURL 1, .replied false 0, .distilled "page" "title", .replied true 10,
    .downloadOfflineURL 2, .replied true 0]

/-- **The callback of a redirected PDF is called with the URL it was redirected
to, and that of a page already there with the URL and size of another.** -/
theorem members_shared :
    ((machine nonzero).Run (start 0 0) redirectedPDF ∧
      ((machine nonzero).exec (start 0 0) redirectedPDF).downloader.completions =
        [.download 9 9 .downloadSuccess (some ⟨1, .pdf⟩) 20 ""] ∧
      ¬ Sound ((machine nonzero).exec (start 0 0) redirectedPDF)) ∧
    ((machine nonzero).Run (start 0 0) foundAfterAnother ∧
      ((machine nonzero).exec (start 0 0) foundAfterAnother).downloader.completions =
        [.download 1 1 .downloadSuccess (some ⟨1, .html⟩) 10 "title",
          .download 2 1 .downloadExists none 10 ""] ∧
      ¬ Sound ((machine nonzero).exec (start 0 0) foundAfterAnother)) := by
  have hredirected : ((machine nonzero).exec (start 0 0) redirectedPDF).finished =
      [(⟨⟨.download, 1⟩, 9, some pdfMimeType, 20, some .downloadSuccess⟩,
        .download 9 9 .downloadSuccess (some ⟨1, .pdf⟩) 20 "")] := by decide +kernel
  have hfound : ((machine nonzero).exec (start 0 0) foundAfterAnother).finished =
      [(⟨⟨.download, 1⟩, 1, none, 10, some .downloadSuccess⟩,
        .download 1 1 .downloadSuccess (some ⟨1, .html⟩) 10 "title"),
      (⟨⟨.download, 2⟩, 2, none, 0, some .downloadExists⟩,
        .download 2 1 .downloadExists none 10 "")] := by decide +kernel
  refine ⟨⟨by decide +kernel, by decide +kernel, ?_⟩,
    ⟨by decide +kernel, by decide +kernel, ?_⟩⟩
  · intro hsound
    have hreports := hsound.reports
    rw [hredirected] at hreports
    have htask := (hreports _ (List.mem_singleton_self _)).1
    cases htask
  · intro hsound
    have hreports := hsound.reports
    rw [hfound] at hreports
    have hdistilled := (hreports _ (List.mem_cons_of_mem _ (List.mem_singleton_self _))).2.1
    cases hdistilled

end Downloads

end IosChrome.ReadingList

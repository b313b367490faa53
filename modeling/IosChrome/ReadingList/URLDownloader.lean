import Mathlib.Data.List.Basic

/-!
# The offline downloader of the reading list

`URLDownloader` saves pages for reading without a connection, and deletes them.
It keeps a queue of tasks and works on one at a time: `handleNextTask` takes the
front task while `working_` is unset, and the end of the task clears the flag
and calls it again. In between the task waits for one result after the other,
each from somewhere else:

* the task tracker, for what runs on the background sequence (`posted`):
  looking for the offline directory, deleting it, saving a file;
* the distiller (`distilling`), which meanwhile reports redirects and the mime
  type of the page;
* the URL loader of a PDF (`loading`).

The members `distilled_url_`, `saved_size_` and `mime_type_` serve one download
after the other. `downloadURL` resets the first two, and only once it is known
that nothing is on disk; nothing resets the third.

URLs are an arbitrary type with the predicate `GURL::is_valid`. Contents of
pages and files are not modelled, only whether the distilled page is empty and
how many bytes are written. The offline path of a page is its URL and the kind
of file; the paths themselves are digests made elsewhere.
-/

namespace IosChrome.ReadingList

/-- `URLDownloader::SuccessState`. -/
inductive SuccessState where
  | downloadSuccess
  | downloadExists
  | error
  deriving DecidableEq

/-- `URLDownloader::TaskType`. -/
inductive TaskType where
  | delete
  | download
  deriving DecidableEq

/-- `reading_list::OfflineFileType`. -/
inductive OfflineFileType where
  | html
  | pdf
  deriving DecidableEq

/-- `URLDownloader::Task`. -/
structure Task (U : Type) where
  type : TaskType
  url : U
  deriving DecidableEq

instance {U : Type} [DecidableEq U] : LawfulBEq (Task U) := inferInstance

/-- `reading_list::OfflinePagePath`: a file in the offline directory of `url`. -/
structure OfflinePage (U : Type) where
  url : U
  type : OfflineFileType
  deriving DecidableEq

/-- What a completion callback is called with. An empty path is `none`. -/
inductive Completion (U : Type) where
  | download (url distilledUrl : U) (success : SuccessState)
      (path : Option (OfflinePage U)) (size : Nat) (title : String)
  | delete (url : U) (success : Bool)
  deriving DecidableEq

/-- A task of the task tracker, with what its reply is bound to. -/
inductive Posted (U : Type) where
  /-- `DeletePathRecursively`, then `DeleteCompletionHandler`. -/
  | deletePath (url : U)
  /-- `PathExists`, then `DownloadURL`. -/
  | pathExists (url : U)
  /-- `SavePDFFile`, then `DownloadCompletionHandler`. -/
  | savePDF (pdfUrl : U) (page : OfflinePage U)
  /-- `SaveDistilledHTML`, then `DownloadCompletionHandler`. -/
  | saveHTML (pageUrl : U) (title : String)
  /-- `DeletePathRecursively` after an error, then the end of the download. -/
  | cleanUp (url : U) (title : String) (path : Option (OfflinePage U))
  deriving DecidableEq

/-- The members of `URLDownloader`, what it waits for, the tasks it took from
its queue, and the callbacks it has run. -/
structure URLDownloader (U : Type) where
  tasks : List (Task U)
  working : Bool
  originalUrl : U
  distilledUrl : U
  savedSize : Nat
  mimeType : String
  posted : List (Posted U)
  /-- The URL of the distiller whose callback has not been called. -/
  distilling : Option U
  /-- The URL of the loader whose callback has not been called. -/
  loading : Option U
  begun : List (Task U)
  completions : List (Completion U)
  deriving DecidableEq

variable {U : Type}

/-- What a task does first. -/
def Task.operation (task : Task U) : Posted U :=
  match task.type with
  | .delete => .deletePath task.url
  | .download => .pathExists task.url

def pdfMimeType : String := "application/pdf"

namespace URLDownloader

/-- The constructor leaves `saved_size_` as it finds it. -/
def start (emptyUrl : U) (savedSize : Nat) : URLDownloader U :=
  { tasks := [], working := false, originalUrl := emptyUrl, distilledUrl := emptyUrl
    savedSize := savedSize, mimeType := "", posted := [], distilling := none
    loading := none, begun := [], completions := [] }

def post (d : URLDownloader U) (operation : Posted U) : URLDownloader U :=
  { d with posted := d.posted ++ [operation] }

def handleNextTask (d : URLDownloader U) : URLDownloader U :=
  if d.working then d
  else
    match d.tasks with
    | [] => d
    | task :: rest =>
      post { d with working := true, tasks := rest, begun := d.begun ++ [task] } task.operation

/-! ## The calls of its owner -/

def cancelDownloadOfflineURL [DecidableEq U] (d : URLDownloader U) (url : U) : URLDownloader U :=
  { d with tasks := d.tasks.filter (· ≠ ⟨.download, url⟩) }

def removeOfflineURL [DecidableEq U] (d : URLDownloader U) (url : U) : URLDownloader U :=
  let d := d.cancelDownloadOfflineURL url
  handleNextTask { d with tasks := d.tasks ++ [⟨.delete, url⟩] }

def downloadOfflineURL [DecidableEq U] (d : URLDownloader U) (url : U) : URLDownloader U :=
  if ⟨.download, url⟩ ∈ d.tasks then d
  else handleNextTask { d with tasks := d.tasks ++ [⟨.download, url⟩] }

/-- Replies of cancelled tasks do not run, nor does the callback of a destroyed
distiller. -/
def cancelTask (d : URLDownloader U) : URLDownloader U :=
  { d with posted := [], distilling := none }

/-! ## The ends of a task -/

/-- A completion callback is run and the task at work has ended. -/
def runCompletion (d : URLDownloader U) (completion : Completion U) : URLDownloader U :=
  { d with completions := d.completions ++ [completion], working := false }

def deleteCompletionHandler (d : URLDownloader U) (url : U) (success : Bool) : URLDownloader U :=
  (d.runCompletion (.delete url success)).handleNextTask

/-- `post_delete` in `DownloadCompletionHandler`. -/
def endDownload (d : URLDownloader U) (url : U) (title : String)
    (path : Option (OfflinePage U)) (success : SuccessState) : URLDownloader U :=
  let completion : Completion U := .download url d.distilledUrl success path d.savedSize title
  (runCompletion { d with distilling := none } completion).handleNextTask

def downloadCompletionHandler (d : URLDownloader U) (url : U) (title : String)
    (path : Option (OfflinePage U)) (success : SuccessState) : URLDownloader U :=
  if success = .error then d.post (.cleanUp url title path)
  else d.endDownload url title path success

/-! ## What it waits for -/

def downloadURL (d : URLDownloader U) (url : U) (offlineUrlExists : Bool) : URLDownloader U :=
  if offlineUrlExists then d.downloadCompletionHandler url "" none .downloadExists
  else { d with originalUrl := url, distilledUrl := url, savedSize := 0, distilling := some url }

def distilledPageRedirectedToURL (d : URLDownloader U) (redirectedUrl : U) : URLDownloader U :=
  { d with distilledUrl := redirectedUrl }

def distilledPageHasMimeType (d : URLDownloader U) (mimeType : String) : URLDownloader U :=
  { d with mimeType := mimeType }

def fetchPDFFile (isValid : U → Bool) (d : URLDownloader U) : URLDownloader U :=
  { d with loading := some (if isValid d.distilledUrl then d.distilledUrl else d.originalUrl) }

def distillerCallback (isValid : U → Bool) (d : URLDownloader U) (pageUrl : U)
    (html title : String) : URLDownloader U :=
  if html = "" then
    if d.mimeType = pdfMimeType then d.fetchPDFFile isValid
    else d.downloadCompletionHandler pageUrl "" none .error
  else d.post (.saveHTML pageUrl title)

def onURLLoadComplete (d : URLDownloader U) (pdfUrl : U) (responsePathEmpty : Bool)
    (mimeType : String) : URLDownloader U :=
  let page : OfflinePage U := ⟨d.originalUrl, .pdf⟩
  if responsePathEmpty ∨ mimeType ≠ d.mimeType then
    d.downloadCompletionHandler d.originalUrl "" (some page) .error
  else d.post (.savePDF pdfUrl page)

/-- `SavePDFFile` and `SaveDistilledHTML` add what they have written. -/
def saveFile (d : URLDownloader U) (success : Bool) (size : Nat) : URLDownloader U :=
  { d with savedSize := if success then d.savedSize + size else d.savedSize }

def saveState (success : Bool) : SuccessState :=
  if success then .downloadSuccess else .error

/-- The reply of a background task: whether it succeeded (for `PathExists`,
whether there is such a path), and what it wrote. -/
def reply (d : URLDownloader U) (success : Bool) (size : Nat) : Posted U → URLDownloader U
  | .deletePath url => d.deleteCompletionHandler url success
  | .pathExists url => d.downloadURL url success
  | .savePDF pdfUrl page =>
    (d.saveFile success size).downloadCompletionHandler pdfUrl "" (some page) (saveState success)
  | .saveHTML pageUrl title =>
    (d.saveFile success size).downloadCompletionHandler pageUrl title
      (some ⟨pageUrl, .html⟩) (saveState success)
  | .cleanUp url title path => d.endDownload url title path .error

/-! ## Taking the next task -/

theorem handleNextTask_working {d : URLDownloader U} (h : d.working = true) :
    d.handleNextTask = d := by
  unfold handleNextTask
  rw [if_pos h]

theorem handleNextTask_nil {d : URLDownloader U} (h : d.tasks = []) : d.handleNextTask = d := by
  unfold handleNextTask
  simp only [h, ite_self]

theorem handleNextTask_cons {d : URLDownloader U} {task : Task U} {rest : List (Task U)}
    (hw : d.working = false) (h : d.tasks = task :: rest) :
    d.handleNextTask = { d with
      working := true, tasks := rest, begun := d.begun ++ [task]
      posted := d.posted ++ [task.operation] } := by
  unfold handleNextTask
  simp only [hw, h, Bool.false_eq_true, if_false]
  rfl

@[simp] theorem handleNextTask_completions (d : URLDownloader U) :
    d.handleNextTask.completions = d.completions := by
  unfold handleNextTask
  split
  · rfl
  · split <;> rfl

/-- **The queue loses nothing to `handleNextTask`**: what leaves it is taken. -/
@[simp] theorem handleNextTask_queue (d : URLDownloader U) :
    d.handleNextTask.begun ++ d.handleNextTask.tasks = d.begun ++ d.tasks := by
  unfold handleNextTask
  split
  · rfl
  · split
    · rfl
    · next htasks =>
      rw [htasks]
      exact List.append_assoc _ _ _

end URLDownloader

/-- The calls of the owner, and the results of what the downloader waits for.
The background tasks run in sequence, so it is the first one that replies. -/
inductive DownloaderCall (U : Type) where
  | downloadOfflineURL (url : U)
  | removeOfflineURL (url : U)
  | cancelDownloadOfflineURL (url : U)
  | cancelTask
  | replied (success : Bool) (size : Nat)
  | redirectedTo (redirectedUrl : U)
  | hasMimeType (mimeType : String)
  | distilled (html title : String)
  | urlLoadComplete (responsePathEmpty : Bool) (mimeType : String)
  deriving DecidableEq

namespace URLDownloader

variable [DecidableEq U] (isValid : U → Bool)

def step (d : URLDownloader U) : DownloaderCall U → URLDownloader U
  | .downloadOfflineURL url => d.downloadOfflineURL url
  | .removeOfflineURL url => d.removeOfflineURL url
  | .cancelDownloadOfflineURL url => d.cancelDownloadOfflineURL url
  | .cancelTask => d.cancelTask
  | .replied success size =>
    match d.posted with
    | [] => d
    | operation :: rest => reply { d with posted := rest } success size operation
  | .redirectedTo redirectedUrl => d.distilledPageRedirectedToURL redirectedUrl
  | .hasMimeType mimeType => d.distilledPageHasMimeType mimeType
  | .distilled html title =>
    match d.distilling with
    | none => d
    | some pageUrl => distillerCallback isValid { d with distilling := none } pageUrl html title
  | .urlLoadComplete responsePathEmpty mimeType =>
    match d.loading with
    | none => d
    | some pdfUrl =>
      onURLLoadComplete { d with loading := none } pdfUrl responsePathEmpty mimeType

theorem step_replied {d : URLDownloader U} {operation : Posted U} {rest : List (Posted U)}
    (h : d.posted = operation :: rest) (success : Bool) (size : Nat) :
    d.step isValid (.replied success size) =
      reply { d with posted := rest } success size operation := by
  unfold step
  simp only [h]

theorem step_distilled {d : URLDownloader U} {pageUrl : U} (h : d.distilling = some pageUrl)
    (html title : String) : d.step isValid (.distilled html title) =
      distillerCallback isValid { d with distilling := none } pageUrl html title := by
  unfold step
  simp only [h]

theorem step_urlLoadComplete {d : URLDownloader U} {pdfUrl : U} (h : d.loading = some pdfUrl)
    (responsePathEmpty : Bool) (mimeType : String) :
    d.step isValid (.urlLoadComplete responsePathEmpty mimeType) =
      onURLLoadComplete { d with loading := none } pdfUrl responsePathEmpty mimeType := by
  unfold step
  simp only [h]

/-- A result arrives only from what the downloader waits for, and redirects and
mime types only while the page is distilled. -/
def Pre (d : URLDownloader U) : DownloaderCall U → Prop
  | .downloadOfflineURL _ | .removeOfflineURL _ | .cancelDownloadOfflineURL _ | .cancelTask => True
  | .replied _ _ => d.posted ≠ []
  | .redirectedTo _ | .hasMimeType _ | .distilled _ _ => d.distilling ≠ none
  | .urlLoadComplete _ _ => d.loading ≠ none

instance (d : URLDownloader U) (call : DownloaderCall U) : Decidable (d.Pre call) := by
  cases call <;> unfold Pre <;> infer_instance

end URLDownloader

end IosChrome.ReadingList

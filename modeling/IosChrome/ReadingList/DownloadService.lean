import IosChrome.Lib.Keyed
import IosChrome.Lib.Machine
import IosChrome.ReadingList.AtWork

/-!
# The download service of the reading list

`ReadingListDownloadService` watches the reading list model and keeps offline
versions of its unread entries with a `URLDownloader`. An entry goes from one
keeper to the next: a delayed task, when it is added or moved; the queue of the
downloader, when the task finds a connection; one of two waiting lists, when it
does not; and `OnDownloadEnd`, which writes the outcome back to the model.

The entries are the model's own: their state, their failure counter and whether
they are read. `ReadingListEntry` is not part of this repository, so what it
does to its counter is a parameter (`FailureCounter`).

What runs on the background sequence runs at some moment and replies at a later
one (`ran`). The directories are the ones of URLs; the digests that name them
are taken to differ.
-/

namespace IosChrome.ReadingList

open IosChrome.Lib

/-- `ReadingListEntry::DistillationState`. -/
inductive DistillationState where
  | waiting
  | processing
  | processed
  | willRetry
  | distillationError
  deriving DecidableEq

structure ReadingListEntry (U : Type) where
  url : U
  isRead : Bool
  distilledState : DistillationState
  failedDownloadCounter : Nat
  deriving DecidableEq

/-- `network::mojom::ConnectionType`, as far as it is told apart. -/
inductive ConnectionType where
  | connectionNone
  | connectionWifi
  | connectionOther
  deriving DecidableEq

def kNumberOfFailsBeforeWifiOnly : Nat := 5
def kNumberOfFailsBeforeStop : Nat := 7

/-- The failure counter of an entry after `SetDistilledState` and after
`SetDistilledInfo`. -/
structure FailureCounter (U : Type) where
  afterState : ReadingListEntry U → DistillationState → Nat
  afterInfo : ReadingListEntry U → Nat

variable {U : Type}

/-- The counter of an entry whose failures in a row count once. -/
def DownloadService.countFailures (U : Type) : FailureCounter U where
  afterState entry state :=
    if (state = .willRetry ∨ state = .distillationError) ∧
        entry.distilledState ≠ .willRetry ∧ entry.distilledState ≠ .distillationError then
      entry.failedDownloadCounter + 1
    else entry.failedDownloadCounter
  afterInfo _ := 0

/-- Nothing is downloaded for such an entry. -/
def ReadingListEntry.isSettled (entry : ReadingListEntry U) : Bool :=
  entry.distilledState = .distillationError ∨ entry.distilledState = .processed

/-- The service, the model it watches, and what both have outstanding. -/
structure DownloadService (U : Type) where
  entries : List (ReadingListEntry U)
  downloader : URLDownloader U
  urlToDownloadCellular : List U
  urlToDownloadWifi : List U
  hadConnection : Bool
  /-- The posted `DownloadEntry` tasks. -/
  delayed : List U
  /-- The directories to keep, until `CleanUpFiles` has run. -/
  processedDirectories : Option (List U)
  /-- What `DownloadUnprocessedEntries` is bound to, until it has run. -/
  unprocessedEntries : List U
  /-- The URLs that have an offline directory. -/
  disk : List U
  /-- What the background task in front has returned, once it has run. -/
  ran : Option (Bool × Nat)
  deriving DecidableEq

namespace DownloadService

section

variable [DecidableEq U]

def getEntryByURL (s : DownloadService U) (url : U) : Option (ReadingListEntry U) :=
  Keyed.lookup ReadingListEntry.url s.entries url

/-- A setter of `ReadingListModel`: nothing happens without an entry. -/
def updateEntry (s : DownloadService U) (url : U)
    (update : ReadingListEntry U → ReadingListEntry U) : DownloadService U :=
  { s with entries := s.entries.map fun entry => if entry.url = url then update entry else entry }

variable (counter : FailureCounter U)

def setEntryDistilledState (s : DownloadService U) (url : U) (state : DistillationState) :
    DownloadService U :=
  s.updateEntry url fun entry =>
    { entry with
      distilledState := state, failedDownloadCounter := counter.afterState entry state }

def setEntryDistilledInfo (s : DownloadService U) (url : U) : DownloadService U :=
  s.updateEntry url fun entry =>
    { entry with
      distilledState := .processed, failedDownloadCounter := counter.afterInfo entry }

/-! ## The service -/

def scheduleDownloadEntry (s : DownloadService U) (url : U) : DownloadService U :=
  match s.getEntryByURL url with
  | none => s
  | some entry =>
    if entry.isSettled ∨ entry.isRead then s else { s with delayed := s.delayed ++ [url] }

def processNewEntry (s : DownloadService U) (url : U) : DownloadService U :=
  match s.getEntryByURL url with
  | none => { s with downloader := s.downloader.cancelDownloadOfflineURL url }
  | some entry =>
    if entry.isRead then { s with downloader := s.downloader.cancelDownloadOfflineURL url }
    else s.scheduleDownloadEntry url

/-- The download of an entry starts. -/
def startDownload (s : DownloadService U) (url : U) : DownloadService U :=
  let s := s.setEntryDistilledState counter url .processing
  { s with downloader := s.downloader.downloadOfflineURL url }

/-- `offline` is what the connection is, and `wifi` whether it is known to be
one. -/
def downloadUnsettled (s : DownloadService U) (entry : ReadingListEntry U)
    (offline wifi : Bool) : DownloadService U :=
  if offline then
    { s with
      urlToDownloadCellular :=
        if entry.failedDownloadCounter < kNumberOfFailsBeforeWifiOnly then
          s.urlToDownloadCellular ++ [entry.url]
        else s.urlToDownloadCellular
      urlToDownloadWifi :=
        if entry.failedDownloadCounter < kNumberOfFailsBeforeStop then
          s.urlToDownloadWifi ++ [entry.url]
        else s.urlToDownloadWifi }
  else if entry.failedDownloadCounter < kNumberOfFailsBeforeWifiOnly then
    s.startDownload counter entry.url
  else if entry.failedDownloadCounter < kNumberOfFailsBeforeStop then
    if wifi then s.startDownload counter entry.url
    else { s with urlToDownloadWifi := s.urlToDownloadWifi ++ [entry.url] }
  else s

def downloadEntry (s : DownloadService U) (url : U) (offline wifi : Bool) : DownloadService U :=
  match s.getEntryByURL url with
  | none => s
  | some entry =>
    if entry.isSettled ∨ entry.isRead then s else s.downloadUnsettled counter entry offline wifi

/-- The `ERROR` branch of `OnDownloadEnd`. -/
def downloadFailed (s : DownloadService U) (url : U) : DownloadService U :=
  match s.getEntryByURL url with
  | none => s.setEntryDistilledState counter url .distillationError
  | some entry =>
    if entry.failedDownloadCounter + 1 < kNumberOfFailsBeforeStop then
      (s.setEntryDistilledState counter url .willRetry).scheduleDownloadEntry url
    else s.setEntryDistilledState counter url .distillationError

def onDownloadEnd (s : DownloadService U) (url : U) (success : SuccessState)
    (distilledPath : Option (OfflinePage U)) : DownloadService U :=
  let realSuccessValue := if distilledPath.isNone then .error else success
  match realSuccessValue with
  | .downloadSuccess | .downloadExists => s.setEntryDistilledInfo counter url
  | .error => s.downloadFailed counter url

def onConnectionChanged (s : DownloadService U) (type : ConnectionType) : DownloadService U :=
  if type = .connectionNone then { s with hadConnection := false }
  else
    let s :=
      if s.hadConnection then s
      else s.urlToDownloadCellular.foldl scheduleDownloadEntry { s with hadConnection := true }
    if type = .connectionWifi then s.urlToDownloadWifi.foldl scheduleDownloadEntry s else s

/-- The downloader moves on, and its callbacks are run. -/
def onCompletion (s : DownloadService U) : Completion U → DownloadService U
  | .download url _ success path _ _ => s.onDownloadEnd counter url success path
  | .delete _ _ => s

def downloaderStep (isValid : U → Bool) (s : DownloadService U) (call : DownloaderCall U) :
    DownloadService U :=
  let downloader := s.downloader.step isValid call
  (downloader.completions.drop s.downloader.completions.length).foldl (onCompletion counter)
    { s with downloader := downloader }

/-- The service once the model has loaded: `SyncWithModel`. -/
def syncWithModel (s : DownloadService U) : DownloadService U :=
  { s with
    processedDirectories :=
      some ((s.entries.filter fun entry => entry.distilledState = .processed).map
        ReadingListEntry.url)
    unprocessedEntries := (s.entries.filter fun entry => ¬ entry.isSettled).map
      ReadingListEntry.url }

end

/-- What a background task does to the disk. Of a file that is not saved the
directory may be there all the same. -/
def runOnDisk [DecidableEq U] (disk : List U) (success directoryCreated : Bool) :
    Posted U → List U
  | .pathExists _ => disk
  | .deletePath url | .cleanUp url _ _ => if success then disk.filter (· ≠ url) else disk
  | .savePDF _ page => if directoryCreated then page.url :: disk else disk
  | .saveHTML pageUrl _ => if directoryCreated then pageUrl :: disk else disk

end DownloadService

/-- What happens to the service: the model changes, a delayed task is due, the
connection changes, a background task runs, or a result comes back to the
downloader. -/
inductive ServiceCall (U : Type) where
  | addEntry (entry : ReadingListEntry U)
  | moveEntry (url : U) (isRead : Bool)
  | removeEntry (url : U)
  | downloadEntry (url : U) (offline wifi : Bool)
  | connectionChanged (type : ConnectionType)
  | cleanUpFiles
  | downloadUnprocessedEntries
  | backgroundRan (success : Bool) (size : Nat) (directoryCreated : Bool)
  | result (call : DownloaderCall U)
  deriving DecidableEq

namespace DownloadService

variable [DecidableEq U] (isValid : U → Bool) (counter : FailureCounter U)

def step (s : DownloadService U) : ServiceCall U → DownloadService U
  | .addEntry entry => { s with entries := s.entries ++ [entry] }.processNewEntry entry.url
  | .moveEntry url isRead =>
    (s.updateEntry url fun entry => { entry with isRead := isRead }).processNewEntry url
  | .removeEntry url =>
    { s with
      downloader := s.downloader.removeOfflineURL url
      entries := Keyed.remove ReadingListEntry.url s.entries url }
  | .downloadEntry url offline wifi =>
    downloadEntry counter { s with delayed := s.delayed.erase url } url offline wifi
  | .connectionChanged type => s.onConnectionChanged type
  | .cleanUpFiles =>
    { s with
      disk := s.disk.filter fun url => url ∈ s.processedDirectories.getD []
      processedDirectories := none }
  | .downloadUnprocessedEntries =>
    s.unprocessedEntries.foldl scheduleDownloadEntry { s with unprocessedEntries := [] }
  | .backgroundRan success size directoryCreated =>
    match s.downloader.posted with
    | [] => s
    | operation :: _ =>
      { s with
        disk := runOnDisk s.disk success directoryCreated operation
        ran := some (success, size) }
  | .result call => { s with ran := none }.downloaderStep counter isValid call

/-- What a background task can return. A path exists if it is on the disk, and a
saved file has a directory. -/
def CanReturn (disk : List U) (success directoryCreated : Bool) : Posted U → Prop
  | .pathExists url => success = decide (url ∈ disk)
  | .savePDF _ _ | .saveHTML _ _ => success = true → directoryCreated = true
  | .deletePath _ | .cleanUp _ _ _ => True

instance (disk : List U) (success directoryCreated : Bool) (operation : Posted U) :
    Decidable (CanReturn disk success directoryCreated operation) := by
  cases operation <;> unfold CanReturn <;> infer_instance

/-- An entry is added where there is none, and is new to this device; one that
is moved or removed is there; a delayed task has been posted; a background task
runs once and then replies. -/
def Pre (s : DownloadService U) : ServiceCall U → Prop
  | .addEntry entry => s.getEntryByURL entry.url = none ∧ entry.distilledState = .waiting ∧
      entry.failedDownloadCounter = 0
  | .moveEntry url _ | .removeEntry url => s.getEntryByURL url ≠ none
  | .downloadEntry url _ _ => url ∈ s.delayed
  | .connectionChanged _ => True
  | .cleanUpFiles => s.processedDirectories ≠ none
  | .downloadUnprocessedEntries => s.processedDirectories = none
  | .backgroundRan success _ directoryCreated => s.ran = none ∧ s.downloader.posted ≠ [] ∧
      ∀ operation ∈ s.downloader.posted.head?,
        CanReturn s.disk success directoryCreated operation
  | .result (.replied success size) => s.ran = some (success, size) ∧
      s.downloader.Pre (.replied success size)
  | .result call => call.comesBack = true ∧ s.downloader.Pre call

end DownloadService

end IosChrome.ReadingList

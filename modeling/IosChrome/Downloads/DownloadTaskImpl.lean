import IosChrome.Lib.Machine

/-!
# Download tasks

`DownloadTaskImpl` downloads its URL into the writer of the last `Start`. It asks for
the cookies first and makes a session task when they come; a `data:` URL is written at
once. The blocks it has given to the session act on the members as they find them,
whichever session task they are called for.

The session, the cookie store and the writers are outside. They take part by what is
under way: cookies not yet delivered, session tasks not yet completed, calls of `Finish`
not yet answered. Each `Start` has a number, and what is under way keeps the number it
belongs to; the task does not.
-/

namespace IosChrome.Downloads

open IosChrome.Lib

abbrev Bytes := List UInt8

/-! ## Results of the writers -/

/-- `net::ERR_IO_PENDING`: the call is answered later. -/
def errIOPending : Int := -1

/-- `net::ERR_FAILED` -/
def errFailed : Int := -2

/-- `net::ERR_INVALID_URL` -/
def errInvalidURL : Int := -300

/-- One call of `Write`: the `Start` its data belongs to, and its result once it has
one. -/
structure WriteCall where
  attempt : Nat
  chunk : Bytes
  result : Option Int
  deriving DecidableEq

/-- A response writer that was given to `Start`, with the calls it has got. -/
structure Writer where
  /-- Whether `AsFileWriter` returns it. -/
  isFile : Bool
  writes : List WriteCall
  /-- The result of `Finish`. -/
  finished : Option Int
  disowned : Bool
  deriving DecidableEq

namespace WriteCall

/-- What a writer has taken: the first `result` bytes, and nothing with an error. -/
def accepted (w : WriteCall) : Bytes := w.chunk.take (w.result.getD 0).toNat

/-- The call has an answer by which the whole chunk was taken. -/
def whole (w : WriteCall) : Bool := w.chunk.length ≤ (w.result.getD 0).toNat

def complete (w : WriteCall) (result : Int) : WriteCall :=
  if w.result.isNone then { w with result := some result } else w

end WriteCall

namespace Writer

def accepted (w : Writer) : Bytes := w.writes.flatMap WriteCall.accepted

/-- `Write` with an answer at once, or `errIOPending`. -/
def write (w : Writer) (attempt : Nat) (chunk : Bytes) (written : Int) : Writer :=
  let result : Option Int := if written = errIOPending then none else some written
  { w with writes := w.writes ++ [{ attempt, chunk, result }] }

def isWriting (w : Writer) : Bool := w.writes.any fun call => call.result.isNone

/-- The pending `Write` is answered. -/
def writeCompletes (w : Writer) (result : Int) : Writer :=
  { w with writes := w.writes.map fun call => call.complete result }

def finish (w : Writer) (result : Int) : Writer := { w with finished := some result }

/-- `DisownFile` of a file writer. -/
def disownFile (w : Writer) : Writer := if w.isFile then { w with disowned := true } else w

end Writer

/-! ## The task -/

inductive State where
  | notStarted
  | inProgress
  | cancelled
  | complete
  deriving DecidableEq

/-- The URL, with what `net::DataURL::Parse` makes of a `data:` URL: its MIME type and
its data. -/
inductive OriginalUrl where
  | data (parsed : Option (String × Bytes))
  | other
  deriving DecidableEq

/-- A data task of the session. -/
structure SessionTask where
  attempt : Nat
  canceled : Bool
  completed : Bool
  deriving DecidableEq

def SessionTask.running (t : SessionTask) : Bool := !t.canceled && !t.completed

/-- A call of `Finish` that has not been answered: the `Start` for whose session task it
was made, and the one that gave the writer. -/
structure PendingFinish where
  attempt : Nat
  writer : Nat
  deriving DecidableEq

structure DownloadTaskImpl where
  originalUrl : OriginalUrl
  state : State
  errorCode : Int
  httpCode : Int
  totalBytes : Int
  receivedBytes : Int
  percentComplete : Int
  mimeType : String
  writer : Option Writer
  hasSession : Bool
  hasDelegate : Bool
  sessionTask : Option Nat
  /-- A session was asked of a delegate that is gone. -/
  fault : Bool
  /-- The calls of `Start` so far. -/
  attempt : Nat
  /-- The bytes handed to the blocks since then. -/
  received : Bytes
  pendingCookies : List Nat
  sessionTasks : List SessionTask
  pendingFinishes : List PendingFinish
  deriving DecidableEq

/-- What the blocks read from a session task. -/
structure TaskProperties where
  countOfBytesReceived : Int
  countOfBytesExpectedToReceive : Int
  mimeType : Option String
  statusCode : Option Int
  deriving DecidableEq

/-- No error, or the net error code that an error is translated to. -/
def getNetErrorCodeFromNSError : Option (Option Int) → Int
  | none => 0
  | some translated => translated.getD errFailed

/-- The source divides in floating point and rounds towards zero. -/
def getTaskPercentComplete (p : TaskProperties) : Int :=
  if p.countOfBytesExpectedToReceive = 0 then 100
  else if p.countOfBytesExpectedToReceive = -1 then -1
  else (100 * p.countOfBytesReceived).tdiv p.countOfBytesExpectedToReceive

namespace DownloadTaskImpl

def modifyWriter (d : DownloadTaskImpl) (f : Writer → Writer) : DownloadTaskImpl :=
  { d with writer := d.writer.map f }

def onDownloadFinished (d : DownloadTaskImpl) (errorCode : Int) : DownloadTaskImpl :=
  { d.modifyWriter Writer.disownFile with errorCode, state := .complete, sessionTask := none }

/-- `Finish` with its answer, for a session task of the `Start` with the number `attempt`;
`errorCode` is what `OnDownloadFinished` is called with. -/
def finishWriter (d : DownloadTaskImpl) (attempt : Nat) (errorCode finished : Int) :
    DownloadTaskImpl :=
  if finished = errIOPending then
    { d with pendingFinishes := d.pendingFinishes ++ [{ attempt, writer := d.attempt }] }
  else (d.modifyWriter (Writer.finish · finished)).onDownloadFinished errorCode

def onDataUrlWritten (d : DownloadTaskImpl) (bytesWritten finished : Int) : DownloadTaskImpl :=
  { d with percentComplete := 100, totalBytes := bytesWritten,
           receivedBytes := bytesWritten }.finishWriter d.attempt 0 finished

def startDataUrlParsing (d : DownloadTaskImpl) (parsed : Option (String × Bytes))
    (written finished : Int) : DownloadTaskImpl :=
  match parsed with
  | none => { d with mimeType := "" }.onDownloadFinished errInvalidURL
  | some (mimeType, data) =>
    let writing : DownloadTaskImpl :=
      { d.modifyWriter (Writer.write · d.attempt data written) with mimeType, received := data }
    if written = errIOPending then writing
    else writing.onDataUrlWritten written finished

/-- `written` and `finished` are the answers of the writer, for a `data:` URL. -/
def start (d : DownloadTaskImpl) (isFile : Bool) (written finished : Int) : DownloadTaskImpl :=
  let started : DownloadTaskImpl :=
    { d with
      writer := some { isFile, writes := [], finished := none, disowned := false },
      percentComplete := 0, receivedBytes := 0, state := .inProgress,
      attempt := d.attempt + 1, received := [] }
  match d.originalUrl with
  | .data parsed => started.startDataUrlParsing parsed written finished
  | .other => { started with pendingCookies := d.pendingCookies ++ [d.attempt + 1] }

/-- `[session_task_ cancel]`, and `session_task_` is forgotten. -/
def cancelSessionTask (d : DownloadTaskImpl) : DownloadTaskImpl :=
  match d.sessionTask with
  | none => d
  | some task =>
    { d with
      sessionTasks := d.sessionTasks.modify task fun t => { t with canceled := true },
      sessionTask := none }

def cancel (d : DownloadTaskImpl) : DownloadTaskImpl :=
  { d.cancelSessionTask with state := .cancelled }

def shutDown (d : DownloadTaskImpl) : DownloadTaskImpl :=
  { d.cancelSessionTask with hasDelegate := false }

/-- The cookies asked for by the `Start` with this number have come. -/
def startWithCookies (d : DownloadTaskImpl) (attempt : Nat) : DownloadTaskImpl :=
  let delivered : DownloadTaskImpl := { d with pendingCookies := d.pendingCookies.erase attempt }
  if d.hasSession || d.hasDelegate then
    { delivered with
      hasSession := true,
      sessionTasks := d.sessionTasks ++ [{ attempt, canceled := false, completed := false }],
      sessionTask := some d.sessionTasks.length }
  else { delivered with fault := true }

/-- `dataBlock`: the result of `Write` is not looked at. -/
def dataBlock (d : DownloadTaskImpl) (attempt : Nat) (chunk : Bytes) (written : Int) :
    DownloadTaskImpl :=
  { d.modifyWriter (Writer.write · attempt chunk written) with received := d.received ++ chunk }

/-- The first part of `propertiesBlock`. -/
def updateProperties (d : DownloadTaskImpl) (p : TaskProperties) (error : Option (Option Int)) :
    DownloadTaskImpl :=
  { d with
    errorCode := getNetErrorCodeFromNSError error,
    percentComplete := getTaskPercentComplete p,
    receivedBytes := p.countOfBytesReceived,
    totalBytes :=
      if d.totalBytes = -1 ∨ p.countOfBytesExpectedToReceive ≠ 0 then
        p.countOfBytesExpectedToReceive
      else d.totalBytes,
    mimeType := p.mimeType.getD d.mimeType,
    httpCode := p.statusCode.getD d.httpCode }

/-- `didCompleteWithError`: the terminal call of `propertiesBlock` for a session task. -/
def didComplete (d : DownloadTaskImpl) (task attempt : Nat) (p : TaskProperties)
    (error : Option (Option Int)) (finished : Int) : DownloadTaskImpl :=
  let updated : DownloadTaskImpl :=
    { d with
      sessionTasks := d.sessionTasks.modify task fun t => { t with completed := true }
      }.updateProperties p error
  updated.finishWriter attempt updated.errorCode finished

/-- The writer of the `Start` with this number answers a pending `Write`. The writer of an
earlier `Start` is gone, and nothing of the task hangs on its answers. -/
def writeCompletes (d : DownloadTaskImpl) (attempt : Nat) (written finished : Int) :
    DownloadTaskImpl :=
  if attempt ≠ d.attempt then d
  else
    let answered : DownloadTaskImpl := d.modifyWriter (Writer.writeCompletes · written)
    match d.originalUrl with
    | .data _ => answered.onDataUrlWritten written finished
    | .other => answered

/-- A pending `Finish` is answered. -/
def finishCompletes (d : DownloadTaskImpl) (finish : PendingFinish) (errorCode : Int) :
    DownloadTaskImpl :=
  let answered : DownloadTaskImpl :=
    if finish.writer = d.attempt then d.modifyWriter (Writer.finish · errorCode) else d
  { answered with pendingFinishes := d.pendingFinishes.erase finish
    }.onDownloadFinished errorCode

def create (originalUrl : OriginalUrl) (totalBytes : Int) (mimeType : String) :
    DownloadTaskImpl :=
  { originalUrl, state := .notStarted, errorCode := 0, httpCode := -1, totalBytes,
    receivedBytes := 0, percentComplete := -1, mimeType, writer := none, hasSession := false,
    hasDelegate := true, sessionTask := none, fault := false, attempt := 0, received := [],
    pendingCookies := [], sessionTasks := [], pendingFinishes := [] }

end DownloadTaskImpl

/-! ## Runs -/

/-- What happens to a task: the calls of its owner, and what was under way comes back. The
answers that the writer gives meanwhile come with it. -/
inductive DownloadEvent where
  | start (isFile : Bool) (written finished : Int)
  | cancel
  | shutDown
  | cookies (attempt : Nat)
  | data (task : Nat) (chunk : Bytes) (written : Int)
  | properties (task : Nat) (p : TaskProperties)
  | completion (task : Nat) (p : TaskProperties) (error : Option (Option Int)) (finished : Int)
  | writeCompletes (attempt : Nat) (written finished : Int)
  | finishCompletes (finish : PendingFinish) (errorCode : Int)
  deriving DecidableEq

def DownloadEvent.IsStart : DownloadEvent → Prop
  | .start _ _ _ => True
  | _ => False

namespace DownloadTaskImpl

/-- The `Start` a session task belongs to. -/
def attemptOf (d : DownloadTaskImpl) (task : Nat) : Nat :=
  (d.sessionTasks[task]?.map SessionTask.attempt).getD 0

def step (d : DownloadTaskImpl) : DownloadEvent → DownloadTaskImpl
  | .start isFile written finished => d.start isFile written finished
  | .cancel => d.cancel
  | .shutDown => d.shutDown
  | .cookies attempt => d.startWithCookies attempt
  | .data task chunk written => d.dataBlock (d.attemptOf task) chunk written
  | .properties _ p => d.updateProperties p none
  | .completion task p error finished => d.didComplete task (d.attemptOf task) p error finished
  | .writeCompletes attempt written finished => d.writeCompletes attempt written finished
  | .finishCompletes finish errorCode => d.finishCompletes finish errorCode

/-- The session task has not been completed, so that its delegate may be called. -/
def IsOpen (d : DownloadTaskImpl) (task : Nat) : Prop :=
  (d.sessionTasks[task]?.map SessionTask.completed) = some false

/-- The queue of the session is blocked while the writer writes. -/
def IsWriting (d : DownloadTaskImpl) : Prop := d.writer.any Writer.isWriting = true

/-- `Start` is not called while the task is in progress. What comes back was under way, and
a session task delivers nothing after its completion. -/
def Pre (d : DownloadTaskImpl) : DownloadEvent → Prop
  | .start _ _ _ => d.state ≠ .inProgress
  | .cancel => True
  | .shutDown => True
  | .cookies attempt => attempt ∈ d.pendingCookies
  | .data task _ _ => d.IsOpen task ∧ ¬ d.IsWriting
  | .properties task _ => d.IsOpen task ∧ ¬ d.IsWriting
  | .completion task _ _ _ => d.IsOpen task ∧ ¬ d.IsWriting
  | .writeCompletes attempt _ _ => attempt < d.attempt ∨ (attempt = d.attempt ∧ d.IsWriting)
  | .finishCompletes finish _ => finish ∈ d.pendingFinishes

instance (d : DownloadTaskImpl) (task : Nat) : Decidable (d.IsOpen task) :=
  inferInstanceAs (Decidable (_ = _))

instance (d : DownloadTaskImpl) : Decidable d.IsWriting := inferInstanceAs (Decidable (_ = _))

instance (d : DownloadTaskImpl) : ∀ event, Decidable (d.Pre event) := by
  intro event
  unfold Pre
  cases event <;> infer_instance

end DownloadTaskImpl

def downloadMachine : Machine DownloadTaskImpl DownloadEvent :=
  { init := fun d => ∃ originalUrl totalBytes mimeType, d = .create originalUrl totalBytes mimeType,
    pre := DownloadTaskImpl.Pre, step := DownloadTaskImpl.step }

instance (d : DownloadTaskImpl) (event : DownloadEvent) :
    Decidable (downloadMachine.pre d event) :=
  inferInstanceAs (Decidable (d.Pre event))

end IosChrome.Downloads

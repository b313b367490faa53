import IosChrome.Net.HttpProtocolHandlerCore

/-!
# ChunkedDataStreamUploader

The uploader stands between the network layer, which asks for the bytes of a body with `Read`,
and a delegate that gets them bit by bit and says so with `UploadWhenReady`. Either may come
first. A read that finds nothing stays pending, and is completed later by `OnReadCompleted`.

`UploadDataStream`, the base class, is not under this repository. The model has of it what the
uploader depends on: `Read` calls `ReadInternal` and keeps a callback when the answer is
`ERR_IO_PENDING`, and `OnReadCompleted` runs that callback. The delegate gives any number of
the bytes it has, as many as fit into the buffer. A stream that failed gives none, which is how
`Upload` takes the failure.

In the model of the whole core (`HttpProtocolHandlerCore`) the same uploader is a member of the
request. Here it is driven by any calls.
-/

namespace IosChrome.Net

/-- A read that was answered: by `Read` itself or by `OnReadCompleted`, with the bytes the
network layer finds in its buffer. -/
structure ReadCompletion where
  read : Nat
  result : Int
  data : List UInt8
  deriving DecidableEq

/-- The uploader between its delegate and the network layer. -/
structure ChunkedUpload where
  uploader : ChunkedDataStreamUploader
  /-- All bytes that reached the delegate. -/
  body : List UInt8
  /-- Those it still has. -/
  unread : List UInt8
  /-- What was written to the network layer's buffer. -/
  buffer : List UInt8
  reads : Nat
  /-- The read whose callback the network layer keeps. -/
  callback : Option Nat
  completions : List ReadCompletion
  /-- `OnReadCompleted` was called and there was no callback. -/
  spurious : Bool
  /-- `UploadWhenReady(true)` has been called. -/
  announced : Bool
  deriving DecidableEq

namespace ChunkedUpload

def initial : ChunkedUpload where
  uploader :=
    { pendingReadBuffer := none
      pendingInternalRead := false
      isFinalChunk := false
      isFrontOfStream := true
      isEOF := false }
  body := []
  unread := []
  buffer := []
  reads := 0
  callback := none
  completions := []
  spurious := false
  announced := false

variable (s : ChunkedUpload)

/-- A stream is not rewound. -/
def initInternal : Int :=
  if s.uploader.isFrontOfStream then netOK else errFailed

/-- The bytes that `OnRead` gives when it decides for `give` of them. -/
def chunk (bufferLength give : Nat) : List UInt8 :=
  s.unread.take (min bufferLength give)

def onRead (bufferLength give : Nat) : ChunkedUpload × Int :=
  let data := s.chunk bufferLength give
  ({ s with
      unread := s.unread.drop data.length
      buffer := data ++ s.buffer.drop data.length },
    data.length)

/-- The network layer takes the first `result` bytes of its buffer. -/
def complete (read : Nat) (result : Int) : ChunkedUpload :=
  { s with completions := s.completions ++ [⟨read, result, s.buffer.take result.toNat⟩] }

def onReadCompleted (result : Int) : ChunkedUpload :=
  match s.callback with
  | some read => { s with callback := none }.complete read result
  | none => { s with spurious := true }

/-- The end of `Upload`, once there is an answer. -/
def uploadCompleted (bytesRead : Int) : ChunkedUpload × Int :=
  let s := { s with uploader.pendingReadBuffer := none }
  if s.uploader.pendingInternalRead then
    ({ s with uploader.pendingInternalRead := false }.onReadCompleted bytesRead, bytesRead)
  else (s, bytesRead)

def upload (give : Nat) : ChunkedUpload × Int :=
  let s := { s with uploader.isFrontOfStream := false }
  if s.uploader.isFinalChunk then { s with uploader.isEOF := true }.uploadCompleted 0
  else
    let (s, bytesRead) := s.onRead (s.uploader.pendingReadBuffer.getD 0) give
    if bytesRead ≤ 0 then ({ s with uploader.pendingInternalRead := true }, errIOPending)
    else s.uploadCompleted bytesRead

def readInternal (bufferLength give : Nat) : ChunkedUpload × Int :=
  { s with uploader.pendingReadBuffer := some bufferLength }.upload give

/-- `Read` of the base class, with a buffer of its own. -/
def read (bufferLength give : Nat) : ChunkedUpload :=
  let (s, result) := { s with buffer := [], reads := s.reads + 1 }.readInternal bufferLength give
  if result = errIOPending then { s with callback := some (s.reads - 1) }
  else s.complete (s.reads - 1) result

def resetInternal : ChunkedUpload :=
  { s with
    uploader.pendingReadBuffer := none
    uploader.pendingInternalRead := false
    uploader.isFinalChunk := false }

def uploadWhenReady (isFinalChunk : Bool) (give : Nat) : ChunkedUpload :=
  let s := { s with
    uploader.isFinalChunk := isFinalChunk
    announced := s.announced || isFinalChunk }
  if s.uploader.pendingInternalRead then (s.upload give).1 else s

inductive Call where
  | initInternal
  | readInternal (bufferLength give : Nat)
  | uploadWhenReady (isFinalChunk : Bool) (give : Nat)
  | resetInternal
  /-- The delegate gets more of the body. -/
  | bytesArrive (data : List UInt8)
  deriving DecidableEq

def step : Call → ChunkedUpload
  | .initInternal => s
  | .readInternal bufferLength give => s.read bufferLength give
  | .uploadWhenReady isFinalChunk give => s.uploadWhenReady isFinalChunk give
  | .resetInternal => s.resetInternal
  | .bytesArrive data => { s with body := s.body ++ data, unread := s.unread ++ data }

/-- One read at a time, and no reset once one was made. -/
def Pre : Call → Prop
  | .readInternal bufferLength _ => s.callback = none ∧ 0 < bufferLength
  | .resetInternal => s.reads = 0
  | _ => True

instance (call : Call) : Decidable (s.Pre call) := by
  unfold Pre
  cases call <;> infer_instance

def machine : Lib.Machine ChunkedUpload Call where
  init s := s = initial
  pre := Pre
  step := step

instance (s : ChunkedUpload) (call : Call) : Decidable (machine.pre s call) :=
  inferInstanceAs (Decidable (s.Pre call))

/-! ## What an upload does -/

variable {s : ChunkedUpload}

/-- An answer leaves no read pending: the one whose callback was kept is completed. -/
theorem uploadCompleted_pending {n : Nat} (hcallback : s.callback = some n)
    (hpending : s.uploader.pendingInternalRead = true) (bytesRead : Int) :
    (s.uploadCompleted bytesRead).1 =
      { s with
        uploader.pendingReadBuffer := none
        uploader.pendingInternalRead := false
        callback := none
        completions := s.completions ++ [⟨n, bytesRead, s.buffer.take bytesRead.toNat⟩] } := by
  simp only [uploadCompleted, hpending, if_true, onReadCompleted, hcallback, complete]

theorem uploadCompleted_atOnce (hpending : s.uploader.pendingInternalRead = false)
    (bytesRead : Int) :
    s.uploadCompleted bytesRead = ({ s with uploader.pendingReadBuffer := none }, bytesRead) := by
  simp [uploadCompleted, hpending]

/-- The three ways of an upload: the end of the body, no bytes, bytes. -/
theorem upload_final (hfinal : s.uploader.isFinalChunk = true) (give : Nat) :
    s.upload give =
      { s with uploader.isFrontOfStream := false, uploader.isEOF := true }.uploadCompleted 0 := by
  simp only [upload, hfinal, if_true]

theorem upload_empty (hfinal : s.uploader.isFinalChunk = false) {give : Nat}
    (hchunk : s.chunk (s.uploader.pendingReadBuffer.getD 0) give = []) :
    s.upload give =
      ({ s with uploader.isFrontOfStream := false, uploader.pendingInternalRead := true },
        errIOPending) := by
  simp only [chunk] at hchunk
  simp [upload, hfinal, onRead, chunk, hchunk]

theorem upload_bytes (hfinal : s.uploader.isFinalChunk = false) {give : Nat}
    {data : List UInt8} (hdata : s.chunk (s.uploader.pendingReadBuffer.getD 0) give = data)
    (hne : data ≠ []) :
    s.upload give =
      { s with
        uploader.isFrontOfStream := false
        unread := s.unread.drop data.length
        buffer := data ++ s.buffer.drop data.length }.uploadCompleted data.length := by
  simp only [chunk] at hdata
  simp [upload, hfinal, onRead, chunk, hdata, hne]

@[simp] theorem uploader_onReadCompleted (s : ChunkedUpload) (result : Int) :
    (s.onReadCompleted result).uploader = s.uploader := by
  unfold onReadCompleted
  split <;> rfl

@[simp] theorem uploader_uploadCompleted (s : ChunkedUpload) (bytesRead : Int) :
    (s.uploadCompleted bytesRead).1.uploader =
      { s.uploader with pendingReadBuffer := none, pendingInternalRead := false } := by
  cases h : s.uploader.pendingInternalRead <;> simp [uploadCompleted, h]

/-! ## The uploader of the core -/

open HttpProtocolHandlerCore in
/-- The core tells its uploader of the bytes of its stream in the same way. -/
theorem chunkedUploader_uploadWhenReady {c : HttpProtocolHandlerCore}
    (huploader : c.chunkedUploader = some s.uploader) (hstream : c.httpBodyStream = true)
    (isFinalChunk : Bool) :
    (c.uploadWhenReady s.uploader isFinalChunk (.bytes s.unread)).chunkedUploader =
      some (s.uploadWhenReady isFinalChunk s.unread.length).uploader := by
  obtain ⟨request, hrequest, hupload⟩ : ∃ request, c.netRequest = some request ∧
      request.upload = .chunked s.uploader := by
    unfold chunkedUploader at huploader
    split at huploader
    next uploader _ _ _ _ h =>
      obtain rfl := Option.some.inj huploader
      exact ⟨_, h, rfl⟩
    next => cases huploader
  cases hpending : s.uploader.pendingInternalRead with
  | false =>
    -- Nobody waits: the flag is all that is written.
    simp [HttpProtocolHandlerCore.uploadWhenReady, ChunkedUpload.uploadWhenReady, hpending, enter,
      leave, updateUploader, hrequest, hupload, chunkedUploader]
  | true =>
    cases isFinalChunk with
    | true =>
      simp [HttpProtocolHandlerCore.uploadWhenReady, ChunkedUpload.uploadWhenReady, hpending,
        enter, leave, updateUploader, hrequest, hupload, chunkedUploader,
        HttpProtocolHandlerCore.upload, HttpProtocolHandlerCore.uploadCompleted,
        ChunkedUpload.upload]
    | false =>
      -- `chunk` of all the bytes is what the core takes of its stream.
      by_cases hnothing : s.uploader.pendingReadBuffer.getD 0 = 0 ∨ s.unread = []
      · simp [HttpProtocolHandlerCore.uploadWhenReady, ChunkedUpload.uploadWhenReady, hpending,
          enter, leave, updateUploader, hrequest, hupload, chunkedUploader,
          HttpProtocolHandlerCore.upload, ChunkedUpload.upload, HttpProtocolHandlerCore.onRead,
          ChunkedUpload.onRead, ChunkedUpload.chunk, ← List.take_eq_take_min, hnothing, hstream]
      · simp [HttpProtocolHandlerCore.uploadWhenReady, ChunkedUpload.uploadWhenReady, hpending,
          enter, leave, updateUploader, hrequest, hupload, chunkedUploader,
          HttpProtocolHandlerCore.upload, HttpProtocolHandlerCore.uploadCompleted,
          ChunkedUpload.upload, HttpProtocolHandlerCore.onRead, ChunkedUpload.onRead,
          ChunkedUpload.chunk, ← List.take_eq_take_min, hnothing, hstream]

end ChunkedUpload

end IosChrome.Net

import IosChrome.Lib.Machine

/-!
# HttpProtocolHandlerCore

The bridge between a `URLRequest` of the network stack and the client of an `NSURLProtocol`.
The core owns its request, the request owns what it uploads, and for a chunked body that is a
`ChunkedDataStreamUploader` which calls the core back (`onRead`) for the bytes of the body
stream. Everything runs on one thread, where the handler posts `Start` and `Cancel`.

Not under this repository are the request and the stream. Of the request the model has what
its documentation promises: it calls its delegate only while it lives, after `Start`, with at
most one redirect or response; `Read` answers at once or calls `OnReadCompleted` later, and
may fill the buffer it was given up to the size it was given. Its delegate may delete it in a
notification, which is the last thing it does, so a notification begins with nothing
executing. A stream that has bytes may deliver them, deliver none, or fail, and calls its
delegate only while it has one. What request and stream answer is in the calls.

The contents of responses, the load flags and copied headers, the metrics and the stream's own
status are left out.
-/

namespace IosChrome.Net

structure GURL where
  spec : String
  isValid : Bool
  deriving DecidableEq

/-- The `NSMutableURLRequest` that is given back to the client with a redirect. -/
structure MutableURLRequest where
  url : GURL
  httpMethod : String
  httpBody : Option (List UInt8)
  httpBodyStream : Bool
  headers : List (String × String)
  deriving DecidableEq

/-- Names of header fields are compared without case. -/
def isHeader (name key : String) : Bool :=
  key.toLower = name.toLower

/-- A call on the `CRNNetworkClientProtocol`. -/
inductive NetworkClientCall where
  | didCreateNativeRequest
  | wasRedirectedToRequest (request : MutableURLRequest)
  | didReceiveResponse
  | didLoadData (data : List UInt8)
  | didFinishLoading
  | didFail (nsErrorCode netErrorCode : Int)
  deriving DecidableEq

/-! ## Error codes -/

def netOK : Int := 0
def errIOPending : Int := -1
def errFailed : Int := -2
def errUnexpected : Int := -9
def errBlockedByClient : Int := -20
def errNetworkChanged : Int := -21
def errConnectionReset : Int := -101
def errSSLProtocolError : Int := -107
def errInvalidURL : Int := -300

def nsURLErrorUnknown : Int := -1
def nsURLErrorCancelled : Int := -999
def nsURLErrorBadURL : Int := -1000
def nsURLErrorCannotConnectToHost : Int := -1004
def nsURLErrorNetworkConnectionLost : Int := -1005
def nsURLErrorClientCertificateRequired : Int := -1206

def iosErrorCode (osError : Int) : Int :=
  if osError = errSSLProtocolError then nsURLErrorClientCertificateRequired
  else if osError = errConnectionReset ∨ osError = errNetworkChanged then
    nsURLErrorNetworkConnectionLost
  else if osError = errUnexpected then nsURLErrorUnknown
  else nsURLErrorCannotConnectToHost

/-- A network error, as `Read` returns it. -/
abbrev NetError := { code : Int // code < 0 ∧ code ≠ errIOPending }

/-! ## The request and what it uploads -/

structure ChunkedDataStreamUploader where
  /-- The length of the network layer's buffer, when there is one. -/
  pendingReadBuffer : Option Nat
  pendingInternalRead : Bool
  isFinalChunk : Bool
  isFrontOfStream : Bool
  isEOF : Bool
  deriving DecidableEq

inductive UploadDataStream where
  | none
  | elements (readers : List (List UInt8))
  | chunked (uploader : ChunkedDataStreamUploader)
  deriving DecidableEq

structure URLRequest where
  method : String
  upload : UploadDataStream
  started : Bool
  responded : Bool
  /-- The size given to the `Read` that has not completed. -/
  pendingRead : Option Nat
  deriving DecidableEq

/-- What `Read` answers, at once or later. -/
inductive ReadResult where
  | bytes (data : List UInt8)
  | pending
  | error (code : NetError)
  deriving DecidableEq

/-- What the body stream answers when it is asked for bytes. -/
inductive StreamRead where
  | notAvailable
  | bytes (data : List UInt8)
  | error (code : Int)
  deriving DecidableEq

inductive StreamEvent where
  | errorOccurred
  | endEncountered
  | hasBytesAvailable (read : StreamRead)
  | none
  | openCompleted
  | hasSpaceAvailable
  deriving DecidableEq

/-- Member functions of the request and of its uploader that have still something to do with
the object they are of. -/
inductive Member where
  | urlRequest
  | readInternal
  | uploadWhenReady
  | upload
  deriving DecidableEq

/-- A `StopNetRequest`: whether there was a request, and what of it was executing. -/
structure Stop where
  hadRequest : Bool
  executing : List Member
  deriving DecidableEq

/-- An allocation, with the bytes that were written to its beginning. -/
structure Buffer where
  id : Nat
  size : Nat
  contents : List UInt8
  deriving DecidableEq

structure HttpProtocolHandlerCore where
  /-- `client_` is set. -/
  client : Bool
  readBuffer : Buffer
  readBufferSize : Nat
  /-- The buffer that `read_buffer_wrapper_` points to. -/
  readBufferWrapper : Nat
  request : Option MutableURLRequest
  httpBodyStream : Bool
  httpBodyStreamDelegate : Bool
  postDataReaders : List (List UInt8)
  netRequest : Option URLRequest
  /-- The stream has the delegate, and calls it. -/
  streamDelegate : Bool
  nextBuffer : Nat
  calls : List NetworkClientCall
  /-- The bytes read from the request. -/
  bytesRead : List UInt8
  /-- For each read the size that is allocated, and the size that was passed. -/
  reads : List (Nat × Nat)
  /-- What had been called when a `Cancel` was first processed. -/
  callsAtCancel : Option (List NetworkClientCall)
  created : Bool
  executing : List Member
  stops : List Stop
  delegateRemoved : Bool
  /-- An event reached the core without a stream or after the delegate was removed. -/
  lateEvent : Bool
  deriving DecidableEq

namespace HttpProtocolHandlerCore

def kIOBufferMinSize : Nat := 64 * 1024
def kIOBufferMaxSize : Nat := 16 * kIOBufferMinSize

variable (c : HttpProtocolHandlerCore)

/-- The whole buffer was filled: the next one is larger. Half of it or less: smaller. -/
def nextReadBufferSize (lastReadDataSize : Nat) : Nat :=
  if lastReadDataSize = c.readBufferSize then min (c.readBufferSize * 2) kIOBufferMaxSize
  else if lastReadDataSize ≤ c.readBufferSize / 2 then max (c.readBufferSize / 2) kIOBufferMinSize
  else c.readBufferSize

def allocateReadBuffer (lastReadDataSize : Nat) : HttpProtocolHandlerCore :=
  { c with
    readBufferSize := c.nextReadBufferSize lastReadDataSize
    readBuffer := ⟨c.nextBuffer, c.nextReadBufferSize lastReadDataSize, []⟩
    readBufferWrapper := c.nextBuffer
    nextBuffer := c.nextBuffer + 1 }

def initWithRequest (request : MutableURLRequest) : HttpProtocolHandlerCore :=
  allocateReadBuffer
    { client := false
      readBuffer := ⟨0, 0, []⟩
      readBufferSize := kIOBufferMinSize
      readBufferWrapper := 0
      request := some request
      httpBodyStream := false
      httpBodyStreamDelegate := false
      postDataReaders := []
      netRequest := none
      streamDelegate := false
      nextBuffer := 1
      calls := []
      bytesRead := []
      reads := []
      callsAtCancel := none
      created := false
      executing := []
      stops := []
      delegateRemoved := false
      lateEvent := false } 0

def call (clientCall : NetworkClientCall) : HttpProtocolHandlerCore :=
  { c with calls := c.calls ++ [clientCall] }

def enter (member : Member) : HttpProtocolHandlerCore :=
  { c with executing := member :: c.executing }

def leave : HttpProtocolHandlerCore :=
  { c with executing := c.executing.tail }

/-! ## Stopping -/

def stopListeningStream : HttpProtocolHandlerCore :=
  if c.httpBodyStream then
    { c with
      streamDelegate := false
      delegateRemoved := true
      httpBodyStreamDelegate := false
      httpBodyStream := false }
  else c

/-- Deletes the request. -/
def stopNetRequest : HttpProtocolHandlerCore :=
  stopListeningStream
    { c with
      stops := c.stops ++ [⟨c.netRequest.isSome, c.executing⟩]
      netRequest := none }

def stopRequestWithError (nsErrorCode netErrorCode : Int) : HttpProtocolHandlerCore :=
  (c.call (.didFail nsErrorCode netErrorCode)).stopNetRequest

def cancelProcessed : HttpProtocolHandlerCore :=
  { c with callsAtCancel := c.callsAtCancel.or (some c.calls) }

def cancel : HttpProtocolHandlerCore :=
  match c.netRequest with
  | none => c.cancelProcessed
  | some _ => c.cancelProcessed.stopNetRequest

/-! ## The body stream -/

/-- What the request uploads, when that is an uploader: the weak pointer `chunked_uploader_`. -/
def chunkedUploader : Option ChunkedDataStreamUploader :=
  match c.netRequest with
  | some { upload := .chunked uploader, .. } => some uploader
  | _ => none

/-- Writes members of the uploader, as long as it lives. -/
def updateUploader (f : ChunkedDataStreamUploader → ChunkedDataStreamUploader) :
    HttpProtocolHandlerCore :=
  match c.netRequest with
  | some request =>
    match request.upload with
    | .chunked uploader =>
      { c with netRequest := some { request with upload := .chunked (f uploader) } }
    | _ => c
  | none => c

/-- Reads the body stream for the uploader. -/
def onRead (bufferLength : Nat) (read : StreamRead) : HttpProtocolHandlerCore × Int :=
  if c.httpBodyStream then
    match read with
    | .notAvailable => (c, errIOPending)
    | .bytes data => (c, (data.take bufferLength).length)
    | .error _ =>
      (c.stopListeningStream.stopRequestWithError nsURLErrorUnknown errUnexpected, errUnexpected)
  else (c, 0)

/-- The end of `Upload`. `OnReadCompleted` of the pending read is its last action. -/
def uploadCompleted (bytesRead : Int) : HttpProtocolHandlerCore × Int :=
  ((c.updateUploader fun uploader =>
    { uploader with pendingReadBuffer := none, pendingInternalRead := false }).leave, bytesRead)

/-- Whatever is not bytes leaves the network layer's read pending. -/
def upload (bufferLength : Nat) (isFinalChunk : Bool) (read : StreamRead) :
    HttpProtocolHandlerCore × Int :=
  let c := (c.enter .upload).updateUploader fun uploader =>
    { uploader with isFrontOfStream := false }
  if isFinalChunk then
    (c.updateUploader fun uploader => { uploader with isEOF := true }).uploadCompleted 0
  else
    let (c, bytesRead) := c.onRead bufferLength read
    if bytesRead ≤ 0 then
      ((c.updateUploader fun uploader => { uploader with pendingInternalRead := true }).leave,
        errIOPending)
    else c.uploadCompleted bytesRead

def uploadWhenReady (uploader : ChunkedDataStreamUploader) (isFinalChunk : Bool)
    (read : StreamRead) : HttpProtocolHandlerCore :=
  let c := (c.enter .uploadWhenReady).updateUploader fun uploader =>
    { uploader with isFinalChunk := isFinalChunk }
  if uploader.pendingInternalRead then
    (c.upload (uploader.pendingReadBuffer.getD 0) isFinalChunk read).1.leave
  else c.leave

/-- `ReadInternal`, called by the network layer with a buffer. -/
def readInternal (uploader : ChunkedDataStreamUploader) (bufferLength : Nat) (read : StreamRead) :
    HttpProtocolHandlerCore :=
  let c := ((c.enter .urlRequest).enter .readInternal).updateUploader fun uploader =>
    { uploader with pendingReadBuffer := some bufferLength }
  (c.upload bufferLength uploader.isFinalChunk read).1.leave.leave

def resetInternal : HttpProtocolHandlerCore :=
  c.updateUploader fun uploader =>
    { uploader with
      pendingReadBuffer := none
      pendingInternalRead := false
      isFinalChunk := false
      isEOF := false }

/-- `Start` of the request. -/
def startNetRequest : HttpProtocolHandlerCore :=
  { c with netRequest := c.netRequest.map fun request => { request with started := true } }

def setUpload (upload : UploadDataStream) : HttpProtocolHandlerCore :=
  { c with netRequest := c.netRequest.map fun request => { request with upload := upload } }

/-- Reads the stream into the read buffer, for a body of known length. -/
def readPostData (read : StreamRead) : HttpProtocolHandlerCore :=
  let c := { c with reads := c.reads ++ [(c.readBuffer.size, c.readBufferSize)] }
  match read with
  | .notAvailable => c
  | .bytes data =>
    let data := data.take c.readBufferSize
    let c := { c with readBuffer.contents := data ++ c.readBuffer.contents.drop data.length }
    if data = [] then c
    else { c with postDataReaders := c.postDataReaders ++ [c.readBuffer.contents.take data.length] }
  | .error code => c.stopRequestWithError code errFailed

def startWithPostData : HttpProtocolHandlerCore :=
  if c.postDataReaders = [] then c.startNetRequest
  else startNetRequest { c.setUpload (.elements c.postDataReaders) with postDataReaders := [] }

/-- What an event finds: the core checks that it has the stream and the delegate. -/
def reachedByEvent : HttpProtocolHandlerCore :=
  { c with
    lateEvent := c.lateEvent || c.delegateRemoved || !c.httpBodyStream ||
      !c.httpBodyStreamDelegate }

def handleStreamEvent (event : StreamEvent) : HttpProtocolHandlerCore :=
  let c := c.reachedByEvent
  match event with
  | .errorOccurred => c.stopListeningStream.stopRequestWithError nsURLErrorUnknown errUnexpected
  | .endEncountered =>
    let c := c.stopListeningStream
    match c.chunkedUploader with
    | some uploader => c.uploadWhenReady uploader true .notAvailable
    | none => c.startWithPostData
  | .hasBytesAvailable read =>
    match c.chunkedUploader with
    | some uploader => c.uploadWhenReady uploader false read
    | none => c.readPostData read
  | .none => c
  | .openCompleted => c
  | .hasSpaceAvailable => c

/-! ## The delegate of the request -/

def stripPostSpecificHeaders (request : MutableURLRequest) : MutableURLRequest :=
  { request with headers := request.headers.filter fun header =>
      !(isHeader "Content-Length" header.1 || isHeader "Content-Type" header.1 ||
        isHeader "Origin" header.1) }

/-- The request that the client is redirected to. -/
def redirectedRequest (request : MutableURLRequest) (newURL : GURL) (httpStatusCode : Nat) :
    MutableURLRequest :=
  let request := { request with url := newURL }
  let wasPost : Bool := request.httpMethod = "POST"
  if (httpStatusCode = 303 ∧ request.httpMethod ≠ "HEAD") ∨
      ((httpStatusCode = 301 ∨ httpStatusCode = 302) ∧ wasPost) then
    let request := { request with httpMethod := "GET", httpBody := none, httpBodyStream := false }
    if wasPost then stripPostSpecificHeaders request else request
  else request

def onReceivedRedirect (newURL : GURL) (httpStatusCode : Nat) : HttpProtocolHandlerCore :=
  if !newURL.isValid then c.stopRequestWithError nsURLErrorBadURL errInvalidURL
  else
    match c.request with
    | none => c
    | some request =>
      let c := c.stopListeningStream.call
        (.wasRedirectedToRequest (redirectedRequest request newURL httpStatusCode))
      { c with request := none }.stopNetRequest

/-- Cancels the authentication; the request goes on. -/
def onAuthRequired : HttpProtocolHandlerCore := c

def onCertificateRequested : HttpProtocolHandlerCore :=
  c.stopRequestWithError nsURLErrorClientCertificateRequired errSSLProtocolError

def cancelAfterSSLError : HttpProtocolHandlerCore :=
  match c.netRequest with
  | none => c
  | some _ => c.stopRequestWithError nsURLErrorCancelled errBlockedByClient

/-- The bytes that arrive in the buffer the wrapper points to. -/
def fill (data : List UInt8) : HttpProtocolHandlerCore :=
  { c with
    bytesRead := c.bytesRead ++ data
    readBuffer.contents :=
      if c.readBufferWrapper = c.readBuffer.id then data ++ c.readBuffer.contents.drop data.length
      else c.readBuffer.contents }

/-- What the wrapper points to, and the size that goes with it. -/
def recordRead : HttpProtocolHandlerCore :=
  { c with reads := c.reads ++
      [(if c.readBufferWrapper = c.readBuffer.id then c.readBuffer.size else 0,
        c.readBufferSize)] }

def setPendingRead : HttpProtocolHandlerCore :=
  { c with netRequest := c.netRequest.map fun request =>
      { request with pendingRead := some c.readBufferSize } }

/-- `Read` of the request, into the wrapped buffer. -/
def read (result : ReadResult) : HttpProtocolHandlerCore × Int :=
  match result with
  | .bytes data =>
    (c.recordRead.fill (data.take c.readBufferSize), (data.take c.readBufferSize).length)
  | .pending => (c.recordRead.setPendingRead, errIOPending)
  | .error code => (c.recordRead, code)

/-- The client takes over the buffer with the data, and a new one is allocated. -/
def passData (bytesRead : Int) : HttpProtocolHandlerCore :=
  (c.call (.didLoadData (c.readBuffer.contents.take bytesRead.toNat))).allocateReadBuffer
    bytesRead.toNat

/-- The loop of `OnReadCompleted`: `results` are what its reads answer. -/
def readLoop (c : HttpProtocolHandlerCore) (bytesRead : Int) :
    List ReadResult → HttpProtocolHandlerCore × Int
  | [] => if 0 < bytesRead then (c.passData bytesRead).read .pending else (c, bytesRead)
  | result :: results =>
    if 0 < bytesRead then
      readLoop ((c.passData bytesRead).read result).1 ((c.passData bytesRead).read result).2 results
    else (c, bytesRead)

/-- What follows the loop. -/
def readEnded (bytesRead : Int) : HttpProtocolHandlerCore :=
  if bytesRead = netOK then c.stopNetRequest.call .didFinishLoading
  else if bytesRead ≠ errIOPending then c.stopRequestWithError (iosErrorCode bytesRead) bytesRead
  else c

def onReadCompleted (bytesRead : Int) (results : List ReadResult) : HttpProtocolHandlerCore :=
  match c.netRequest with
  | none => c
  | some _ => (c.readLoop bytesRead results).1.readEnded (c.readLoop bytesRead results).2

def startReading (result : ReadResult) (results : List ReadResult) : HttpProtocolHandlerCore :=
  match c.netRequest with
  | none => c
  | some _ =>
    let (c, bytesRead) := (c.call .didReceiveResponse).read result
    if bytesRead = errIOPending then c
    else if bytesRead ≥ 0 then c.onReadCompleted bytesRead results
    else c.stopRequestWithError (iosErrorCode bytesRead) bytesRead

def onResponseStarted (netError : Int) (result : ReadResult) (results : List ReadResult) :
    HttpProtocolHandlerCore :=
  match c.netRequest with
  | none => c
  | some _ =>
    if netError ≠ netOK then c.stopRequestWithError (iosErrorCode netError) netError
    else c.startReading result results

/-- A pending `Read` completes: the request fills the buffer and tells its delegate. -/
def completeRead (result : ReadResult) : HttpProtocolHandlerCore × Int :=
  match c.netRequest with
  | none => (c, 0)
  | some request =>
    let c := { c with netRequest := some { request with pendingRead := none } }
    match result with
    | .bytes data =>
      (c.fill (data.take (request.pendingRead.getD 0)),
        (data.take (request.pendingRead.getD 0)).length)
    | .pending => (c, errIOPending)
    | .error code => (c, code)

/-! ## Start -/

def newUploader : ChunkedDataStreamUploader := ⟨none, false, false, true, false⟩

def setClient : HttpProtocolHandlerCore := { c with client := true }

def createNetRequest (request : MutableURLRequest) : HttpProtocolHandlerCore :=
  call
    { c with
      created := true
      netRequest := some ⟨request.httpMethod, .none, false, false, none⟩ } .didCreateNativeRequest

/-- A body of known length is read before the request is started. -/
def startBody (request : MutableURLRequest) : HttpProtocolHandlerCore :=
  if request.httpBodyStream then
    let c := { c with
      httpBodyStream := true, httpBodyStreamDelegate := true, streamDelegate := true }
    if request.headers.any (fun header => isHeader "Content-Length" header.1) then c
    else (c.setUpload (.chunked newUploader)).startNetRequest
  else
    match request.httpBody with
    | none => c.startNetRequest
    | some body =>
      if body = [] then c.startNetRequest else (c.setUpload (.elements [body])).startNetRequest

def start : HttpProtocolHandlerCore :=
  match c.request with
  | none => c.setClient
  | some request =>
    if !request.url.isValid then c.setClient.call (.didFail nsURLErrorBadURL errInvalidURL)
    else (c.setClient.createNetRequest request).startBody request

end HttpProtocolHandlerCore

/-! ## CRNHTTPProtocolHandler -/

inductive NetworkTask where
  | start
  | cancel
  deriving DecidableEq

/-- The handler, and what it has posted to the network thread. -/
structure CRNHTTPProtocolHandler where
  supportedURL : Bool
  startedLoading : Bool
  posted : List NetworkTask
  core : HttpProtocolHandlerCore
  deriving DecidableEq

namespace CRNHTTPProtocolHandler

def initWithRequest (request : MutableURLRequest) (supportedURL : Bool) :
    CRNHTTPProtocolHandler :=
  ⟨supportedURL, false, [], .initWithRequest request⟩

variable (h : CRNHTTPProtocolHandler)

/-- An unsupported URL fails on the system's client, and nothing is posted. -/
def startLoading : CRNHTTPProtocolHandler :=
  { h with
    startedLoading := true
    posted := if h.supportedURL then h.posted ++ [.start] else h.posted }

def stopLoading : CRNHTTPProtocolHandler :=
  { h with posted := h.posted ++ [.cancel] }

def runTask : CRNHTTPProtocolHandler :=
  match h.posted with
  | [] => h
  | .start :: posted => { h with posted := posted, core := h.core.start }
  | .cancel :: posted => { h with posted := posted, core := h.core.cancel }

inductive Call where
  | startLoading
  | stopLoading
  | runTask
  | streamEvent (event : StreamEvent)
  | readBody (bufferLength : Nat) (read : StreamRead)
  | resetBody
  | receivedRedirect (newURL : GURL) (httpStatusCode : Nat)
  | authRequired
  | certificateRequested
  | sslCertificateError
  | responseStarted (netError : Int) (result : ReadResult) (results : List ReadResult)
  | readCompleted (result : ReadResult) (results : List ReadResult)
  deriving DecidableEq

/-- The network layer reads the body of the request. -/
def readBody (c : HttpProtocolHandlerCore) (bufferLength : Nat) (read : StreamRead) :
    HttpProtocolHandlerCore :=
  match c.chunkedUploader with
  | none => c
  | some uploader => c.readInternal uploader bufferLength read

/-- The request has its response, or an error in its place. -/
def respond (c : HttpProtocolHandlerCore) : HttpProtocolHandlerCore :=
  { c with netRequest := c.netRequest.map fun request => { request with responded := true } }

def coreStep (c : HttpProtocolHandlerCore) (call : Call) : HttpProtocolHandlerCore :=
  match call with
  | .streamEvent event => c.handleStreamEvent event
  | .readBody bufferLength read => readBody c bufferLength read
  | .resetBody => c.resetInternal
  | .receivedRedirect newURL httpStatusCode => c.onReceivedRedirect newURL httpStatusCode
  | .authRequired => c.onAuthRequired
  | .certificateRequested => c.onCertificateRequested
  | .sslCertificateError => c.cancelAfterSSLError
  | .responseStarted netError result results =>
    (respond c).onResponseStarted netError result results
  | .readCompleted result results =>
    (c.completeRead result).1.onReadCompleted (c.completeRead result).2 results
  | _ => c

def step (call : Call) : CRNHTTPProtocolHandler :=
  match call with
  | .startLoading => h.startLoading
  | .stopLoading => h.stopLoading
  | .runTask => h.runTask
  | _ => { h with core := coreStep h.core call }

/-- The system loads once, and stops what it has started. -/
def Pre (call : Call) : Prop :=
  match call with
  | .startLoading => h.startedLoading = false
  | .stopLoading => h.startedLoading = true
  | .runTask => h.posted ≠ []
  | .streamEvent _ => h.core.streamDelegate = true
  | .readBody bufferLength _ => 0 < bufferLength ∧
    (h.core.netRequest.any (·.started)) = true ∧
    (h.core.chunkedUploader.any fun uploader =>
      uploader.pendingReadBuffer.isNone && !uploader.isEOF) = true
  | .resetBody => (h.core.netRequest.any (·.started)) = true
  | .receivedRedirect _ _ =>
    (h.core.netRequest.any fun request => request.started && !request.responded) = true
  | .authRequired =>
    (h.core.netRequest.all fun request => request.started && !request.responded) = true
  | .certificateRequested => (h.core.netRequest.any (·.started)) = true
  | .sslCertificateError => (h.core.netRequest.all (·.started)) = true
  | .responseStarted netError _ _ => netError ≠ errIOPending ∧
    (h.core.netRequest.all fun request => request.started && !request.responded) = true
  | .readCompleted result _ => result ≠ .pending ∧
    (h.core.netRequest.all (·.pendingRead.isSome)) = true

instance (call : Call) : Decidable (h.Pre call) := by
  unfold Pre
  cases call <;> infer_instance

def machine : Lib.Machine CRNHTTPProtocolHandler Call where
  init h := ∃ request supportedURL, h = initWithRequest request supportedURL
  pre := Pre
  step := step

instance (h : CRNHTTPProtocolHandler) (call : Call) : Decidable (machine.pre h call) :=
  inferInstanceAs (Decidable (h.Pre call))

end CRNHTTPProtocolHandler

end IosChrome.Net

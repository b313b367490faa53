import IosChrome.Net.HttpProtocolHandlerCore

/-!
# What the client is told

`NSURLProtocolSequence` is what the client of an `NSURLProtocol` expects: a redirect, a failure,
or a response with its data and one end. `calls_inSequence`: in every run what the client has
been told is the beginning of such a sequence, its data are the bytes read from the request,
nothing follows a cancellation, and every read was given a buffer of the size that it was told.

A core is `Open` while it has its request. Each method leaves it open or closes it, and the
last call on the client and the end of the request are made together (`Open.stop`). In the
loop over the reads the bytes in the buffer are the only ones the client has not got
(`Looping`).
-/

namespace IosChrome.Net

namespace NetworkClientCall

/-- `didCreateNativeRequest` is not a call of the protocol. -/
def isProtocolCall : NetworkClientCall → Bool
  | .didCreateNativeRequest => false
  | _ => true

def data : NetworkClientCall → List UInt8
  | .didLoadData data => data
  | _ => []

end NetworkClientCall

inductive NSURLProtocolSequence : List NetworkClientCall → Prop where
  | redirected (request : MutableURLRequest) :
      NSURLProtocolSequence [.wasRedirectedToRequest request]
  | failed (nsErrorCode netErrorCode : Int) :
      NSURLProtocolSequence [.didFail nsErrorCode netErrorCode]
  | finished (data : List (List UInt8)) :
      NSURLProtocolSequence (.didReceiveResponse :: data.map .didLoadData ++ [.didFinishLoading])
  | failedAfterResponse (data : List (List UInt8)) (nsErrorCode netErrorCode : Int) :
      NSURLProtocolSequence
        (.didReceiveResponse :: data.map .didLoadData ++ [.didFail nsErrorCode netErrorCode])

namespace HttpProtocolHandlerCore

variable {c : HttpProtocolHandlerCore}

/-- The calls of the protocol that were made on the client. -/
def protocolCalls (c : HttpProtocolHandlerCore) : List NetworkClientCall :=
  c.calls.filter (·.isProtocolCall)

structure InSequence (c : HttpProtocolHandlerCore) : Prop where
  sequence : ∃ complete, NSURLProtocolSequence complete ∧ c.protocolCalls <+: complete
  cancelled : ∀ calls, c.callsAtCancel = some calls → c.calls = calls
  data : c.calls.flatMap (·.data) = c.bytesRead
  buffers : ∀ read ∈ c.reads, read.1 = read.2

/-! ## Open and closed cores -/

/-- What has been called before the last call: nothing, or a response and data. -/
def Received (answered : Bool) (c : HttpProtocolHandlerCore) : Prop :=
  ∃ data : List (List UInt8), c.protocolCalls =
    if answered then .didReceiveResponse :: data.map .didLoadData else []

/-- A read that is pending was made after the response. -/
structure Open (responded answered : Bool) (c : HttpProtocolHandlerCore) : Prop where
  netRequest : ∃ request, c.netRequest = some request ∧ request.responded = responded ∧
    (request.pendingRead.isSome = true → answered = true)
  request : c.request.isSome = true
  received : Received answered c
  notCancelled : c.callsAtCancel = none
  data : c.calls.flatMap (·.data) = c.bytesRead
  buffers : ∀ read ∈ c.reads, read.1 = read.2
  wrapper : c.readBufferWrapper = c.readBuffer.id
  size : c.readBuffer.size = c.readBufferSize
  listening : c.streamDelegate = c.httpBodyStream

structure Closed (c : HttpProtocolHandlerCore) : Prop extends InSequence c where
  netRequest : c.netRequest = none
  streamDelegate : c.streamDelegate = false

/-- After `Start` a core has its request, or is done. -/
def Live (c : HttpProtocolHandlerCore) : Prop :=
  Closed c ∨ ∃ answered, Open answered answered c

theorem Open.responded {responded answered : Bool} (h : Open responded answered c) :
    ∃ request, c.netRequest = some request ∧ request.responded = responded := by
  obtain ⟨request, hrequest, hresponded, -⟩ := h.netRequest
  exact ⟨request, hrequest, hresponded⟩

variable {answered : Bool}

theorem Received.prefix (h : Received answered c) :
    ∃ complete, NSURLProtocolSequence complete ∧ c.protocolCalls <+: complete := by
  obtain ⟨data, hcalls⟩ := h
  refine ⟨_, .finished data, ?_⟩
  rw [hcalls]
  cases answered with
  | false => exact List.nil_prefix
  | true => exact List.prefix_append _ _

theorem Open.inSequence {responded answered : Bool} (h : Open responded answered c) :
    c.InSequence where
  sequence := h.received.prefix
  cancelled := by
    rw [h.notCancelled]
    exact fun _ hnone => nomatch hnone
  data := h.data
  buffers := h.buffers

theorem Live.inSequence (h : Live c) : c.InSequence := by
  obtain hclosed | ⟨answered, hopen⟩ := h
  · exact hclosed.toInSequence
  · exact hopen.inSequence

theorem protocolCalls_call (clientCall : NetworkClientCall) :
    (c.call clientCall).protocolCalls =
      c.protocolCalls ++ if clientCall.isProtocolCall then [clientCall] else [] := by
  unfold protocolCalls call
  rw [List.filter_append]
  cases clientCall <;> rfl

theorem data_call (clientCall : NetworkClientCall) :
    (c.call clientCall).calls.flatMap (·.data) = c.calls.flatMap (·.data) ++ clientCall.data := by
  unfold call
  rw [List.flatMap_append, List.flatMap_singleton]

/-! ## Stopping -/

/-- The client is told nothing, and the reads are those there were. -/
structure SameOutput (c c' : HttpProtocolHandlerCore) : Prop where
  calls : c'.calls = c.calls
  bytesRead : c'.bytesRead = c.bytesRead
  reads : c'.reads = c.reads
  callsAtCancel : c'.callsAtCancel = c.callsAtCancel

theorem stopListeningStream_same : SameOutput c c.stopListeningStream := by
  unfold stopListeningStream
  split <;> exact ⟨rfl, rfl, rfl, rfl⟩

theorem stopListeningStream_streamDelegate (h : c.streamDelegate = c.httpBodyStream) :
    c.stopListeningStream.streamDelegate = false ∧
      c.stopListeningStream.httpBodyStream = false := by
  unfold stopListeningStream
  by_cases hstream : c.httpBodyStream = true
  · rw [if_pos hstream]
    exact ⟨rfl, rfl⟩
  · rw [if_neg hstream, h]
    exact ⟨Bool.eq_false_iff.2 hstream, Bool.eq_false_iff.2 hstream⟩

theorem stopNetRequest_same : SameOutput c c.stopNetRequest := by
  obtain ⟨hcalls, hbytes, hreads, hcancel⟩ := stopListeningStream_same (c :=
    { c with stops := c.stops ++ [⟨c.netRequest.isSome, c.executing⟩], netRequest := none })
  exact ⟨hcalls, hbytes, hreads, hcancel⟩

theorem stopNetRequest_netRequest : c.stopNetRequest.netRequest = none := by
  unfold stopNetRequest stopListeningStream
  split <;> rfl

theorem stopNetRequest_streamDelegate (h : c.streamDelegate = c.httpBodyStream) :
    c.stopNetRequest.streamDelegate = false :=
  (stopListeningStream_streamDelegate (c :=
    { c with
      stops := c.stops ++ [⟨c.netRequest.isSome, c.executing⟩]
      netRequest := none }) h).1

/-- A request that ends with its sequence in order leaves a closed core. -/
theorem Closed.of_stop (h : c.InSequence) (hlistening : c.streamDelegate = c.httpBodyStream) :
    Closed c.stopNetRequest := by
  obtain ⟨hcalls, hbytes, hreads, hcancel⟩ := stopNetRequest_same (c := c)
  refine ⟨⟨?_, ?_, ?_, ?_⟩, stopNetRequest_netRequest, stopNetRequest_streamDelegate hlistening⟩
  · unfold protocolCalls
    rw [hcalls]
    exact h.sequence
  · rw [hcalls, hcancel]
    exact h.cancelled
  · rw [hcalls, hbytes]
    exact h.data
  · rw [hreads]
    exact h.buffers

/-- The last call, and the end of the request. -/
theorem Open.last {responded answered : Bool} (h : Open responded answered c)
    {clientCall : NetworkClientCall} (hdata : clientCall.data = [])
    (hsequence : NSURLProtocolSequence (c.call clientCall).protocolCalls) :
    (c.call clientCall).InSequence where
  sequence := ⟨_, hsequence, List.prefix_rfl⟩
  cancelled := by
    intro calls hcalls
    rw [show (c.call clientCall).callsAtCancel = none from h.notCancelled] at hcalls
    cases hcalls
  data := by
    rw [data_call, hdata, List.append_nil]
    exact h.data
  buffers := h.buffers

theorem Open.stop {responded answered : Bool} (h : Open responded answered c)
    (nsErrorCode netErrorCode : Int) :
    Closed (c.stopRequestWithError nsErrorCode netErrorCode) := by
  refine Closed.of_stop (h.last rfl ?_) h.listening
  rw [protocolCalls_call]
  obtain ⟨data, hcalls⟩ := h.received
  rw [hcalls]
  cases answered with
  | false => exact .failed nsErrorCode netErrorCode
  | true => exact .failedAfterResponse data nsErrorCode netErrorCode

theorem Open.stopListening {responded answered : Bool} (h : Open responded answered c) :
    Open responded answered c.stopListeningStream := by
  obtain ⟨hdelegate, hstream⟩ := stopListeningStream_streamDelegate h.listening
  have hlistening := hdelegate.trans hstream.symm
  unfold stopListeningStream at hlistening ⊢
  split at hlistening <;> rename_i hcondition
  · rw [if_pos hcondition]
    exact ⟨h.netRequest, h.request, h.received, h.notCancelled, h.data, h.buffers, h.wrapper,
      h.size, hlistening⟩
  · rw [if_neg hcondition]
    exact h

/-! ## The uploader -/

theorem Open.updateUploader {responded answered : Bool} (h : Open responded answered c)
    (f : ChunkedDataStreamUploader → ChunkedDataStreamUploader) :
    Open responded answered (c.updateUploader f) := by
  obtain ⟨request, hrequest, hresponded⟩ := h.netRequest
  unfold HttpProtocolHandlerCore.updateUploader
  simp only [hrequest]
  split
  · exact ⟨⟨_, rfl, hresponded⟩, h.request, h.received, h.notCancelled, h.data, h.buffers,
      h.wrapper, h.size, h.listening⟩
  · exact h

theorem Live.updateUploader (h : Live c)
    (f : ChunkedDataStreamUploader → ChunkedDataStreamUploader) : Live (c.updateUploader f) := by
  obtain hclosed | ⟨answered, hopen⟩ := h
  · unfold HttpProtocolHandlerCore.updateUploader
    rw [hclosed.netRequest]
    exact .inl hclosed
  · exact .inr ⟨answered, hopen.updateUploader f⟩

theorem Open.enter {responded answered : Bool} (h : Open responded answered c) (member : Member) :
    Open responded answered (c.enter member) :=
  ⟨h.netRequest, h.request, h.received, h.notCancelled, h.data, h.buffers, h.wrapper, h.size,
    h.listening⟩

theorem Live.leave (h : Live c) : Live c.leave := by
  obtain hclosed | ⟨answered, hopen⟩ := h
  · exact .inl ⟨⟨hclosed.sequence, hclosed.cancelled, hclosed.data, hclosed.buffers⟩,
      hclosed.netRequest, hclosed.streamDelegate⟩
  · exact .inr ⟨answered, hopen.netRequest, hopen.request, hopen.received, hopen.notCancelled,
      hopen.data, hopen.buffers, hopen.wrapper, hopen.size, hopen.listening⟩

theorem Open.onRead (h : Open answered answered c) (bufferLength : Nat) (read : StreamRead) :
    Live (c.onRead bufferLength read).1 := by
  unfold HttpProtocolHandlerCore.onRead
  split
  · cases read with
    | notAvailable => exact .inr ⟨answered, h⟩
    | bytes data => exact .inr ⟨answered, h⟩
    | error code => exact .inl (h.stopListening.stop _ _)
  · exact .inr ⟨answered, h⟩

theorem Live.uploadCompleted (h : Live c) (bytesRead : Int) :
    Live (c.uploadCompleted bytesRead).1 :=
  (h.updateUploader _).leave

theorem Open.upload (h : Open answered answered c) (bufferLength : Nat) (isFinalChunk : Bool)
    (read : StreamRead) :
    Live (c.upload bufferLength isFinalChunk read).1 := by
  have hentered := (h.enter .upload).updateUploader fun uploader =>
    { uploader with isFrontOfStream := false }
  have hread := hentered.onRead bufferLength read
  unfold HttpProtocolHandlerCore.upload
  dsimp only
  split
  · exact Live.uploadCompleted (.inr ⟨answered, hentered.updateUploader _⟩) 0
  · split
    · exact (hread.updateUploader _).leave
    · exact hread.uploadCompleted _

theorem Open.uploadWhenReady (h : Open answered answered c) (uploader : ChunkedDataStreamUploader)
    (isFinalChunk : Bool) (read : StreamRead) :
    Live (c.uploadWhenReady uploader isFinalChunk read) := by
  have hentered := (h.enter .uploadWhenReady).updateUploader fun uploader =>
    { uploader with isFinalChunk := isFinalChunk }
  unfold HttpProtocolHandlerCore.uploadWhenReady
  dsimp only
  split
  · exact (hentered.upload _ _ _).leave
  · exact Live.leave (.inr ⟨answered, hentered⟩)

theorem Open.readInternal (h : Open answered answered c) (uploader : ChunkedDataStreamUploader)
    (bufferLength : Nat) (read : StreamRead) :
    Live (c.readInternal uploader bufferLength read) :=
  (((((h.enter .urlRequest).enter .readInternal).updateUploader _).upload _ _ _).leave).leave

/-! ## Stream events -/

theorem Open.mapRequest {responded answered : Bool} (h : Open responded answered c)
    {f : URLRequest → URLRequest} {responded' : Bool}
    (hresponded : ∀ request, request.responded = responded → (f request).responded = responded')
    (hpending : ∀ request, (f request).pendingRead.isSome = true →
      request.pendingRead.isSome = true ∨ answered = true) :
    Open responded' answered { c with netRequest := c.netRequest.map f } := by
  obtain ⟨request, hrequest, hold, hanswered⟩ := h.netRequest
  refine ⟨⟨f request, ?_, hresponded request hold, fun hnew => ?_⟩, h.request, h.received,
    h.notCancelled, h.data, h.buffers, h.wrapper, h.size, h.listening⟩
  swap
  · exact (hpending request hnew).elim hanswered id
  rw [hrequest]
  rfl

theorem Open.startNetRequest (h : Open answered answered c) :
    Open answered answered c.startNetRequest :=
  h.mapRequest (fun _ => id) fun _ => .inl

theorem Open.setUpload (h : Open answered answered c) (upload : UploadDataStream) :
    Open answered answered (c.setUpload upload) :=
  h.mapRequest (fun _ => id) fun _ => .inl

theorem Open.readPostData (h : Open answered answered c) (read : StreamRead) :
    Live (c.readPostData read) := by
  have hreads : ∀ entry ∈ c.reads ++ [(c.readBuffer.size, c.readBufferSize)],
      entry.1 = entry.2 := by
    intro entry hmem
    obtain hold | hnew := List.mem_append.1 hmem
    · exact h.buffers entry hold
    · obtain rfl := List.mem_singleton.1 hnew
      exact h.size
  have hopen : Open answered answered
      { c with reads := c.reads ++ [(c.readBuffer.size, c.readBufferSize)] } :=
    ⟨h.netRequest, h.request, h.received, h.notCancelled, h.data, hreads, h.wrapper, h.size,
      h.listening⟩
  unfold HttpProtocolHandlerCore.readPostData
  cases read with
  | notAvailable => exact .inr ⟨answered, hopen⟩
  | bytes data =>
    dsimp only
    split
    · exact .inr ⟨answered, h.netRequest, h.request, h.received, h.notCancelled, h.data, hreads,
        h.wrapper, h.size, h.listening⟩
    · exact .inr ⟨answered, h.netRequest, h.request, h.received, h.notCancelled, h.data, hreads,
        h.wrapper, h.size, h.listening⟩
  | error code => exact .inl (hopen.stop _ _)

theorem Open.startWithPostData (h : Open answered answered c) :
    Open answered answered c.startWithPostData := by
  have hset := h.setUpload (.elements c.postDataReaders)
  unfold HttpProtocolHandlerCore.startWithPostData
  split
  · exact h.startNetRequest
  · exact Open.startNetRequest ⟨hset.netRequest, hset.request, hset.received, hset.notCancelled,
      hset.data, hset.buffers, hset.wrapper, hset.size, hset.listening⟩

theorem Open.handleStreamEvent (h : Open answered answered c) (event : StreamEvent) :
    Live (c.handleStreamEvent event) := by
  have hevent : Open answered answered c.reachedByEvent :=
    ⟨h.netRequest, h.request, h.received, h.notCancelled, h.data, h.buffers, h.wrapper, h.size,
      h.listening⟩
  unfold HttpProtocolHandlerCore.handleStreamEvent
  cases event with
  | errorOccurred => exact .inl (hevent.stopListening.stop _ _)
  | endEncountered =>
    have hstopped := hevent.stopListening
    dsimp only
    split
    · exact hstopped.uploadWhenReady _ _ _
    · exact .inr ⟨answered, hstopped.startWithPostData⟩
  | hasBytesAvailable read =>
    dsimp only
    split
    · exact hevent.uploadWhenReady _ _ _
    · exact hevent.readPostData read
  | none => exact .inr ⟨answered, hevent⟩
  | openCompleted => exact .inr ⟨answered, hevent⟩
  | hasSpaceAvailable => exact .inr ⟨answered, hevent⟩

/-! ## Notifications without data -/

theorem Open.onReceivedRedirect (h : Open false false c) (newURL : GURL) (httpStatusCode : Nat) :
    Live (c.onReceivedRedirect newURL httpStatusCode) := by
  unfold HttpProtocolHandlerCore.onReceivedRedirect
  split
  · exact .inl (h.stop _ _)
  · obtain ⟨request, hrequest⟩ := Option.isSome_iff_exists.1 h.request
    simp only [hrequest]
    have hstopped := h.stopListening
    have hlast := @Open.last _ _ _ hstopped
      (.wasRedirectedToRequest (redirectedRequest request newURL httpStatusCode)) rfl (by
        rw [protocolCalls_call]
        obtain ⟨data, hcalls⟩ := hstopped.received
        rw [hcalls]
        exact .redirected _)
    exact .inl (Closed.of_stop ⟨hlast.sequence, hlast.cancelled, hlast.data, hlast.buffers⟩
      hstopped.listening)

theorem Open.cancelAfterSSLError (h : Open answered answered c) :
    Live c.cancelAfterSSLError := by
  unfold HttpProtocolHandlerCore.cancelAfterSSLError
  split
  · exact .inr ⟨answered, h⟩
  · exact .inl (h.stop _ _)

/-! ## The loop over the reads -/

/-- The client has got all that was read but what is in the buffer. -/
structure Looping (c : HttpProtocolHandlerCore) (bytesRead : Int) : Prop where
  netRequest : ∃ request, c.netRequest = some request ∧ request.responded = true
  request : c.request.isSome = true
  received : Received true c
  notCancelled : c.callsAtCancel = none
  data : c.calls.flatMap (·.data) ++ c.readBuffer.contents.take bytesRead.toNat = c.bytesRead
  buffers : ∀ read ∈ c.reads, read.1 = read.2
  wrapper : c.readBufferWrapper = c.readBuffer.id
  size : c.readBuffer.size = c.readBufferSize
  listening : c.streamDelegate = c.httpBodyStream

theorem Looping.toOpen {bytesRead : Int} (h : Looping c bytesRead) (hle : bytesRead ≤ 0) :
    Open true true c where
  netRequest := by
    obtain ⟨request, hrequest, hresponded⟩ := h.netRequest
    exact ⟨request, hrequest, hresponded, fun _ => rfl⟩
  request := h.request
  received := h.received
  notCancelled := h.notCancelled
  data := by
    have hdata := h.data
    rw [Int.toNat_of_nonpos hle, List.take_zero, List.append_nil] at hdata
    exact hdata
  buffers := h.buffers
  wrapper := h.wrapper
  size := h.size
  listening := h.listening

theorem Looping.of_open (h : Open true true c) {bytesRead : Int} (hle : bytesRead ≤ 0) :
    Looping c bytesRead where
  netRequest := h.responded
  request := h.request
  received := h.received
  notCancelled := h.notCancelled
  data := by
    rw [Int.toNat_of_nonpos hle, List.take_zero, List.append_nil]
    exact h.data
  buffers := h.buffers
  wrapper := h.wrapper
  size := h.size
  listening := h.listening

/-- Bytes that arrive are in the buffer. -/
theorem Looping.fill (h : Open true true c) (data : List UInt8) :
    Looping (c.fill data) data.length where
  netRequest := h.responded
  request := h.request
  received := h.received
  notCancelled := h.notCancelled
  data := by
    show c.calls.flatMap (·.data) ++ List.take _ (if c.readBufferWrapper = c.readBuffer.id then _
      else _) = c.bytesRead ++ data
    rw [if_pos h.wrapper, h.data, Int.toNat_natCast, List.take_left]
  buffers := h.buffers
  wrapper := h.wrapper
  size := h.size
  listening := h.listening

theorem Open.recordRead (h : Open true true c) : Open true true c.recordRead := by
  refine ⟨h.netRequest, h.request, h.received, h.notCancelled, h.data, ?_, h.wrapper, h.size,
    h.listening⟩
  intro entry hmem
  obtain hold | hnew := List.mem_append.1 hmem
  · exact h.buffers entry hold
  · obtain rfl := List.mem_singleton.1 hnew
    rw [if_pos h.wrapper]
    exact h.size

theorem NetError.nonpos (code : NetError) : (code : Int) ≤ 0 := by
  have := code.2.1
  omega

theorem errIOPending_nonpos : errIOPending ≤ 0 := by decide

theorem Open.read (h : Open true true c) (result : ReadResult) :
    Looping (c.read result).1 (c.read result).2 := by
  have hread := h.recordRead
  unfold HttpProtocolHandlerCore.read
  cases result with
  | bytes data => exact .fill hread _
  | pending =>
    have hpending : Open true true c.recordRead.setPendingRead :=
      hread.mapRequest (fun _ => id) fun _ _ => .inr rfl
    exact .of_open hpending errIOPending_nonpos
  | error code => exact .of_open hread (NetError.nonpos code)

theorem Looping.passData {bytesRead : Int} (h : Looping c bytesRead) :
    Open true true (c.passData bytesRead) where
  netRequest := by
    obtain ⟨request, hrequest, hresponded⟩ := h.netRequest
    exact ⟨request, hrequest, hresponded, fun _ => rfl⟩
  request := h.request
  received := by
    obtain ⟨data, hcalls⟩ := h.received
    refine ⟨data ++ [c.readBuffer.contents.take bytesRead.toNat], ?_⟩
    have hcall := protocolCalls_call (c := c)
      (.didLoadData (c.readBuffer.contents.take bytesRead.toNat))
    rw [hcalls] at hcall
    rw [if_pos rfl, List.map_append]
    exact hcall
  notCancelled := h.notCancelled
  data := (data_call _).trans h.data
  buffers := h.buffers
  wrapper := rfl
  size := rfl
  listening := h.listening

/-- The loop ends with all data passed on. -/
theorem Looping.readLoop (results : List ReadResult) : ∀ {c : HttpProtocolHandlerCore}
    {bytesRead : Int}, Looping c bytesRead →
      Looping (c.readLoop bytesRead results).1 (c.readLoop bytesRead results).2 ∧
        (c.readLoop bytesRead results).2 ≤ 0 := by
  induction results with
  | nil =>
    intro c bytesRead h
    unfold HttpProtocolHandlerCore.readLoop
    split
    · exact ⟨h.passData.read .pending, errIOPending_nonpos⟩
    · next hle => exact ⟨h, Int.not_lt.1 hle⟩
  | cons result results ih =>
    intro c bytesRead h
    unfold HttpProtocolHandlerCore.readLoop
    split
    · exact ih (h.passData.read result)
    · next hle => exact ⟨h, Int.not_lt.1 hle⟩

theorem Open.readEnded (h : Open true true c) (bytesRead : Int) : Live (c.readEnded bytesRead) := by
  unfold HttpProtocolHandlerCore.readEnded
  split
  · -- the request goes first, and then the client is told
    have hlast := @Open.last _ _ _ h .didFinishLoading rfl (by
      rw [protocolCalls_call]
      obtain ⟨data, hcalls⟩ := h.received
      rw [hcalls]
      exact .finished data)
    have hclosed := Closed.of_stop hlast h.listening
    have heq : (c.call .didFinishLoading).stopNetRequest =
        c.stopNetRequest.call .didFinishLoading := by
      unfold stopNetRequest stopListeningStream call
      dsimp only
      split <;> rfl
    rw [← heq]
    exact .inl hclosed
  · split
    · exact .inl (h.stop _ _)
    · exact .inr ⟨true, h⟩

theorem Looping.onReadCompleted {bytesRead : Int} (h : Looping c bytesRead)
    (results : List ReadResult) : Live (c.onReadCompleted bytesRead results) := by
  obtain ⟨request, hrequest, -⟩ := h.netRequest
  obtain ⟨hloop, hle⟩ := h.readLoop results
  unfold HttpProtocolHandlerCore.onReadCompleted
  simp only [hrequest]
  exact (hloop.toOpen hle).readEnded _

theorem Open.completeRead (h : Open true true c) (result : ReadResult) :
    Looping (c.completeRead result).1 (c.completeRead result).2 := by
  obtain ⟨request, hrequest, hresponded⟩ := h.responded
  have hcleared : Open true true
      { c with netRequest := some { request with pendingRead := none } } :=
    ⟨⟨_, rfl, hresponded, fun _ => rfl⟩, h.request, h.received, h.notCancelled, h.data, h.buffers,
      h.wrapper, h.size, h.listening⟩
  unfold HttpProtocolHandlerCore.completeRead
  simp only [hrequest]
  cases result with
  | bytes data => exact .fill hcleared _
  | pending => exact .of_open hcleared errIOPending_nonpos
  | error code => exact .of_open hcleared (NetError.nonpos code)

/-! ## The response -/

theorem Open.startReading (h : Open true false c) (result : ReadResult)
    (results : List ReadResult) : Live (c.startReading result results) := by
  obtain ⟨request, hrequest, -⟩ := h.netRequest
  have hanswered : Open true true (c.call .didReceiveResponse) := by
    obtain ⟨request, hrequest, hresponded, -⟩ := h.netRequest
    refine ⟨⟨request, hrequest, hresponded, fun _ => rfl⟩, h.request, ⟨[], ?_⟩, h.notCancelled, ?_,
      h.buffers, h.wrapper, h.size, h.listening⟩
    · rw [protocolCalls_call]
      obtain ⟨data, hcalls⟩ := h.received
      rw [hcalls]
      rfl
    · rw [data_call]
      exact (List.append_nil _).trans h.data
  have hread := hanswered.read result
  unfold HttpProtocolHandlerCore.startReading
  simp only [hrequest]
  split
  · next hpending => exact .inr ⟨true, hread.toOpen (by rw [hpending]; decide)⟩
  · split
    · exact hread.onReadCompleted results
    · next hneg => exact .inl ((hread.toOpen (by omega)).stop _ _)

theorem Open.onResponseStarted (h : Open true false c) (netError : Int) (result : ReadResult)
    (results : List ReadResult) : Live (c.onResponseStarted netError result results) := by
  obtain ⟨request, hrequest, -⟩ := h.netRequest
  unfold HttpProtocolHandlerCore.onResponseStarted
  simp only [hrequest]
  split
  · exact .inl (h.stop _ _)
  · exact h.startReading result results

/-! ## Start and Cancel -/

/-- Before `Start`. -/
structure Waiting (c : HttpProtocolHandlerCore) : Prop where
  netRequest : c.netRequest = none
  request : c.request.isSome = true
  calls : c.calls = []
  bytesRead : c.bytesRead = []
  reads : c.reads = []
  cancelled : ∀ calls, c.callsAtCancel = some calls → calls = []
  wrapper : c.readBufferWrapper = c.readBuffer.id
  size : c.readBuffer.size = c.readBufferSize
  streamDelegate : c.streamDelegate = false
  httpBodyStream : c.httpBodyStream = false

theorem Waiting.inSequence (h : Waiting c) : c.InSequence where
  sequence := by
    refine ⟨_, .finished [], ?_⟩
    unfold protocolCalls
    rw [h.calls]
    exact List.nil_prefix
  cancelled := by
    intro calls hcalls
    rw [h.cancelled calls hcalls, h.calls]
  data := by
    rw [h.calls, h.bytesRead]
    rfl
  buffers := by
    rw [h.reads]
    exact fun _ hmem => nomatch hmem

theorem waiting_initWithRequest (request : MutableURLRequest) :
    Waiting (initWithRequest request) :=
  ⟨rfl, rfl, rfl, rfl, rfl, fun _ hnone => (nomatch hnone), rfl, rfl, rfl, rfl⟩

theorem Open.startBody (h : Open false false c) (request : MutableURLRequest) :
    Open false false (c.startBody request) := by
  unfold HttpProtocolHandlerCore.startBody
  split
  · have hstream : Open false false { c with
        httpBodyStream := true, httpBodyStreamDelegate := true, streamDelegate := true } :=
      ⟨h.netRequest, h.request, h.received, h.notCancelled, h.data, h.buffers, h.wrapper, h.size,
        rfl⟩
    dsimp only
    split
    · exact hstream
    · exact (hstream.setUpload _).startNetRequest
  · split
    · exact h.startNetRequest
    · split
      · exact h.startNetRequest
      · exact (h.setUpload _).startNetRequest

theorem Waiting.start (h : Waiting c) (hcancel : c.callsAtCancel = none) : Live c.start := by
  obtain ⟨request, hrequest⟩ := Option.isSome_iff_exists.1 h.request
  have hsequence := h.inSequence
  unfold HttpProtocolHandlerCore.start
  simp only [hrequest]
  split
  · refine .inl ⟨⟨⟨_, .failed nsURLErrorBadURL errInvalidURL, ?_⟩, fun _ hcalls => ?_, ?_,
      h.inSequence.buffers⟩, h.netRequest, h.streamDelegate⟩
    · show (List.filter _ (c.calls ++ _)) <+: _
      rw [h.calls]
      exact List.prefix_rfl
    · have hnone : c.callsAtCancel = some _ := hcalls
      rw [hcancel] at hnone
      cases hnone
    · rw [data_call]
      exact (List.append_nil _).trans h.inSequence.data
  · have hcreated : Open false false (c.setClient.createNetRequest request) := by
      refine ⟨⟨_, rfl, rfl, fun hpending => (nomatch hpending)⟩, h.request, ⟨[], ?_⟩, hcancel, ?_,
        h.inSequence.buffers, h.wrapper, h.size, h.streamDelegate.trans h.httpBodyStream.symm⟩
      · show List.filter _ (c.calls ++ [.didCreateNativeRequest]) = []
        rw [h.calls]
        rfl
      · show List.flatMap _ (c.calls ++ [.didCreateNativeRequest]) = c.bytesRead
        rw [h.calls, h.bytesRead]
        rfl
    exact .inr ⟨false, hcreated.startBody request⟩

theorem Waiting.cancel (h : Waiting c) : Waiting c.cancel := by
  unfold HttpProtocolHandlerCore.cancel
  simp only [h.netRequest]
  refine ⟨h.netRequest, h.request, h.calls, h.bytesRead, h.reads, fun calls hcalls => ?_, h.wrapper,
    h.size, h.streamDelegate, h.httpBodyStream⟩
  have hcalls : c.callsAtCancel.or (some c.calls) = some calls := hcalls
  cases hold : c.callsAtCancel with
  | none =>
    rw [hold, h.calls] at hcalls
    exact (Option.some.inj hcalls).symm
  | some calls' =>
    rw [hold] at hcalls
    obtain rfl := Option.some.inj hcalls
    exact h.cancelled _ hold

theorem Live.cancel (h : Live c) : Live c.cancel := by
  have hsequence := h.inSequence
  have hcancelled : ∀ calls, c.callsAtCancel.or (some c.calls) = some calls → c.calls = calls := by
    intro calls hcalls
    cases hold : c.callsAtCancel with
    | none =>
      rw [hold] at hcalls
      exact Option.some.inj hcalls
    | some calls' =>
      rw [hold] at hcalls
      exact hsequence.cancelled calls (hold.trans hcalls)
  have hsame : InSequence c.cancelProcessed :=
    ⟨hsequence.sequence, hcancelled, hsequence.data, hsequence.buffers⟩
  unfold HttpProtocolHandlerCore.cancel
  obtain hclosed | ⟨answered, hopen⟩ := h
  · simp only [hclosed.netRequest]
    exact .inl ⟨hsame, hclosed.netRequest, hclosed.streamDelegate⟩
  · obtain ⟨request, hrequest, -⟩ := hopen.netRequest
    simp only [hrequest]
    exact .inl (Closed.of_stop hsame hopen.listening)

end HttpProtocolHandlerCore

/-! ## Runs -/

namespace CRNHTTPProtocolHandler

open HttpProtocolHandlerCore

variable {h : CRNHTTPProtocolHandler}

/-- A core without a request does nothing when it is called. -/
theorem coreStep_of_none {call : Call} (hnone : h.core.netRequest = none)
    (hstream : h.core.streamDelegate = false) (hpre : h.Pre call) :
    coreStep h.core call = h.core := by
  cases call with
  | streamEvent event =>
    have hdelegate : h.core.streamDelegate = true := hpre
    rw [hstream] at hdelegate
    cases hdelegate
  | readBody bufferLength read =>
    have hstarted := hpre.2.1
    rw [hnone] at hstarted
    cases hstarted
  | resetBody =>
    have hstarted : h.core.netRequest.any (·.started) = true := hpre
    rw [hnone] at hstarted
    cases hstarted
  | receivedRedirect newURL httpStatusCode =>
    have hstarted : (h.core.netRequest.any fun request => request.started && !request.responded) =
      true := hpre
    rw [hnone] at hstarted
    cases hstarted
  | certificateRequested =>
    have hstarted : h.core.netRequest.any (·.started) = true := hpre
    rw [hnone] at hstarted
    cases hstarted
  | sslCertificateError =>
    show h.core.cancelAfterSSLError = h.core
    unfold cancelAfterSSLError
    rw [hnone]
  | responseStarted netError result results =>
    have hrespond : respond h.core = h.core := by
      unfold respond
      rw [hnone]
      show { h.core with netRequest := none } = h.core
      rw [← hnone]
    show (respond h.core).onResponseStarted netError result results = h.core
    rw [hrespond]
    unfold onResponseStarted
    rw [hnone]
  | readCompleted result results =>
    have hcomplete : h.core.completeRead result = (h.core, 0) := by
      unfold completeRead
      rw [hnone]
    show (h.core.completeRead result).1.onReadCompleted (h.core.completeRead result).2 results =
      h.core
    rw [hcomplete]
    unfold onReadCompleted
    rw [hnone]
  | _ => rfl

variable {answered : Bool}

/-- Every call leaves an open core live. -/
theorem live_coreStep {call : Call} (hopen : Open answered answered h.core) (hpre : h.Pre call) :
    Live (coreStep h.core call) := by
  obtain ⟨request, hrequest, hresponded, hpending⟩ := hopen.netRequest
  have hnotResponded : (h.core.netRequest.all fun request =>
      request.started && !request.responded) = true → answered = false := by
    intro hstarted
    rw [hrequest] at hstarted
    have hnot := (Bool.and_eq_true_iff.1 hstarted).2
    rw [hresponded] at hnot
    cases answered with
    | false => rfl
    | true => cases hnot
  cases call with
  | streamEvent event => exact hopen.handleStreamEvent event
  | readBody bufferLength read =>
    show Live (readBody h.core bufferLength read)
    unfold readBody
    split
    · exact .inr ⟨answered, hopen⟩
    · exact hopen.readInternal _ _ _
  | resetBody => exact .inr ⟨answered, hopen.updateUploader _⟩
  | receivedRedirect newURL httpStatusCode =>
    have hstarted : (h.core.netRequest.any fun request => request.started && !request.responded) =
      true := hpre
    obtain rfl : answered = false := by
      refine hnotResponded ?_
      rw [hrequest] at hstarted ⊢
      exact hstarted
    exact hopen.onReceivedRedirect newURL httpStatusCode
  | certificateRequested => exact .inl (hopen.stop _ _)
  | sslCertificateError => exact hopen.cancelAfterSSLError
  | responseStarted netError result results =>
    obtain rfl : answered = false := hnotResponded hpre.2
    have hresponded : Open true false (respond h.core) :=
      hopen.mapRequest (fun _ _ => rfl) fun _ => .inl
    exact hresponded.onResponseStarted netError result results
  | readCompleted result results =>
    obtain rfl : answered = true := by
      have hread := hpre.2
      rw [hrequest] at hread
      exact hpending hread
    exact (hopen.completeRead result).onReadCompleted results
  | _ => exact .inr ⟨answered, hopen⟩

/-- The tasks that are posted: `Start` comes first, and finds a core that was not cancelled. -/
structure Inv (h : CRNHTTPProtocolHandler) : Prop where
  core : Waiting h.core ∨ Live h.core
  posted : (∀ task ∈ h.posted, task = .cancel) ∨ ∃ posted, h.posted = .start :: posted ∧
    (∀ task ∈ posted, task = .cancel) ∧ Waiting h.core ∧ h.core.callsAtCancel = none
  notLoaded : h.startedLoading = false →
    h.posted = [] ∧ Waiting h.core ∧ h.core.callsAtCancel = none

theorem Inv.inSequence (hinv : Inv h) : h.core.InSequence :=
  hinv.core.elim Waiting.inSequence Live.inSequence

theorem Inv.startLoading (hinv : Inv h) (hpre : h.startedLoading = false) :
    Inv h.startLoading := by
  obtain ⟨hposted, hwaiting, hcancel⟩ := hinv.notLoaded hpre
  refine ⟨hinv.core, ?_, fun hnot => (nomatch hnot)⟩
  show (∀ task ∈ (if h.supportedURL then h.posted ++ [.start] else h.posted), task = .cancel) ∨
    ∃ posted, (if h.supportedURL then h.posted ++ [.start] else h.posted) = .start :: posted ∧ _
  rw [hposted]
  split
  · exact .inr ⟨[], rfl, fun _ hmem => (nomatch hmem), hwaiting, hcancel⟩
  · exact .inl fun _ hmem => nomatch hmem

/-- A cancellation is posted behind what there is. -/
theorem Inv.stopLoading (hinv : Inv h) (hpre : h.startedLoading = true) : Inv h.stopLoading := by
  refine ⟨hinv.core, ?_, fun hnot => ?_⟩
  swap
  · have hstarted : h.startedLoading = false := hnot
    rw [hpre] at hstarted
    cases hstarted
  obtain hcancels | ⟨posted, hposted, hcancels, hwaiting, hcancel⟩ := hinv.posted
  · refine .inl fun task hmem => ?_
    obtain hold | hnew := List.mem_append.1 hmem
    · exact hcancels task hold
    · exact List.mem_singleton.1 hnew
  · refine .inr ⟨posted ++ [.cancel], ?_, fun task hmem => ?_, hwaiting, hcancel⟩
    · show h.posted ++ [.cancel] = _
      rw [hposted]
      rfl
    obtain hold | hnew := List.mem_append.1 hmem
    · exact hcancels task hold
    · exact List.mem_singleton.1 hnew

theorem Inv.runTask (hinv : Inv h) (hpre : h.posted ≠ []) : Inv h.runTask := by
  have hloaded : h.startedLoading ≠ false := fun hnot => hpre (hinv.notLoaded hnot).1
  unfold CRNHTTPProtocolHandler.runTask
  split
  · exact hinv
  · next posted heq =>
    obtain hcancels | ⟨posted', hposted, hcancels, hwaiting, hcancel⟩ := hinv.posted
    · rw [heq] at hcancels
      have hstart := hcancels .start List.mem_cons_self
      cases hstart
    · obtain ⟨-, rfl⟩ := List.cons.inj (heq.symm.trans hposted)
      exact ⟨.inr (hwaiting.start hcancel), .inl hcancels, fun hnot => absurd hnot hloaded⟩
  · next posted heq =>
    refine ⟨hinv.core.imp Waiting.cancel Live.cancel, .inl ?_, fun hnot => absurd hnot hloaded⟩
    obtain hcancels | ⟨posted', hposted, -⟩ := hinv.posted
    · rw [heq] at hcancels
      exact fun task hmem => hcancels task (List.mem_cons_of_mem _ hmem)
    · cases heq.symm.trans hposted

theorem Inv.coreStep {call : Call} (hinv : Inv h) (hpre : h.Pre call) :
    Inv { h with core := CRNHTTPProtocolHandler.coreStep h.core call } := by
  have hidle : ∀ (hnone : h.core.netRequest = none), h.core.streamDelegate = false →
      Inv { h with core := CRNHTTPProtocolHandler.coreStep h.core call } := by
    intro hnone hstream
    rw [coreStep_of_none hnone hstream hpre]
    exact hinv
  obtain hwaiting | hclosed | ⟨answered, hopen⟩ := hinv.core
  · exact hidle hwaiting.netRequest hwaiting.streamDelegate
  · exact hidle hclosed.netRequest hclosed.streamDelegate
  · -- a core with a request is not waiting any more
    have hnot : ¬ Waiting h.core := by
      intro hwaiting
      obtain ⟨request, hrequest, -⟩ := hopen.netRequest
      rw [hwaiting.netRequest] at hrequest
      cases hrequest
    refine ⟨.inr (live_coreStep hopen hpre), ?_, fun hload => ?_⟩
    · exact hinv.posted.imp_right fun ⟨_, _, _, hwaiting, _⟩ => absurd hwaiting hnot
    · exact absurd (hinv.notLoaded hload).2.1 hnot

theorem Inv.step {call : Call} (hinv : Inv h) (hpre : h.Pre call) : Inv (h.step call) := by
  cases call with
  | startLoading => exact hinv.startLoading hpre
  | stopLoading => exact hinv.stopLoading hpre
  | runTask => exact hinv.runTask hpre
  | _ => exact hinv.coreStep hpre

theorem Inv.initWithRequest (request : MutableURLRequest) (supportedURL : Bool) :
    Inv (initWithRequest request supportedURL) where
  core := .inl (waiting_initWithRequest request)
  posted := .inl fun _ hmem => nomatch hmem
  notLoaded := fun _ => ⟨rfl, waiting_initWithRequest request, rfl⟩

/-- **The client is told what it expects, in order, and it gets the bytes that were read.** -/
theorem calls_inSequence (hreachable : machine.Reachable h) : h.core.InSequence := by
  refine (hreachable.invariant (I := Inv) ?_ fun _ _ hinv hpre => hinv.step hpre).inSequence
  rintro _ ⟨request, supportedURL, rfl⟩
  exact Inv.initWithRequest request supportedURL

/-- A page. -/
def exampleRequest : MutableURLRequest :=
  ⟨⟨"https://example.com/", true⟩, "GET", none, false, []⟩

/-- Two reads at once, a third one that waits, and the end. -/
def loadedInThreeReads : List Call :=
  [.startLoading, .runTask, .responseStarted 0 (.bytes [1, 2]) [.bytes [3], .pending],
    .readCompleted (.bytes [4]) [.bytes []]]

theorem calls_inSequence_loaded :
    (machine.exec (initWithRequest exampleRequest true) loadedInThreeReads).core.InSequence :=
  calls_inSequence ⟨_, loadedInThreeReads, ⟨exampleRequest, true, rfl⟩, by decide, rfl⟩

end CRNHTTPProtocolHandler

end IosChrome.Net

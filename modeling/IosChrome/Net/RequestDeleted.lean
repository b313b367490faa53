import IosChrome.Net.ClientSequence

/-!
# The request is deleted once, by nobody it needs

`DeletedSafely` is what the teardown of a request has to respect: it is stopped only while there
is one, once, and while none of its member functions nor of its uploader's is executing; and no
stream event reaches a core that has removed the delegate.

A method that does not stop the request leaves all that matters here as it is (`SameControl`),
and one that does says what was executing (`Stopped`).
What was executing is nothing, except in `OnRead`: the uploader calls it, it finds that the
stream has failed, and it deletes the request with the uploader that is waiting for its answer
and then writes to its own members (`failedWhileUploading_deleted`). `deletedSafely_iff` says
that this is the only way.
-/

namespace IosChrome.Net

def StreamRead.Fails (read : StreamRead) : Prop := ∃ code, read = .error code

namespace HttpProtocolHandlerCore

variable {c c' c'' : HttpProtocolHandlerCore}

/-- All but what was executing. -/
structure StoppedOnce (c : HttpProtocolHandlerCore) : Prop where
  hadRequest : ∀ stop ∈ c.stops, stop.hadRequest = true
  once : c.stops.length = if c.created && c.netRequest.isNone then 1 else 0
  events : c.lateEvent = false

structure DeletedSafely (c : HttpProtocolHandlerCore) : Prop extends StoppedOnce c where
  idle : ∀ stop ∈ c.stops, stop.executing = []

/-! ## What the methods do to the request and the stream -/

/-- The request is there or not as before, and the stream is listened to as before. -/
structure SameControl (c c' : HttpProtocolHandlerCore) : Prop where
  stops : c'.stops = c.stops
  netRequest : c'.netRequest.isSome = c.netRequest.isSome
  created : c'.created = c.created
  executing : c'.executing = c.executing
  streamDelegate : c'.streamDelegate = c.streamDelegate
  httpBodyStream : c'.httpBodyStream = c.httpBodyStream
  httpBodyStreamDelegate : c'.httpBodyStreamDelegate = c.httpBodyStreamDelegate
  delegateRemoved : c'.delegateRemoved = c.delegateRemoved
  lateEvent : c'.lateEvent = c.lateEvent

theorem SameControl.refl (c : HttpProtocolHandlerCore) : SameControl c c :=
  ⟨rfl, rfl, rfl, rfl, rfl, rfl, rfl, rfl, rfl⟩

theorem SameControl.trans (h : SameControl c c') (h' : SameControl c' c'') : SameControl c c'' :=
  ⟨h'.stops.trans h.stops, h'.netRequest.trans h.netRequest, h'.created.trans h.created,
    h'.executing.trans h.executing, h'.streamDelegate.trans h.streamDelegate,
    h'.httpBodyStream.trans h.httpBodyStream,
    h'.httpBodyStreamDelegate.trans h.httpBodyStreamDelegate,
    h'.delegateRemoved.trans h.delegateRemoved, h'.lateEvent.trans h.lateEvent⟩

/-- The request is deleted while `members` are executing, and the stream is let go. -/
structure Stopped (members : List Member) (c c' : HttpProtocolHandlerCore) : Prop where
  stops : c'.stops = c.stops ++ [⟨c.netRequest.isSome, members⟩]
  netRequest : c'.netRequest = none
  created : c'.created = c.created
  executing : c'.executing = c.executing
  streamDelegate : c'.streamDelegate = false
  httpBodyStream : c'.httpBodyStream = false
  httpBodyStreamDelegate : c'.httpBodyStreamDelegate = false
  lateEvent : c'.lateEvent = c.lateEvent

/-- What holds between the events. -/
structure Steady (c : HttpProtocolHandlerCore) : Prop extends StoppedOnce c where
  executing : c.executing = []
  streamDelegate : c.streamDelegate = c.httpBodyStream
  httpBodyStreamDelegate : c.httpBodyStreamDelegate = c.httpBodyStream
  listening : c.httpBodyStream = true → c.netRequest.isSome = true
  removed : c.delegateRemoved = true → c.httpBodyStream = false ∧ c.created = true
  created : c.netRequest.isSome = true → c.created = true

theorem Steady.same (h : Steady c) (hsame : SameControl c c') : Steady c' := by
  have hnone : c'.netRequest.isNone = c.netRequest.isNone := by
    rw [← Option.not_isSome, ← Option.not_isSome, hsame.netRequest]
  refine ⟨⟨?_, ?_, ?_⟩, ?_, ?_, ?_, ?_, ?_, ?_⟩
  · rw [hsame.stops]
    exact h.hadRequest
  · rw [hsame.stops, hsame.created, hnone]
    exact h.once
  · rw [hsame.lateEvent]
    exact h.events
  · rw [hsame.executing]
    exact h.executing
  · rw [hsame.streamDelegate, hsame.httpBodyStream]
    exact h.streamDelegate
  · rw [hsame.httpBodyStreamDelegate, hsame.httpBodyStream]
    exact h.httpBodyStreamDelegate
  · rw [hsame.httpBodyStream, hsame.netRequest]
    exact h.listening
  · rw [hsame.delegateRemoved, hsame.httpBodyStream, hsame.created]
    exact h.removed
  · rw [hsame.netRequest, hsame.created]
    exact h.created

/-- The first stop of a request is the only one. -/
theorem Steady.stopped (h : Steady c) (hrequest : c.netRequest.isSome = true)
    {members : List Member} (hstopped : Stopped members c c') : Steady c' := by
  have hcreated : c'.created = true := hstopped.created.trans (h.created hrequest)
  have hnone : c.stops = [] := by
    have honce := h.once
    rw [← Option.not_isSome, hrequest, Bool.not_true, Bool.and_false] at honce
    exact List.length_eq_zero_iff.1 honce
  refine ⟨⟨?_, ?_, ?_⟩, ?_, ?_, ?_, ?_, fun _ => ⟨hstopped.httpBodyStream, hcreated⟩, ?_⟩
  · rw [hstopped.stops, hnone]
    intro stop hmem
    obtain rfl := List.mem_singleton.1 hmem
    exact hrequest
  · rw [hstopped.stops, hnone, hcreated, hstopped.netRequest]
    rfl
  · rw [hstopped.lateEvent]
    exact h.events
  · rw [hstopped.executing]
    exact h.executing
  · rw [hstopped.streamDelegate, hstopped.httpBodyStream]
  · rw [hstopped.httpBodyStreamDelegate, hstopped.httpBodyStream]
  · rw [hstopped.httpBodyStream]
    exact fun hstream => nomatch hstream
  · rw [hstopped.netRequest]
    exact fun hsome => nomatch hsome

/-- A step stops the request while nothing of it executes, or does not stop it. -/
def Keeps (c c' : HttpProtocolHandlerCore) : Prop :=
  SameControl c c' ∨ Stopped c.executing c c'

theorem Keeps.steady (hkeeps : Keeps c c') (h : Steady c)
    (hrequest : c.netRequest.isSome = true) : Steady c' :=
  hkeeps.elim h.same (h.stopped hrequest)

theorem Keeps.idle (hkeeps : Keeps c c') (h : Steady c)
    (hidle : ∀ stop ∈ c.stops, stop.executing = []) : ∀ stop ∈ c'.stops, stop.executing = [] := by
  obtain hsame | hstopped := hkeeps
  · rw [hsame.stops]
    exact hidle
  · rw [hstopped.stops, h.executing]
    intro stop hmem
    obtain hold | hnew := List.mem_append.1 hmem
    · exact hidle stop hold
    · obtain rfl := List.mem_singleton.1 hnew
      rfl

theorem Stopped.after {members : List Member} (h : Stopped members c' c'')
    (hstops : c'.stops = c.stops) (hrequest : c'.netRequest.isSome = c.netRequest.isSome)
    (hcreated : c'.created = c.created) (hexecuting : c'.executing = c.executing)
    (hlate : c'.lateEvent = c.lateEvent) : Stopped members c c'' := by
  refine ⟨?_, h.netRequest, h.created.trans hcreated, h.executing.trans hexecuting,
    h.streamDelegate, h.httpBodyStream, h.httpBodyStreamDelegate, h.lateEvent.trans hlate⟩
  rw [h.stops, hstops, hrequest]

theorem SameControl.stopped {members : List Member} (hsame : SameControl c c')
    (h : Stopped members c' c'') : Stopped members c c'' :=
  h.after hsame.stops hsame.netRequest hsame.created hsame.executing hsame.lateEvent

theorem SameControl.keeps (hsame : SameControl c c') (hkeeps : Keeps c' c'') : Keeps c c'' := by
  obtain hsame' | hstopped := hkeeps
  · exact .inl (hsame.trans hsame')
  · rw [hsame.executing] at hstopped
    exact .inr (hsame.stopped hstopped)

/-! ## Stopping -/

/-- Letting the stream go is no stop of the request. -/
structure LetGo (c c' : HttpProtocolHandlerCore) : Prop where
  stops : c'.stops = c.stops
  netRequest : c'.netRequest = c.netRequest
  created : c'.created = c.created
  executing : c'.executing = c.executing
  lateEvent : c'.lateEvent = c.lateEvent
  httpBodyStream : c'.httpBodyStream = false

theorem stopListeningStream_letGo : LetGo c c.stopListeningStream := by
  unfold stopListeningStream
  by_cases hstream : c.httpBodyStream = true
  · rw [if_pos hstream]
    exact ⟨rfl, rfl, rfl, rfl, rfl, rfl⟩
  · rw [if_neg hstream]
    exact ⟨rfl, rfl, rfl, rfl, rfl, Bool.eq_false_iff.2 hstream⟩

/-- The stream's own fields go together. -/
structure StreamAgrees (c : HttpProtocolHandlerCore) : Prop where
  streamDelegate : c.streamDelegate = c.httpBodyStream
  httpBodyStreamDelegate : c.httpBodyStreamDelegate = c.httpBodyStream

theorem StreamAgrees.stopListeningStream (h : StreamAgrees c) :
    StreamAgrees c.stopListeningStream := by
  unfold HttpProtocolHandlerCore.stopListeningStream
  split
  · exact ⟨rfl, rfl⟩
  · exact h

theorem StreamAgrees.same (h : StreamAgrees c) (hsame : SameControl c c') : StreamAgrees c' := by
  refine ⟨?_, ?_⟩
  · rw [hsame.streamDelegate, hsame.httpBodyStream]
    exact h.streamDelegate
  · rw [hsame.httpBodyStreamDelegate, hsame.httpBodyStream]
    exact h.httpBodyStreamDelegate

theorem Steady.agrees (h : Steady c) : StreamAgrees c :=
  ⟨h.streamDelegate, h.httpBodyStreamDelegate⟩

theorem stopNetRequest_stopped (h : StreamAgrees c) : Stopped c.executing c c.stopNetRequest := by
  have hdeleted : StreamAgrees { c with
      stops := c.stops ++ [⟨c.netRequest.isSome, c.executing⟩], netRequest := none } :=
    ⟨h.streamDelegate, h.httpBodyStreamDelegate⟩
  obtain ⟨hstops, hrequest, hcreated, hexecuting, hlate, hstream⟩ := stopListeningStream_letGo (c :=
    { c with stops := c.stops ++ [⟨c.netRequest.isSome, c.executing⟩], netRequest := none })
  obtain ⟨hdelegate, hstreamDelegate⟩ := hdeleted.stopListeningStream
  exact ⟨hstops, hrequest, hcreated, hexecuting, hdelegate.trans hstream, hstream,
    hstreamDelegate.trans hstream, hlate⟩

theorem stopRequestWithError_stopped (h : StreamAgrees c) (nsErrorCode netErrorCode : Int) :
    Stopped c.executing c (c.stopRequestWithError nsErrorCode netErrorCode) := by
  obtain ⟨hstops, hrequest, hcreated, hexecuting, hdelegate, hstream, hstreamDelegate, hlate⟩ :=
    stopNetRequest_stopped (c := c.call (.didFail nsErrorCode netErrorCode))
      ⟨h.streamDelegate, h.httpBodyStreamDelegate⟩
  exact ⟨hstops, hrequest, hcreated, hexecuting, hdelegate, hstream, hstreamDelegate, hlate⟩

/-- First the stream, then the request. -/
theorem stopListening_stopRequest_stopped (h : StreamAgrees c) (nsErrorCode netErrorCode : Int) :
    Stopped c.executing c
      (c.stopListeningStream.stopRequestWithError nsErrorCode netErrorCode) := by
  have hletGo := stopListeningStream_letGo (c := c)
  have hstopped := stopRequestWithError_stopped h.stopListeningStream nsErrorCode netErrorCode
  rw [hletGo.executing] at hstopped
  exact hstopped.after hletGo.stops (congrArg _ hletGo.netRequest) hletGo.created hletGo.executing
    hletGo.lateEvent

/-! ## The uploader -/

theorem updateUploader_same (f : ChunkedDataStreamUploader → ChunkedDataStreamUploader) :
    SameControl c (c.updateUploader f) := by
  unfold updateUploader
  split
  · next hrequest =>
    split
    · refine ⟨rfl, ?_, rfl, rfl, rfl, rfl, rfl, rfl, rfl⟩
      rw [hrequest]
      rfl
    · exact .refl c
  · exact .refl c

theorem updateUploader_of_none (h : c.netRequest = none)
    (f : ChunkedDataStreamUploader → ChunkedDataStreamUploader) : c.updateUploader f = c := by
  unfold updateUploader
  rw [h]

theorem errUnexpected_nonpos : errUnexpected ≤ 0 := by decide

variable {read : StreamRead}

theorem onRead_of_fails (bufferLength : Nat) (h : StreamAgrees c)
    (hstream : c.httpBodyStream = true) (hfails : read.Fails) :
    Stopped c.executing c (c.onRead bufferLength read).1 ∧ (c.onRead bufferLength read).2 ≤ 0 := by
  obtain ⟨code, rfl⟩ := hfails
  unfold onRead
  rw [if_pos hstream]
  exact ⟨stopListening_stopRequest_stopped h _ _, errUnexpected_nonpos⟩

theorem onRead_of_not_fails (bufferLength : Nat) (hfails : c.httpBodyStream = true → ¬ read.Fails) :
    (c.onRead bufferLength read).1 = c := by
  unfold onRead
  split
  · next hstream =>
    cases read with
    | notAvailable => rfl
    | bytes data => rfl
    | error code => exact absurd ⟨code, rfl⟩ (hfails hstream)
  · rfl

/-- Entering, doing something, and leaving. -/
theorem SameControl.leave {member : Member} (h : SameControl (c.enter member) c') :
    SameControl c c'.leave :=
  ⟨h.stops, h.netRequest, h.created, congrArg List.tail h.executing, h.streamDelegate,
    h.httpBodyStream, h.httpBodyStreamDelegate, h.delegateRemoved, h.lateEvent⟩

theorem Stopped.leave {members : List Member} {member : Member}
    (h : Stopped members (c.enter member) c') : Stopped members c c'.leave :=
  ⟨h.stops, h.netRequest, h.created, congrArg List.tail h.executing, h.streamDelegate,
    h.httpBodyStream, h.httpBodyStreamDelegate, h.lateEvent⟩

theorem StreamAgrees.enter (h : StreamAgrees c) (member : Member) :
    StreamAgrees (c.enter member) :=
  ⟨h.streamDelegate, h.httpBodyStreamDelegate⟩

/-- Whether `Upload` comes to read a stream that fails. -/
def UploadFails (c : HttpProtocolHandlerCore) (isFinalChunk : Bool) (read : StreamRead) : Prop :=
  isFinalChunk = false ∧ c.httpBodyStream = true ∧ read.Fails

theorem upload_of_not_fails {bufferLength : Nat} {isFinalChunk : Bool}
    (hfails : ¬ UploadFails c isFinalChunk read) :
    SameControl c (c.upload bufferLength isFinalChunk read).1 := by
  have hentered := updateUploader_same (c := c.enter .upload)
    fun uploader => { uploader with isFrontOfStream := false }
  unfold upload
  dsimp only
  split
  · exact (hentered.trans ((updateUploader_same _).trans (updateUploader_same _))).leave
  · next hfinal =>
    have hread := onRead_of_not_fails (c := (c.enter .upload).updateUploader
      fun uploader => { uploader with isFrontOfStream := false }) bufferLength
      fun hstream (hread : read.Fails) => hfails ⟨Bool.eq_false_iff.2 hfinal,
        hentered.httpBodyStream.symm.trans hstream, hread⟩
    rw [hread]
    split
    · exact (hentered.trans (updateUploader_same _)).leave
    · exact (hentered.trans (updateUploader_same _)).leave

/-- The uploader and whoever called it are still executing. -/
theorem upload_of_fails (bufferLength : Nat) {isFinalChunk : Bool} (h : StreamAgrees c)
    (hfails : UploadFails c isFinalChunk read) :
    Stopped (.upload :: c.executing) c (c.upload bufferLength isFinalChunk read).1 := by
  obtain ⟨rfl, hstream, hfails⟩ := hfails
  have hentered := updateUploader_same (c := c.enter .upload)
    fun uploader => { uploader with isFrontOfStream := false }
  obtain ⟨hstopped, hle⟩ := onRead_of_fails bufferLength
    ((h.enter .upload).same hentered) (hentered.httpBodyStream.trans hstream) hfails
  rw [hentered.executing] at hstopped
  unfold upload
  dsimp only
  rw [if_neg Bool.false_ne_true, if_pos hle]
  -- the write to the uploader finds nothing any more
  rw [updateUploader_of_none hstopped.netRequest]
  exact (hentered.stopped hstopped).leave

theorem uploadWhenReady_of_not_fails (uploader : ChunkedDataStreamUploader) (isFinalChunk : Bool)
    (hfails : uploader.pendingInternalRead = true → ¬ UploadFails c isFinalChunk read) :
    SameControl c (c.uploadWhenReady uploader isFinalChunk read) := by
  have hentered := updateUploader_same (c := c.enter .uploadWhenReady)
    fun uploader => { uploader with isFinalChunk := isFinalChunk }
  unfold uploadWhenReady
  dsimp only
  split
  · next hpending =>
    refine (hentered.trans (upload_of_not_fails fun hupload => hfails hpending ?_)).leave
    exact ⟨hupload.1, hentered.httpBodyStream.symm.trans hupload.2.1, hupload.2.2⟩
  · exact hentered.leave

theorem uploadWhenReady_of_fails {uploader : ChunkedDataStreamUploader} (isFinalChunk : Bool)
    (h : StreamAgrees c) (hpending : uploader.pendingInternalRead = true)
    (hfails : UploadFails c isFinalChunk read) :
    Stopped (.upload :: .uploadWhenReady :: c.executing) c
      (c.uploadWhenReady uploader isFinalChunk read) := by
  have hentered := updateUploader_same (c := c.enter .uploadWhenReady)
    fun uploader => { uploader with isFinalChunk := isFinalChunk }
  have hstopped := upload_of_fails (uploader.pendingReadBuffer.getD 0)
    ((h.enter .uploadWhenReady).same hentered)
    ⟨hfails.1, hentered.httpBodyStream.trans hfails.2.1, hfails.2.2⟩
  rw [hentered.executing] at hstopped
  unfold uploadWhenReady
  dsimp only
  rw [if_pos hpending]
  exact (hentered.stopped hstopped).leave

theorem readInternal_of_not_fails {uploader : ChunkedDataStreamUploader} {bufferLength : Nat}
    (hfails : ¬ UploadFails c uploader.isFinalChunk read) :
    SameControl c (c.readInternal uploader bufferLength read) := by
  have hentered := updateUploader_same (c := (c.enter .urlRequest).enter .readInternal)
    fun uploader => { uploader with pendingReadBuffer := some bufferLength }
  refine @SameControl.leave c _ .urlRequest
    (@SameControl.leave (c.enter .urlRequest) _ .readInternal ?_)
  refine hentered.trans (upload_of_not_fails fun hupload => hfails ?_)
  exact ⟨hupload.1, hentered.httpBodyStream.symm.trans hupload.2.1, hupload.2.2⟩

theorem readInternal_of_fails {uploader : ChunkedDataStreamUploader} {bufferLength : Nat}
    (h : StreamAgrees c) (hfails : UploadFails c uploader.isFinalChunk read) :
    Stopped (.upload :: .readInternal :: .urlRequest :: c.executing) c
      (c.readInternal uploader bufferLength read) := by
  have hentered := updateUploader_same (c := (c.enter .urlRequest).enter .readInternal)
    fun uploader => { uploader with pendingReadBuffer := some bufferLength }
  have hstopped := upload_of_fails bufferLength
    (((h.enter .urlRequest).enter .readInternal).same hentered)
    ⟨hfails.1, hentered.httpBodyStream.trans hfails.2.1, hfails.2.2⟩
  rw [hentered.executing] at hstopped
  exact (hentered.stopped hstopped).leave.leave

/-! ## Stream events -/

theorem mapRequest_same (f : URLRequest → URLRequest) :
    SameControl c { c with netRequest := c.netRequest.map f } :=
  ⟨rfl, Option.isSome_map, rfl, rfl, rfl, rfl, rfl, rfl, rfl⟩

theorem startWithPostData_same : SameControl c c.startWithPostData := by
  unfold startWithPostData
  split
  · exact mapRequest_same _
  · have hset : SameControl c (c.setUpload (.elements c.postDataReaders)) := mapRequest_same _
    have hmoved : SameControl c { c.setUpload (.elements c.postDataReaders) with
        postDataReaders := [] } :=
      ⟨hset.stops, hset.netRequest, hset.created, hset.executing, hset.streamDelegate,
        hset.httpBodyStream, hset.httpBodyStreamDelegate, hset.delegateRemoved, hset.lateEvent⟩
    exact hmoved.trans (mapRequest_same _)

theorem readPostData_keeps (h : StreamAgrees c) (read : StreamRead) :
    Keeps c (c.readPostData read) := by
  have hrecorded : SameControl c { c with
      reads := c.reads ++ [(c.readBuffer.size, c.readBufferSize)] } :=
    ⟨rfl, rfl, rfl, rfl, rfl, rfl, rfl, rfl, rfl⟩
  unfold readPostData
  cases read with
  | notAvailable => exact .inl hrecorded
  | bytes data =>
    dsimp only
    split <;> exact .inl ⟨rfl, rfl, rfl, rfl, rfl, rfl, rfl, rfl, rfl⟩
  | error code =>
    exact .inr (hrecorded.stopped (stopRequestWithError_stopped (h.same hrecorded) _ _))

/-- An event that a listened stream sends is in time. -/
theorem Steady.reachedByEvent (h : Steady c) (hstream : c.streamDelegate = true) :
    SameControl c c.reachedByEvent := by
  have hbody : c.httpBodyStream = true := h.streamDelegate.symm.trans hstream
  have hdelegate : c.httpBodyStreamDelegate = true := h.httpBodyStreamDelegate.trans hbody
  have hremoved : c.delegateRemoved = false := by
    refine Bool.eq_false_iff.2 fun hremoved => ?_
    rw [(h.removed hremoved).1] at hbody
    cases hbody
  refine ⟨rfl, rfl, rfl, rfl, rfl, rfl, rfl, rfl, ?_⟩
  show (c.lateEvent || c.delegateRemoved || !c.httpBodyStream || !c.httpBodyStreamDelegate) = _
  rw [hremoved, hbody, hdelegate, Bool.not_true, Bool.or_false, Bool.or_false, Bool.or_false]

theorem Steady.stopListening (h : Steady c) (hrequest : c.netRequest.isSome = true) :
    Steady c.stopListeningStream := by
  have hletGo := stopListeningStream_letGo (c := c)
  obtain ⟨hdelegate, hstreamDelegate⟩ := h.agrees.stopListeningStream
  refine ⟨⟨?_, ?_, ?_⟩, ?_, hdelegate, hstreamDelegate, ?_,
    fun _ => ⟨hletGo.httpBodyStream, ?_⟩, ?_⟩
  · rw [hletGo.stops]
    exact h.hadRequest
  · rw [hletGo.stops, hletGo.created, hletGo.netRequest]
    exact h.once
  · rw [hletGo.lateEvent]
    exact h.events
  · rw [hletGo.executing]
    exact h.executing
  · rw [hletGo.netRequest]
    exact fun _ => hrequest
  · rw [hletGo.created]
    exact h.created hrequest
  · rw [hletGo.netRequest, hletGo.created]
    exact h.created

/-! ## The delegate of the request -/

theorem read_same (result : ReadResult) : SameControl c (c.read result).1 := by
  unfold HttpProtocolHandlerCore.read
  cases result with
  | bytes data => exact ⟨rfl, rfl, rfl, rfl, rfl, rfl, rfl, rfl, rfl⟩
  | pending =>
    exact @SameControl.trans c c.recordRead _ ⟨rfl, rfl, rfl, rfl, rfl, rfl, rfl, rfl, rfl⟩
      (mapRequest_same _)
  | error code => exact ⟨rfl, rfl, rfl, rfl, rfl, rfl, rfl, rfl, rfl⟩

theorem passData_same (bytesRead : Int) : SameControl c (c.passData bytesRead) :=
  ⟨rfl, rfl, rfl, rfl, rfl, rfl, rfl, rfl, rfl⟩

theorem readLoop_same (results : List ReadResult) : ∀ (c : HttpProtocolHandlerCore)
    (bytesRead : Int), SameControl c (c.readLoop bytesRead results).1 := by
  induction results with
  | nil =>
    intro c bytesRead
    unfold readLoop
    split
    · exact (passData_same bytesRead).trans (read_same .pending)
    · exact .refl c
  | cons result results ih =>
    intro c bytesRead
    unfold readLoop
    split
    · exact ((passData_same bytesRead).trans (read_same result)).trans (ih _ _)
    · exact .refl c

theorem readEnded_keeps (h : StreamAgrees c) (bytesRead : Int) :
    Keeps c (c.readEnded bytesRead) := by
  unfold readEnded
  split
  · obtain ⟨hstops, hrequest, hcreated, hexecuting, hdelegate, hstream, hstreamDelegate, hlate⟩ :=
      stopNetRequest_stopped h
    exact .inr ⟨hstops, hrequest, hcreated, hexecuting, hdelegate, hstream, hstreamDelegate, hlate⟩
  · split
    · exact .inr (stopRequestWithError_stopped h _ _)
    · exact .inl (.refl c)

theorem onReadCompleted_keeps (h : StreamAgrees c) (bytesRead : Int) (results : List ReadResult) :
    Keeps c (c.onReadCompleted bytesRead results) := by
  have hloop := readLoop_same results c bytesRead
  unfold onReadCompleted
  split
  · exact .inl (.refl c)
  · exact hloop.keeps (readEnded_keeps (h.same hloop) _)

theorem startReading_keeps (h : StreamAgrees c) (result : ReadResult) (results : List ReadResult) :
    Keeps c (c.startReading result results) := by
  have hread : SameControl c ((c.call .didReceiveResponse).read result).1 :=
    @SameControl.trans c (c.call .didReceiveResponse) _
      ⟨rfl, rfl, rfl, rfl, rfl, rfl, rfl, rfl, rfl⟩ (read_same result)
  unfold startReading
  split
  · exact .inl (.refl c)
  · dsimp only
    split
    · exact .inl hread
    · split
      · exact hread.keeps (onReadCompleted_keeps (h.same hread) _ _)
      · exact hread.keeps (.inr (stopRequestWithError_stopped (h.same hread) _ _))

theorem onResponseStarted_keeps (h : StreamAgrees c) (netError : Int) (result : ReadResult)
    (results : List ReadResult) : Keeps c (c.onResponseStarted netError result results) := by
  unfold onResponseStarted
  split
  · exact .inl (.refl c)
  · split
    · exact .inr (stopRequestWithError_stopped h _ _)
    · exact startReading_keeps h result results

theorem completeRead_same (result : ReadResult) : SameControl c (c.completeRead result).1 := by
  unfold completeRead
  split
  · exact .refl c
  · next request hrequest =>
    have hsome : (some { request with pendingRead := none }).isSome = c.netRequest.isSome := by
      rw [hrequest]
      rfl
    cases result <;> exact ⟨rfl, hsome, rfl, rfl, rfl, rfl, rfl, rfl, rfl⟩

theorem onReceivedRedirect_keeps (h : StreamAgrees c) (newURL : GURL) (httpStatusCode : Nat) :
    Keeps c (c.onReceivedRedirect newURL httpStatusCode) := by
  unfold onReceivedRedirect
  split
  · exact .inr (stopRequestWithError_stopped h _ _)
  · split
    · exact .inl (.refl c)
    · next request _ =>
      have hletGo := stopListeningStream_letGo (c := c)
      have hagrees := h.stopListeningStream
      have hstopped : Stopped c.stopListeningStream.executing _ _ :=
        stopNetRequest_stopped (c := { c.stopListeningStream.call
            (.wasRedirectedToRequest (redirectedRequest request newURL httpStatusCode)) with
          request := none }) ⟨hagrees.streamDelegate, hagrees.httpBodyStreamDelegate⟩
      rw [hletGo.executing] at hstopped
      exact .inr (hstopped.after hletGo.stops (congrArg _ hletGo.netRequest) hletGo.created
        hletGo.executing hletGo.lateEvent)

theorem cancelAfterSSLError_keeps (h : StreamAgrees c) : Keeps c c.cancelAfterSSLError := by
  unfold cancelAfterSSLError
  split
  · exact .inl (.refl c)
  · exact .inr (stopRequestWithError_stopped h _ _)

/-! ## Start and Cancel -/

theorem cancel_keeps (h : StreamAgrees c) : Keeps c c.cancel := by
  have hprocessed : SameControl c c.cancelProcessed :=
    ⟨rfl, rfl, rfl, rfl, rfl, rfl, rfl, rfl, rfl⟩
  unfold cancel
  split
  · exact .inl hprocessed
  · exact hprocessed.keeps (.inr (stopNetRequest_stopped (h.same hprocessed)))

/-- A core starts with no stream, and with a delegate that was never removed. -/
theorem Steady.start (h : Steady c) (hcreated : c.created = false) : Steady c.start := by
  have hnone : c.netRequest = none := by
    refine Option.not_isSome_iff_eq_none.1 fun hsome => ?_
    rw [h.created hsome] at hcreated
    cases hcreated
  have hstops : c.stops = [] := by
    have honce := h.once
    rw [hcreated, Bool.false_and] at honce
    exact List.length_eq_zero_iff.1 honce
  have hremoved : c.delegateRemoved = false := by
    refine Bool.eq_false_iff.2 fun hremoved => ?_
    rw [(h.removed hremoved).2] at hcreated
    cases hcreated
  have hcreates : ∀ request, Steady (c.setClient.createNetRequest request) := by
    intro request
    refine ⟨⟨h.hadRequest, congrArg List.length hstops, h.events⟩, h.executing, h.streamDelegate,
      h.httpBodyStreamDelegate, fun _ => rfl, fun hgone => ?_, fun _ => rfl⟩
    have hgone : c.delegateRemoved = true := hgone
    rw [hremoved] at hgone
    cases hgone
  have hbody : ∀ request, Steady ((c.setClient.createNetRequest request).startBody request) := by
    intro request
    have hsteady := hcreates request
    unfold startBody
    split
    · have hstream : Steady { c.setClient.createNetRequest request with
          httpBodyStream := true, httpBodyStreamDelegate := true, streamDelegate := true } := by
        refine ⟨⟨hsteady.hadRequest, hsteady.once, hsteady.events⟩, hsteady.executing, rfl, rfl,
          fun _ => rfl, fun hgone => ?_, fun _ => rfl⟩
        have hgone : c.delegateRemoved = true := hgone
        rw [hremoved] at hgone
        cases hgone
      dsimp only
      split
      · exact hstream
      · exact hstream.same ((mapRequest_same _).trans (mapRequest_same _))
    · split
      · exact hsteady.same (mapRequest_same _)
      · split
        · exact hsteady.same (mapRequest_same _)
        · exact hsteady.same ((mapRequest_same _).trans (mapRequest_same _))
  have hclient : SameControl c c.setClient := ⟨rfl, rfl, rfl, rfl, rfl, rfl, rfl, rfl, rfl⟩
  unfold HttpProtocolHandlerCore.start
  split
  · exact h.same hclient
  · split
    · exact h.same ⟨rfl, rfl, rfl, rfl, rfl, rfl, rfl, rfl, rfl⟩
    · exact hbody _

theorem steady_initWithRequest (request : MutableURLRequest) :
    Steady (initWithRequest request) where
  hadRequest := fun _ hmem => nomatch hmem
  once := rfl
  events := rfl
  executing := rfl
  streamDelegate := rfl
  httpBodyStreamDelegate := rfl
  listening := fun hstream => nomatch hstream
  removed := fun hremoved => nomatch hremoved
  created := fun hsome => nomatch hsome

/-! ## One event -/

/-- An event that does not delete the request under anybody. -/
structure Good (c c' : HttpProtocolHandlerCore) : Prop where
  steady : Steady c'
  idle : (∀ stop ∈ c.stops, stop.executing = []) → ∀ stop ∈ c'.stops, stop.executing = []

/-- An event that does. -/
structure Bad (c' : HttpProtocolHandlerCore) : Prop where
  steady : Steady c'
  executing : ∃ stop ∈ c'.stops, stop.executing ≠ []

theorem Good.refl (h : Steady c) : Good c c := ⟨h, id⟩

theorem Keeps.good (hkeeps : Keeps c c') (h : Steady c) (hrequest : c.netRequest.isSome = true) :
    Good c c' :=
  ⟨hkeeps.steady h hrequest, hkeeps.idle h⟩

theorem Stopped.bad {member : Member} {members : List Member}
    (hstopped : Stopped (member :: members) c c') (h : Steady c)
    (hrequest : c.netRequest.isSome = true) : Bad c' := by
  refine ⟨h.stopped hrequest hstopped, ⟨c.netRequest.isSome, member :: members⟩, ?_,
    List.cons_ne_nil member members⟩
  rw [hstopped.stops]
  exact List.mem_append_right _ List.mem_cons_self

theorem Steady.stream (h : Steady c) (hstream : c.streamDelegate = true) :
    c.httpBodyStream = true ∧ c.netRequest.isSome = true :=
  have hbody := h.streamDelegate.symm.trans hstream
  ⟨hbody, h.listening hbody⟩

theorem Steady.streamDelegate_of_none (h : Steady c) (hnone : c.netRequest = none) :
    c.streamDelegate = false := by
  refine Bool.eq_false_iff.2 fun hstream => ?_
  have hsome := (h.stream hstream).2
  rw [hnone] at hsome
  cases hsome

theorem Steady.cancel (h : Steady c) : Good c c.cancel := by
  have hkeeps := cancel_keeps h.agrees
  cases hrequest : c.netRequest with
  | none =>
    have hcancel : c.cancel = c.cancelProcessed := by
      unfold HttpProtocolHandlerCore.cancel
      rw [hrequest]
    rw [hcancel]
    exact ⟨h.same ⟨rfl, rfl, rfl, rfl, rfl, rfl, rfl, rfl, rfl⟩, id⟩
  | some request => exact hkeeps.good h (Option.isSome_iff_exists.2 ⟨request, hrequest⟩)

theorem start_stops : c.start.stops = c.stops := by
  have hbody : ∀ (c : HttpProtocolHandlerCore) request, (c.startBody request).stops = c.stops := by
    intro c request
    unfold startBody
    split
    · dsimp only
      split <;> rfl
    · split
      · rfl
      · split <;> rfl
  unfold HttpProtocolHandlerCore.start
  split
  · rfl
  · split
    · rfl
    · exact hbody _ _

/-- What `UploadWhenReady` reads for an event, when it reads. -/
def EventFails (c : HttpProtocolHandlerCore) (event : StreamEvent) : Prop :=
  ∃ answer uploader, event = .hasBytesAvailable answer ∧ c.chunkedUploader = some uploader ∧
    uploader.pendingInternalRead = true ∧ answer.Fails

theorem Steady.handleStreamEvent_good (h : Steady c) (hstream : c.streamDelegate = true)
    {event : StreamEvent} (hfails : ¬ EventFails c event) : Good c (c.handleStreamEvent event) := by
  have hreached := h.reachedByEvent hstream
  have hsteady := h.same hreached
  have hrequest := (h.stream hstream).2
  have hrequest' := hreached.netRequest.trans hrequest
  unfold HttpProtocolHandlerCore.handleStreamEvent
  cases event with
  | errorOccurred =>
    have hstopped :=
      stopListening_stopRequest_stopped hsteady.agrees nsURLErrorUnknown errUnexpected
    exact (hreached.keeps (.inr hstopped)).good h hrequest
  | endEncountered =>
    have hletGo := stopListeningStream_letGo (c := c.reachedByEvent)
    have hended := hsteady.stopListening hrequest'
    have hsame : ∀ c', SameControl c.reachedByEvent.stopListeningStream c' → Good c c' := by
      intro c' hsame
      refine ⟨hended.same hsame, fun hidle => ?_⟩
      rw [hsame.stops, hletGo.stops]
      exact hidle
    dsimp only
    split
    · exact hsame _ (uploadWhenReady_of_not_fails _ _ fun _ hupload => nomatch hupload.1)
    · exact hsame _ startWithPostData_same
  | hasBytesAvailable answer =>
    dsimp only
    split
    · next uploader hchunked =>
      have hsame := @uploadWhenReady_of_not_fails c.reachedByEvent answer uploader false
        fun hpending hupload =>
          hfails ⟨answer, uploader, rfl, hchunked, hpending, hupload.2.2⟩
      exact (hreached.keeps (.inl hsame)).good h hrequest
    · exact (hreached.keeps (readPostData_keeps hsteady.agrees answer)).good h hrequest
  | none => exact Keeps.good (.inl hreached) h hrequest
  | openCompleted => exact Keeps.good (.inl hreached) h hrequest
  | hasSpaceAvailable => exact Keeps.good (.inl hreached) h hrequest

/-- `UploadWhenReady` of the uploader goes on after the request is deleted. -/
theorem Steady.handleStreamEvent_bad (h : Steady c) (hstream : c.streamDelegate = true)
    {event : StreamEvent} (hfails : EventFails c event) : Bad (c.handleStreamEvent event) := by
  obtain ⟨answer, uploader, rfl, hchunked, hpending, hanswer⟩ := hfails
  have hreached := h.reachedByEvent hstream
  obtain ⟨hbody, hrequest⟩ := h.stream hstream
  have hstopped := uploadWhenReady_of_fails false (h.same hreached).agrees hpending
    ⟨rfl, hreached.httpBodyStream.trans hbody, hanswer⟩
  unfold HttpProtocolHandlerCore.handleStreamEvent
  dsimp only
  rw [show c.reachedByEvent.chunkedUploader = some uploader from hchunked]
  exact (hreached.stopped hstopped).bad h hrequest

end HttpProtocolHandlerCore

/-! ## Runs -/

namespace CRNHTTPProtocolHandler

open HttpProtocolHandlerCore

variable {h : CRNHTTPProtocolHandler}

/-- The stream does not fail when the uploader has it read. -/
def NoFailedRead (h : CRNHTTPProtocolHandler) (call : Call) : Prop :=
  match call with
  | .readBody _ answer => ∀ uploader, h.core.chunkedUploader = some uploader →
    ¬ UploadFails h.core uploader.isFinalChunk answer
  | .streamEvent event => ¬ EventFails h.core event
  | _ => True

/-- The core before `Start` has had no request. -/
structure DeletedInv (h : CRNHTTPProtocolHandler) : Prop extends Inv h where
  steady : Steady h.core
  notCreated : NetworkTask.start ∈ h.posted ∨ h.startedLoading = false → h.core.created = false

variable {call : Call}

theorem coreStep_good (hsteady : Steady h.core) (hrequest : h.core.netRequest.isSome = true)
    (hpre : h.Pre call) (hread : h.NoFailedRead call) :
    Good h.core (coreStep h.core call) := by
  have hagrees := hsteady.agrees
  have hgood : ∀ {c'}, Keeps h.core c' → Good h.core c' := fun hkeeps =>
    hkeeps.good hsteady hrequest
  cases call with
  | streamEvent event => exact hsteady.handleStreamEvent_good hpre hread
  | readBody bufferLength answer =>
    show Good h.core (readBody h.core bufferLength answer)
    unfold readBody
    split
    · exact Good.refl hsteady
    · next uploader hchunked =>
      exact hgood (.inl (readInternal_of_not_fails (hread uploader hchunked)))
  | resetBody => exact hgood (.inl (updateUploader_same _))
  | receivedRedirect newURL httpStatusCode => exact hgood (onReceivedRedirect_keeps hagrees _ _)
  | certificateRequested => exact hgood (.inr (stopRequestWithError_stopped hagrees _ _))
  | sslCertificateError => exact hgood (cancelAfterSSLError_keeps hagrees)
  | responseStarted netError result results =>
    have hrespond : SameControl h.core (respond h.core) := mapRequest_same _
    exact hgood (hrespond.keeps (onResponseStarted_keeps (hagrees.same hrespond) _ _ _))
  | readCompleted result results =>
    have hcomplete := completeRead_same (c := h.core) result
    exact hgood (hcomplete.keeps (onReadCompleted_keeps (hagrees.same hcomplete) _ _))
  | _ => exact Good.refl hsteady

theorem coreStep_bad (hsteady : Steady h.core) (hpre : h.Pre call) (hread : ¬ h.NoFailedRead call) :
    Bad (coreStep h.core call) := by
  cases call with
  | streamEvent event =>
    exact hsteady.handleStreamEvent_bad hpre (Classical.not_not.1 hread)
  | readBody bufferLength answer =>
    unfold NoFailedRead at hread
    simp only [Classical.not_forall, Classical.not_not, exists_prop] at hread
    obtain ⟨uploader, hchunked, hfails⟩ := hread
    have hrequest : h.core.netRequest.isSome = true := hsteady.listening hfails.2.1
    have hstep : readBody h.core bufferLength answer =
        h.core.readInternal uploader bufferLength answer := by
      unfold readBody
      rw [hchunked]
    show Bad (readBody h.core bufferLength answer)
    rw [hstep]
    exact (readInternal_of_fails hsteady.agrees hfails).bad hsteady hrequest
  | _ => exact absurd trivial hread

/-- The core after a call, good or bad, is steady. -/
theorem steady_coreStep (hinv : DeletedInv h) (hpre : h.Pre call) :
    Steady (coreStep h.core call) := by
  by_cases hread : h.NoFailedRead call
  · cases hrequest : h.core.netRequest with
    | none =>
      rw [coreStep_of_none hrequest (hinv.steady.streamDelegate_of_none hrequest) hpre]
      exact hinv.steady
    | some request =>
      exact (coreStep_good hinv.steady (Option.isSome_iff_exists.2 ⟨request, hrequest⟩) hpre
        hread).steady
  · exact (coreStep_bad hinv.steady hpre hread).steady

theorem idle_coreStep (hinv : DeletedInv h) (hpre : h.Pre call)
    (hidle : ∀ stop ∈ h.core.stops, stop.executing = []) (hread : h.NoFailedRead call) :
    ∀ stop ∈ (coreStep h.core call).stops, stop.executing = [] := by
  cases hrequest : h.core.netRequest with
  | none =>
    rw [coreStep_of_none hrequest (hinv.steady.streamDelegate_of_none hrequest) hpre]
    exact hidle
  | some request =>
    exact (coreStep_good hinv.steady (Option.isSome_iff_exists.2 ⟨request, hrequest⟩) hpre
      hread).idle hidle

theorem DeletedInv.coreStep (hinv : DeletedInv h) (hpre : h.Pre call) :
    DeletedInv { h with core := CRNHTTPProtocolHandler.coreStep h.core call } := by
  refine ⟨hinv.toInv.coreStep hpre, steady_coreStep hinv hpre, fun hwaiting => ?_⟩
  have hcreated := hinv.notCreated hwaiting
  have hnone : h.core.netRequest = none := by
    refine Option.not_isSome_iff_eq_none.1 fun hsome => ?_
    rw [hinv.steady.created hsome] at hcreated
    cases hcreated
  rw [coreStep_of_none hnone (hinv.steady.streamDelegate_of_none hnone) hpre]
  exact hcreated

theorem DeletedInv.runTask (hinv : DeletedInv h) (hpre : h.posted ≠ []) :
    DeletedInv h.runTask ∧ ((∀ stop ∈ h.core.stops, stop.executing = []) →
      ∀ stop ∈ h.runTask.core.stops, stop.executing = []) := by
  have hrun := hinv.toInv.runTask hpre
  have hloaded : h.startedLoading ≠ false := fun hnot => hpre (hinv.notLoaded hnot).1
  -- behind the first task there is no start
  have hrest : ∀ task posted, h.posted = task :: posted → NetworkTask.start ∉ posted := by
    intro task posted hposted hstart
    obtain hcancels | ⟨rest, hrest, hcancels, -⟩ := hinv.posted
    · rw [hposted] at hcancels
      cases hcancels .start (List.mem_cons_of_mem _ hstart)
    · obtain ⟨-, rfl⟩ := List.cons.inj (hposted.symm.trans hrest)
      cases hcancels .start hstart
  unfold CRNHTTPProtocolHandler.runTask at hrun ⊢
  split at hrun <;> rename_i heq
  · exact absurd heq hpre
  · have hcreated := hinv.notCreated (.inl (by rw [heq]; exact List.mem_cons_self))
    dsimp only
    refine ⟨⟨hrun, hinv.steady.start hcreated, ?_⟩, fun hidle => ?_⟩
    · rintro (hstart | hnot)
      · exact absurd hstart (hrest _ _ heq)
      · exact absurd hnot hloaded
    · show ∀ stop ∈ h.core.start.stops, stop.executing = []
      rw [start_stops]
      exact hidle
  · have hgood := hinv.steady.cancel
    dsimp only
    refine ⟨⟨hrun, hgood.steady, ?_⟩, hgood.idle⟩
    rintro (hstart | hnot)
    · exact absurd hstart (hrest _ _ heq)
    · exact absurd hnot hloaded

theorem DeletedInv.step (hinv : DeletedInv h) (hpre : h.Pre call) :
    DeletedInv (h.step call) := by
  cases call with
  | startLoading =>
    have hload : h.startedLoading = false := hpre
    refine ⟨hinv.toInv.startLoading hpre, hinv.steady, fun _ => ?_⟩
    exact hinv.notCreated (.inr hload)
  | stopLoading =>
    have hload : h.startedLoading = true := hpre
    refine ⟨hinv.toInv.stopLoading hpre, hinv.steady, ?_⟩
    rintro (hstart | hnot)
    · obtain hold | hnew := List.mem_append.1 hstart
      · exact hinv.notCreated (.inl hold)
      · cases List.mem_singleton.1 hnew
    · cases hload.symm.trans hnot
  | runTask => exact (hinv.runTask hpre).1
  | _ => exact hinv.coreStep hpre

/-- One call is safe exactly when the uploader does not read a stream that fails. -/
theorem DeletedInv.step_iff (hinv : DeletedInv h)
    (hidle : ∀ stop ∈ h.core.stops, stop.executing = []) (hpre : h.Pre call) :
    (h.step call).core.DeletedSafely ↔ h.NoFailedRead call := by
  have hstopped := (hinv.step hpre).steady.toStoppedOnce
  have hcore : ∀ {call' : Call}, call = call' →
      (h.step call).core = CRNHTTPProtocolHandler.coreStep h.core call' →
      ((h.step call).core.DeletedSafely ↔ h.NoFailedRead call) := by
    rintro call' rfl hstep
    refine ⟨fun hsafe => ?_, fun hread => ⟨hstopped, ?_⟩⟩
    · by_contra hread
      obtain ⟨-, stop, hmem, hexecuting⟩ := coreStep_bad hinv.steady hpre hread
      rw [hstep] at hsafe
      exact hexecuting (hsafe.idle stop hmem)
    · rw [hstep]
      exact idle_coreStep hinv hpre hidle hread
  cases call with
  | startLoading => exact ⟨fun _ => trivial, fun _ => ⟨hstopped, hidle⟩⟩
  | stopLoading => exact ⟨fun _ => trivial, fun _ => ⟨hstopped, hidle⟩⟩
  | runTask => exact ⟨fun _ => trivial, fun _ => ⟨hstopped, (hinv.runTask hpre).2 hidle⟩⟩
  | _ => exact hcore rfl rfl

theorem DeletedInv.initWithRequest (request : MutableURLRequest) (supportedURL : Bool) :
    DeletedInv (initWithRequest request supportedURL) where
  toInv := .initWithRequest request supportedURL
  steady := steady_initWithRequest request
  notCreated := fun _ => rfl

/-- **The request is deleted under its uploader exactly when the uploader has a failing stream
read.** -/
theorem deletedSafely_iff {request : MutableURLRequest} {supportedURL : Bool} {calls : List Call}
    (hrun : machine.Run (initWithRequest request supportedURL) calls) :
    machine.Always (fun h call => (h.step call).core.DeletedSafely)
        (initWithRequest request supportedURL) calls ↔
      machine.Always NoFailedRead (initWithRequest request supportedURL) calls :=
  Lib.Machine.always_iff_of_invariant
    (I := fun h => DeletedInv h ∧ ∀ stop ∈ h.core.stops, stop.executing = [])
    (fun _ _ hinv hpre => hinv.1.step_iff hinv.2 hpre)
    (fun _ _ hinv hpre hsafe => ⟨hinv.1.step hpre, hsafe.idle⟩)
    ⟨DeletedInv.initWithRequest request supportedURL, fun _ hmem => nomatch hmem⟩ hrun

/-- A form is posted from a stream of unknown length. -/
def examplePost : MutableURLRequest :=
  ⟨⟨"https://example.com/form", true⟩, "POST", none, true, []⟩

/-- The network layer reads the body, and the stream fails. -/
def failedWhileUploading : List Call :=
  [.startLoading, .runTask, .readBody 1024 (.error 5)]

theorem deletedSafely_iff_failedWhileUploading :
    machine.Always (fun h call => (h.step call).core.DeletedSafely)
        (initWithRequest examplePost true) failedWhileUploading ↔
      machine.Always NoFailedRead (initWithRequest examplePost true) failedWhileUploading :=
  @deletedSafely_iff examplePost true failedWhileUploading (by decide)

/-- The request is deleted with its uploader, whose `ReadInternal` and `Upload` have not
returned. -/
theorem failedWhileUploading_deleted :
    machine.Run (initWithRequest examplePost true) failedWhileUploading ∧
      (machine.exec (initWithRequest examplePost true) failedWhileUploading).core.stops =
        [⟨true, [.upload, .readInternal, .urlRequest]⟩] ∧
      ¬ machine.Always (fun h call => (h.step call).core.DeletedSafely)
        (initWithRequest examplePost true) failedWhileUploading := by
  refine ⟨by decide, by decide, fun hsafe => ?_⟩
  have hidle := hsafe.2.2.1.idle ⟨true, [.upload, .readInternal, .urlRequest]⟩ (by decide)
  cases hidle

end CRNHTTPProtocolHandler

end IosChrome.Net

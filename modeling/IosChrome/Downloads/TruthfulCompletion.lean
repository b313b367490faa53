import Mathlib.Data.List.Count
import IosChrome.Lib.ListEdit
import IosChrome.Downloads.DownloadTaskImpl

/-!
# Complete downloads are complete

A download that ends in `kComplete` without an error should be in the hands of its
writer, every byte of it, and a file should be disowned only then (`Truthful`).

The task does not look at what `Write` and a `Finish` that ends at once have returned,
and it disowns the file of a download that failed as well. So the answers of the writer
must be good whenever the download ends and they would be passed over (`Honest`); as
long as the task is not started while something of an earlier start is under way
(`Settled`), that is exactly when it tells the truth (`download_truthful_iff`). That a
writer has taken all it was given is that each `Write` has taken its whole chunk
(`accepted_eq_iff`), and an end comes once, since only one thing is under way at a time
(`underWay`).
-/

namespace IosChrome.Downloads

open IosChrome.Lib

/-! ## What the writer has taken -/

theorem WriteCall.length_accepted (call : WriteCall) :
    call.accepted.length = min (call.result.getD 0).toNat call.chunk.length := by
  unfold WriteCall.accepted
  rw [List.length_take]

theorem length_accepted_le (calls : List WriteCall) :
    (calls.flatMap WriteCall.accepted).length ≤ (calls.flatMap WriteCall.chunk).length := by
  induction calls with
  | nil => exact Nat.le_refl _
  | cons call calls ih =>
    rw [List.flatMap_cons, List.flatMap_cons, List.length_append, List.length_append]
    have hcall := call.length_accepted
    omega

/-- **All that was given has been taken when each chunk has been taken whole.** -/
theorem accepted_eq_iff (calls : List WriteCall) :
    calls.flatMap WriteCall.accepted = calls.flatMap WriteCall.chunk ↔
      ∀ call ∈ calls, call.whole = true := by
  induction calls with
  | nil => exact ⟨fun _ _ hmem => (nomatch hmem), fun _ => rfl⟩
  | cons call calls ih =>
    rw [List.flatMap_cons, List.flatMap_cons, List.forall_mem_cons, ← ih]
    constructor
    · intro heq
      have hlength := congrArg List.length heq
      have hle := length_accepted_le calls
      rw [List.length_append, List.length_append, call.length_accepted] at hlength
      -- a chunk cut short could not be made up for by the others
      have hwhole : call.chunk.length ≤ (call.result.getD 0).toNat := by omega
      have htaken : call.accepted = call.chunk := List.take_of_length_le hwhole
      rw [htaken] at heq
      exact ⟨decide_eq_true hwhole, List.append_cancel_left heq⟩
    · rintro ⟨hwhole, hrest⟩
      have htaken : call.accepted = call.chunk :=
        List.take_of_length_le (of_decide_eq_true hwhole)
      rw [htaken, hrest]

namespace DownloadTaskImpl

/-! ## What is claimed of an end -/

def IsDisowned (d : DownloadTaskImpl) : Prop := d.writer.any Writer.disowned = true

def IsFile (d : DownloadTaskImpl) : Prop := d.writer.any Writer.isFile = true

/-- Each `Write` has taken its whole chunk. -/
def AllWritten (d : DownloadTaskImpl) : Prop :=
  d.writer.all (fun w => w.writes.all WriteCall.whole) = true

/-- The writer has accepted what was received and has finished. -/
def Stored (d : DownloadTaskImpl) : Prop :=
  (∃ w, d.writer = some w ∧ w.accepted = d.received ∧ w.finished = some 0) ∧
    0 ≤ d.totalBytes ∧ 0 ≤ d.receivedBytes

structure Truthful (d : DownloadTaskImpl) (event : DownloadEvent) : Prop where
  complete : (d.step event).state = .complete → (d.step event).errorCode = 0 →
    (d.step event).Stored
  /-- The writer of a `Start` is a new one. -/
  disowns : (d.step event).IsDisowned → ¬ d.IsDisowned ∨ event.IsStart →
    (d.step event).state = .complete ∧ (d.step event).errorCode = 0

/-- The download ends with this error code after this answer of `Finish`. Where the
writer is a file or the code is 0, all must have gone well. -/
def EndsWell (d : DownloadTaskImpl) (errorCode finished totalBytes receivedBytes : Int) : Prop :=
  d.IsFile ∨ errorCode = 0 → errorCode = 0 ∧ finished = 0 ∧ d.AllWritten ∧
    0 ≤ totalBytes ∧ 0 ≤ receivedBytes

/-- The answers of the writer to `Start`. -/
def HonestStart (originalUrl : OriginalUrl) (isFile : Bool) (written finished : Int) : Prop :=
  match originalUrl with
  | .data none => isFile = false
  | .data (some (_, data)) => written ≠ errIOPending → finished ≠ errIOPending →
    finished = 0 ∧ data.length ≤ written.toNat ∧ 0 ≤ written
  | .other => True

/-- The answers of the writer and the session are good where the download ends. -/
def Honest (d : DownloadTaskImpl) : DownloadEvent → Prop
  | .start isFile written finished => HonestStart d.originalUrl isFile written finished
  | .completion _ p error finished => finished ≠ errIOPending →
    d.EndsWell (getNetErrorCodeFromNSError error) finished
      (if d.totalBytes = -1 ∨ p.countOfBytesExpectedToReceive ≠ 0 then
        p.countOfBytesExpectedToReceive else d.totalBytes)
      p.countOfBytesReceived
  | .writeCompletes attempt written finished =>
    attempt = d.attempt → d.originalUrl ≠ .other → finished ≠ errIOPending →
      (d.modifyWriter (Writer.writeCompletes · written)).EndsWell 0 finished written written
  | .finishCompletes _ errorCode =>
    d.EndsWell errorCode errorCode d.totalBytes d.receivedBytes
  | .cancel => True
  | .shutDown => True
  | .cookies _ => True
  | .data _ _ _ => True
  | .properties _ _ => True

variable {d : DownloadTaskImpl}

/-! ## The end -/

theorem allWritten_iff {w : Writer} (hwriter : d.writer = some w) :
    d.AllWritten ↔ ∀ call ∈ w.writes, call.whole = true := by
  unfold AllWritten
  rw [hwriter, Option.all_some, List.all_eq_true]

/-- What an end that is reached through an answer of `Finish` amounts to. -/
theorem truthful_end {event : DownloadEvent} {ending : DownloadTaskImpl} {w : Writer}
    {errorCode finished : Int} (hwriter : ending.writer = some w)
    (hreceived : w.writes.flatMap WriteCall.chunk = ending.received)
    (hnew : ¬ d.IsDisowned ∨ event.IsStart) (howned : ¬ ending.IsDisowned)
    (hstep : d.step event =
      (ending.modifyWriter (Writer.finish · finished)).onDownloadFinished errorCode) :
    d.Truthful event ↔
      ending.EndsWell errorCode finished ending.totalBytes ending.receivedBytes := by
  have hdisown : ∀ w : Writer, w.disownFile.writes = w.writes ∧
      w.disownFile.finished = w.finished ∧
      w.disownFile.disowned = (w.isFile || w.disowned) := by
    intro w
    unfold Writer.disownFile
    cases hfile : w.isFile <;> exact ⟨rfl, rfl, rfl⟩
  have hended : (d.step event).writer = some (w.finish finished).disownFile := by
    rw [hstep]
    show (ending.writer.map _).map _ = _
    rw [hwriter]
    rfl
  obtain ⟨hwrites, hfinished, hdisowned⟩ := hdisown (w.finish finished)
  have hnot : w.disowned = false := by
    unfold IsDisowned at howned
    rw [hwriter] at howned
    exact eq_false_of_ne_true howned
  have hfile : (d.step event).IsDisowned ↔ ending.IsFile := by
    unfold IsDisowned IsFile
    rw [hended, hwriter, Option.any_some, Option.any_some, hdisowned]
    show (w.isFile || w.disowned) = true ↔ w.isFile = true
    rw [hnot, Bool.or_false]
  have hstored : (d.step event).Stored ↔ finished = 0 ∧ ending.AllWritten ∧
      0 ≤ ending.totalBytes ∧ 0 ≤ ending.receivedBytes := by
    have hall := accepted_eq_iff w.writes
    rw [hreceived, ← allWritten_iff hwriter] at hall
    have hbytes : (d.step event).received = ending.received ∧
        (d.step event).totalBytes = ending.totalBytes ∧
        (d.step event).receivedBytes = ending.receivedBytes := by
      rw [hstep]
      exact ⟨rfl, rfl, rfl⟩
    unfold Stored
    rw [hbytes.1, hbytes.2.1, hbytes.2.2, hended]
    constructor
    · rintro ⟨⟨ended, hsome, haccepted, hcode⟩, hsizes⟩
      obtain rfl := Option.some.inj hsome
      rw [hfinished] at hcode
      unfold Writer.accepted at haccepted
      rw [hwrites] at haccepted
      exact ⟨Option.some.inj hcode, hall.1 haccepted, hsizes⟩
    · rintro ⟨rfl, hwritten, hsizes⟩
      refine ⟨⟨_, rfl, ?_, hfinished⟩, hsizes⟩
      unfold Writer.accepted
      rw [hwrites]
      exact hall.2 hwritten
  have hcomplete : (d.step event).state = .complete ∧ (d.step event).errorCode = errorCode := by
    rw [hstep]
    exact ⟨rfl, rfl⟩
  constructor
  · intro htruthful hends
    have hcode : errorCode = 0 := by
      rcases hends with hends' | hcode
      · exact hcomplete.2.symm.trans (htruthful.disowns (hfile.2 hends') hnew).2
      · exact hcode
    exact ⟨hcode, hstored.1 (htruthful.complete hcomplete.1 (hcomplete.2.trans hcode))⟩
  · intro hends
    refine ⟨fun _ hcode => ?_, fun howned' _ => ?_⟩
    · exact hstored.2 (hends (.inr (hcomplete.2.symm.trans hcode))).2
    · exact ⟨hcomplete.1, hcomplete.2.trans (hends (.inl (hfile.1 howned'))).1⟩

/-! ## One thing at a time -/

def openTasks (d : DownloadTaskImpl) : Nat := d.sessionTasks.countP fun t => !t.completed

/-- The `Write` of a `data:` URL that has not been answered. -/
def dataWrites (d : DownloadTaskImpl) : Nat :=
  if d.originalUrl ≠ .other ∧ d.IsWriting then 1 else 0

/-- What the download waits for. -/
def underWay (d : DownloadTaskImpl) : Nat :=
  d.pendingCookies.length + d.openTasks + d.pendingFinishes.length + d.dataWrites

/-- The task is started when nothing is under way any more. -/
def Settled (d : DownloadTaskImpl) : DownloadEvent → Prop
  | .start _ _ _ => d.underWay = 0
  | _ => True

/-- A download waits for one thing at a time, and after its end for none. -/
structure Ordered (d : DownloadTaskImpl) : Prop where
  received : ∀ w, d.writer = some w → w.writes.flatMap WriteCall.chunk = d.received
  begun : d.writer = none ↔ d.attempt = 0
  idle : d.attempt = 0 → d.underWay = 0
  one : d.underWay ≤ 1
  session : d.originalUrl ≠ .other → d.pendingCookies.length + d.openTasks = 0
  writerOf : ∀ finish ∈ d.pendingFinishes, finish.writer = d.attempt
  free : d.pendingFinishes ≠ [] → ¬ d.IsWriting
  ended : d.state = .complete ∨ d.IsDisowned → d.underWay = 0 ∧ ¬ d.IsWriting

theorem create_ordered (originalUrl : OriginalUrl) (totalBytes : Int) (mimeType : String) :
    (create originalUrl totalBytes mimeType).Ordered := by
  have hnot : ¬ (create originalUrl totalBytes mimeType).IsWriting := Bool.false_ne_true
  have hnone : (create originalUrl totalBytes mimeType).underWay = 0 := by
    unfold underWay dataWrites
    rw [if_neg fun hdata => hnot hdata.2]
    rfl
  refine ⟨fun w hwriter => (nomatch hwriter), ⟨fun _ => rfl, fun _ => rfl⟩,
    fun _ => hnone,
    Nat.le_trans (Nat.le_of_eq hnone) (Nat.zero_le 1), fun _ => rfl, fun _ hmem => (nomatch hmem),
    fun _ => hnot, fun _ => ⟨hnone, hnot⟩⟩

theorem IsWriting.congr {d' : DownloadTaskImpl} (hwriter : d'.writer = d.writer) :
    d'.IsWriting ↔ d.IsWriting := by
  unfold IsWriting
  rw [hwriter]

theorem dataWrites_congr {d' : DownloadTaskImpl} (hurl : d'.originalUrl = d.originalUrl)
    (hwriter : d'.writer = d.writer) : d'.dataWrites = d.dataWrites :=
  if_congr (and_congr (by rw [hurl]) (IsWriting.congr hwriter)) rfl rfl

/-- What an event leaves as it was. -/
theorem Ordered.congr (h : d.Ordered) {d' : DownloadTaskImpl}
    (hurl : d'.originalUrl = d.originalUrl) (hattempt : d'.attempt = d.attempt)
    (hwriter : d'.writer = d.writer) (hreceived : d'.received = d.received)
    (hcookies : d'.pendingCookies = d.pendingCookies) (hopen : d'.openTasks = d.openTasks)
    (hfinishes : d'.pendingFinishes = d.pendingFinishes)
    (hstate : d'.state = .complete → d.state = .complete) : d'.Ordered := by
  have hunder : d'.underWay = d.underWay := by
    unfold underWay
    rw [hcookies, hopen, hfinishes, dataWrites_congr hurl hwriter]
  have hdisowned : d'.IsDisowned ↔ d.IsDisowned := by
    unfold IsDisowned
    rw [hwriter]
  refine ⟨fun w hw => ?_, ?_, fun hidle => ?_, ?_, fun hdata => ?_,
    fun finish hfinish => ?_, fun hfinish => ?_, fun hended => ?_⟩
  · rw [hreceived]
    exact h.received w (hwriter.symm.trans hw)
  · rw [hattempt, hwriter]
    exact h.begun
  · rw [hunder]
    exact h.idle (hattempt.symm.trans hidle)
  · rw [hunder]
    exact h.one
  · rw [hcookies, hopen]
    exact h.session (hurl ▸ hdata)
  · rw [hattempt]
    exact h.writerOf finish (hfinishes ▸ hfinish)
  · rw [IsWriting.congr hwriter]
    exact h.free (hfinishes ▸ hfinish)
  · rw [hunder, IsWriting.congr hwriter]
    exact h.ended (hended.imp hstate hdisowned.1)

/-- A download that waits for something has a writer, and has not ended. -/
theorem Ordered.waits (h : d.Ordered) (hunder : 0 < d.underWay) :
    (∃ w, d.writer = some w) ∧ d.attempt ≠ 0 ∧ d.state ≠ .complete ∧ ¬ d.IsDisowned := by
  have hattempt : d.attempt ≠ 0 := by
    intro hidle
    have hnone := h.idle hidle
    omega
  refine ⟨?_, hattempt, fun hcomplete => ?_, fun hdisowned => ?_⟩
  · cases hwriter : d.writer with
    | none => exact absurd (h.begun.1 hwriter) hattempt
    | some w => exact ⟨w, rfl⟩
  · have hnone := (h.ended (.inl hcomplete)).1
    omega
  · have hnone := (h.ended (.inr hdisowned)).1
    omega

/-! ## What is open -/

theorem openTasks_pos {task : Nat} (hopen : d.IsOpen task) : 0 < d.openTasks := by
  obtain ⟨t, hget, hcompleted⟩ := Option.map_eq_some_iff.1 hopen
  refine List.countP_pos_iff.2 ⟨t, List.mem_of_getElem? hget, ?_⟩
  rw [hcompleted]
  rfl

theorem countP_modify_completed {tasks : List SessionTask} {task : Nat} {t : SessionTask}
    (hget : tasks[task]? = some t) (hopen : t.completed = false) :
    (tasks.modify task fun t => { t with completed := true }).countP (fun t => !t.completed) + 1 =
      tasks.countP fun t => !t.completed := by
  induction tasks generalizing task with
  | nil => exact nomatch hget
  | cons other tasks ih =>
    cases task with
    | zero =>
      obtain rfl := Option.some.inj hget
      rw [List.modify_zero_cons, List.countP_cons, List.countP_cons, hopen]
      rfl
    | succ task =>
      rw [List.modify_succ_cons, List.countP_cons, List.countP_cons, ← ih hget]
      omega

theorem openTasks_cancelSessionTask (d : DownloadTaskImpl) :
    d.cancelSessionTask.openTasks = d.openTasks := by
  unfold cancelSessionTask
  cases hsession : d.sessionTask with
  | none => rfl
  | some task =>
    have hmap := map_modify_of_forall (f := fun t : SessionTask => { t with canceled := true })
      (g := fun t => !t.completed) (fun _ => rfl) d.sessionTasks task
    have hcount := congrArg (List.countP id) hmap
    rw [List.countP_map, List.countP_map] at hcount
    exact hcount

theorem cancelSessionTask_members (d : DownloadTaskImpl) :
    d.cancelSessionTask.originalUrl = d.originalUrl ∧ d.cancelSessionTask.attempt = d.attempt ∧
      d.cancelSessionTask.writer = d.writer ∧ d.cancelSessionTask.received = d.received ∧
      d.cancelSessionTask.pendingCookies = d.pendingCookies ∧
      d.cancelSessionTask.pendingFinishes = d.pendingFinishes ∧
      d.cancelSessionTask.state = d.state ∧ d.cancelSessionTask.errorCode = d.errorCode ∧
      d.cancelSessionTask.totalBytes = d.totalBytes ∧
      d.cancelSessionTask.receivedBytes = d.receivedBytes := by
  unfold cancelSessionTask
  cases d.sessionTask <;> exact ⟨rfl, rfl, rfl, rfl, rfl, rfl, rfl, rfl, rfl, rfl⟩

/-! ## Ends -/

theorem isWriting_iff {w : Writer} (hwriter : d.writer = some w) :
    d.IsWriting ↔ w.isWriting = true := by
  unfold IsWriting
  rw [hwriter, Option.any_some]

theorem underWay_of_free (hfree : ¬ d.IsWriting) : d.underWay =
    d.pendingCookies.length + d.openTasks + d.pendingFinishes.length := by
  have hdata : d.dataWrites = 0 := if_neg fun hdata => hfree hdata.2
  unfold underWay
  omega

theorem Ordered.of_quiet {w : Writer} (hwriter : d.writer = some w)
    (hreceived : w.writes.flatMap WriteCall.chunk = d.received) (hbegun : d.attempt ≠ 0)
    (hnone : d.underWay = 0) (hnot : ¬ d.IsWriting) : d.Ordered := by
  have hfinishes : d.pendingFinishes = [] := by
    unfold underWay at hnone
    exact List.length_eq_zero_iff.1 (by omega)
  refine ⟨fun other hother => ?_,
    iff_of_false (fun hgone => nomatch hwriter.symm.trans hgone) hbegun, fun _ => hnone,
    Nat.le_trans (Nat.le_of_eq hnone) (Nat.zero_le 1), fun _ => ?_, fun finish hfinish => ?_,
    fun _ => hnot,
    fun _ => ⟨hnone, hnot⟩⟩
  · obtain rfl := Option.some.inj (hwriter.symm.trans hother)
    exact hreceived
  · unfold underWay at hnone
    omega
  · rw [hfinishes] at hfinish
    exact nomatch hfinish

/-- A download that waits for nothing, about to finish its writer. -/
structure Finishing (d : DownloadTaskImpl) (w : Writer) : Prop where
  writer : d.writer = some w
  received : w.writes.flatMap WriteCall.chunk = d.received
  none : d.underWay = 0
  free : ¬ d.IsWriting
  begun : d.attempt ≠ 0
  going : d.state ≠ .complete ∧ ¬ d.IsDisowned

theorem Finishing.ordered_end {w : Writer} (h : d.Finishing w) (errorCode finished : Int) :
    ((d.modifyWriter (Writer.finish · finished)).onDownloadFinished errorCode).Ordered := by
  have hwrites : ((w.finish finished).disownFile).writes = w.writes := by
    unfold Writer.disownFile
    split_ifs <;> rfl
  have hwriter : ((d.modifyWriter (Writer.finish · finished)).onDownloadFinished
      errorCode).writer = some (w.finish finished).disownFile := by
    show (d.writer.map _).map _ = _
    rw [h.writer]
    rfl
  have hnot : ¬ ((d.modifyWriter (Writer.finish · finished)).onDownloadFinished
      errorCode).IsWriting := by
    rw [isWriting_iff hwriter]
    unfold Writer.isWriting
    rw [hwrites]
    exact fun hwriting => h.free ((isWriting_iff h.writer).2 hwriting)
  refine Ordered.of_quiet hwriter (hwrites ▸ h.received) h.begun ?_ hnot
  exact (underWay_of_free hnot).trans ((underWay_of_free h.free).symm.trans h.none)

theorem Finishing.ordered {w : Writer} (h : d.Finishing w) (attempt : Nat)
    (errorCode finished : Int) : (d.finishWriter attempt errorCode finished).Ordered := by
  have hnone : d.underWay = 0 := h.none
  unfold underWay at hnone
  unfold finishWriter
  by_cases hpending : finished = errIOPending
  · rw [if_pos hpending]
    -- the answer of `Finish` is waited for
    have hone : ({ d with
        pendingFinishes := d.pendingFinishes ++ [{ attempt, writer := d.attempt }]
        } : DownloadTaskImpl).underWay = 1 := by
      unfold underWay
      show d.pendingCookies.length + d.openTasks + (d.pendingFinishes ++ [_]).length +
        d.dataWrites = 1
      rw [List.length_append, List.length_singleton]
      omega
    have hfinishes : d.pendingFinishes = [] := List.length_eq_zero_iff.1 (by omega)
    refine ⟨fun other hother => ?_,
      iff_of_false (fun hgone => nomatch h.writer.symm.trans hgone) h.begun,
      fun hidle => absurd hidle h.begun, Nat.le_of_eq hone, fun _ => ?_,
      fun finish hfinish => ?_, fun _ => h.free, fun hended => ?_⟩
    · obtain rfl := Option.some.inj (h.writer.symm.trans hother)
      exact h.received
    · show d.pendingCookies.length + d.openTasks = 0
      omega
    · rw [hfinishes] at hfinish
      obtain rfl := List.mem_singleton.1 hfinish
      rfl
    · rcases hended with hcomplete | hdisowned
      · exact absurd hcomplete h.going.1
      · exact absurd hdisowned h.going.2
  · rw [if_neg hpending]
    exact h.ordered_end errorCode finished

theorem Finishing.truthful_iff {ending : DownloadTaskImpl} {w : Writer} (h : ending.Finishing w)
    {event : DownloadEvent} {attempt : Nat} {errorCode finished : Int}
    (hnew : ¬ d.IsDisowned ∨ event.IsStart)
    (hstep : d.step event = ending.finishWriter attempt errorCode finished) :
    d.Truthful event ↔ (finished ≠ errIOPending →
      ending.EndsWell errorCode finished ending.totalBytes ending.receivedBytes) := by
  unfold finishWriter at hstep
  by_cases hpending : finished = errIOPending
  · rw [if_pos hpending] at hstep
    refine ⟨fun _ hdone => absurd hpending hdone, fun _ => ⟨fun hcomplete => ?_, fun howned => ?_⟩⟩
    · rw [hstep] at hcomplete
      exact absurd hcomplete h.going.1
    · rw [hstep] at howned
      exact absurd howned h.going.2
  · rw [if_neg hpending] at hstep
    rw [truthful_end h.writer h.received hnew h.going.2 hstep]
    exact ⟨fun hends _ => hends, fun hends => hends hpending⟩

/-! ## Steps -/

structure Downloading (d : DownloadTaskImpl) : Prop where
  ordered : d.Ordered
  stored : d.state = .complete → d.errorCode = 0 → d.Stored

/-- An event that does not end the download. -/
theorem truthful_of_going {event : DownloadEvent} (hstart : ¬ event.IsStart)
    (hstate : (d.step event).state ≠ .complete)
    (howned : (d.step event).IsDisowned → d.IsDisowned) : d.Truthful event where
  complete := fun hcomplete => absurd hcomplete hstate
  disowns := fun hdisowned hnew =>
    absurd hnew (not_or.2 ⟨not_not_intro (howned hdisowned), hstart⟩)

/-- A start that does not end the download at once. -/
theorem truthful_of_started {event : DownloadEvent} (hstate : (d.step event).state ≠ .complete)
    (hnot : ¬ (d.step event).IsDisowned) : d.Truthful event where
  complete := fun hcomplete => absurd hcomplete hstate
  disowns := fun hdisowned _ => absurd hdisowned hnot

theorem Downloading.cancel (h : d.Downloading) : d.cancel.Ordered ∧ d.Truthful .cancel := by
  obtain ⟨hurl, hattempt, hwriter, hreceived, hcookies, hfinishes, _⟩ :=
    cancelSessionTask_members d
  refine ⟨h.ordered.congr hurl hattempt hwriter hreceived hcookies
    (openTasks_cancelSessionTask d) hfinishes fun hcomplete => (nomatch hcomplete),
    truthful_of_going id (fun hcomplete => nomatch hcomplete) fun hdisowned => ?_⟩
  unfold IsDisowned at hdisowned ⊢
  rw [← hwriter]
  exact hdisowned

theorem Downloading.shutDown (h : d.Downloading) : d.shutDown.Ordered ∧ d.Truthful .shutDown := by
  obtain ⟨hurl, hattempt, hwriter, hreceived, hcookies, hfinishes, hstate, hcode, htotal, hbytes⟩ :=
    cancelSessionTask_members d
  refine ⟨h.ordered.congr hurl hattempt hwriter hreceived hcookies
    (openTasks_cancelSessionTask d) hfinishes fun hcomplete => hstate.symm.trans hcomplete,
    fun hcomplete herror => ?_, fun hdisowned hnew => absurd hnew (not_or.2 ⟨not_not_intro ?_, id⟩)⟩
  · obtain ⟨hkept, hsizes⟩ := h.stored (hstate.symm.trans hcomplete) (hcode.symm.trans herror)
    unfold Stored
    show (∃ w, d.cancelSessionTask.writer = some w ∧ w.accepted = d.cancelSessionTask.received ∧
      w.finished = some 0) ∧ 0 ≤ d.cancelSessionTask.totalBytes ∧
        0 ≤ d.cancelSessionTask.receivedBytes
    rw [hwriter, hreceived, htotal, hbytes]
    exact ⟨hkept, hsizes⟩
  · unfold IsDisowned at hdisowned ⊢
    rw [← hwriter]
    exact hdisowned

theorem Downloading.cookies (h : d.Downloading) {attempt : Nat}
    (hasked : attempt ∈ d.pendingCookies) :
    (d.startWithCookies attempt).Ordered ∧ d.Truthful (.cookies attempt) := by
  have hlength := List.length_erase_of_mem hasked
  have hpos : 0 < d.pendingCookies.length := List.length_pos_of_mem hasked
  have hone := h.ordered.one
  have hunder : 0 < d.underWay := by
    unfold underWay
    omega
  obtain ⟨_, hbegun, hgoing, hnot⟩ := h.ordered.waits hunder
  have hurl : d.originalUrl = .other := by
    by_contra hdata
    have hsession := h.ordered.session hdata
    omega
  -- in place of the cookies there is the session task, or nothing
  have hmoved : ∀ {d' : DownloadTaskImpl}, d'.originalUrl = d.originalUrl →
      d'.attempt = d.attempt → d'.writer = d.writer → d'.received = d.received →
      d'.pendingFinishes = d.pendingFinishes → d'.state = d.state →
      d'.pendingCookies.length + d'.openTasks ≤ d.pendingCookies.length + d.openTasks →
      d'.Ordered := by
    intro d' hurl' hattempt' hwriter' hreceived' hfinishes' hstate' hle
    refine ⟨fun w hw => ?_, ?_, fun hidle => ?_, ?_, fun hdata => ?_,
      fun finish hfinish => ?_, fun hfinish => ?_, fun hended => ?_⟩
    · rw [hreceived']
      exact h.ordered.received w (hwriter'.symm.trans hw)
    · rw [hattempt', hwriter']
      exact h.ordered.begun
    · exact absurd (hattempt'.symm.trans hidle) hbegun
    · unfold underWay at hone ⊢
      rw [hfinishes', dataWrites_congr hurl' hwriter']
      omega
    · exact absurd (hurl'.trans hurl) hdata
    · rw [hattempt']
      exact h.ordered.writerOf finish (hfinishes' ▸ hfinish)
    · rw [IsWriting.congr hwriter']
      exact h.ordered.free (hfinishes' ▸ hfinish)
    · unfold IsDisowned at hended
      rw [hstate', hwriter'] at hended
      exact absurd hended (not_or.2 ⟨hgoing, hnot⟩)
  have hsession : (d.startWithCookies attempt).Ordered ∧
      (d.startWithCookies attempt).state = d.state ∧
      (d.startWithCookies attempt).writer = d.writer := by
    unfold startWithCookies
    split
    · refine ⟨hmoved rfl rfl rfl rfl rfl rfl ?_, rfl, rfl⟩
      show (d.pendingCookies.erase attempt).length + (d.sessionTasks ++ [_]).countP _ ≤
        d.pendingCookies.length + d.sessionTasks.countP _
      rw [List.countP_append]
      show _ + (_ + 1) ≤ _
      omega
    · refine ⟨hmoved rfl rfl rfl rfl rfl rfl ?_, rfl, rfl⟩
      show (d.pendingCookies.erase attempt).length + d.openTasks ≤ _
      omega
  refine ⟨hsession.1, truthful_of_going id (fun hcomplete => ?_) fun hdisowned => ?_⟩
  · exact hgoing (hsession.2.1.symm.trans hcomplete)
  · unfold IsDisowned at hdisowned ⊢
    rw [← hsession.2.2]
    exact hdisowned

/-- What a session task that has not been completed tells of the download. -/
theorem Downloading.of_open (h : d.Downloading) {task : Nat} (hopen : d.IsOpen task) :
    (∃ w, d.writer = some w) ∧ d.attempt ≠ 0 ∧ d.state ≠ .complete ∧ ¬ d.IsDisowned ∧
      d.originalUrl = .other ∧ d.pendingCookies = [] ∧ d.openTasks = 1 ∧
      d.pendingFinishes = [] := by
  have hpos := openTasks_pos hopen
  have hone := h.ordered.one
  unfold underWay at hone
  obtain ⟨hwriter, hbegun, hgoing, hnot⟩ := h.ordered.waits (by unfold underWay; omega)
  refine ⟨hwriter, hbegun, hgoing, hnot, ?_, List.length_eq_zero_iff.1 (by omega), by omega,
    List.length_eq_zero_iff.1 (by omega)⟩
  by_contra hdata
  have hsession := h.ordered.session hdata
  omega

theorem Downloading.data (h : d.Downloading) {task : Nat} (hopen : d.IsOpen task) (chunk : Bytes)
    (written : Int) : (d.dataBlock (d.attemptOf task) chunk written).Ordered ∧
      d.Truthful (.data task chunk written) := by
  obtain ⟨⟨w, hwriter⟩, hbegun, hgoing, hnot, hurl, hcookies, hone, hfinishes⟩ := h.of_open hopen
  have hwritten : (d.dataBlock (d.attemptOf task) chunk written).writer =
      some (w.write (d.attemptOf task) chunk written) := by
    show d.writer.map _ = _
    rw [hwriter]
    rfl
  have hsame : (d.dataBlock (d.attemptOf task) chunk written).IsDisowned ↔ d.IsDisowned := by
    unfold IsDisowned
    rw [hwritten, hwriter]
    exact Iff.rfl
  have hunder : (d.dataBlock (d.attemptOf task) chunk written).underWay = 1 := by
    have hdata : (d.dataBlock (d.attemptOf task) chunk written).dataWrites = 0 :=
      if_neg fun hdata => hdata.1 hurl
    unfold underWay
    rw [hdata]
    show d.pendingCookies.length + d.openTasks + d.pendingFinishes.length + 0 = 1
    rw [hcookies, hone, hfinishes]
    rfl
  refine ⟨⟨fun other hother => ?_,
    iff_of_false (fun hgone => nomatch hwritten.symm.trans hgone) hbegun,
    fun hidle => absurd hidle hbegun, Nat.le_of_eq hunder, fun hdata => absurd hurl hdata,
    h.ordered.writerOf, fun hfinish => absurd hfinishes hfinish, fun hended => ?_⟩,
    truthful_of_going id hgoing hsame.1⟩
  · obtain rfl := Option.some.inj (hwritten.symm.trans hother)
    show (w.writes ++ [_]).flatMap _ = d.received ++ chunk
    rw [List.flatMap_append, h.ordered.received w hwriter, List.flatMap_singleton]
  · exact absurd (hended.imp id hsame.1) (not_or.2 ⟨hgoing, hnot⟩)

theorem Downloading.properties (h : d.Downloading) {task : Nat} (hopen : d.IsOpen task)
    (p : TaskProperties) :
    (d.updateProperties p none).Ordered ∧ d.Truthful (.properties task p) :=
  ⟨h.ordered.congr rfl rfl rfl rfl rfl rfl rfl id,
    truthful_of_going id (h.of_open hopen).2.2.1 id⟩

/-- The session task has been completed, and its last properties are known. -/
theorem Downloading.finishing (h : d.Downloading) {task : Nat} (hopen : d.IsOpen task)
    (hfree : ¬ d.IsWriting) (p : TaskProperties) (error : Option (Option Int)) : ∃ w,
      (({ d with sessionTasks := d.sessionTasks.modify task fun t => { t with completed := true }
        } : DownloadTaskImpl).updateProperties p error).Finishing w := by
  obtain ⟨⟨w, hwriter⟩, hbegun, hgoing, hnot, _, hcookies, hone, hfinishes⟩ := h.of_open hopen
  obtain ⟨t, hget, hcompleted⟩ := Option.map_eq_some_iff.1 hopen
  have hcount := countP_modify_completed hget hcompleted
  refine ⟨w, hwriter, h.ordered.received w hwriter, ?_, hfree, hbegun, hgoing, hnot⟩
  unfold openTasks at hone
  refine (underWay_of_free ?_).trans ?_
  · exact hfree
  show d.pendingCookies.length + (d.sessionTasks.modify task _).countP _ +
    d.pendingFinishes.length = 0
  rw [hcookies, hfinishes, List.length_nil, List.length_nil]
  omega

theorem Downloading.completion (h : d.Downloading) {task : Nat} (hopen : d.IsOpen task)
    (hfree : ¬ d.IsWriting) (p : TaskProperties) (error : Option (Option Int)) (finished : Int) :
    (d.didComplete task (d.attemptOf task) p error finished).Ordered ∧
      (d.Truthful (.completion task p error finished) ↔
        d.Honest (.completion task p error finished)) := by
  obtain ⟨w, hending⟩ := h.finishing hopen hfree p error
  exact ⟨hending.ordered _ _ _, hending.truthful_iff (.inl (h.of_open hopen).2.2.2.1) rfl⟩

theorem Downloading.finishCompletes (h : d.Downloading) {finish : PendingFinish}
    (hpending : finish ∈ d.pendingFinishes) (errorCode : Int) :
    (d.finishCompletes finish errorCode).Ordered ∧
      (d.Truthful (.finishCompletes finish errorCode) ↔
        d.Honest (.finishCompletes finish errorCode)) := by
  have hlength := List.length_erase_of_mem hpending
  have hpos : 0 < d.pendingFinishes.length := List.length_pos_of_mem hpending
  have hone := h.ordered.one
  have hfree := h.ordered.free (List.ne_nil_of_mem hpending)
  unfold underWay at hone
  obtain ⟨⟨w, hwriter⟩, hbegun, hgoing, hnot⟩ := h.ordered.waits (by unfold underWay; omega)
  have hending : ({ d with
      pendingFinishes := d.pendingFinishes.erase finish } : DownloadTaskImpl).Finishing w := by
    refine ⟨hwriter, h.ordered.received w hwriter, ?_, hfree, hbegun, hgoing, hnot⟩
    refine (underWay_of_free ?_).trans ?_
    · exact hfree
    show d.pendingCookies.length + d.openTasks + (d.pendingFinishes.erase finish).length = 0
    omega
  have hstep : d.finishCompletes finish errorCode =
      (({ d with
        pendingFinishes := d.pendingFinishes.erase finish } : DownloadTaskImpl).modifyWriter
          (Writer.finish · errorCode)).onDownloadFinished errorCode := by
    unfold DownloadTaskImpl.finishCompletes
    simp only [if_pos (h.ordered.writerOf finish hpending)]
    rfl
  have htruthful := truthful_end hending.writer hending.received (.inl hnot) hending.going.2
    (show d.step (.finishCompletes finish errorCode) = _ from hstep)
  refine ⟨?_, htruthful⟩
  rw [hstep]
  exact hending.ordered_end errorCode errorCode

/-! ## Answers of `Write` -/

theorem isWriting_writeCompletes (w : Writer) (result : Int) :
    (w.writeCompletes result).isWriting = false := by
  refine List.any_eq_false.2 fun call hcall => ?_
  obtain ⟨old, _, rfl⟩ := List.mem_map.1 hcall
  unfold WriteCall.complete
  cases hresult : old.result with
  | none => exact Bool.false_ne_true
  | some result =>
    show ¬ old.result.isNone = true
    rw [hresult]
    exact Bool.false_ne_true

theorem chunks_writeCompletes (w : Writer) (result : Int) :
    (w.writeCompletes result).writes.flatMap WriteCall.chunk =
      w.writes.flatMap WriteCall.chunk := by
  show (w.writes.map _).flatMap _ = _
  rw [List.flatMap_map]
  congr 1
  funext call
  unfold WriteCall.complete
  split_ifs <;> rfl

theorem Downloading.writeCompletes (h : d.Downloading) {attempt : Nat}
    (hpre : attempt < d.attempt ∨ (attempt = d.attempt ∧ d.IsWriting)) (written finished : Int) :
    (d.writeCompletes attempt written finished).Ordered ∧
      (d.Truthful (.writeCompletes attempt written finished) ↔
        d.Honest (.writeCompletes attempt written finished)) := by
  rcases hpre with hearlier | ⟨rfl, hwriting⟩
  · -- the answer is for a writer that the task no longer has
    have hother : attempt ≠ d.attempt := Nat.ne_of_lt hearlier
    have hstep : d.step (.writeCompletes attempt written finished) = d := if_pos hother
    have hsame : d.writeCompletes attempt written finished = d := hstep
    rw [hsame]
    refine ⟨h.ordered, fun _ hthis => absurd hthis hother, fun _ => ⟨?_, ?_⟩⟩
    · rw [hstep]
      exact h.stored
    · rw [hstep]
      exact fun hdisowned hnew => absurd hnew (not_or.2 ⟨not_not_intro hdisowned, id⟩)
  · have hgoing : ¬ (d.state = .complete ∨ d.IsDisowned) := fun hended =>
      (h.ordered.ended hended).2 hwriting
    have hgoing' := not_or.1 hgoing
    have hfinishes : d.pendingFinishes = [] := by
      by_contra hpending
      exact h.ordered.free hpending hwriting
    obtain ⟨w, hwriter⟩ : ∃ w, d.writer = some w := by
      cases hwriter : d.writer with
      | none =>
        unfold IsWriting at hwriting
        rw [hwriter] at hwriting
        exact nomatch hwriting
      | some w => exact ⟨w, rfl⟩
    have hanswered : (d.modifyWriter (Writer.writeCompletes · written)).writer =
        some (w.writeCompletes written) := by
      show d.writer.map _ = _
      rw [hwriter]
      rfl
    have hfree : ¬ (d.modifyWriter (Writer.writeCompletes · written)).IsWriting := by
      rw [isWriting_iff hanswered, isWriting_writeCompletes]
      exact Bool.false_ne_true
    have hreceived : (w.writeCompletes written).writes.flatMap WriteCall.chunk = d.received :=
      (chunks_writeCompletes w written).trans (h.ordered.received w hwriter)
    have hsame : (d.modifyWriter (Writer.writeCompletes · written)).IsDisowned ↔
        d.IsDisowned := by
      unfold IsDisowned
      rw [hanswered, hwriter]
      exact Iff.rfl
    by_cases hurl : d.originalUrl = .other
    · have hstep : d.writeCompletes d.attempt written finished =
          d.modifyWriter (Writer.writeCompletes · written) := by
        unfold DownloadTaskImpl.writeCompletes
        rw [if_neg fun hne => hne rfl]
        simp only [hurl]
      rw [hstep]
      have hunder : (d.modifyWriter (Writer.writeCompletes · written)).underWay = d.underWay := by
        have hdata : d.dataWrites = 0 := if_neg fun hdata => hdata.1 hurl
        refine (underWay_of_free hfree).trans ?_
        unfold underWay
        rw [hdata]
        rfl
      have hbegun : d.attempt ≠ 0 := fun hidle =>
        nomatch hwriter.symm.trans (h.ordered.begun.2 hidle)
      refine ⟨⟨fun other hother => ?_,
        iff_of_false (fun hgone => nomatch hanswered.symm.trans hgone) hbegun,
        fun hidle => hunder.trans (h.ordered.idle hidle),
        Nat.le_trans (Nat.le_of_eq hunder) h.ordered.one, fun hdata => absurd hurl hdata,
        h.ordered.writerOf, fun _ => hfree,
        fun hended => absurd (hended.imp id hsame.1) hgoing⟩,
        fun _ _ hdata => absurd hurl hdata, fun _ => truthful_of_going id ?_ ?_⟩
      · obtain rfl := Option.some.inj (hanswered.symm.trans hother)
        exact hreceived
      · show (d.writeCompletes d.attempt written finished).state ≠ .complete
        rw [hstep]
        exact hgoing'.1
      · show (d.writeCompletes d.attempt written finished).IsDisowned → _
        rw [hstep]
        exact hsame.1
    · -- the data of the URL has been written, and the writer is finished
      have hunder : d.underWay = d.pendingCookies.length + d.openTasks +
          d.pendingFinishes.length + 1 := by
        have hdata : d.dataWrites = 1 := if_pos ⟨hurl, hwriting⟩
        unfold underWay
        rw [hdata]
      have hone := h.ordered.one
      have hending : ({ d.modifyWriter (Writer.writeCompletes · written) with
          percentComplete := 100, totalBytes := written, receivedBytes := written
          } : DownloadTaskImpl).Finishing (w.writeCompletes written) := by
        refine ⟨hanswered, hreceived, ?_, hfree, fun hidle => ?_, hgoing'.1, fun hdisowned => ?_⟩
        · refine (underWay_of_free ?_).trans ?_
          · exact hfree
          show d.pendingCookies.length + d.openTasks + d.pendingFinishes.length = 0
          omega
        · have hnone := h.ordered.idle hidle
          omega
        · exact hgoing'.2 (hsame.1 hdisowned)
      have hstep : d.writeCompletes d.attempt written finished =
          ({ d.modifyWriter (Writer.writeCompletes · written) with
            percentComplete := 100, totalBytes := written, receivedBytes := written
            } : DownloadTaskImpl).finishWriter d.attempt 0 finished := by
        unfold DownloadTaskImpl.writeCompletes
        rw [if_neg fun hne => hne rfl]
        cases hdata : d.originalUrl with
        | other => exact absurd hdata hurl
        | data parsed => rfl
      have htruthful := hending.truthful_iff (.inl hgoing'.2)
        (show d.step (.writeCompletes d.attempt written finished) = _ from hstep)
      rw [hstep]
      refine ⟨hending.ordered _ _ _, htruthful.trans ⟨fun hends _ _ => hends, fun hends => ?_⟩⟩
      exact hends rfl hurl

/-! ## Starts -/

/-- The members that `Start` sets, before it asks for the cookies or parses the URL. -/
def started (d : DownloadTaskImpl) (isFile : Bool) : DownloadTaskImpl :=
  { d with
    writer := some { isFile, writes := [], finished := none, disowned := false },
    percentComplete := 0, receivedBytes := 0, state := .inProgress,
    attempt := d.attempt + 1, received := [] }

theorem start_data {parsed : Option (String × Bytes)} (hurl : d.originalUrl = .data parsed)
    (isFile : Bool) (written finished : Int) :
    d.start isFile written finished =
      (d.started isFile).startDataUrlParsing parsed written finished := by
  unfold start started
  simp only [hurl]

theorem nothing_underWay (hnone : d.underWay = 0) :
    d.pendingCookies = [] ∧ d.openTasks = 0 ∧ d.pendingFinishes = [] := by
  unfold underWay at hnone
  exact ⟨List.length_eq_zero_iff.1 (by omega), by omega, List.length_eq_zero_iff.1 (by omega)⟩

theorem start_other_ordered (hurl : d.originalUrl = .other) (hnone : d.underWay = 0)
    (isFile : Bool) (written finished : Int) :
    (d.start isFile written finished).Ordered ∧ d.Truthful (.start isFile written finished) := by
  obtain ⟨hcookies, hopen, hfinishes⟩ := nothing_underWay hnone
  have hstep : d.start isFile written finished =
      ({ d.started isFile with
        pendingCookies := d.pendingCookies ++ [d.attempt + 1] } : DownloadTaskImpl) := by
    unfold start started
    simp only [hurl]
  have hfree : ¬ (d.start isFile written finished).IsWriting := by
    rw [hstep]
    exact Bool.false_ne_true
  have hunder : (d.start isFile written finished).underWay = 1 := by
    refine (underWay_of_free hfree).trans ?_
    rw [hstep]
    show (d.pendingCookies ++ [d.attempt + 1]).length + d.openTasks + d.pendingFinishes.length = 1
    rw [hcookies, hopen, hfinishes]
    rfl
  constructor
  · rw [hstep] at hunder hfree ⊢
    refine ⟨fun w hw => ?_, iff_of_false (fun hgone => nomatch hgone) (Nat.succ_ne_zero _),
      fun hnone => (nomatch hnone), Nat.le_of_eq hunder, fun hdata => absurd hurl hdata,
      fun finish hfinish => ?_, fun _ => hfree, fun hended => ?_⟩
    · obtain rfl := Option.some.inj hw
      rfl
    · have hnone : finish ∈ d.pendingFinishes := hfinish
      rw [hfinishes] at hnone
      exact nomatch hnone
    · rcases hended with hcomplete | hdisowned
      · exact nomatch hcomplete
      · exact absurd hdisowned Bool.false_ne_true
  · refine truthful_of_started ?_ ?_
    · show (d.start isFile written finished).state ≠ .complete
      rw [hstep]
      exact fun hcomplete => nomatch hcomplete
    · show ¬ (d.start isFile written finished).IsDisowned
      rw [hstep]
      exact Bool.false_ne_true

/-- A URL that cannot be parsed ends the download with an error, and disowns a file. -/
theorem start_unparsed (hurl : d.originalUrl = .data none) (hnone : d.underWay = 0)
    (isFile : Bool) (written finished : Int) :
    (d.start isFile written finished).Ordered ∧
      (d.Truthful (.start isFile written finished) ↔ isFile = false) := by
  obtain ⟨hcookies, hopen, hfinishes⟩ := nothing_underWay hnone
  have hstep : d.start isFile written finished =
      ({ d.started isFile with mimeType := "" } : DownloadTaskImpl).onDownloadFinished
        errInvalidURL := start_data hurl isFile written finished
  have hwriter : (d.start isFile written finished).writer =
      some { isFile, writes := [], finished := none, disowned := isFile } := by
    rw [hstep]
    cases isFile <;> rfl
  have hdisowned : (d.start isFile written finished).IsDisowned ↔ isFile = true := by
    unfold IsDisowned
    rw [hwriter]
    exact Iff.rfl
  constructor
  · have hfree : ¬ (d.start isFile written finished).IsWriting := by
      rw [isWriting_iff hwriter]
      exact Bool.false_ne_true
    refine Ordered.of_quiet hwriter ?_ ?_ ?_ hfree
    · rw [hstep]
      rfl
    · rw [hstep]
      exact Nat.succ_ne_zero _
    · refine (underWay_of_free hfree).trans ?_
      rw [hstep]
      show d.pendingCookies.length + d.openTasks + d.pendingFinishes.length = 0
      rw [hcookies, hopen, hfinishes]
      rfl
  · have hcode : (d.start isFile written finished).errorCode = errInvalidURL := by
      rw [hstep]
      rfl
    have hfails : errInvalidURL ≠ 0 := by decide
    constructor
    · intro htruthful
      refine eq_false_of_ne_true fun hfile => ?_
      have hnoError := (htruthful.disowns (hdisowned.2 hfile) (.inr trivial)).2
      exact hfails (hcode.symm.trans hnoError)
    · intro hfile
      refine ⟨fun _ hnone => absurd (hcode.symm.trans hnone) hfails, fun howned _ => ?_⟩
      exact absurd (hfile.symm.trans (hdisowned.1 howned)) Bool.false_ne_true

/-- The data of the URL is handed to the writer. -/
theorem start_parsed {mimeType : String} {data : Bytes}
    (hurl : d.originalUrl = .data (some (mimeType, data))) (hnone : d.underWay = 0)
    (isFile : Bool) (written finished : Int) :
    (d.start isFile written finished).Ordered ∧
      (d.Truthful (.start isFile written finished) ↔
        (written ≠ errIOPending → finished ≠ errIOPending →
          finished = 0 ∧ data.length ≤ written.toNat ∧ 0 ≤ written)) := by
  obtain ⟨hcookies, hopen, hfinishes⟩ := nothing_underWay hnone
  let result : Option Int := if written = errIOPending then none else some written
  let w : Writer :=
    { isFile, writes := [{ attempt := d.attempt + 1, chunk := data, result }],
      finished := none, disowned := false }
  let writing : DownloadTaskImpl :=
    { d.started isFile with mimeType, received := data, writer := some w }
  have hchunks : w.writes.flatMap WriteCall.chunk = data := List.append_nil data
  by_cases hpending : written = errIOPending
  · -- the answer of `Write` is waited for
    have hstep : d.start isFile written finished = writing := by
      rw [start_data hurl]
      exact if_pos hpending
    have hresult : result = none := if_pos hpending
    have hwriting : writing.IsWriting := by
      show w.writes.any (fun call => call.result.isNone) = true
      show (result.isNone || false) = true
      rw [hresult]
      rfl
    have hunder : writing.underWay = 1 := by
      have hdata : writing.dataWrites = 1 :=
        if_pos ⟨fun hother => (nomatch hurl.symm.trans hother), hwriting⟩
      unfold underWay
      rw [hdata]
      show d.pendingCookies.length + d.openTasks + d.pendingFinishes.length + 1 = 1
      rw [hcookies, hopen, hfinishes]
      rfl
    constructor
    · rw [hstep]
      refine ⟨fun other hother => ?_, iff_of_false (fun hgone => nomatch hgone)
        (Nat.succ_ne_zero _), fun hnone => (nomatch hnone), Nat.le_of_eq hunder, fun _ => ?_,
        fun finish hfinish => ?_, fun hfinish => absurd hfinishes hfinish, fun hended => ?_⟩
      · obtain rfl := Option.some.inj hother
        exact hchunks
      · show d.pendingCookies.length + d.openTasks = 0
        rw [hcookies, hopen]
        rfl
      · have hnone : finish ∈ d.pendingFinishes := hfinish
        rw [hfinishes] at hnone
        exact nomatch hnone
      · rcases hended with hcomplete | hdisowned
        · exact nomatch hcomplete
        · exact absurd hdisowned Bool.false_ne_true
    · refine ⟨fun _ hdone => absurd hpending hdone, fun _ => truthful_of_started ?_ ?_⟩
      · show (d.start isFile written finished).state ≠ .complete
        rw [hstep]
        exact fun hcomplete => nomatch hcomplete
      · show ¬ (d.start isFile written finished).IsDisowned
        rw [hstep]
        exact Bool.false_ne_true
  · let ending : DownloadTaskImpl :=
      { writing with percentComplete := 100, totalBytes := written, receivedBytes := written }
    have hstep : d.start isFile written finished =
        ending.finishWriter (d.attempt + 1) 0 finished := by
      rw [start_data hurl]
      exact if_neg hpending
    have hresult : result = some written := if_neg hpending
    have hfree : ¬ ending.IsWriting := by
      show ¬ (result.isNone || false) = true
      rw [hresult]
      exact Bool.false_ne_true
    have hending : ending.Finishing w := by
      refine ⟨rfl, hchunks, (underWay_of_free hfree).trans ?_, hfree, Nat.succ_ne_zero _,
        fun hcomplete => (nomatch hcomplete), fun hdisowned => ?_⟩
      · show d.pendingCookies.length + d.openTasks + d.pendingFinishes.length = 0
        rw [hcookies, hopen, hfinishes]
        rfl
      · exact absurd hdisowned Bool.false_ne_true
    have hwhole : ending.AllWritten ↔ data.length ≤ written.toNat := by
      rw [allWritten_iff (show ending.writer = some w from rfl), List.forall_mem_singleton]
      unfold WriteCall.whole
      show decide (data.length ≤ (result.getD 0).toNat) = true ↔ _
      rw [hresult, decide_eq_true_iff]
      rfl
    have htruthful := hending.truthful_iff
      (.inr (show (DownloadEvent.start isFile written finished).IsStart from trivial))
      (show d.step (.start isFile written finished) = _ from hstep)
    rw [hstep]
    refine ⟨hending.ordered _ _ _,
      htruthful.trans ⟨fun hends _ hdone => ?_, fun hends hdone _ => ?_⟩⟩
    · obtain ⟨_, hfinished, hwritten, hsize, _⟩ := hends hdone (.inr rfl)
      exact ⟨hfinished, hwhole.1 hwritten, hsize⟩
    · obtain ⟨hfinished, hwritten, hsize⟩ := hends hpending hdone
      exact ⟨rfl, hfinished, hwhole.2 hwritten, hsize, hsize⟩

theorem start_settled (hnone : d.underWay = 0) (isFile : Bool) (written finished : Int) :
    (d.start isFile written finished).Ordered ∧
      (d.Truthful (.start isFile written finished) ↔
        d.Honest (.start isFile written finished)) := by
  show _ ∧ (_ ↔ HonestStart d.originalUrl isFile written finished)
  cases hurl : d.originalUrl with
  | other =>
    obtain ⟨hordered, htruthful⟩ := start_other_ordered hurl hnone isFile written finished
    exact ⟨hordered, fun _ => trivial, fun _ => htruthful⟩
  | data parsed =>
    cases parsed with
    | none => exact start_unparsed hurl hnone isFile written finished
    | some parsed =>
      obtain ⟨mimeType, data⟩ := parsed
      exact start_parsed hurl hnone isFile written finished

/-! ## Runs -/

theorem Downloading.step (h : d.Downloading) {event : DownloadEvent} (hpre : d.Pre event)
    (hsettled : d.Settled event) :
    (d.step event).Ordered ∧ (d.Truthful event ↔ d.Honest event) := by
  have hgoing : ∀ {event : DownloadEvent}, d.Honest event →
      (d.step event).Ordered ∧ d.Truthful event →
      (d.step event).Ordered ∧ (d.Truthful event ↔ d.Honest event) := fun hhonest hkeeps =>
    ⟨hkeeps.1, fun _ => hhonest, fun _ => hkeeps.2⟩
  cases event with
  | start isFile written finished => exact start_settled hsettled isFile written finished
  | cancel => exact hgoing trivial h.cancel
  | shutDown => exact hgoing trivial h.shutDown
  | cookies attempt => exact hgoing trivial (h.cookies hpre)
  | data task chunk written => exact hgoing trivial (h.data hpre.1 chunk written)
  | properties task p => exact hgoing trivial (h.properties hpre.1 p)
  | completion task p error finished => exact h.completion hpre.1 hpre.2 p error finished
  | writeCompletes attempt written finished => exact h.writeCompletes hpre written finished
  | finishCompletes finish errorCode => exact h.finishCompletes hpre errorCode

theorem create_downloading (originalUrl : OriginalUrl) (totalBytes : Int) (mimeType : String) :
    (create originalUrl totalBytes mimeType).Downloading where
  ordered := create_ordered originalUrl totalBytes mimeType
  stored := fun hcomplete => nomatch hcomplete

/-- **The task tells the truth exactly when the answers of the writer and the session are
good wherever the download ends**, as long as each start finds the one before settled. -/
theorem download_truthful_iff {originalUrl : OriginalUrl} {totalBytes : Int} {mimeType : String}
    {events : List DownloadEvent}
    (hrun : downloadMachine.Run (create originalUrl totalBytes mimeType) events)
    (hsettled : downloadMachine.Always Settled (create originalUrl totalBytes mimeType) events) :
    downloadMachine.Always Truthful (create originalUrl totalBytes mimeType) events ↔
      downloadMachine.Always Honest (create originalUrl totalBytes mimeType) events :=
  Machine.Guarded.always_iff (I := Downloading)
    (fun _ _ hinv hpre hstart => (Downloading.step hinv hpre hstart).2)
    (fun _ _ hinv hpre hstart htruthful =>
      ⟨(Downloading.step hinv hpre hstart).1, htruthful.complete⟩)
    (create_downloading originalUrl totalBytes mimeType) hrun hsettled

instance (d : DownloadTaskImpl) : ∀ event, Decidable (d.Settled event)
  | .start .. => inferInstanceAs (Decidable (_ = _))
  | .cancel | .shutDown | .cookies _ | .data .. | .properties .. | .completion ..
  | .writeCompletes .. | .finishCompletes .. => inferInstanceAs (Decidable True)

instance (d : DownloadTaskImpl) (errorCode finished totalBytes receivedBytes : Int) :
    Decidable (d.EndsWell errorCode finished totalBytes receivedBytes) := by
  unfold EndsWell IsFile AllWritten
  infer_instance

instance (originalUrl : OriginalUrl) (isFile : Bool) (written finished : Int) :
    Decidable (HonestStart originalUrl isFile written finished) := by
  unfold HonestStart
  cases originalUrl with
  | other => infer_instance
  | data parsed => cases parsed <;> infer_instance

instance (d : DownloadTaskImpl) : ∀ event, Decidable (d.Honest event)
  | .start isFile written finished =>
    inferInstanceAs (Decidable (HonestStart d.originalUrl isFile written finished))
  | .completion .. => inferInstanceAs (Decidable (_ → EndsWell ..))
  | .writeCompletes .. => inferInstanceAs (Decidable (_ → _ → _ → EndsWell ..))
  | .finishCompletes .. => inferInstanceAs (Decidable (EndsWell ..))
  | .cancel | .shutDown | .cookies _ | .data .. | .properties .. => inferInstanceAs (Decidable True)

/-- Two chunks are written to a file, the second after a while; then the download is
started again, into memory, and fails. -/
def twoChunks : List DownloadEvent :=
  [.start true 0 0, .cookies 1, .data 0 [1, 2] 2, .properties 0 ⟨2, 3, some "text/plain", some 200⟩,
    .data 0 [3] errIOPending, .writeCompletes 1 1 0,
    .completion 0 ⟨3, 3, none, some 200⟩ none errIOPending, .finishCompletes ⟨1, 1⟩ 0,
    .start false 0 0, .cookies 2, .completion 1 ⟨0, 0, none, none⟩ (some none) 0]

theorem download_truthful_iff_twoChunks :
    downloadMachine.Always Truthful (create .other (-1) "") twoChunks :=
  (download_truthful_iff (by decide) (by decide)).2 (by decide)

/-- The data of a URL that could not be written: the task is complete without an error, and
its bytes count as the error code. -/
theorem failedWrite_completes :
    ¬ ∀ events : List DownloadEvent,
      downloadMachine.Run (create (.data (some ("", [1, 2]))) (-1) "") events →
      downloadMachine.Always Settled (create (.data (some ("", [1, 2]))) (-1) "") events →
      downloadMachine.Always Truthful (create (.data (some ("", [1, 2]))) (-1) "") events := by
  intro hall
  have htruthful := hall [.start true (-18) 0] (by decide) (by decide)
  exact absurd (htruthful.1.complete rfl rfl).2.1 (by decide)

end DownloadTaskImpl

end IosChrome.Downloads

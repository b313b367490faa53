import IosChrome.Net.ChunkedDataStreamUploader

/-!
# Each read of the body is answered once

`Served` is what the network layer relies on: each read is completed once, unless it is the one
that waits, the bytes come in the order of the body, the end is not reported before
`UploadWhenReady(true)`, and after that no read waits. All of it but the last is an invariant
(`Inv`).

The last fails when the end is announced before the first read. `Init` of the base class resets
the uploader, the reset clears `is_final_chunk_` although its comment says that the state of
the external stream is not affected, and the first read then waits for an event that has
already been (`announcedBeforeInit_waiting`). `served_iff` has the exact condition.
-/

namespace IosChrome.Net

namespace ChunkedUpload

/-- What the network layer has been given. -/
def delivered (s : ChunkedUpload) : List UInt8 :=
  s.completions.flatMap ReadCompletion.data

structure Served (s : ChunkedUpload) : Prop where
  once : ∀ read < s.reads, (s.completions.map ReadCompletion.read).count read =
    if s.callback = some read then 0 else 1
  noOthers : s.spurious = false ∧ ∀ completion ∈ s.completions, completion.read < s.reads
  inOrder : s.delivered <+: s.body
  truthfulEnd : (s.uploader.isEOF = true ∨ ∃ completion ∈ s.completions, completion.result ≤ 0) →
    s.announced = true
  woken : s.announced = true → s.callback = none

/-- A read that finds nothing, although the end has been announced: the flag was cleared. -/
def Starved (s : ChunkedUpload) : Call → Prop
  | .readInternal bufferLength give =>
    s.announced = true ∧ s.uploader.isFinalChunk = false ∧ s.chunk bufferLength give = []
  | _ => False

instance (s : ChunkedUpload) : ∀ call, Decidable (s.Starved call)
  | .readInternal .. => inferInstanceAs (Decidable (_ ∧ _ ∧ _))
  | .initInternal | .uploadWhenReady .. | .resetInternal | .bytesArrive _ =>
    inferInstanceAs (Decidable False)

structure Inv (s : ChunkedUpload) : Prop where
  front : s.uploader.isFrontOfStream = true ↔ s.reads = 0
  pending : s.uploader.pendingInternalRead = s.callback.isSome
  buffer : s.uploader.pendingReadBuffer.isSome = s.callback.isSome
  answered : s.completions.map ReadCompletion.read ++ s.callback.toList = List.range s.reads
  noSpurious : s.spurious = false
  inOrder : s.delivered ++ s.unread = s.body
  final : s.uploader.isFinalChunk = true → s.announced = true
  atEnd : s.uploader.isEOF = true → s.announced = true
  results : ∀ completion ∈ s.completions,
    completion.result = completion.data.length ∧ (completion.data = [] → s.announced = true)

theorem Inv.initial : Inv initial where
  front := by decide
  pending := rfl
  buffer := rfl
  answered := rfl
  noSpurious := rfl
  inOrder := rfl
  final := by decide
  atEnd := by decide
  results := by simp [ChunkedUpload.initial]

variable {s : ChunkedUpload}

/-- The invariant has all of `Served` but the waking. -/
theorem Inv.served (hi : Inv s) (hwoken : s.announced = true → s.callback = none) :
    Served s where
  once := by
    intro read hread
    have hcount : (List.range s.reads).count read = 1 := by
      rw [List.count_range, if_pos hread]
    rw [← hi.answered, List.count_append] at hcount
    cases hcallback : s.callback with
    | none => simpa [hcallback] using hcount
    | some waiting =>
      by_cases h : waiting = read
      · subst h
        simp only [hcallback, Option.toList_some, List.count_singleton_self] at hcount
        simp only [if_true]
        omega
      · have hne : ¬ some waiting = some read := fun he => h (Option.some.inj he)
        simpa [hcallback, h, hne] using hcount
  noOthers := by
    refine ⟨hi.noSpurious, ?_⟩
    intro completion hmem
    rw [← List.mem_range, ← hi.answered]
    exact List.mem_append_left _ (List.mem_map_of_mem hmem)
  inOrder := hi.inOrder ▸ List.prefix_append _ _
  truthfulEnd := by
    rintro (hend | ⟨completion, hmem, hle⟩)
    · exact hi.atEnd hend
    · obtain ⟨hresult, hannounced⟩ := hi.results completion hmem
      refine hannounced (List.length_eq_zero_iff.1 ?_)
      omega
  woken := hwoken

/-! ## One call -/

theorem Inv.notPending (hi : Inv s) (hcallback : s.callback = none) :
    s.uploader.pendingInternalRead = false := by
  rw [hi.pending, hcallback]
  rfl

/-- The read `n`, the last one, is answered with the next bytes of the body. -/
def answer (s : ChunkedUpload) (n : Nat) (data buffer : List UInt8) (atEnd : Bool) :
    ChunkedUpload :=
  { s with
    uploader :=
      { pendingReadBuffer := none
        pendingInternalRead := false
        isFinalChunk := s.uploader.isFinalChunk
        isFrontOfStream := false
        isEOF := atEnd }
    unread := s.unread.drop data.length
    buffer := buffer
    reads := n + 1
    callback := none
    completions := s.completions ++ [⟨n, data.length, data⟩] }

theorem Inv.answer (hi : Inv s) {n : Nat} {data : List UInt8} {atEnd : Bool}
    (hreads : s.completions.map ReadCompletion.read = List.range n) (hdata : data <+: s.unread)
    (hempty : data = [] → s.announced = true) (hend : atEnd = true → s.announced = true)
    (buffer : List UInt8) : Inv (s.answer n data buffer atEnd) where
  front := by simp [ChunkedUpload.answer]
  pending := rfl
  buffer := rfl
  answered := by
    show (s.completions ++ [_]).map ReadCompletion.read ++ [] = List.range (n + 1)
    rw [List.append_nil, List.map_append, hreads, List.range_succ]
    rfl
  noSpurious := hi.noSpurious
  inOrder := by
    obtain ⟨rest, hrest⟩ := hdata
    have hdrop : s.unread.drop data.length = rest := by
      rw [← hrest, List.drop_left]
    show (s.completions ++ [_]).flatMap ReadCompletion.data ++ s.unread.drop data.length = s.body
    rw [← hi.inOrder, hdrop, ← hrest]
    simp [delivered]
  final := hi.final
  atEnd := hend
  results := by
    intro completion hmem
    rcases List.mem_append.1 hmem with hold | hnew
    · exact hi.results completion hold
    · obtain rfl := List.mem_singleton.1 hnew
      exact ⟨rfl, hempty⟩

theorem chunk_prefix (bufferLength give : Nat) : s.chunk bufferLength give <+: s.unread :=
  List.take_prefix _ _

/-- The uploader has been given the buffer of the next read. -/
def reading (s : ChunkedUpload) (bufferLength : Nat) : ChunkedUpload :=
  { s with
    uploader.pendingReadBuffer := some bufferLength
    buffer := []
    reads := s.reads + 1 }

theorem read_of_upload {bufferLength give : Nat} {s' : ChunkedUpload} {result : Int}
    (h : (s.reading bufferLength).upload give = (s', result)) :
    s.read bufferLength give =
      if result = errIOPending then { s' with callback := some (s'.reads - 1) }
      else s'.complete (s'.reads - 1) result := by
  have hread : s.read bufferLength give =
      if ((s.reading bufferLength).upload give).2 = errIOPending then
        { ((s.reading bufferLength).upload give).1 with
          callback := some (((s.reading bufferLength).upload give).1.reads - 1) }
      else ((s.reading bufferLength).upload give).1.complete
        (((s.reading bufferLength).upload give).1.reads - 1)
        ((s.reading bufferLength).upload give).2 := rfl
  rw [hread, h]

/-- A read is answered at once, unless it finds nothing and the end is not known. -/
theorem read_answer (hi : Inv s) (hcallback : s.callback = none) {bufferLength give : Nat}
    (hready : s.uploader.isFinalChunk = true ∨ s.chunk bufferLength give ≠ []) :
    ∃ data buffer atEnd, s.read bufferLength give = s.answer s.reads data buffer atEnd ∧
      data <+: s.unread ∧ (data = [] ∨ atEnd = true → s.announced = true) := by
  have hpending : (s.reading bufferLength).uploader.pendingInternalRead = false :=
    hi.notPending hcallback
  by_cases hfinal : s.uploader.isFinalChunk = true
  · refine ⟨[], [], true, ?_, List.nil_prefix, fun _ => hi.final hfinal⟩
    have hupload := (upload_final (s := s.reading bufferLength) hfinal give).trans
      (uploadCompleted_atOnce (by exact hpending) 0)
    rw [read_of_upload hupload]
    simp [reading, complete, answer, hcallback, errIOPending, hi.notPending hcallback]
  · have hchunk := hready.resolve_left hfinal
    refine ⟨s.chunk bufferLength give, s.chunk bufferLength give, s.uploader.isEOF, ?_,
      chunk_prefix .., ?_⟩
    · have hlength : ((s.chunk bufferLength give).length : Int) ≠ errIOPending := by
        simp only [errIOPending]
        omega
      have hupload := (upload_bytes (s := s.reading bufferLength)
        (Bool.eq_false_iff.2 hfinal) rfl hchunk).trans
        (uploadCompleted_atOnce (by exact hpending) _)
      have hchunkOf : (s.reading bufferLength).chunk
          ((s.reading bufferLength).uploader.pendingReadBuffer.getD 0) give =
          s.chunk bufferLength give := rfl
      rw [hchunkOf] at hupload
      rw [read_of_upload hupload, if_neg hlength]
      simp [reading, complete, answer, hcallback, hi.notPending hcallback]
    · rintro (h | h)
      · exact absurd h hchunk
      · exact hi.atEnd h

/-- Otherwise it waits. -/
theorem read_waits {bufferLength give : Nat} (hfinal : s.uploader.isFinalChunk = false)
    (hchunk : s.chunk bufferLength give = []) :
    s.read bufferLength give =
      { s with
        uploader :=
          { pendingReadBuffer := some bufferLength
            pendingInternalRead := true
            isFinalChunk := false
            isFrontOfStream := false
            isEOF := s.uploader.isEOF }
        buffer := []
        reads := s.reads + 1
        callback := some s.reads } := by
  rw [read_of_upload (upload_empty (s := s.reading bufferLength) hfinal hchunk), if_pos rfl]
  simp [reading, hfinal]

/-- A read that waits is answered by an upload in the same way. -/
theorem upload_answer (hi : Inv s) {n : Nat} (hcallback : s.callback = some n)
    (hreads : s.reads = n + 1) {give : Nat}
    (hready : s.uploader.isFinalChunk = true ∨
      s.chunk (s.uploader.pendingReadBuffer.getD 0) give ≠ []) :
    ∃ data buffer atEnd, (s.upload give).1 = s.answer n data buffer atEnd ∧
      data <+: s.unread ∧ (data = [] ∨ atEnd = true → s.announced = true) := by
  have hpending : s.uploader.pendingInternalRead = true := by
    rw [hi.pending, hcallback]
    rfl
  by_cases hfinal : s.uploader.isFinalChunk = true
  · refine ⟨[], s.buffer, true, ?_, List.nil_prefix, fun _ => hi.final hfinal⟩
    rw [upload_final hfinal,
      uploadCompleted_pending (n := n) (by exact hcallback) (by exact hpending)]
    simp [answer, hreads]
  · have hchunk := hready.resolve_left hfinal
    refine ⟨_, s.chunk (s.uploader.pendingReadBuffer.getD 0) give ++ s.buffer.drop
      (s.chunk (s.uploader.pendingReadBuffer.getD 0) give).length, s.uploader.isEOF, ?_,
      chunk_prefix (s.uploader.pendingReadBuffer.getD 0) give, ?_⟩
    · rw [upload_bytes (Bool.eq_false_iff.2 hfinal) rfl hchunk,
        uploadCompleted_pending (n := n) (by exact hcallback) (by exact hpending)]
      simp [answer, hreads]
    · rintro (h | h)
      · exact absurd h hchunk
      · exact hi.atEnd h

/-- It goes on waiting when there is nothing. -/
theorem upload_waits (hi : Inv s) {n : Nat} (hcallback : s.callback = some n) {give : Nat}
    (hfinal : s.uploader.isFinalChunk = false)
    (hchunk : s.chunk (s.uploader.pendingReadBuffer.getD 0) give = []) :
    (s.upload give).1 = { s with uploader.isFrontOfStream := false } := by
  have hpending : s.uploader.pendingInternalRead = true := by
    rw [hi.pending, hcallback]
    rfl
  rw [upload_empty hfinal hchunk]
  simp [hpending]

/-! ## Every call -/

theorem Inv.waits (hi : Inv s) (hcallback : s.callback = none) (bufferLength : Nat) :
    Inv { s with
      uploader :=
        { pendingReadBuffer := some bufferLength
          pendingInternalRead := true
          isFinalChunk := false
          isFrontOfStream := false
          isEOF := s.uploader.isEOF }
      buffer := []
      reads := s.reads + 1
      callback := some s.reads } where
  front := by simp
  pending := rfl
  buffer := rfl
  answered := by
    have hanswered := hi.answered
    simp only [hcallback, Option.toList_none, List.append_nil] at hanswered
    simp [hanswered, List.range_succ]
  noSpurious := hi.noSpurious
  inOrder := hi.inOrder
  final := fun h => absurd h Bool.false_ne_true
  atEnd := hi.atEnd
  results := hi.results

/-- The callback that is kept is that of the last read. -/
theorem Inv.callback_last (hi : Inv s) {n : Nat} (hcallback : s.callback = some n) :
    s.reads = n + 1 ∧ s.completions.map ReadCompletion.read = List.range n := by
  have hanswered := hi.answered
  rw [hcallback, Option.toList_some] at hanswered
  cases hreads : s.reads with
  | zero => simp [hreads] at hanswered
  | succ m =>
    rw [hreads, List.range_succ] at hanswered
    obtain ⟨hcompleted, hlast⟩ := List.append_inj' hanswered rfl
    obtain rfl := (List.cons.inj hlast).1
    exact ⟨rfl, hcompleted⟩

theorem Inv.read (hi : Inv s) (hcallback : s.callback = none) (bufferLength give : Nat) :
    Inv (s.read bufferLength give) ∧ (s.read bufferLength give).announced = s.announced ∧
      ((s.read bufferLength give).callback = none ↔
        s.uploader.isFinalChunk = true ∨ s.chunk bufferLength give ≠ []) := by
  by_cases hready : s.uploader.isFinalChunk = true ∨ s.chunk bufferLength give ≠ []
  · obtain ⟨data, buffer, atEnd, hread, hdata, hannounced⟩ := read_answer hi hcallback hready
    have hanswered : s.completions.map ReadCompletion.read = List.range s.reads := by
      simpa [hcallback] using hi.answered
    rw [hread]
    exact ⟨hi.answer hanswered hdata (fun h => hannounced (.inl h))
      (fun h => hannounced (.inr h)) buffer, rfl, iff_of_true rfl hready⟩
  · obtain ⟨hfinal, hchunk⟩ := not_or.1 hready
    rw [read_waits (Bool.eq_false_iff.2 hfinal) (not_not.1 hchunk)]
    exact ⟨hi.waits hcallback bufferLength, rfl, iff_of_false nofun hready⟩

theorem Inv.upload (hi : Inv s) {n : Nat} (hcallback : s.callback = some n) (give : Nat) :
    Inv (s.upload give).1 ∧ (s.upload give).1.announced = s.announced ∧
      (s.uploader.isFinalChunk = true → (s.upload give).1.callback = none) := by
  obtain ⟨hreads, hcompleted⟩ := hi.callback_last hcallback
  by_cases hready : s.uploader.isFinalChunk = true ∨
      s.chunk (s.uploader.pendingReadBuffer.getD 0) give ≠ []
  · obtain ⟨data, buffer, atEnd, hupload, hdata, hannounced⟩ :=
      upload_answer hi hcallback hreads hready
    rw [hupload]
    exact ⟨hi.answer hcompleted hdata (fun h => hannounced (.inl h))
      (fun h => hannounced (.inr h)) buffer, rfl, fun _ => rfl⟩
  · obtain ⟨hfinal, hchunk⟩ := not_or.1 hready
    rw [upload_waits hi hcallback (Bool.eq_false_iff.2 hfinal) (not_not.1 hchunk)]
    refine ⟨{ hi with front := ?_ }, rfl, fun h => absurd h hfinal⟩
    simp [hreads]

/-- The flag is what the last event said. -/
def heard (s : ChunkedUpload) (isFinalChunk : Bool) : ChunkedUpload :=
  { s with
    uploader.isFinalChunk := isFinalChunk
    announced := s.announced || isFinalChunk }

theorem uploadWhenReady_eq (s : ChunkedUpload) (isFinalChunk : Bool) (give : Nat) :
    s.uploadWhenReady isFinalChunk give =
      if s.uploader.pendingInternalRead then ((s.heard isFinalChunk).upload give).1
      else s.heard isFinalChunk := rfl

theorem Inv.heard (hi : Inv s) (isFinalChunk : Bool) : Inv (s.heard isFinalChunk) :=
  have hkept (h : s.announced = true) : (s.heard isFinalChunk).announced = true := by
    simp [ChunkedUpload.heard, h]
  { hi with
    final := fun h => by
      have hfinal : isFinalChunk = true := h
      simp [ChunkedUpload.heard, hfinal]
    atEnd := fun h => hkept (hi.atEnd h)
    results := fun completion hmem =>
      ⟨(hi.results completion hmem).1, fun h => hkept ((hi.results completion hmem).2 h)⟩ }

theorem Inv.uploadWhenReady (hi : Inv s) (isFinalChunk : Bool) (give : Nat) :
    Inv (s.uploadWhenReady isFinalChunk give) ∧
      (s.uploadWhenReady isFinalChunk give).announced = (s.announced || isFinalChunk) ∧
      (isFinalChunk = true ∨ s.callback = none →
        (s.uploadWhenReady isFinalChunk give).callback = none) := by
  have hheard := hi.heard isFinalChunk
  cases hcallback : s.callback with
  | none =>
    rw [uploadWhenReady_eq, hi.notPending hcallback]
    exact ⟨hheard, rfl, fun _ => hcallback⟩
  | some n =>
    have hpending : s.uploader.pendingInternalRead = true := by
      rw [hi.pending, hcallback]
      rfl
    obtain ⟨hinv, hannounced, hwoken⟩ := hheard.upload (n := n) hcallback give
    rw [uploadWhenReady_eq, if_pos hpending]
    refine ⟨hinv, hannounced, ?_⟩
    rintro (hfinal | hnone)
    · exact hwoken hfinal
    · cases hnone

/-- Before the first read there is nothing to forget but the flag. -/
theorem Inv.resetInternal (hi : Inv s) (hreads : s.reads = 0) :
    Inv s.resetInternal ∧ s.callback = none := by
  have hnone : s.callback = none := by
    cases hcallback : s.callback with
    | none => rfl
    | some n => cases hreads ▸ (hi.callback_last hcallback).1
  refine ⟨{ hi with
    pending := by simp [ChunkedUpload.resetInternal, hnone]
    buffer := by simp [ChunkedUpload.resetInternal, hnone]
    final := fun h => absurd h Bool.false_ne_true }, hnone⟩

theorem Inv.bytesArrive (hi : Inv s) (data : List UInt8) : Inv (s.step (.bytesArrive data)) :=
  { hi with
    inOrder := by
      show s.delivered ++ (s.unread ++ data) = s.body ++ data
      rw [← List.append_assoc, hi.inOrder] }

theorem Inv.kept (hi : Inv s) {call : Call} (hpre : s.Pre call) : Inv (s.step call) := by
  cases call with
  | initInternal => exact hi
  | readInternal bufferLength give => exact (hi.read hpre.1 bufferLength give).1
  | uploadWhenReady isFinalChunk give => exact (hi.uploadWhenReady isFinalChunk give).1
  | resetInternal => exact (hi.resetInternal hpre).1
  | bytesArrive data => exact hi.bytesArrive data

/-- A call keeps the invariant, and leaves a read waiting after the announcement only when that
read is made by the call and finds nothing. -/
theorem Inv.step (hi : Inv s) (hwoken : s.announced = true → s.callback = none) {call : Call}
    (hpre : s.Pre call) :
    Inv (s.step call) ∧
      (((s.step call).announced = true → (s.step call).callback = none) ↔ ¬ s.Starved call) := by
  cases call with
  | initInternal => exact ⟨hi, iff_of_true hwoken not_false⟩
  | readInternal bufferLength give =>
    obtain ⟨hinv, hannounced, hcallback⟩ := hi.read hpre.1 bufferLength give
    refine ⟨hinv, ?_⟩
    show ((s.read bufferLength give).announced = true → (s.read bufferLength give).callback = none)
      ↔ _
    rw [hannounced, hcallback]
    simp only [Starved, not_and, or_iff_not_imp_left, Bool.not_eq_true, ne_eq]
  | uploadWhenReady isFinalChunk give =>
    obtain ⟨hinv, hannounced, hcallback⟩ := hi.uploadWhenReady isFinalChunk give
    refine ⟨hinv, iff_of_true ?_ not_false⟩
    show (s.uploadWhenReady isFinalChunk give).announced = true → _
    rw [hannounced, Bool.or_eq_true]
    rintro (hbefore | hnow)
    · exact hcallback (.inr (hwoken hbefore))
    · exact hcallback (.inl hnow)
  | resetInternal =>
    obtain ⟨hinv, hnone⟩ := hi.resetInternal hpre
    exact ⟨hinv, iff_of_true (fun _ => hnone) not_false⟩
  | bytesArrive data => exact ⟨hi.bytesArrive data, iff_of_true hwoken not_false⟩

/-- **The network layer is served in every state of a run exactly when no read of the run finds
nothing after the end was announced, with `is_final_chunk_` cleared since.** -/
theorem served_iff {calls : List Call} (hr : machine.Run initial calls) :
    machine.Always (fun s call => (s.step call).Served) initial calls ↔
      machine.Always (fun s call => ¬ s.Starved call) initial calls := by
  refine Lib.Machine.always_iff_of_invariant
    (I := fun s => Inv s ∧ (s.announced = true → s.callback = none)) ?_ ?_
    ⟨Inv.initial, fun _ => rfl⟩ hr
  · rintro s call ⟨hi, hwoken⟩ hpre
    obtain ⟨hinv, hiff⟩ := hi.step hwoken hpre
    exact ⟨fun h => hiff.1 h.woken, fun h => hinv.served (hiff.2 h)⟩
  · rintro s call ⟨hi, hwoken⟩ hpre hserved
    exact ⟨(hi.step hwoken hpre).1, hserved.woken⟩

/-- A read waits for the first bytes of a body, and the next one finds its end. -/
def waitedThenEnded : List Call :=
  [.initInternal, .readInternal 8 0, .bytesArrive [104, 105], .uploadWhenReady false 2,
    .uploadWhenReady true 0, .readInternal 8 0]

theorem served_iff_waitedThenEnded :
    machine.Always (fun s call => (s.step call).Served) initial waitedThenEnded ↔
      machine.Always (fun s call => ¬ s.Starved call) initial waitedThenEnded :=
  @served_iff waitedThenEnded (by decide)

/-- The stream of an empty body ends before the network layer initializes the upload. -/
def announcedBeforeInit : List Call :=
  [.uploadWhenReady true 0, .resetInternal, .initInternal, .readInternal 8 0]

/-- **The bytes and the reads stay in order in every run**, also in one that leaves a read
waiting for ever. -/
theorem inv_of_run {calls : List Call} (hr : machine.Run initial calls) :
    (machine.exec initial calls).Inv :=
  Lib.Machine.Run.invariant (fun _ _ hi hpre => hi.kept hpre) Inv.initial hr

theorem inv_of_run_announcedBeforeInit : (machine.exec initial announcedBeforeInit).Inv :=
  inv_of_run (by decide)

/-- The read goes on waiting, and no event is left that would wake it. -/
theorem announcedBeforeInit_waiting :
    machine.Run initial announcedBeforeInit ∧
      (machine.exec initial announcedBeforeInit).announced = true ∧
      (machine.exec initial announcedBeforeInit).callback = some 0 ∧
      ¬ (machine.exec initial announcedBeforeInit).Served :=
  have hwaiting : (machine.exec initial announcedBeforeInit).announced = true ∧
      (machine.exec initial announcedBeforeInit).callback = some 0 := by decide
  ⟨by decide, hwaiting.1, hwaiting.2, fun h => by cases hwaiting.2.symm.trans (h.woken hwaiting.1)⟩

end ChunkedUpload

end IosChrome.Net

import IosChrome.Net.HttpProtocolHandlerProxy

/-!
# The client receives each event once, in order

`InOrder` is what the client of a proxy relies on after every step: the events it has
received are a strictly increasing sequence in the posting order, none came while the request
was paused or after it was invalidated, and a proxy that could deliver has delivered.

The loop over the queue runs a block and removes it afterwards, although the comment in it
asks for the opposite order. A `resume` from inside that block starts a second loop, and the
second loop runs the same block again; later each loop removes a block, so one that was never
run is lost (`resumedInQueuedBlock_twice`). `received_in_order_iff` says that nothing else
goes wrong: a run keeps `InOrder` at each of its steps exactly when no step resumes a valid
proxy inside a block of the queue.
-/

namespace IosChrome.Net

namespace HttpProtocolHandlerProxy

/-! ## What the client relies on -/

/-- What holds of a step from `p` to `p'`. -/
structure InOrder (p p' : HttpProtocolHandlerProxy) : Prop where
  once : (p'.received.map Block.posted).Pairwise (· < ·)
  notWhilePaused : p'.received ≠ p.received → p'.valid = true ∧ p'.paused = false
  caughtUp : p'.valid = true → p'.paused = false → p'.running = [] →
    p'.received = p'.delivered ∧ p'.queuedBlocks = some []

instance (p p' : HttpProtocolHandlerProxy) : Decidable (p.InOrder p') :=
  decidable_of_iff
    ((p'.received.map Block.posted).Pairwise (· < ·) ∧
      (p'.received ≠ p.received → p'.valid = true ∧ p'.paused = false) ∧
      (p'.valid = true → p'.paused = false → p'.running = [] →
        p'.received = p'.delivered ∧ p'.queuedBlocks = some []))
    ⟨fun h => ⟨h.1, h.2.1, h.2.2⟩, fun h => ⟨h.once, h.notWhilePaused, h.caughtUp⟩⟩

/-- A valid proxy is not resumed inside a block of the queue. -/
def NotResumedInQueuedBlock (p : HttpProtocolHandlerProxy) (call : Call) : Prop :=
  call = .resume → p.valid = true → .runQueuedBlocks ∉ p.running

instance (p : HttpProtocolHandlerProxy) (call : Call) :
    Decidable (p.NotResumedInQueuedBlock call) := by
  unfold NotResumedInQueuedBlock
  infer_instance

/-! ## Where a delivered block is -/

variable {p : HttpProtocolHandlerProxy}

/-- The delivered blocks are the received ones and then those of the queue, whose first block
has been received already while it runs. -/
def Accounted (p : HttpProtocolHandlerProxy) (blocks : List Block) : List BlockRunner → Prop
  | [] => p.received ++ blocks = p.delivered ∧ (p.paused = false → blocks = [])
  | [.performBlock] => p.received = p.delivered ∧ blocks = []
  | [.runQueuedBlocks] => ∃ earlier block rest, blocks = block :: rest ∧
      p.received = earlier ++ [block] ∧ p.received ++ rest = p.delivered
  | _ => False

/-- No callback is nested in another. -/
theorem not_accounted_nested {blocks : List Block} {inner outer : BlockRunner}
    {frames : List BlockRunner} : ¬ p.Accounted blocks (inner :: outer :: frames) := by
  intro h
  cases inner <;> exact h

structure Inv (p : HttpProtocolHandlerProxy) : Prop where
  numbered : (p.delivered ++ p.inFlight).map Block.posted = List.range p.posted
  received : p.received <+: p.delivered
  queue : p.valid = p.queuedBlocks.isSome
  accounted : ∀ blocks, p.queuedBlocks = some blocks → p.Accounted blocks p.running

theorem Inv.initWithProtocol : Inv initWithProtocol where
  numbered := rfl
  received := List.prefix_rfl
  queue := rfl
  accounted := by
    rintro blocks ⟨⟩
    exact ⟨rfl, fun _ => rfl⟩

/-- The blocks received are in the posting order, as those delivered are. -/
theorem Inv.once (h : Inv p) : (p.received.map Block.posted).Pairwise (· < ·) := by
  have hnumbers : (p.received.map Block.posted).Sublist (List.range p.posted) := by
    rw [← h.numbered]
    exact (h.received.trans (List.prefix_append _ _)).sublist.map Block.posted
  exact List.pairwise_lt_range.sublist hnumbers

theorem Inv.queue_of_valid (h : Inv p) (hvalid : p.valid = true) :
    ∃ blocks, p.queuedBlocks = some blocks :=
  Option.isSome_iff_exists.1 (h.queue ▸ hvalid)

theorem Inv.queue_of_invalid (h : Inv p) (hvalid : p.valid = false) : p.queuedBlocks = none :=
  Option.not_isSome_iff_eq_none.1 (by rw [← h.queue, hvalid]; exact Bool.false_ne_true)

theorem Inv.valid_of_queue (h : Inv p) {blocks : List Block}
    (hqueue : p.queuedBlocks = some blocks) : p.valid = true := by
  rw [h.queue, hqueue]
  rfl

theorem Inv.invalid_of_none (h : Inv p) (hqueue : p.queuedBlocks = none) : p.valid = false := by
  rw [h.queue, hqueue]
  rfl

theorem Inv.innermost (h : Inv p) {blocks : List Block} {runner : BlockRunner}
    {outer : List BlockRunner} (hqueue : p.queuedBlocks = some blocks)
    (hrunning : p.running = runner :: outer) : outer = [] := by
  have haccounted := h.accounted blocks hqueue
  rw [hrunning] at haccounted
  cases outer with
  | nil => rfl
  | cons => exact absurd haccounted not_accounted_nested

/-- At most one callback is running. -/
theorem Inv.frames (h : Inv p) {blocks : List Block} (hqueue : p.queuedBlocks = some blocks) :
    p.running = [] ∨ ∃ runner, p.running = [runner] := by
  cases hrunning : p.running with
  | nil => exact .inl rfl
  | cons runner outer => exact .inr ⟨runner, by rw [h.innermost hqueue hrunning]⟩

/-- Nothing waits in a queue that could run, and nothing delivered is missing. -/
theorem Inv.caughtUp (h : Inv p) (hvalid : p.valid = true) (hpaused : p.paused = false)
    (hrunning : p.running = []) : p.received = p.delivered ∧ p.queuedBlocks = some [] := by
  obtain ⟨blocks, hblocks⟩ := h.queue_of_valid hvalid
  have haccounted := h.accounted blocks hblocks
  rw [hrunning] at haccounted
  obtain ⟨hdelivered, hempty⟩ := haccounted
  obtain rfl := hempty hpaused
  exact ⟨(List.append_nil _).symm.trans hdelivered, hblocks⟩

/-! ## One step -/

/-- With no protocol there is no queue, so nothing has to be accounted for. -/
theorem Inv.of_invalid (hnumbered : (p.delivered ++ p.inFlight).map Block.posted =
      List.range p.posted) (hreceived : p.received <+: p.delivered) (hvalid : p.valid = false)
    (hqueue : p.queuedBlocks = none) : Inv p where
  numbered := hnumbered
  received := hreceived
  queue := by rw [hvalid, hqueue]; rfl
  accounted := by
    intro blocks hblocks
    rw [hqueue] at hblocks
    cases hblocks

/-- The loop over the queue: it empties it, leaves it to a paused request, or stops with the
first block running. -/
theorem Inv.drain {blocks : List Block}
    (hnumbered : (p.delivered ++ p.inFlight).map Block.posted = List.range p.posted)
    (hvalid : p.valid = true) (hrunning : p.running = [])
    (hdelivered : p.received ++ blocks = p.delivered) : Inv (p.drain blocks) := by
  have hreceived : p.received <+: p.delivered := ⟨blocks, hdelivered⟩
  cases blocks with
  | nil =>
    refine ⟨hnumbered, hreceived, hvalid, ?_⟩
    rintro queue ⟨⟩
    show Accounted _ [] p.running
    rw [hrunning]
    exact ⟨hdelivered, fun _ => rfl⟩
  | cons block rest =>
    unfold HttpProtocolHandlerProxy.drain
    by_cases hpaused : p.paused = true
    · rw [if_pos hpaused]
      refine ⟨hnumbered, hreceived, hvalid, ?_⟩
      intro queue hqueue
      obtain rfl : block :: rest = queue := Option.some.inj hqueue
      show Accounted _ (block :: rest) p.running
      rw [hrunning]
      exact ⟨hdelivered, fun hresumed => absurd hpaused (ne_true_of_eq_false hresumed)⟩
    · rw [if_neg hpaused, if_pos hvalid]
      have hmore : (p.received ++ [block]) ++ rest = p.delivered := by
        rw [List.append_assoc]
        exact hdelivered
      refine ⟨hnumbered, ⟨rest, hmore⟩, hvalid, ?_⟩
      intro queue hqueue
      obtain rfl : block :: rest = queue := Option.some.inj hqueue
      show Accounted _ (block :: rest) (.runQueuedBlocks :: p.running)
      rw [hrunning]
      exact ⟨p.received, block, rest, rfl, rfl, hmore⟩

theorem Inv.postBlockToClientThread (h : Inv p) (call : ClientCall) :
    Inv (p.postBlockToClientThread call) := by
  unfold HttpProtocolHandlerProxy.postBlockToClientThread
  split
  · refine ⟨?_, h.received, h.queue, h.accounted⟩
    show (p.delivered ++ (p.inFlight ++ [Block.mk p.posted call])).map Block.posted = _
    rw [← List.append_assoc, List.map_append, h.numbered, List.range_succ]
    rfl
  · exact h

theorem Inv.deliver (h : Inv p) (hrunning : p.running = []) : Inv p.deliver := by
  unfold HttpProtocolHandlerProxy.deliver
  cases hflight : p.inFlight with
  | nil => exact h
  | cons block later =>
    have hnumbered : ((p.delivered ++ [block]) ++ later).map Block.posted =
        List.range p.posted := by
      rw [List.append_assoc, List.singleton_append, ← hflight]
      exact h.numbered
    have hreceived : p.received <+: p.delivered ++ [block] :=
      h.received.trans (List.prefix_append _ _)
    show Inv (HttpProtocolHandlerProxy.performBlockOnClientThread _ block)
    unfold performBlockOnClientThread
    by_cases hvalid : p.valid = true
    · obtain ⟨blocks, hblocks⟩ := h.queue_of_valid hvalid
      have haccounted := h.accounted blocks hblocks
      rw [hrunning] at haccounted
      by_cases hpaused : p.paused = true
      · -- the block is the last of a queue that has to wait
        rw [if_pos hpaused]
        refine ⟨hnumbered, hreceived, ?_, ?_⟩
        · show p.valid = (p.queuedBlocks.map (· ++ [block])).isSome
          rw [Option.isSome_map]
          exact h.queue
        · intro queue hqueue
          rw [hblocks] at hqueue
          obtain rfl : blocks ++ [block] = queue := Option.some.inj hqueue
          show Accounted _ _ p.running
          rw [hrunning]
          refine ⟨?_, fun hresumed => absurd hpaused (ne_true_of_eq_false hresumed)⟩
          show p.received ++ (blocks ++ [block]) = p.delivered ++ [block]
          rw [← List.append_assoc, haccounted.1]
      · rw [if_neg hpaused]
        have hcaught := h.caughtUp hvalid (Bool.eq_false_iff.2 hpaused) hrunning
        unfold runBlock
        rw [if_pos hvalid]
        refine ⟨hnumbered, ?_, h.queue, ?_⟩
        · show p.received ++ [block] <+: p.delivered ++ [block]
          exact hcaught.1 ▸ List.prefix_rfl
        · intro queue hqueue
          obtain rfl : [] = queue := Option.some.inj (hcaught.2.symm.trans hqueue)
          show Accounted _ _ (.performBlock :: p.running)
          rw [hrunning]
          exact ⟨congrArg (· ++ [block]) hcaught.1, rfl⟩
    · have hgone : p.valid = false := Bool.eq_false_iff.2 hvalid
      have hqueue := h.queue_of_invalid hgone
      split
      · refine Inv.of_invalid hnumbered hreceived hgone ?_
        show p.queuedBlocks.map (· ++ [block]) = none
        rw [hqueue]
        rfl
      · unfold runBlock
        rw [if_neg hvalid]
        exact Inv.of_invalid hnumbered hreceived hgone hqueue

theorem Inv.pause (h : Inv p) : Inv p.pause := by
  refine ⟨h.numbered, h.received, h.queue, fun blocks hblocks => ?_⟩
  have haccounted := h.accounted blocks hblocks
  obtain hnone | ⟨runner, hrunner⟩ := h.frames hblocks
  · rw [hnone] at haccounted
    show Accounted _ blocks p.running
    rw [hnone]
    exact ⟨haccounted.1, fun hpaused => nomatch hpaused⟩
  · rw [hrunner] at haccounted
    show Accounted _ blocks p.running
    rw [hrunner]
    cases runner <;> exact haccounted

theorem resume_of_none (h : p.queuedBlocks = none) : p.resume = { p with paused := false } := by
  unfold HttpProtocolHandlerProxy.resume runQueuedBlocksOnClientThread
  simp only [h]

theorem resume_of_some {blocks : List Block} (h : p.queuedBlocks = some blocks) :
    p.resume = { p with paused := false }.drain blocks := by
  unfold HttpProtocolHandlerProxy.resume runQueuedBlocksOnClientThread
  simp only [h]

theorem Inv.resume (h : Inv p)
    (hnot : p.valid = true → .runQueuedBlocks ∉ p.running) : Inv p.resume := by
  cases hblocks : p.queuedBlocks with
  | none =>
    rw [resume_of_none hblocks]
    exact Inv.of_invalid h.numbered h.received (h.invalid_of_none hblocks) hblocks
  | some blocks =>
    have hvalid := h.valid_of_queue hblocks
    have haccounted := h.accounted blocks hblocks
    rw [resume_of_some hblocks]
    obtain hnone | ⟨runner, hrunner⟩ := h.frames hblocks
    · rw [hnone] at haccounted
      exact Inv.drain h.numbered hvalid hnone haccounted.1
    · cases runner with
      | performBlock =>
        -- nothing is queued while a block runs that was not queued itself
        rw [hrunner] at haccounted
        obtain ⟨hdelivered, rfl⟩ := haccounted
        refine ⟨h.numbered, h.received, hvalid, ?_⟩
        rintro queue ⟨⟩
        show Accounted _ [] p.running
        rw [hrunner]
        exact ⟨hdelivered, rfl⟩
      | runQueuedBlocks =>
        exact absurd (by rw [hrunner]; exact List.mem_cons_self) (hnot hvalid)

theorem Inv.invalidate (h : Inv p) : Inv p.invalidate :=
  Inv.of_invalid h.numbered h.received rfl rfl

theorem Inv.callbackReturns (h : Inv p) : Inv p.callbackReturns := by
  unfold HttpProtocolHandlerProxy.callbackReturns
  split
  · exact h
  · next outer hrunning =>
    refine ⟨h.numbered, h.received, h.queue, fun blocks hblocks => ?_⟩
    obtain rfl := h.innermost hblocks hrunning
    have haccounted := h.accounted blocks hblocks
    rw [hrunning] at haccounted
    obtain ⟨hdelivered, rfl⟩ := haccounted
    exact ⟨(List.append_nil _).trans hdelivered, fun _ => rfl⟩
  · next outer hrunning =>
    split
    · next hblocks =>
      exact Inv.of_invalid h.numbered h.received (h.invalid_of_none hblocks) hblocks
    · next hblocks =>
      -- the block that has run is still in the queue
      obtain rfl := h.innermost hblocks hrunning
      have haccounted := h.accounted _ hblocks
      rw [hrunning] at haccounted
      obtain ⟨_, _, _, hcons, -⟩ := haccounted
      cases hcons
    · next hblocks =>
      obtain rfl := h.innermost hblocks hrunning
      have haccounted := h.accounted _ hblocks
      rw [hrunning] at haccounted
      obtain ⟨earlier, block, rest, hcons, -, hdelivered⟩ := haccounted
      obtain ⟨rfl, rfl⟩ := List.cons.inj hcons
      exact Inv.drain h.numbered (h.valid_of_queue hblocks) rfl hdelivered

theorem Inv.step {call : Call} (h : Inv p) (hpre : p.Pre call)
    (hnot : p.NotResumedInQueuedBlock call) : Inv (p.step call) := by
  cases call with
  | post clientCall => exact h.postBlockToClientThread clientCall
  | deliver => exact h.deliver hpre.2.2
  | pause => exact h.pause
  | resume => exact h.resume (hnot rfl)
  | invalidate => exact h.invalidate
  | callbackReturns => exact h.callbackReturns

/-! ## When the client is entered -/

/-- Only the protocol's client is entered, and only while the request is not paused. -/
def Enters (p p' : HttpProtocolHandlerProxy) : Prop :=
  p'.received ≠ p.received → p'.valid = true ∧ p'.paused = false

theorem enters_of_eq {p' : HttpProtocolHandlerProxy} (h : p'.received = p.received) :
    p.Enters p' :=
  fun hne => absurd h hne

theorem enters_drain (blocks : List Block) : p.Enters (p.drain blocks) := by
  induction blocks with
  | nil => exact enters_of_eq rfl
  | cons block rest ih =>
    unfold HttpProtocolHandlerProxy.drain
    by_cases hpaused : p.paused = true
    · rw [if_pos hpaused]
      exact enters_of_eq rfl
    · rw [if_neg hpaused]
      by_cases hvalid : p.valid = true
      · rw [if_pos hvalid]
        exact fun _ => ⟨hvalid, Bool.eq_false_iff.2 hpaused⟩
      · rw [if_neg hvalid]
        exact ih

theorem enters_runQueuedBlocks : p.Enters p.runQueuedBlocksOnClientThread := by
  unfold runQueuedBlocksOnClientThread
  split
  · exact enters_of_eq rfl
  · exact enters_drain _

theorem enters_performBlock (block : Block) :
    p.Enters (p.performBlockOnClientThread block) := by
  unfold performBlockOnClientThread
  by_cases hpaused : p.paused = true
  · rw [if_pos hpaused]
    exact enters_of_eq rfl
  · rw [if_neg hpaused]
    unfold runBlock
    by_cases hvalid : p.valid = true
    · rw [if_pos hvalid]
      exact fun _ => ⟨hvalid, Bool.eq_false_iff.2 hpaused⟩
    · rw [if_neg hvalid]
      exact enters_of_eq rfl

theorem enters_callbackReturns : p.Enters p.callbackReturns := by
  unfold HttpProtocolHandlerProxy.callbackReturns
  split
  · exact enters_of_eq rfl
  · exact enters_of_eq rfl
  · split
    · exact enters_of_eq rfl
    · exact enters_of_eq rfl
    · exact enters_drain _

theorem enters_step (call : Call) : p.Enters (p.step call) := by
  cases call with
  | post clientCall =>
    refine enters_of_eq ?_
    show (p.postBlockToClientThread clientCall).received = p.received
    unfold HttpProtocolHandlerProxy.postBlockToClientThread
    split <;> rfl
  | deliver =>
    show p.Enters p.deliver
    unfold HttpProtocolHandlerProxy.deliver
    split
    · exact enters_of_eq rfl
    · exact enters_performBlock _
  | pause => exact enters_of_eq rfl
  | resume => exact enters_runQueuedBlocks
  | invalidate => exact enters_of_eq rfl
  | callbackReturns => exact enters_callbackReturns

theorem Inv.inOrder {p' : HttpProtocolHandlerProxy} (h : Inv p') (henters : p.Enters p') :
    p.InOrder p' :=
  ⟨h.once, henters, h.caughtUp⟩

/-! ## Resuming inside a queued block -/

/-- The block that is running is received a second time. -/
theorem Inv.not_inOrder_resume (h : Inv p) (hvalid : p.valid = true)
    (hrunning : .runQueuedBlocks ∈ p.running) : ¬ p.InOrder p.resume := by
  obtain ⟨blocks, hblocks⟩ := h.queue_of_valid hvalid
  have haccounted := h.accounted blocks hblocks
  intro hordered
  obtain hnone | ⟨runner, hrunner⟩ := h.frames hblocks
  · rw [hnone] at hrunning
    exact absurd hrunning List.not_mem_nil
  · rw [hrunner] at hrunning
    obtain rfl := List.mem_singleton.1 hrunning
    rw [hrunner] at haccounted
    obtain ⟨earlier, block, rest, rfl, hreceived, -⟩ := haccounted
    have hagain : p.resume.received = p.received ++ [block] := by
      rw [resume_of_some hblocks]
      unfold HttpProtocolHandlerProxy.drain
      rw [if_neg Bool.false_ne_true, if_pos hvalid]
      rfl
    have hincreasing := hordered.once
    rw [hagain, List.map_append] at hincreasing
    have hless := (List.pairwise_append.1 hincreasing).2.2 block.posted
      (List.mem_map_of_mem (by rw [hreceived]; exact List.mem_append_right _ List.mem_cons_self))
      block.posted List.mem_cons_self
    exact absurd hless (Nat.lt_irrefl _)

theorem Inv.inOrder_step_iff {call : Call} (h : Inv p) (hpre : p.Pre call) :
    p.InOrder (p.step call) ↔ p.NotResumedInQueuedBlock call := by
  constructor
  · rintro hordered rfl hvalid hrunning
    exact h.not_inOrder_resume hvalid hrunning hordered
  · intro hnot
    exact (h.step hpre hnot).inOrder (enters_step call)

/-- **A run goes wrong exactly when a valid proxy is resumed inside a block of the queue.** -/
theorem received_in_order_iff {calls : List Call} (hrun : machine.Run initWithProtocol calls) :
    machine.Always (fun p call => p.InOrder (p.step call)) initWithProtocol calls ↔
      machine.Always NotResumedInQueuedBlock initWithProtocol calls :=
  Lib.Machine.always_iff_of_invariant (I := Inv)
    (fun _ _ hinv hpre => hinv.inOrder_step_iff hpre)
    (fun _ _ hinv hpre hordered => hinv.step hpre ((hinv.inOrder_step_iff hpre).1 hordered))
    Inv.initWithProtocol hrun

/-- Two events reach a paused request. The client resumes it, and in the first of them pauses
and resumes it again; in the second callback it pauses, and then both return. -/
def resumedInQueuedBlock : List Call :=
  [.pause, .post (.didReceiveResponse 0), .post (.didLoadData [104, 105]), .deliver, .deliver,
    .resume, .pause, .resume, .pause, .callbackReturns, .callbackReturns]

theorem received_in_order_iff_resumedInQueuedBlock :
    machine.Always (fun p call => p.InOrder (p.step call)) initWithProtocol
        resumedInQueuedBlock ↔
      machine.Always NotResumedInQueuedBlock initWithProtocol resumedInQueuedBlock :=
  @received_in_order_iff resumedInQueuedBlock (by decide)

/-- The response is received twice. Once both callbacks have returned the data is gone from
the queue, and it was never received. -/
theorem resumedInQueuedBlock_twice :
    machine.Run initWithProtocol resumedInQueuedBlock ∧
      (machine.exec initWithProtocol resumedInQueuedBlock).received =
        [⟨0, .didReceiveResponse 0⟩, ⟨0, .didReceiveResponse 0⟩] ∧
      (machine.exec initWithProtocol resumedInQueuedBlock).delivered =
        [⟨0, .didReceiveResponse 0⟩, ⟨1, .didLoadData [104, 105]⟩] ∧
      (machine.exec initWithProtocol resumedInQueuedBlock).queuedBlocks = some [] ∧
      ¬ machine.Always (fun p call => p.InOrder (p.step call)) initWithProtocol
        resumedInQueuedBlock := by
  decide

end HttpProtocolHandlerProxy

end IosChrome.Net

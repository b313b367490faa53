import Mathlib.Data.List.Count
import Mathlib.Data.List.Pairwise
import IosChrome.JsMessaging.WebFrameImpl

/-!
# Every request completes once

A request that was accepted waits in the map or its callback has been run, once
(`Sound`). What carries this through client code that calls the frame again is
where the empty entries are (`Inv`): each belongs to an operation whose callback
runs, or lies behind the position of the loop of `CancelPendingRequests`.

New calls, and replies and timeouts of other requests, may come from inside a
callback. A reply for a request whose own callback runs finds the empty entry, and
so does `CancelPendingRequests` when the frame or its web state is destroyed from
inside a callback (`destroyedInCallback_faults`). `requests_complete_once` says that
nothing else goes wrong.
-/

namespace IosChrome.JsMessaging

open IosChrome.Lib

variable {R : Type}

namespace WebFrameImpl

structure Sound (f : WebFrameImpl R) : Prop where
  /-- No operation has used an empty entry, or the frame after its end. -/
  noFault : f.fault = false
  once : ∀ call, f.calls[call]? = some true →
    f.ran.countP (fun run => run.1 = call) +
      f.pendingRequests.countP (fun entry => entry.2 = some call) = 1
  never : ∀ call, f.calls[call]? ≠ some true → ∀ run ∈ f.ran, run.1 ≠ call
  gone : f.destroyed = true → f.pendingRequests = []

/-- The request has an entry, and its callbacks have been moved out. -/
def MovedOut (f : WebFrameImpl R) (messageId : Nat) : Prop :=
  (messageId, none) ∈ f.pendingRequests

instance (f : WebFrameImpl R) (messageId : Nat) : Decidable (f.MovedOut messageId) :=
  inferInstanceAs (Decidable (_ ∈ _))

/-- No callback runs when the frame or its web state is destroyed, and no reply comes
for a request whose callbacks have been moved out. -/
def LeavesMovedOut (f : WebFrameImpl R) : FrameOperation R → Prop
  | .onJavaScriptReply messageId _ => ¬ f.MovedOut messageId
  | .completionHandler messageId _ => ¬ f.MovedOut messageId
  | .webStateDestroyed => f.operations = []
  | .destroy => f.operations = []
  | .timeout _ => True
  | .callJavaScriptFunction _ => True
  | .callWithCallback _ _ => True
  | .callbackReturns => True

instance (f : WebFrameImpl R) : ∀ operation, Decidable (f.LeavesMovedOut operation)
  | .onJavaScriptReply messageId _ => inferInstanceAs (Decidable (¬ f.MovedOut messageId))
  | .completionHandler messageId _ => inferInstanceAs (Decidable (¬ f.MovedOut messageId))
  | .webStateDestroyed => inferInstanceAs (Decidable (f.operations = []))
  | .destroy => inferInstanceAs (Decidable (f.operations = []))
  | .timeout _ | .callJavaScriptFunction _ | .callWithCallback .. | .callbackReturns =>
    inferInstanceAs (Decidable True)

/-! ## The invariant -/

/-- The map is in order, and its entries are accounted for. -/
structure Accounts (f : WebFrameImpl R) : Prop where
  noFault : f.fault = false
  sorted : f.pendingRequests.Pairwise fun entry other => entry.1 < other.1
  below : ∀ entry ∈ f.pendingRequests, entry.1 < f.nextMessageId
  counted : ∀ call, f.ran.countP (fun run => run.1 = call) +
    f.pendingRequests.countP (fun entry => entry.2 = some call) =
      if f.calls[call]? = some true then 1 else 0

structure Inv (f : WebFrameImpl R) : Prop where
  accounts : f.Accounts
  distinct : (f.operations.map PendingOperation.messageId).Nodup
  moved : ∀ operation ∈ f.operations, f.MovedOut operation.messageId
  movedOut : ∀ messageId, f.MovedOut messageId → .completing messageId ∈ f.operations ∨
    ∃ last destroys, .cancelling last destroys ∈ f.operations ∧ messageId ≤ last
  /-- The loop of `CancelPendingRequests` was entered while no callback ran. -/
  outermost : ∀ last destroys, .cancelling last destroys ∈ f.operations →
    f.operations.getLast? = some (.cancelling last destroys)
  passed : ∀ last destroys, .cancelling last destroys ∈ f.operations →
    ∀ entry ∈ f.pendingRequests, entry.1 ≤ last → entry.2 = none
  gone : f.destroyed = true → f.pendingRequests = [] ∧ f.operations = []

theorem Inv.sound {f : WebFrameImpl R} (h : f.Inv) : f.Sound where
  noFault := h.accounts.noFault
  once := by
    intro call hcalled
    have hcounted := h.accounts.counted call
    rw [if_pos hcalled] at hcounted
    exact hcounted
  never := by
    intro call hcalled run hrun hsame
    have hcounted := h.accounts.counted call
    rw [if_neg hcalled] at hcounted
    have hpositive : 0 < f.ran.countP fun run => run.1 = call :=
      List.countP_pos_iff.2 ⟨run, hrun, decide_eq_true hsame⟩
    omega
  gone := fun hdestroyed => (h.gone hdestroyed).1

theorem Accounts.unique {f : WebFrameImpl R} (h : f.Accounts) :
    Keyed.Unique Prod.fst f.pendingRequests := by
  refine List.pairwise_map.2 (h.sorted.imp fun hlt => ?_)
  exact Nat.ne_of_lt hlt

theorem start_inv (isMainFrame hasFrameKey : Bool) (nextMessageId : Nat) :
    (start isMainFrame hasFrameKey nextMessageId : WebFrameImpl R).Inv where
  accounts := {
    noFault := rfl
    sorted := List.Pairwise.nil
    below := fun _ hmem => nomatch hmem
    counted := fun _ => rfl }
  distinct := List.nodup_nil
  moved := fun _ hmem => nomatch hmem
  movedOut := fun _ hmem => nomatch hmem
  outermost := fun _ _ hmem => nomatch hmem
  passed := fun _ _ hmem => nomatch hmem
  gone := fun hdestroyed => nomatch hdestroyed

/-! ## Calls -/

variable {f : WebFrameImpl R}

theorem countP_added (called : Bool) (messageId : Nat) {call other : Nat} (hne : other ≠ call) :
    (if called then [(messageId, some call)] else []).countP
      (fun entry : Nat × Option Nat => entry.2 = some other) = 0 := by
  refine List.countP_eq_zero.2 fun entry hentry hof => ?_
  split_ifs at hentry
  · rw [List.mem_singleton.1 hentry] at hof
    exact hne (Option.some.inj (of_decide_eq_true hof)).symm
  · exact nomatch hentry

theorem Accounts.call (h : f.Accounts) (contentWorld isSealed : Bool) :
    (f.callWithCallback contentWorld isSealed).pendingRequests = f.pendingRequests ++
      (if f.canCall contentWorld isSealed then [(f.nextMessageId, some f.calls.length)] else []) ∧
    (f.callWithCallback contentWorld isSealed).Accounts := by
  have hnew : Keyed.lookup Prod.fst f.pendingRequests f.nextMessageId = none :=
    Keyed.lookup_eq_none.2 fun entry hentry => Nat.ne_of_lt (h.below entry hentry)
  have hsame : Keyed.remove Prod.fst f.pendingRequests f.nextMessageId = f.pendingRequests :=
    Keyed.remove_of_lookup_none hnew
  have hput : Keyed.put Prod.fst f.pendingRequests (f.nextMessageId, some f.calls.length) =
      f.pendingRequests ++ [(f.nextMessageId, some f.calls.length)] := by
    unfold Keyed.put
    rw [hsame]
  have hpending : (f.callWithCallback contentWorld isSealed).pendingRequests =
      f.pendingRequests ++ (if f.canCall contentWorld isSealed then
        [(f.nextMessageId, some f.calls.length)] else []) := by
    unfold callWithCallback
    simp only [hput]
    by_cases hcalled : f.canCall contentWorld isSealed = true
    · rw [if_pos hcalled, if_pos hcalled]
    · rw [if_neg hcalled, if_neg hcalled, List.append_nil]
      unfold Keyed.remove at hsame ⊢
      rw [List.filter_append, hsame]
      simp
  refine ⟨hpending, h.noFault, ?_, fun entry hentry => ?_, fun call => ?_⟩
  · rw [hpending]
    refine List.pairwise_append.2 ⟨h.sorted, ?_, fun entry hentry other hother => ?_⟩
    · split_ifs
      · exact List.pairwise_singleton _ _
      · exact List.Pairwise.nil
    · split_ifs at hother
      · rw [List.mem_singleton.1 hother]
        exact h.below entry hentry
      · cases hother
  · show entry.1 < f.nextMessageId + 1
    rw [hpending] at hentry
    rcases List.mem_append.1 hentry with hold | hadded
    · exact Nat.lt_succ_of_lt (h.below entry hold)
    · split_ifs at hadded
      · rw [List.mem_singleton.1 hadded]
        exact Nat.lt_succ_self _
      · cases hadded
  · have hcounted := h.counted call
    rw [hpending, List.countP_append]
    show f.ran.countP _ + (_ + _) = if (f.calls ++ [_])[call]? = some true then 1 else 0
    have hneither : ¬ (none : Option Bool) = some true :=
      (Option.some_ne_none true).symm
    rcases Nat.lt_trichotomy call f.calls.length with hlt | heq | hgt
    · -- an earlier call
      have hadded := countP_added (f.canCall contentWorld isSealed) f.nextMessageId
        (Nat.ne_of_lt hlt)
      rw [List.getElem?_append_left hlt, ← hcounted]
      omega
    · -- the call itself
      have hbefore : f.calls[call]? = none := List.getElem?_eq_none (Nat.le_of_eq heq.symm)
      rw [hbefore, if_neg hneither, heq] at hcounted
      rw [heq, List.getElem?_concat_length]
      cases hcalled : f.canCall contentWorld isSealed with
      | true =>
        rw [if_pos rfl, if_pos rfl, List.countP_singleton, if_pos (decide_eq_true rfl)]
        omega
      | false =>
        have hfailed : ¬ some false = some true := fun heq =>
          Bool.false_ne_true (Option.some.inj heq)
        rw [if_neg Bool.false_ne_true, if_neg hfailed]
        exact hcounted
    · -- a call that has not been made
      have hadded := countP_added (f.canCall contentWorld isSealed) f.nextMessageId
        (Nat.ne_of_gt hgt)
      have hlength : (f.calls ++ [f.canCall contentWorld isSealed]).length ≤ call := by
        rw [List.length_append]
        exact hgt
      rw [List.getElem?_eq_none hlength, if_neg hneither]
      rw [List.getElem?_eq_none (Nat.le_of_lt hgt), if_neg hneither] at hcounted
      omega

theorem Inv.calls (h : f.Inv) (contentWorld isSealed : Bool) (hhere : f.destroyed = false) :
    (f.callWithCallback contentWorld isSealed).Inv := by
  obtain ⟨hpending, haccounts⟩ := h.accounts.call contentWorld isSealed
  -- the entry of the call has a callback, and the highest message id
  have hnew : ∀ entry ∈ (f.callWithCallback contentWorld isSealed).pendingRequests,
      entry ∈ f.pendingRequests ∨ entry = (f.nextMessageId, some f.calls.length) := by
    intro entry hentry
    rw [hpending] at hentry
    rcases List.mem_append.1 hentry with hold | hadded
    · exact .inl hold
    · split_ifs at hadded
      · exact .inr (List.mem_singleton.1 hadded)
      · cases hadded
  have hmoved : ∀ messageId, (f.callWithCallback contentWorld isSealed).MovedOut messageId ↔
      f.MovedOut messageId := by
    intro messageId
    constructor
    · intro hmem
      rcases hnew _ hmem with hold | hadded
      · exact hold
      · exact nomatch congrArg Prod.snd hadded
    · intro hmem
      show (messageId, none) ∈ (f.callWithCallback contentWorld isSealed).pendingRequests
      rw [hpending]
      exact List.mem_append_left _ hmem
  refine ⟨haccounts, h.distinct, fun operation hop => (hmoved _).2 (h.moved operation hop),
    fun messageId hmem => h.movedOut messageId ((hmoved messageId).1 hmem), h.outermost,
    fun last destroys hop entry hentry hle => ?_, fun hdestroyed => ?_⟩
  · rcases hnew entry hentry with hold | rfl
    · exact h.passed last destroys hop entry hold hle
    · have hlast : last < f.nextMessageId := h.accounts.below _ (h.moved _ hop)
      exact absurd hle (Nat.not_le_of_lt hlast)
  · exact absurd (hhere.symm.trans hdestroyed) Bool.false_ne_true

/-! ## Callbacks -/

theorem Accounts.perm_entry (h : f.Accounts) {messageId : Nat} {callback : Option Nat}
    (hmem : (messageId, callback) ∈ f.pendingRequests) :
    f.pendingRequests.Perm
      ((messageId, callback) :: Keyed.remove Prod.fst f.pendingRequests messageId) :=
  Keyed.perm_remove h.unique hmem

/-- What moving the callbacks out leaves in the map. -/
theorem Accounts.perm_enterCallback (h : f.Accounts) {messageId call : Nat}
    (hmem : (messageId, some call) ∈ f.pendingRequests) (result : Option R)
    (operation : PendingOperation) :
    (f.enterCallback messageId call result operation).pendingRequests.Perm
      ((messageId, none) :: Keyed.remove Prod.fst f.pendingRequests messageId) := by
  have hrest : ((Keyed.remove Prod.fst f.pendingRequests messageId).map fun entry =>
      if entry.1 = messageId then (entry.1, none) else entry) =
      Keyed.remove Prod.fst f.pendingRequests messageId :=
    (List.map_congr_left fun entry hentry => if_neg (Keyed.mem_remove.1 hentry).2).trans
      (List.map_id _)
  have hmoved := (h.perm_entry hmem).map fun entry =>
    if entry.1 = messageId then (entry.1, none) else entry
  rw [List.map_cons, hrest, if_pos rfl] at hmoved
  exact hmoved

theorem Accounts.enterCallback (h : f.Accounts) {messageId call : Nat}
    (hmem : (messageId, some call) ∈ f.pendingRequests) (result : Option R)
    (operation : PendingOperation) :
    (f.enterCallback messageId call result operation).Accounts where
  noFault := h.noFault
  sorted := by
    refine List.pairwise_map.2 (h.sorted.imp fun {entry other} hlt => ?_)
    split_ifs <;> exact hlt
  below := by
    intro entry hentry
    obtain ⟨old, hold, rfl⟩ := List.mem_map.1 hentry
    have hbelow := h.below old hold
    split_ifs <;> exact hbelow
  counted := by
    intro other
    have hcounted := h.counted other
    rw [(h.perm_entry hmem).countP_eq, List.countP_cons] at hcounted
    rw [(h.perm_enterCallback hmem result operation).countP_eq, List.countP_cons]
    show (f.ran ++ [(call, result)]).countP _ + _ = if f.calls[other]? = some true then 1 else 0
    rw [List.countP_append, List.countP_singleton]
    have hnone : ¬ decide (((messageId, none) : Nat × Option Nat).2 = some other) = true :=
      fun hof => nomatch of_decide_eq_true hof
    rw [if_neg hnone]
    by_cases hsame : call = other
    · -- what was counted in the map is counted in the run
      subst hsame
      rw [if_pos (decide_eq_true rfl)] at hcounted ⊢
      omega
    · have hnot : ¬ decide (some call = some other) = true :=
        fun hof => hsame (Option.some.inj (of_decide_eq_true hof))
      have hnot' : ¬ decide (call = other) = true := fun hof => hsame (of_decide_eq_true hof)
      rw [if_neg hnot] at hcounted
      rw [if_neg hnot']
      omega

theorem Accounts.not_movedOut (h : f.Accounts) {messageId call : Nat}
    (hmem : (messageId, some call) ∈ f.pendingRequests) : ¬ f.MovedOut messageId := by
  intro hmoved
  exact nomatch congrArg Prod.snd (h.unique.eq_of_mem hmoved hmem rfl)

theorem movedOut_enterCallback {messageId call other : Nat} {result : Option R}
    {operation : PendingOperation} (hmem : (messageId, some call) ∈ f.pendingRequests) :
    (f.enterCallback messageId call result operation).MovedOut other ↔
      other = messageId ∨ f.MovedOut other := by
  constructor
  · intro hmoved
    obtain ⟨old, hold, heq⟩ := List.mem_map.1 hmoved
    by_cases hsame : old.1 = messageId
    · rw [if_pos hsame] at heq
      exact .inl ((congrArg Prod.fst heq).symm.trans hsame)
    · rw [if_neg hsame] at heq
      rw [heq] at hold
      exact .inr hold
  · rintro (rfl | hmoved)
    · exact List.mem_map.2 ⟨_, hmem, if_pos rfl⟩
    · refine List.mem_map.2 ⟨_, hmoved, ?_⟩
      split_ifs <;> rfl

/-- `CompleteRequest` with an entry that has its callbacks. -/
theorem Inv.enterCallback (h : f.Inv) {messageId call : Nat}
    (hmem : (messageId, some call) ∈ f.pendingRequests) (result : Option R)
    (hhere : f.destroyed = false) :
    (f.enterCallback messageId call result (.completing messageId)).Inv where
  accounts := h.accounts.enterCallback hmem result _
  distinct := by
    refine List.nodup_cons.2 ⟨fun hrunning => ?_, h.distinct⟩
    obtain ⟨operation, hop, hid⟩ := List.mem_map.1 hrunning
    have hmoved : f.MovedOut operation.messageId := h.moved operation hop
    rw [hid] at hmoved
    exact h.accounts.not_movedOut hmem hmoved
  moved := by
    intro operation hop
    refine (movedOut_enterCallback hmem).2 ?_
    rcases List.mem_cons.1 hop with rfl | hop
    · exact .inl rfl
    · exact .inr (h.moved operation hop)
  movedOut := by
    intro other hmoved
    rcases (movedOut_enterCallback hmem).1 hmoved with rfl | hmoved
    · exact .inl List.mem_cons_self
    · rcases h.movedOut other hmoved with hop | ⟨last, destroys, hop, hle⟩
      · exact .inl (List.mem_cons_of_mem _ hop)
      · exact .inr ⟨last, destroys, List.mem_cons_of_mem _ hop, hle⟩
  outermost := by
    intro last destroys hop
    rcases List.mem_cons.1 hop with heq | hop
    · exact nomatch heq
    · show (_ :: f.operations).getLast? = _
      rw [List.getLast?_cons, h.outermost last destroys hop]
      rfl
  passed := by
    intro last destroys hop entry hentry hle
    rcases List.mem_cons.1 hop with heq | hop
    · exact nomatch heq
    · obtain ⟨old, hold, rfl⟩ := List.mem_map.1 hentry
      by_cases hsame : old.1 = messageId
      · rw [if_pos hsame]
      · rw [if_neg hsame] at hle ⊢
        exact h.passed last destroys hop old hold hle
  gone := fun hdestroyed => absurd (hhere.symm.trans hdestroyed) Bool.false_ne_true

theorem Inv.complete (h : f.Inv) {messageId : Nat} (hleft : ¬ f.MovedOut messageId)
    (result : Option R) (hhere : f.destroyed = false) :
    (f.completeRequest messageId result).Inv := by
  unfold completeRequest
  cases hfound : Keyed.lookup Prod.fst f.pendingRequests messageId with
  | none => exact h
  | some entry =>
    obtain ⟨hmem, rfl⟩ := (Keyed.lookup_eq_some h.accounts.unique).1 hfound
    obtain ⟨messageId, callback⟩ := entry
    cases callback with
    | none => exact absurd hmem hleft
    | some call => exact h.enterCallback hmem result hhere

theorem Inv.timeout (h : f.Inv) (messageId : Nat) (hhere : f.destroyed = false) :
    (f.timeout messageId).Inv := by
  unfold WebFrameImpl.timeout
  cases hfound : Keyed.lookup Prod.fst f.pendingRequests messageId with
  | none => exact h
  | some entry =>
    obtain ⟨hmem, rfl⟩ := (Keyed.lookup_eq_some h.accounts.unique).1 hfound
    obtain ⟨messageId, callback⟩ := entry
    cases callback with
    | none => exact h
    | some call => exact h.complete (h.accounts.not_movedOut hmem) none hhere

/-! ## The loop of `CancelPendingRequests` -/

/-- The loop goes on after `last` while no other callback runs. -/
theorem Accounts.cancelFrom (h : f.Accounts) (hnone : f.operations = [])
    (hhere : f.destroyed = false) (last : Option Nat) (destroys : Bool)
    (hpassed : ∀ position, last = some position →
      ∀ entry ∈ f.pendingRequests, entry.1 ≤ position → entry.2 = none)
    (hahead : ∀ messageId, f.MovedOut messageId →
      ∃ position, last = some position ∧ messageId ≤ position) :
    (f.cancelFrom last destroys).Inv := by
  -- an entry that the loop has not passed has its callbacks
  have hbehind : ∀ entry ∈ f.pendingRequests,
      ¬ (last.all fun messageId => messageId < entry.1) = true → entry.2 = none := by
    intro entry hentry hnot
    cases last with
    | none => exact absurd rfl hnot
    | some position =>
      have hnotlt : ¬ position < entry.1 := fun hlt => hnot (decide_eq_true hlt)
      exact hpassed position rfl entry hentry (Nat.le_of_not_lt hnotlt)
  unfold WebFrameImpl.cancelFrom
  cases hfound : f.pendingRequests.find? fun entry =>
      last.all fun messageId => messageId < entry.1 with
  | none =>
    have hall : ∀ entry ∈ f.pendingRequests, entry.2 = none := fun entry hentry =>
      hbehind entry hentry (List.find?_eq_none.1 hfound entry hentry)
    refine ⟨⟨h.noFault, List.Pairwise.nil, fun _ hmem => (nomatch hmem), fun call => ?_⟩, ?_, ?_,
      fun _ hmem => (nomatch hmem), ?_, ?_, fun _ => ⟨rfl, hnone⟩⟩
    · have hcounted := h.counted call
      have hempty : f.pendingRequests.countP (fun entry => entry.2 = some call) = 0 :=
        List.countP_eq_zero.2 fun entry hentry hof =>
          nomatch (hall entry hentry).symm.trans (of_decide_eq_true hof)
      rw [hempty] at hcounted
      exact hcounted
    · show (f.operations.map _).Nodup
      rw [hnone]
      exact List.nodup_nil
    · show ∀ operation ∈ f.operations, _
      rw [hnone]
      exact fun _ hop => nomatch hop
    · show ∀ last destroys, _ ∈ f.operations → f.operations.getLast? = _
      rw [hnone]
      exact fun _ _ hop => nomatch hop
    · exact fun _ _ _ _ hmem => nomatch hmem
  | some entry =>
    obtain ⟨messageId, callback⟩ := entry
    have hmem : (messageId, callback) ∈ f.pendingRequests := List.mem_of_find?_eq_some hfound
    have hafter := List.find?_some hfound
    cases callback with
    | none =>
      obtain ⟨position, rfl, hle⟩ := hahead messageId hmem
      have hlt : position < messageId := of_decide_eq_true hafter
      exact absurd hle (Nat.not_le_of_lt hlt)
    | some call =>
      obtain ⟨_, before, after, hsplit, hskipped⟩ := List.find?_eq_some_iff_append.1 hfound
      have hsorted := h.sorted
      rw [hsplit] at hsorted
      have hlater : ∀ entry ∈ after, messageId < entry.1 :=
        (List.pairwise_cons.1 (List.pairwise_append.1 hsorted).2.1).1
      -- the loop's is the only callback that runs
      have honly : (f.enterCallback messageId call none
          (.cancelling messageId destroys)).operations = [.cancelling messageId destroys] :=
        congrArg (List.cons (PendingOperation.cancelling messageId destroys)) hnone
      have hop : ∀ {operation}, operation ∈ (f.enterCallback messageId call none
          (.cancelling messageId destroys)).operations →
          operation = .cancelling messageId destroys := fun hop =>
        List.mem_singleton.1 (honly ▸ hop)
      refine ⟨h.enterCallback hmem none _, ?_, fun operation hrunning => ?_,
        fun other hmoved => .inr ⟨messageId, destroys, List.mem_cons_self, ?_⟩,
        fun position ends hrunning => ?_, fun position ends hrunning entry hentry hle => ?_,
        fun hdestroyed => absurd (hhere.symm.trans hdestroyed) Bool.false_ne_true⟩
      · rw [honly]
        exact List.nodup_singleton _
      · rw [hop hrunning]
        exact (movedOut_enterCallback hmem).2 (.inl rfl)
      · rcases (movedOut_enterCallback hmem).1 hmoved with rfl | hmoved
        · exact Nat.le_refl _
        · obtain ⟨position, rfl, hle⟩ := hahead other hmoved
          have hlt : position < messageId := of_decide_eq_true hafter
          exact Nat.le_of_lt (Nat.lt_of_le_of_lt hle hlt)
      · rw [hop hrunning, honly]
        rfl
      · obtain ⟨rfl, rfl⟩ := PendingOperation.cancelling.inj (hop hrunning)
        obtain ⟨old, hold, rfl⟩ := List.mem_map.1 hentry
        by_cases hsame : old.1 = position
        · rw [if_pos hsame]
        · rw [if_neg hsame] at hle ⊢
          -- the map is in order, so this entry stands before the one found
          rw [hsplit] at hold
          rcases List.mem_append.1 hold with hold | hold
          · refine hbehind old (hsplit ▸ List.mem_append_left _ hold) fun hnot => ?_
            have hskip := hskipped old hold
            rw [hnot] at hskip
            exact Bool.false_ne_true hskip
          · rcases List.mem_cons.1 hold with rfl | hold
            · exact absurd rfl hsame
            · exact absurd hle (Nat.not_le_of_lt (hlater old hold))

theorem Inv.cancel (h : f.Inv) (hnone : f.operations = []) (hhere : f.destroyed = false)
    (destroys : Bool) : (f.cancelFrom none destroys).Inv := by
  refine h.accounts.cancelFrom hnone hhere none destroys (fun _ heq => nomatch heq)
    fun messageId hmoved => ?_
  rcases h.movedOut messageId hmoved with hop | ⟨last, ends, hop, _⟩
  · rw [hnone] at hop
    exact nomatch hop
  · rw [hnone] at hop
    exact nomatch hop

/-! ## Returns -/

theorem Accounts.erase (h : f.Accounts) {messageId : Nat} (hmoved : f.MovedOut messageId)
    (outer : List PendingOperation) :
    ({ f with
        operations := outer,
        pendingRequests := Keyed.remove Prod.fst f.pendingRequests messageId } :
      WebFrameImpl R).Accounts where
  noFault := h.noFault
  sorted := h.sorted.filter _
  below := fun entry hentry => h.below entry (Keyed.mem_remove.1 hentry).1
  counted := by
    intro call
    have hcounted := h.counted call
    have hnone : ¬ decide (((messageId, none) : Nat × Option Nat).2 = some call) = true :=
      fun hof => nomatch of_decide_eq_true hof
    rw [(h.perm_entry hmoved).countP_eq, List.countP_cons, if_neg hnone] at hcounted
    exact hcounted

theorem Inv.callbackReturns (h : f.Inv) : f.callbackReturns.Inv := by
  unfold WebFrameImpl.callbackReturns
  cases hops : f.operations with
  | nil => exact h
  | cons operation outer =>
    have hhere : f.destroyed = false := by
      cases hdestroyed : f.destroyed with
      | false => rfl
      | true => exact absurd (hops.symm.trans (h.gone hdestroyed).2) (List.cons_ne_nil _ _)
    have hdistinct := h.distinct
    rw [hops, List.map_cons] at hdistinct
    have hnot : operation.messageId ∉ outer.map PendingOperation.messageId :=
      (List.nodup_cons.1 hdistinct).1
    have hcontinues : ¬ f.destroyed = true := fun hdestroyed =>
      Bool.false_ne_true (hhere.symm.trans hdestroyed)
    have houter : ∀ {other}, other ∈ outer → other ∈ f.operations := fun hop =>
      hops ▸ List.mem_cons_of_mem _ hop
    have hmoved : f.MovedOut operation.messageId := h.moved _ (hops ▸ List.mem_cons_self)
    simp only [if_neg hcontinues]
    cases operation with
    | completing messageId =>
      refine ⟨h.accounts.erase hmoved outer, (List.nodup_cons.1 hdistinct).2,
        fun other hop => ?_, fun other hother => ?_, fun last destroys hop => ?_,
        fun last destroys hop entry hentry => h.passed last destroys (houter hop) entry
          (Keyed.mem_remove.1 hentry).1,
        fun hdestroyed => absurd hdestroyed hcontinues⟩
      · refine Keyed.mem_remove.2 ⟨h.moved other (houter hop), fun heq => hnot ?_⟩
        exact List.mem_map.2 ⟨other, hop, heq⟩
      · obtain ⟨hmem, hne⟩ := Keyed.mem_remove.1 hother
        rcases h.movedOut other hmem with hop | ⟨last, destroys, hop, hle⟩
        · rw [hops] at hop
          rcases List.mem_cons.1 hop with heq | hop
          · exact absurd (PendingOperation.completing.inj heq) hne
          · exact .inl hop
        · rw [hops] at hop
          rcases List.mem_cons.1 hop with heq | hop
          · cases heq
          · exact .inr ⟨last, destroys, hop, hle⟩
      · have hlast := h.outermost last destroys (houter hop)
        rw [hops] at hlast
        cases outer with
        | nil => cases hop
        | cons next outer => exact hlast
    | cancelling messageId destroys =>
      -- no other callback has been left
      have hlast := h.outermost messageId destroys (hops ▸ List.mem_cons_self)
      have hlone : outer = [] := by
        rw [hops] at hlast
        cases outer with
        | nil => rfl
        | cons next outer =>
          have hagain : .cancelling messageId destroys ∈ next :: outer :=
            List.mem_of_getLast? hlast
          exact absurd (List.mem_map_of_mem hagain) hnot
      subst hlone
      let back : WebFrameImpl R := { f with operations := [] }
      have hback : back.Accounts :=
        ⟨h.accounts.noFault, h.accounts.sorted, h.accounts.below, h.accounts.counted⟩
      refine hback.cancelFrom rfl hhere (some messageId) destroys
        (fun position heq entry hentry hle => ?_) fun other hother => ?_
      · obtain rfl := Option.some.inj heq
        exact h.passed _ destroys (hops ▸ List.mem_cons_self) entry hentry hle
      · refine ⟨messageId, rfl, ?_⟩
        rcases h.movedOut other hother with hop | ⟨last, ends, hop, hle⟩
        · rw [hops] at hop
          cases List.mem_singleton.1 hop
        · rw [hops] at hop
          obtain ⟨rfl, _⟩ := PendingOperation.cancelling.inj (List.mem_singleton.1 hop)
          exact hle

/-! ## Runs -/

theorem Inv.step (h : f.Inv) {operation : FrameOperation R} (hpre : f.Pre operation)
    (hleft : f.LeavesMovedOut operation) : (f.step operation).Inv := by
  cases operation with
  | callJavaScriptFunction contentWorld =>
    -- only the next message id changes
    refine ⟨⟨h.accounts.noFault, h.accounts.sorted, fun entry hentry => ?_, h.accounts.counted⟩,
      h.distinct, h.moved, h.movedOut, h.outermost, h.passed, h.gone⟩
    exact Nat.lt_succ_of_lt (h.accounts.below entry hentry)
  | callWithCallback contentWorld isSealed => exact h.calls contentWorld isSealed hpre.1
  | onJavaScriptReply messageId result => exact h.complete hleft result hpre
  | completionHandler messageId result => exact h.complete hleft result hpre
  | timeout messageId => exact h.timeout messageId hpre
  | webStateDestroyed => exact h.cancel hleft hpre.1 false
  | destroy => exact h.cancel hleft hpre.1 true
  | callbackReturns => exact h.callbackReturns

/-- **Along every run that leaves the entries alone whose callbacks have been moved
out, every accepted call waits or has been completed once**, and no operation uses an
empty entry. -/
theorem requests_complete_once {operations : List (FrameOperation R)}
    (hinit : (frameMachine R).init f) (hrun : (frameMachine R).Run f operations)
    (hleft : (frameMachine R).Always LeavesMovedOut f operations) :
    ((frameMachine R).exec f operations).Sound := by
  obtain ⟨isMainFrame, hasFrameKey, nextMessageId, rfl⟩ := hinit
  refine Inv.sound (Machine.Guarded.invariant (I := Inv) (fun s operation hs hpre hcond => ?_)
    (start_inv isMainFrame hasFrameKey nextMessageId) hrun hleft)
  exact Inv.step hs hpre hcond

/-- Three calls, the last from inside the callback of the first; the second is timed out
there, too, and the third is canceled by the destruction. -/
def callsInCallback : List (FrameOperation Unit) :=
  [.callWithCallback false true, .callWithCallback true true, .onJavaScriptReply 7 (some ()),
    .callWithCallback false false, .timeout 8, .callbackReturns, .callbackReturns,
    .onJavaScriptReply 7 none, .destroy, .callbackReturns]

theorem requests_complete_once_inCallback :
    ((frameMachine Unit).exec (start true false 7) callsInCallback).Sound :=
  requests_complete_once ⟨true, false, 7, rfl⟩ (by decide) (by decide)

/-- A callback that destroys the frame is run by an operation whose entry is still in the
map: the destructor uses it. -/
theorem destroyedInCallback_faults :
    ¬ ∀ operations : List (FrameOperation Unit),
      (frameMachine Unit).Run (start true false 0) operations →
        ((frameMachine Unit).exec (start true false 0) operations).Sound := by
  intro hall
  have hsound := hall [.callWithCallback false true, .onJavaScriptReply 0 (some ()), .destroy]
    (by decide)
  exact absurd hsound.noFault (by decide)

end WebFrameImpl

end IosChrome.JsMessaging

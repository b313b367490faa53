import Mathlib.Data.List.Nodup
import Mathlib.Data.List.Pairwise
import Mathlib.Data.List.Perm.Basic
import IosChrome.Lib.EventLog
import IosChrome.JsMessaging.Message

/-!
# What relaying frames can do to messages

A message for a frame travels through other frames of the page, which can drop, repeat,
delay and recombine payloads, and make up their own. With an ideal AEAD they cannot open
or change one (`IdealAead`), and `executed_once` says what that leaves them: accepted
ids increase, and each function is run at most once, after the message it was sealed
with and with no other.

A function payload opens only with the id it was sealed for, an id is accepted once since
it is compared and recorded in one step, and an accepted id has one job (`Inv`).
-/

namespace IosChrome.JsMessaging

open IosChrome.Lib

variable {C V : Type}

/-! ## Sealed payloads -/

/-- A call of `WebFrameImpl` that was encrypted, with its two payloads. -/
structure SealedCall (C V : Type) where
  messageId : Nat
  replyWithResult : Bool
  functionName : String
  parameters : List V
  /-- Sealed without additional data. -/
  message : C
  /-- Sealed with the message id as additional data. -/
  function : C
  deriving DecidableEq

namespace SealedCall

def messageDetails (call : SealedCall C V) : Details V :=
  { messageId := some call.messageId, replyWithResult := call.replyWithResult,
    functionName := none, parameters := none }

def functionDetails (call : SealedCall C V) : Details V :=
  { messageId := none, replyWithResult := false, functionName := some call.functionName,
    parameters := some call.parameters }

end SealedCall

/-- A payload opens only if it was sealed, with the data it was sealed with. -/
def IdealAead (decrypt : C → String → Option (Details V)) (calls : List (SealedCall C V)) : Prop :=
  ∀ payload data details, decrypt payload data = some details → ∃ call ∈ calls,
    (payload = call.message ∧ data = "" ∧ details = call.messageDetails) ∨
    (payload = call.function ∧ data = additionalData call.messageId ∧
      details = call.functionDetails)

/-- Different message ids are different data. -/
theorem additionalData_inj {m n : Nat} (h : additionalData m = additionalData n) : m = n := by
  have hrepr : m.repr = n.repr := h
  have hdigits := congrArg String.toList hrepr
  rw [Nat.toList_repr, Nat.toList_repr] at hdigits
  have hvalue := congrArg (Nat.ofDigitChars 10 · 0) hdigits
  rwa [Nat.ofDigitChars_ten_toDigits, Nat.ofDigitChars_ten_toDigits] at hvalue

theorem additionalData_ne_empty (n : Nat) : additionalData n ≠ "" :=
  Nat.repr_ne_empty (n := n)

theorem IdealAead.message {decrypt : C → String → Option (Details V)}
    {calls : List (SealedCall C V)} (h : IdealAead decrypt calls) {payload : C}
    {details : Details V} (hopens : decrypt payload "" = some details) :
    ∃ call ∈ calls, payload = call.message ∧ details = call.messageDetails := by
  obtain ⟨call, hcall, ⟨hpayload, _, hdetails⟩ | ⟨_, hdata, _⟩⟩ := h _ _ _ hopens
  · exact ⟨call, hcall, hpayload, hdetails⟩
  · exact absurd hdata.symm (additionalData_ne_empty call.messageId)

/-- A function opens for its own message id only. -/
theorem IdealAead.function {decrypt : C → String → Option (Details V)}
    {calls : List (SealedCall C V)} (h : IdealAead decrypt calls)
    (hids : (calls.map SealedCall.messageId).Nodup) {call : SealedCall C V} (hcall : call ∈ calls)
    {payload : C} {details : Details V}
    (hopens : decrypt payload (additionalData call.messageId) = some details) :
    payload = call.function ∧ details = call.functionDetails := by
  obtain ⟨other, hother, ⟨_, hdata, _⟩ | ⟨hpayload, hdata, hdetails⟩⟩ := h _ _ _ hopens
  · exact absurd hdata (additionalData_ne_empty call.messageId)
  · have hsame : call = other :=
      List.inj_on_of_nodup_map hids hcall hother (additionalData_inj hdata)
    rw [hsame]
    exact ⟨hpayload, hdetails⟩

/-! ## What the log says -/

namespace PageEvent

def acceptedId : PageEvent C V → Option Int
  | .accepted _ messageId => some messageId
  | _ => none

def executedId : PageEvent C V → Option Int
  | .executed _ _ messageId _ _ _ => some messageId
  | _ => none

def repliedId : PageEvent C V → Option Int
  | .replied _ messageId _ => some messageId
  | _ => none

end PageEvent

/-- What relaying frames leave as it is. -/
structure ExecutesOnce (calls : List (SealedCall C V)) (p : Page C V) : Prop where
  increasing : (p.log.filterMap PageEvent.acceptedId).Pairwise (· < ·)
  executed : (p.log.filterMap PageEvent.executedId).Nodup
  replied : (p.log.filterMap PageEvent.repliedId).Nodup
  ownMessage : ∀ (message function : C) (messageId : Int) functionName parameters outcome,
    .executed message function messageId functionName parameters outcome ∈ p.log →
      ∃ call ∈ calls, message = call.message ∧ function = call.function ∧
        messageId = call.messageId ∧ functionName = call.functionName ∧
        parameters = call.parameters
  afterAccepted : ∀ (message function : C) (messageId : Int) functionName parameters outcome,
    WhenLogged p.log (.executed message function messageId functionName parameters outcome)
      fun before => .accepted message messageId ∈ before

namespace Page

def jobIds (p : Page C V) : List Int := p.functionJobs.map FunctionJob.messageId

structure Inv (calls : List (SealedCall C V)) (p : Page C V) : Prop where
  once : ExecutesOnce calls p
  accepted : ∀ messageId ∈ p.log.filterMap PageEvent.acceptedId,
    messageId ≤ p.lastReceivedMessageId
  jobs : ∀ job ∈ p.functionJobs, .accepted job.message job.messageId ∈ p.log ∧
    job.messageId ≤ p.lastReceivedMessageId ∧
    ∃ call ∈ calls, job.message = call.message ∧ job.messageId = call.messageId
  unexecuted : (p.jobIds ++ p.log.filterMap PageEvent.executedId).Nodup
  unreplied : (p.jobIds ++ p.log.filterMap PageEvent.repliedId).Nodup
  executedBelow : ∀ messageId ∈ p.log.filterMap PageEvent.executedId,
    messageId ≤ p.lastReceivedMessageId
  repliedBelow : ∀ messageId ∈ p.log.filterMap PageEvent.repliedId,
    messageId ≤ p.lastReceivedMessageId

variable {calls : List (SealedCall C V)} {p : Page C V}

theorem create_inv (frameSymmetricKey : Bool) :
    (create frameSymmetricKey : Page C V).Inv calls where
  once := {
    increasing := List.Pairwise.nil
    executed := List.nodup_nil
    replied := List.nodup_nil
    ownMessage := fun _ _ _ _ _ _ hmem => nomatch hmem
    afterAccepted := fun _ _ _ _ _ _ => WhenLogged.of_notMem fun hmem => nomatch hmem }
  accepted := fun _ hmem => nomatch hmem
  jobs := fun _ hmem => nomatch hmem
  unexecuted := List.nodup_nil
  unreplied := List.nodup_nil
  executedBelow := fun _ hmem => nomatch hmem
  repliedBelow := fun _ hmem => nomatch hmem

/-- Only what is being decrypted changes. -/
theorem Inv.withMessageJobs (h : p.Inv calls) (frameSymmetricKey : Bool)
    (messageJobs : List (C × Option C)) :
    ({ p with frameSymmetricKey, messageJobs } : Page C V).Inv calls :=
  ⟨⟨h.once.increasing, h.once.executed, h.once.replied, h.once.ownMessage,
    h.once.afterAccepted⟩, h.accepted, h.jobs, h.unexecuted, h.unreplied, h.executedBelow,
    h.repliedBelow⟩

/-! ## What is logged -/

theorem mem_append_singleton_below {ids : List Int} {last messageId : Int}
    (hids : ∀ id ∈ ids, id ≤ last) (hbelow : messageId ≤ last) :
    ∀ id ∈ ids ++ [messageId], id ≤ last := by
  intro id hid
  rcases List.mem_append.1 hid with hid | hid
  · exact hids id hid
  · rw [List.mem_singleton.1 hid]
    exact hbelow

/-- An id that has no job and has not been logged. -/
theorem nodup_append_singleton {jobs ids : List Int} {messageId : Int}
    (hnodup : (jobs ++ ids).Nodup) (hjob : messageId ∉ jobs) (hid : messageId ∉ ids) :
    (jobs ++ (ids ++ [messageId])).Nodup := by
  rw [← List.append_assoc]
  refine List.nodup_append.2 ⟨hnodup, List.nodup_singleton _, fun id hmem other hother heq => ?_⟩
  rw [heq, List.mem_singleton.1 hother] at hmem
  exact (List.mem_append.1 hmem).elim hjob hid

/-- A reply is sent for an id that has no job and no reply yet. -/
theorem Inv.replyWithResult (h : p.Inv calls) {message : C} {messageId : Int}
    (hjob : messageId ∉ p.jobIds) (hreply : messageId ∉ p.log.filterMap PageEvent.repliedId)
    (hbelow : messageId ≤ p.lastReceivedMessageId) (result : Option V) :
    (p.replyWithResult message messageId result).Inv calls := by
  have haccepted : (p.replyWithResult message messageId result).log.filterMap
      PageEvent.acceptedId = p.log.filterMap PageEvent.acceptedId :=
    (List.filterMap_append ..).trans (List.append_nil _)
  have hexecuted : (p.replyWithResult message messageId result).log.filterMap
      PageEvent.executedId = p.log.filterMap PageEvent.executedId :=
    (List.filterMap_append ..).trans (List.append_nil _)
  have hreplied : (p.replyWithResult message messageId result).log.filterMap
      PageEvent.repliedId = p.log.filterMap PageEvent.repliedId ++ [messageId] :=
    List.filterMap_append ..
  have hunreplied := nodup_append_singleton h.unreplied hjob hreply
  refine ⟨⟨?_, ?_, ?_, fun m f id name parameters outcome hmem => ?_,
    fun m f id name parameters outcome => ?_⟩, ?_, fun job hmem => ?_, ?_, ?_, ?_, ?_⟩
  · rw [haccepted]
    exact h.once.increasing
  · rw [hexecuted]
    exact h.once.executed
  · rw [hreplied]
    exact hunreplied.sublist (List.sublist_append_right _ _)
  · rcases List.mem_append.1 hmem with hmem | hmem
    · exact h.once.ownMessage m f id name parameters outcome hmem
    · exact nomatch List.mem_singleton.1 hmem
  · exact (h.once.afterAccepted m f id name parameters outcome).concat_of_ne
      fun heq => nomatch heq
  · rw [haccepted]
    exact h.accepted
  · exact ⟨List.mem_append_left _ (h.jobs job hmem).1, (h.jobs job hmem).2⟩
  · rw [hexecuted]
    exact h.unexecuted
  · rw [hreplied]
    exact hunreplied
  · rw [hexecuted]
    exact h.executedBelow
  · rw [hreplied]
    exact mem_append_singleton_below h.repliedBelow hbelow

theorem Inv.finishJob (h : p.Inv calls) {job : FunctionJob C} (hjob : job.messageId ∉ p.jobIds)
    (hreply : job.messageId ∉ p.log.filterMap PageEvent.repliedId)
    (hbelow : job.messageId ≤ p.lastReceivedMessageId) (result : Option V) :
    (p.finishJob job result).Inv calls := by
  unfold Page.finishJob
  split_ifs
  · exact h.replyWithResult hjob hreply hbelow result
  · exact h

/-- The function of a job is run: it is the one that was sealed with the message. -/
theorem Inv.executed (h : p.Inv calls) {call : SealedCall C V} (hcall : call ∈ calls)
    {job : FunctionJob C} (haccepts : .accepted job.message job.messageId ∈ p.log)
    (hmessage : job.message = call.message) (hfunction : job.function = call.function)
    (hid : job.messageId = call.messageId) (hjob : job.messageId ∉ p.jobIds)
    (hexecute : job.messageId ∉ p.log.filterMap PageEvent.executedId)
    (hbelow : job.messageId ≤ p.lastReceivedMessageId) (outcome : Outcome V) :
    ({ p with
        log := p.log ++ [.executed job.message job.function job.messageId call.functionName
          call.parameters outcome] } : Page C V).Inv calls := by
  let last : PageEvent C V := .executed job.message job.function job.messageId
    call.functionName call.parameters outcome
  have haccepted : (p.log ++ [last]).filterMap PageEvent.acceptedId =
      p.log.filterMap PageEvent.acceptedId :=
    (List.filterMap_append ..).trans (List.append_nil _)
  have hexecuted : (p.log ++ [last]).filterMap PageEvent.executedId =
      p.log.filterMap PageEvent.executedId ++ [job.messageId] := List.filterMap_append ..
  have hreplied : (p.log ++ [last]).filterMap PageEvent.repliedId =
      p.log.filterMap PageEvent.repliedId :=
    (List.filterMap_append ..).trans (List.append_nil _)
  have hunexecuted := nodup_append_singleton h.unexecuted hjob hexecute
  refine ⟨⟨?_, ?_, ?_, fun m f id name parameters result hmem => ?_,
    fun m f id name parameters result => ?_⟩, ?_, fun other hmem => ?_, ?_, ?_, ?_, ?_⟩
  · exact haccepted ▸ h.once.increasing
  · show ((p.log ++ [last]).filterMap PageEvent.executedId).Nodup
    rw [hexecuted]
    exact hunexecuted.sublist (List.sublist_append_right _ _)
  · exact hreplied ▸ h.once.replied
  · rcases List.mem_append.1 hmem with hmem | hmem
    · exact h.once.ownMessage m f id name parameters result hmem
    · obtain ⟨rfl, rfl, rfl, rfl, rfl, rfl⟩ := PageEvent.executed.inj (List.mem_singleton.1 hmem)
      exact ⟨call, hcall, hmessage, hfunction, hid, rfl, rfl⟩
  · by_cases hthis : last = .executed m f id name parameters result
    · obtain ⟨rfl, rfl, rfl, rfl, rfl, rfl⟩ := PageEvent.executed.inj hthis
      exact (h.once.afterAccepted _ _ _ _ _ _).concat haccepts
    · exact (h.once.afterAccepted m f id name parameters result).concat_of_ne hthis
  · exact haccepted ▸ h.accepted
  · exact ⟨List.mem_append_left _ (h.jobs other hmem).1, (h.jobs other hmem).2⟩
  · show (p.jobIds ++ (p.log ++ [last]).filterMap PageEvent.executedId).Nodup
    rw [hexecuted]
    exact hunexecuted
  · exact hreplied ▸ h.unreplied
  · show ∀ id ∈ (p.log ++ [last]).filterMap PageEvent.executedId, id ≤ p.lastReceivedMessageId
    rw [hexecuted]
    exact mem_append_singleton_below h.executedBelow hbelow
  · exact hreplied ▸ h.repliedBelow

/-- A message with a higher id than any before. -/
theorem Inv.accept (h : p.Inv calls) (message : C) {messageId : Int}
    (hnew : p.lastReceivedMessageId < messageId) :
    ({ p with
        lastReceivedMessageId := messageId,
        log := p.log ++ [.accepted message messageId] } : Page C V).Inv calls := by
  let last : PageEvent C V := .accepted message messageId
  have haccepted : (p.log ++ [last]).filterMap PageEvent.acceptedId =
      p.log.filterMap PageEvent.acceptedId ++ [messageId] := List.filterMap_append ..
  have hexecuted : (p.log ++ [last]).filterMap PageEvent.executedId =
      p.log.filterMap PageEvent.executedId :=
    (List.filterMap_append ..).trans (List.append_nil _)
  have hreplied : (p.log ++ [last]).filterMap PageEvent.repliedId =
      p.log.filterMap PageEvent.repliedId :=
    (List.filterMap_append ..).trans (List.append_nil _)
  have hraise : ∀ {ids : List Int}, (∀ id ∈ ids, id ≤ p.lastReceivedMessageId) →
      ∀ id ∈ ids, id ≤ messageId := fun hids id hid => by
    have hle := hids id hid
    omega
  refine ⟨⟨?_, ?_, ?_, fun m f id name parameters result hmem => ?_,
    fun m f id name parameters result => ?_⟩, ?_, fun job hmem => ?_, ?_, ?_, ?_, ?_⟩
  · show ((p.log ++ [last]).filterMap PageEvent.acceptedId).Pairwise _
    rw [haccepted]
    refine List.pairwise_append.2 ⟨h.once.increasing, List.pairwise_singleton _ _, ?_⟩
    intro id hid other hother
    rw [List.mem_singleton.1 hother]
    have hle := h.accepted id hid
    omega
  · exact hexecuted ▸ h.once.executed
  · exact hreplied ▸ h.once.replied
  · rcases List.mem_append.1 hmem with hmem | hmem
    · exact h.once.ownMessage m f id name parameters result hmem
    · exact nomatch List.mem_singleton.1 hmem
  · exact (h.once.afterAccepted m f id name parameters result).concat_of_ne
      fun heq => nomatch heq
  · show ∀ id ∈ (p.log ++ [last]).filterMap PageEvent.acceptedId, id ≤ messageId
    rw [haccepted]
    exact mem_append_singleton_below (hraise h.accepted) (Int.le_refl _)
  · obtain ⟨hlogged, hbelow, hsealed⟩ := h.jobs job hmem
    refine ⟨List.mem_append_left _ hlogged, ?_, hsealed⟩
    show job.messageId ≤ messageId
    omega
  · exact hexecuted ▸ h.unexecuted
  · exact hreplied ▸ h.unreplied
  · exact hexecuted ▸ hraise h.executedBelow
  · exact hreplied ▸ hraise h.repliedBelow

/-! ## Steps -/

/-- The function that came with an accepted message is to be decrypted. -/
theorem Inv.addJob (h : p.Inv calls) (job : FunctionJob C)
    (haccepted : .accepted job.message job.messageId ∈ p.log)
    (hlast : job.messageId = p.lastReceivedMessageId)
    (hsealed : ∃ call ∈ calls, job.message = call.message ∧ job.messageId = call.messageId)
    (hjob : job.messageId ∉ p.jobIds)
    (hexecute : job.messageId ∉ p.log.filterMap PageEvent.executedId)
    (hreply : job.messageId ∉ p.log.filterMap PageEvent.repliedId) :
    ({ p with functionJobs := p.functionJobs ++ [job] } : Page C V).Inv calls := by
  have hids : ({ p with functionJobs := p.functionJobs ++ [job] } : Page C V).jobIds =
      p.jobIds ++ [job.messageId] := List.map_append
  have hadded : ∀ {ids : List Int}, (p.jobIds ++ ids).Nodup → job.messageId ∉ ids →
      (p.jobIds ++ [job.messageId] ++ ids).Nodup := by
    intro ids hnodup hid
    have hperm : (p.jobIds ++ [job.messageId] ++ ids).Perm
        (p.jobIds ++ (ids ++ [job.messageId])) := by
      rw [List.append_assoc]
      exact List.perm_append_comm.append_left _
    exact hperm.nodup_iff.2 (nodup_append_singleton hnodup hjob hid)
  refine ⟨⟨h.once.increasing, h.once.executed, h.once.replied, h.once.ownMessage,
    h.once.afterAccepted⟩, h.accepted, fun other hmem => ?_, ?_, ?_, h.executedBelow,
    h.repliedBelow⟩
  · rcases List.mem_append.1 hmem with hmem | hmem
    · exact h.jobs other hmem
    · rw [List.mem_singleton.1 hmem]
      exact ⟨haccepted, Int.le_of_eq hlast, hsealed⟩
  · rw [hids]
    exact hadded h.unexecuted hexecute
  · rw [hids]
    exact hadded h.unreplied hreply

/-- An id above the last one has neither a job nor an entry in the log. -/
theorem Inv.fresh (h : p.Inv calls) {messageId : Int}
    (hnew : p.lastReceivedMessageId < messageId) :
    messageId ∉ p.jobIds ∧ messageId ∉ p.log.filterMap PageEvent.executedId ∧
      messageId ∉ p.log.filterMap PageEvent.repliedId := by
  refine ⟨fun hmem => ?_, fun hmem => ?_, fun hmem => ?_⟩
  · obtain ⟨job, hjob, rfl⟩ := List.mem_map.1 hmem
    have hle := (h.jobs job hjob).2.1
    omega
  · have hle := h.executedBelow messageId hmem
    omega
  · have hle := h.repliedBelow messageId hmem
    omega

theorem Inv.acceptMessage (h : p.Inv calls) {call : SealedCall C V} (hcall : call ∈ calls)
    (function : Option C) :
    (p.acceptMessage call.message function call.messageDetails).Inv calls := by
  show (if (call.messageId : Int) ≤ p.lastReceivedMessageId then p else _ : Page C V).Inv calls
  by_cases hold : (call.messageId : Int) ≤ p.lastReceivedMessageId
  · rw [if_pos hold]
    exact h
  · rw [if_neg hold]
    have hnew : p.lastReceivedMessageId < call.messageId := by omega
    obtain ⟨hjob, hexecute, hreply⟩ := h.fresh hnew
    have haccept := h.accept call.message hnew
    let last : PageEvent C V := .accepted call.message call.messageId
    have hexecuted : (p.log ++ [last]).filterMap PageEvent.executedId =
        p.log.filterMap PageEvent.executedId :=
      (List.filterMap_append ..).trans (List.append_nil _)
    have hreplied : (p.log ++ [last]).filterMap PageEvent.repliedId =
        p.log.filterMap PageEvent.repliedId :=
      (List.filterMap_append ..).trans (List.append_nil _)
    cases function with
    | none =>
      show (if call.replyWithResult then _ else _ : Page C V).Inv calls
      split_ifs
      · exact haccept.replyWithResult hjob (hreplied.symm ▸ hreply) (Int.le_refl _) none
      · exact haccept
    | some function =>
      exact haccept.addJob ⟨call.message, function, call.messageId, call.replyWithResult⟩
        (List.mem_append_right _ List.mem_cons_self) rfl ⟨call, hcall, rfl, rfl⟩ hjob
        (hexecuted.symm ▸ hexecute) (hreplied.symm ▸ hreply)

/-- A job is taken: nothing else has its id. -/
theorem Inv.takeJob (h : p.Inv calls) {position : Nat} {job : FunctionJob C}
    (hget : p.functionJobs[position]? = some job) :
    let rest : Page C V := { p with functionJobs := p.functionJobs.eraseIdx position }
    rest.Inv calls ∧ job.messageId ∉ rest.jobIds ∧
      job.messageId ∉ p.log.filterMap PageEvent.executedId ∧
      job.messageId ∉ p.log.filterMap PageEvent.repliedId := by
  obtain ⟨hlt, rfl⟩ := List.getElem?_eq_some_iff.1 hget
  let rest : Page C V := { p with functionJobs := p.functionJobs.eraseIdx position }
  have hperm : ∀ ids : List Int, (p.functionJobs[position].messageId :: (rest.jobIds ++ ids)).Perm
      (p.jobIds ++ ids) := fun ids =>
    ((List.getElem_cons_eraseIdx_perm hlt).map FunctionJob.messageId).append_right ids
  have hexecuted := List.nodup_cons.1 ((hperm _).nodup_iff.2 h.unexecuted)
  have hreplied := List.nodup_cons.1 ((hperm _).nodup_iff.2 h.unreplied)
  refine ⟨⟨⟨h.once.increasing, h.once.executed, h.once.replied, h.once.ownMessage,
    h.once.afterAccepted⟩, h.accepted, fun job hjob => ?_, hexecuted.2, hreplied.2,
    h.executedBelow, h.repliedBelow⟩, fun hmem => ?_, fun hmem => ?_, fun hmem => ?_⟩
  · exact h.jobs job (List.mem_of_mem_eraseIdx hjob)
  · exact hexecuted.1 (List.mem_append_left _ hmem)
  · exact hexecuted.1 (List.mem_append_right _ hmem)
  · exact hreplied.1 (List.mem_append_right _ hmem)

variable {decrypt : C → String → Option (Details V)}

theorem Inv.messageDecrypted (h : p.Inv calls) (hideal : IdealAead decrypt calls)
    (position : Nat) : (p.messageDecrypted decrypt position).Inv calls := by
  unfold Page.messageDecrypted
  cases p.messageJobs[position]? with
  | none => exact h
  | some job =>
    have hrest := h.withMessageJobs p.frameSymmetricKey (p.messageJobs.eraseIdx position)
    cases hopens : decrypt job.1 "" with
    | none => simpa only [hopens] using hrest
    | some details =>
      obtain ⟨call, hcall, hmessage, rfl⟩ := hideal.message hopens
      simp only [hopens]
      rw [hmessage]
      exact hrest.acceptMessage hcall job.2

theorem Inv.functionDecrypted (h : p.Inv calls) (hideal : IdealAead decrypt calls)
    (hids : (calls.map SealedCall.messageId).Nodup) (position : Nat) (outcome : Outcome V) :
    (p.functionDecrypted decrypt position outcome).Inv calls := by
  unfold Page.functionDecrypted
  cases hget : p.functionJobs[position]? with
  | none => exact h
  | some job =>
    obtain ⟨haccepted, hbelow, call, hcall, hmessage, hid⟩ :=
      h.jobs job (List.mem_of_getElem? hget)
    obtain ⟨hrest, hjob, hexecute, hreply⟩ := h.takeJob hget
    cases hopens : decrypt job.function (additionalData job.messageId) with
    | none => simpa only [hopens] using hrest
    | some details =>
      have hown := hopens
      rw [hid] at hown
      obtain ⟨hfunction, rfl⟩ := hideal.function hids hcall hown
      simp only [hopens]
      unfold executeFunction
      simp only [SealedCall.functionDetails]
      by_cases hnamed : 1 ≤ call.functionName.length
      · rw [if_pos hnamed]
        have hexecuted := hrest.executed hcall haccepted hmessage hfunction hid hjob hexecute
          hbelow outcome
        cases outcome with
        | returned result =>
          refine hexecuted.finishJob hjob ?_ hbelow result
          intro hmem
          rw [List.filterMap_append] at hmem
          exact hreply ((List.mem_append.1 hmem).resolve_right fun hlast => nomatch hlast)
        | threw => exact hexecuted
      · rw [if_neg hnamed]
        exact hrest.finishJob hjob hreply hbelow none

/-! ## Runs -/

theorem Inv.step (h : p.Inv calls) (hideal : IdealAead decrypt calls)
    (hids : (calls.map SealedCall.messageId).Nodup) (call : PageCall C V) :
    (p.step decrypt call).Inv calls := by
  cases call with
  | keyGenerated => exact h.withMessageJobs true p.messageJobs
  | routeMessage message function =>
    show (if p.frameSymmetricKey then _ else p : Page C V).Inv calls
    split_ifs
    · exact h.withMessageJobs p.frameSymmetricKey (p.messageJobs ++ [(message, function)])
    · exact h
  | messageDecrypted position => exact h.messageDecrypted hideal position
  | functionDecrypted position outcome => exact h.functionDecrypted hideal hids position outcome

/-- **Whatever payloads are delivered, in whatever order they are decrypted**, each
function is executed at most once, after its own message and with no other, the accepted
ids increase and each has at most one reply. -/
theorem executed_once (hideal : IdealAead decrypt calls)
    (hids : (calls.map SealedCall.messageId).Nodup) {steps : List (PageCall C V)}
    (hinit : (pageMachine decrypt).init p) (hrun : (pageMachine decrypt).Run p steps) :
    ExecutesOnce calls ((pageMachine decrypt).exec p steps) := by
  obtain ⟨frameSymmetricKey, rfl⟩ := hinit
  have hinv := Machine.Run.invariant (I := Inv calls)
    (fun _ call h _ => Inv.step h hideal hids call) (create_inv frameSymmetricKey) hrun
  exact hinv.once

end Page

/-- An AEAD that opens what was sealed and nothing else. -/
def openPayload [DecidableEq C] (calls : List (SealedCall C V)) (payload : C) (data : String) :
    Option (Details V) :=
  calls.findSome? fun call =>
    if payload = call.message ∧ data = "" then some call.messageDetails
    else if payload = call.function ∧ data = additionalData call.messageId then
      some call.functionDetails
    else none

theorem idealAead_openPayload [DecidableEq C] (calls : List (SealedCall C V)) :
    IdealAead (openPayload calls) calls := by
  intro payload data details hopens
  obtain ⟨call, hcall, hcase⟩ := List.exists_of_findSome?_eq_some hopens
  refine ⟨call, hcall, ?_⟩
  by_cases hmessage : payload = call.message ∧ data = ""
  · rw [if_pos hmessage] at hcase
    exact .inl ⟨hmessage.1, hmessage.2, (Option.some.inj hcase).symm⟩
  · rw [if_neg hmessage] at hcase
    by_cases hfunction : payload = call.function ∧ data = additionalData call.messageId
    · rw [if_pos hfunction] at hcase
      exact .inr ⟨hfunction.1, hfunction.2, (Option.some.inj hcase).symm⟩
    · rw [if_neg hfunction] at hcase
      exact nomatch hcase

/-- Two calls whose payloads are numbers. -/
def sealedCalls : List (SealedCall Nat Unit) :=
  [⟨0, true, "findElementAtPoint", [(), ()], 10, 11⟩, ⟨1, true, "scroll", [], 20, 21⟩]

/-- The first message is repeated and combined with the function of the second. -/
def recombined : List (PageCall Nat Unit) :=
  [.routeMessage 10 (some 21), .routeMessage 10 (some 11), .routeMessage 20 (some 21),
    .messageDecrypted 1, .messageDecrypted 1, .messageDecrypted 0,
    .functionDecrypted 1 (.returned (some ())), .functionDecrypted 0 .threw]

theorem executed_once_recombined :
    ExecutesOnce sealedCalls
      ((pageMachine (openPayload sealedCalls)).exec (Page.create true) recombined) :=
  Page.executed_once (idealAead_openPayload sealedCalls) (by decide) ⟨true, rfl⟩ (by decide)

end IosChrome.JsMessaging

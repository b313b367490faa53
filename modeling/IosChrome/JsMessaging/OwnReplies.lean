import IosChrome.Lib.ListEdit
import IosChrome.JsMessaging.HonestPage

/-!
# Whose result a callback gets

A callback that gets a result should get what its own call has returned (`ResultsOwn`). A
reply carries a message id and nothing else, and a `WebFrameImpl` made anew uses ids again
that the one before it has used: what the page had not received when it registered may
still reach it, and the reply answers whichever request has the id by then
(`staleReply_answers`).

Within one `WebFrameImpl` an id belongs to one request (`Inv.byId`), and the page accepts an
id once (`Honest.accepted`). So `results_own_iff` says that a run goes wrong exactly when a
request is answered by the reply to a message of another `WebFrameImpl`.
-/

namespace IosChrome.JsMessaging

open IosChrome.Lib

/-! ## What an operation gives to callbacks -/

namespace WebFrameImpl

variable {R : Type}

/-- Only the callbacks of `P` are given a result, and nothing is called. -/
structure Gives (f f' : WebFrameImpl R) (P : Nat → R → Prop) : Prop where
  ran : ∀ call value, (call, some value) ∈ f'.ran → (call, some value) ∈ f.ran ∨ P call value
  pending : ∀ messageId call, (messageId, some call) ∈ f'.pendingRequests →
    (messageId, some call) ∈ f.pendingRequests
  nextMessageId : f'.nextMessageId = f.nextMessageId
  calls : f'.calls = f.calls

variable {f : WebFrameImpl R}

theorem Gives.refl (P : Nat → R → Prop) : f.Gives f P :=
  ⟨fun _ _ hran => .inl hran, fun _ _ hmem => hmem, rfl, rfl⟩

theorem Gives.mono {f' : WebFrameImpl R} {P Q : Nat → R → Prop} (h : f.Gives f' P)
    (hPQ : ∀ call value, P call value → Q call value) : f.Gives f' Q :=
  ⟨fun call value hran => (h.ran call value hran).imp_right (hPQ call value), h.pending,
    h.nextMessageId, h.calls⟩

theorem gives_enterCallback (messageId call : Nat) (result : Option R)
    (operation : PendingOperation) :
    f.Gives (f.enterCallback messageId call result operation)
      fun other value => other = call ∧ result = some value := by
  refine ⟨fun other value hran => ?_, fun id other hmem => ?_, rfl, rfl⟩
  · rcases List.mem_append.1 hran with hran | hran
    · exact .inl hran
    · obtain ⟨rfl, hresult⟩ := Prod.mk.inj (List.mem_singleton.1 hran)
      exact .inr ⟨rfl, hresult.symm⟩
  · -- the entry that is moved out is empty from now on
    obtain ⟨entry, hentry, heq⟩ := List.mem_map.1 hmem
    split at heq
    · exact nomatch (Prod.mk.inj heq).2
    · rwa [heq] at hentry

theorem gives_completeRequest (messageId : Nat) (result : Option R) :
    f.Gives (f.completeRequest messageId result) fun call value =>
      Keyed.lookup Prod.fst f.pendingRequests messageId = some (messageId, some call) ∧
        result = some value := by
  unfold completeRequest
  cases hlookup : Keyed.lookup Prod.fst f.pendingRequests messageId with
  | none => exact Gives.refl _
  | some entry =>
    obtain ⟨id, callback⟩ := entry
    obtain rfl : id = messageId := Keyed.key_of_lookup hlookup
    cases callback with
    | none => exact ⟨fun _ _ hran => .inl hran, fun _ _ hmem => hmem, rfl, rfl⟩
    | some call =>
      refine (gives_enterCallback id call result (.completing id)).mono ?_
      rintro other value ⟨rfl, hresult⟩
      exact ⟨rfl, hresult⟩

theorem gives_timeout (messageId : Nat) :
    f.Gives (f.timeout messageId) fun _ _ => False := by
  unfold timeout
  split
  · exact Gives.refl _
  · exact Gives.refl _
  · exact (gives_completeRequest messageId none).mono fun _ _ hgiven => nomatch hgiven.2

theorem gives_cancelFrom (last : Option Nat) (destroys : Bool) :
    f.Gives (f.cancelFrom last destroys) fun _ _ => False := by
  unfold cancelFrom
  split
  · exact ⟨fun _ _ hran => .inl hran, fun _ _ hmem => (nomatch hmem), rfl, rfl⟩
  · exact ⟨fun _ _ hran => .inl hran, fun _ _ hmem => hmem, rfl, rfl⟩
  · exact (gives_enterCallback _ _ none _).mono fun _ _ hgiven => nomatch hgiven.2

theorem gives_callbackReturns : f.Gives f.callbackReturns fun _ _ => False := by
  unfold callbackReturns
  split
  · exact Gives.refl _
  · next operation outer _ =>
    by_cases hgone : f.destroyed = true
    · rw [if_pos hgone]
      exact ⟨fun _ _ hran => .inl hran, fun _ _ hmem => hmem, rfl, rfl⟩
    · rw [if_neg hgone]
      cases operation with
      | completing messageId =>
        exact ⟨fun _ _ hran => .inl hran, fun _ _ hmem => (Keyed.mem_remove.1 hmem).1, rfl, rfl⟩
      | cancelling messageId destroys =>
        have hrest := gives_cancelFrom (f := { f with operations := outer }) (some messageId)
          destroys
        exact ⟨hrest.ran, hrest.pending, hrest.nextMessageId, hrest.calls⟩

/-- What a reply gives, to a frame that is there. -/
def Answers (f : WebFrameImpl R) (messageId : Int) (result : Option R) (call : Nat) (value : R) :
    Prop :=
  f.destroyed = false ∧ result = some value ∧ ∃ id : Nat, messageId = id ∧
    Keyed.lookup Prod.fst f.pendingRequests id = some (id, some call)

theorem gives_onReply (messageId : Int) (result : Option R) :
    f.Gives (f.onReply messageId result) (f.Answers messageId result) := by
  unfold onReply
  by_cases hgone : f.destroyed = true
  · rw [if_pos hgone]
    exact Gives.refl _
  · rw [if_neg hgone]
    have hhere : f.destroyed = false := Bool.eq_false_iff.2 hgone
    cases messageId with
    | ofNat id =>
      exact (gives_completeRequest id result).mono fun call value hgiven =>
        ⟨hhere, hgiven.2, id, rfl, hgiven.1⟩
    | negSucc id => exact Gives.refl _

/-- The callback of the request that is answered does get the result. -/
theorem Answers.ran {messageId : Int} {result : Option R} {call : Nat} {value : R}
    (h : f.Answers messageId result call value) :
    (call, some value) ∈ (f.onReply messageId result).ran := by
  obtain ⟨hhere, rfl, id, rfl, hlookup⟩ := h
  have hreply : f.onReply (id : Int) (some value) = f.completeRequest id (some value) := by
    unfold onReply
    rw [if_neg (by rw [hhere]; exact Bool.false_ne_true)]
    rfl
  rw [hreply]
  unfold completeRequest
  simp only [hlookup]
  exact List.mem_append_right _ List.mem_cons_self

end WebFrameImpl

variable {V : Type}

namespace FrameChannel

/-! ## What is claimed -/

/-- A callback that got a result got what its own call has returned. -/
def ResultsOwn (s : FrameChannel V) : Prop :=
  ∀ request ∈ s.requests, request.contentWorld = false →
    ∀ f ∈ s.frames[request.frame]?, ∀ call ∈ request.callback, ∀ value,
      (call, some value) ∈ f.ran → request.executed (.returned (some value)) ∈ s.page.log

/-- A reply with a result comes, for a call that waits, only to a message of the same
`WebFrameImpl`. -/
def OwnReply (s : FrameChannel V) : ChannelCall V → Prop
  | .onJavaScriptReply position => ∀ message (messageId : Int) result,
    s.page.log[position]? = some (.replied message messageId result) →
      ∀ request ∈ s.requests, request.contentWorld = false →
        ∀ f ∈ s.frames[request.frame]?, ∀ call ∈ request.callback, ∀ value,
          f.Answers messageId result call value → message.request.frame = request.frame
  | _ => True

/-! ## The invariant -/

structure Inv (s : FrameChannel V) : Prop where
  made : ∀ request ∈ s.requests, request.frame < s.frames.length
  below : ∀ request ∈ s.requests, ∀ f ∈ s.frames[request.frame]?,
    request.messageId < f.nextMessageId ∧ ∀ call ∈ request.callback, call < f.calls.length
  byId : ∀ request ∈ s.requests, ∀ other ∈ s.requests, request.frame = other.frame →
    request.messageId = other.messageId → request = other
  byCallback : ∀ request ∈ s.requests, ∀ other ∈ s.requests, request.frame = other.frame →
    ∀ call, request.callback = some call → other.callback = some call → request = other
  pending : ∀ frame : Nat, ∀ f ∈ s.frames[frame]?, ∀ messageId call,
    (messageId, some call) ∈ f.pendingRequests → ∃ request ∈ s.requests,
      request.frame = frame ∧ request.callback = some call ∧ request.messageId = messageId
  ran : ∀ frame : Nat, ∀ f ∈ s.frames[frame]?, ∀ call value, (call, some value) ∈ f.ran →
    ∃ request ∈ s.requests, request.frame = frame ∧ request.callback = some call
  messages : ∀ request ∈ s.messages, request ∈ s.requests
  evaluations : ∀ request ∈ s.evaluations, request ∈ s.requests ∧ request.contentWorld = true
  page : s.page.Honest s.requests

theorem start_inv (isMainFrame frameSymmetricKey : Bool) :
    (start isMainFrame frameSymmetricKey : FrameChannel V).Inv where
  made := fun _ hmem => nomatch hmem
  below := fun _ hmem => nomatch hmem
  byId := fun _ hmem => nomatch hmem
  byCallback := fun _ hmem => nomatch hmem
  pending := fun _ _ hmem => nomatch hmem
  ran := fun _ _ hmem => nomatch hmem
  messages := fun _ hmem => nomatch hmem
  evaluations := fun _ hmem => nomatch hmem
  page := Page.create_honest frameSymmetricKey

variable {s : FrameChannel V}

/-! ### What happens to the frames -/

/-- Every frame is one of before, after an operation that gives results as in `P`. -/
def FramesGive (s : FrameChannel V) (frames : List (WebFrameImpl V))
    (P : Nat → Nat → V → Prop) : Prop :=
  frames.length = s.frames.length ∧ ∀ frame : Nat, ∀ f' ∈ frames[frame]?,
    ∃ f : WebFrameImpl V, s.frames[frame]? = some f ∧ f.Gives f' (P frame)

theorem framesGive_map {g : WebFrameImpl V → WebFrameImpl V} {P : WebFrameImpl V → Nat → V → Prop}
    (h : ∀ f : WebFrameImpl V, f.Gives (g f) (P f)) :
    s.FramesGive (s.frames.map g) fun frame call value =>
      ∃ f ∈ s.frames[frame]?, P f call value := by
  refine ⟨List.length_map _, fun frame f' hf' => ?_⟩
  rw [List.getElem?_map] at hf'
  obtain ⟨f, hf, rfl⟩ := Option.map_eq_some_iff.1 hf'
  exact ⟨f, hf, (h f).mono fun call value hgiven => ⟨f, hf, hgiven⟩⟩

theorem framesGive_modify {g : WebFrameImpl V → WebFrameImpl V}
    {P : WebFrameImpl V → Nat → V → Prop} (index : Nat)
    (h : ∀ f : WebFrameImpl V, f.Gives (g f) (P f)) :
    s.FramesGive (s.frames.modify index g) fun frame call value =>
      frame = index ∧ ∃ f ∈ s.frames[frame]?, P f call value := by
  refine ⟨List.length_modify .., fun frame f' hf' => ?_⟩
  obtain ⟨f, hf, ⟨rfl, rfl⟩ | ⟨-, rfl⟩⟩ := getElem?_modify_cases hf'
  · exact ⟨f, hf, (h f).mono fun call value hgiven => ⟨rfl, f, hf, hgiven⟩⟩
  · exact ⟨f', hf, WebFrameImpl.Gives.refl _⟩

theorem Inv.operated (h : s.Inv) {frames : List (WebFrameImpl V)} {P : Nat → Nat → V → Prop}
    (hframes : s.FramesGive frames P)
    (hP : ∀ frame call value, P frame call value →
      ∃ request ∈ s.requests, request.frame = frame ∧ request.callback = some call)
    (current : Option Nat) {evaluations : List (FrameRequest V)}
    (hevaluations : evaluations ⊆ s.evaluations) (arrived : List Nat) :
    ({ s with frames, current, evaluations, arrived } : FrameChannel V).Inv where
  made := by
    intro request hrequest
    rw [hframes.1]
    exact h.made request hrequest
  below := by
    intro request hrequest f' hf'
    obtain ⟨f, hf, hgives⟩ := hframes.2 request.frame f' hf'
    rw [hgives.nextMessageId, hgives.calls]
    exact h.below request hrequest f hf
  byId := h.byId
  byCallback := h.byCallback
  pending := by
    intro frame f' hf' messageId call hmem
    obtain ⟨f, hf, hgives⟩ := hframes.2 frame f' hf'
    exact h.pending frame f hf messageId call (hgives.pending messageId call hmem)
  ran := by
    intro frame f' hf' call value hran
    obtain ⟨f, hf, hgives⟩ := hframes.2 frame f' hf'
    exact (hgives.ran call value hran).elim (h.ran frame f hf call value) (hP frame call value)
  messages := h.messages
  evaluations := fun request hrequest => h.evaluations request (hevaluations hrequest)
  page := h.page

/-- What is given must have been returned. -/
theorem ResultsOwn.operated (h : s.ResultsOwn) {frames : List (WebFrameImpl V)}
    {P : Nat → Nat → V → Prop} (hframes : s.FramesGive frames P)
    (hP : ∀ request ∈ s.requests, request.contentWorld = false → ∀ call ∈ request.callback,
      ∀ value, P request.frame call value →
        request.executed (.returned (some value)) ∈ s.page.log)
    (current : Option Nat) (evaluations : List (FrameRequest V)) (arrived : List Nat) :
    ({ s with frames, current, evaluations, arrived } : FrameChannel V).ResultsOwn := by
  intro request hrequest hworld f' hf' call hcall value hran
  obtain ⟨f, hf, hgives⟩ := hframes.2 request.frame f' hf'
  rcases hgives.ran call value hran with hran | hgiven
  · exact h request hrequest hworld f hf call hcall value hran
  · exact hP request hrequest hworld call hcall value hgiven

/-- What gives no results. -/
theorem framesGive_operate (frame : Nat) {operation : FrameOperation V}
    (hquiet : ∀ f : WebFrameImpl V, f.Gives (f.step operation) fun _ _ => False) :
    s.FramesGive (s.operate frame operation).frames fun _ _ _ => False := by
  refine ⟨(framesGive_modify frame hquiet).1, fun index f' hf' => ?_⟩
  obtain ⟨f, hf, hgives⟩ := (framesGive_modify (s := s) frame hquiet).2 index f' hf'
  exact ⟨f, hf, hgives.mono fun _ _ hgiven => hgiven.2.elim fun _ hnone => hnone.2⟩

theorem Inv.operate (h : s.Inv) (frame : Nat) {operation : FrameOperation V}
    (hquiet : ∀ f : WebFrameImpl V, f.Gives (f.step operation) fun _ _ => False)
    (current : Option Nat) :
    ({ s.operate frame operation with current } : FrameChannel V).Inv :=
  h.operated (framesGive_operate frame hquiet) (fun _ _ _ hnone => hnone.elim) current
    (fun _ hmem => hmem) s.arrived

theorem ResultsOwn.operate (h : s.ResultsOwn) (frame : Nat) {operation : FrameOperation V}
    (hquiet : ∀ f : WebFrameImpl V, f.Gives (f.step operation) fun _ _ => False)
    (current : Option Nat) :
    ({ s.operate frame operation with current } : FrameChannel V).ResultsOwn :=
  ResultsOwn.operated h (framesGive_operate frame hquiet)
    (fun _ _ _ _ _ _ hnone => hnone.elim) current s.evaluations s.arrived

/-! ### What happens to the page -/

theorem Inv.paged (h : s.Inv) {page : Page (Payload V) V} (hpage : page.Honest s.requests)
    {messages : List (FrameRequest V)} (hmessages : messages ⊆ s.messages) :
    ({ s with page, messages } : FrameChannel V).Inv :=
  ⟨h.made, h.below, h.byId, h.byCallback, h.pending, h.ran,
    fun request hrequest => h.messages request (hmessages hrequest), h.evaluations, hpage⟩

theorem ResultsOwn.paged (h : s.ResultsOwn) {page : Page (Payload V) V}
    (hlog : s.page.log ⊆ page.log) (messages : List (FrameRequest V)) :
    ({ s with page, messages } : FrameChannel V).ResultsOwn :=
  fun request hrequest hworld f hf call hcall value hran =>
    hlog (h request hrequest hworld f hf call hcall value hran)

/-! ### Calls -/

/-- A call takes the next message id, and its callback waits under it. -/
theorem step_callOperation (f : WebFrameImpl V) (withCallback contentWorld isSealed : Bool) :
    let f' := f.step (callOperation withCallback contentWorld isSealed)
    f'.ran = f.ran ∧ f'.nextMessageId = f.nextMessageId + 1 ∧
      f'.calls.length = f.calls.length + (if withCallback then 1 else 0) ∧
      ∀ messageId call, (messageId, some call) ∈ f'.pendingRequests →
        (messageId, some call) ∈ f.pendingRequests ∨
          (withCallback = true ∧ messageId = f.nextMessageId ∧ call = f.calls.length) := by
  cases withCallback with
  | false => exact ⟨rfl, rfl, rfl, fun _ _ hmem => .inl hmem⟩
  | true =>
    refine ⟨rfl, rfl, List.length_append, fun messageId call hmem => ?_⟩
    have hput : (messageId, some call) ∈
        Keyed.put Prod.fst f.pendingRequests (f.nextMessageId, some f.calls.length) := by
      have hcases : (messageId, some call) ∈
          (if f.canCall contentWorld isSealed then
            Keyed.put Prod.fst f.pendingRequests (f.nextMessageId, some f.calls.length)
          else Keyed.remove Prod.fst
            (Keyed.put Prod.fst f.pendingRequests (f.nextMessageId, some f.calls.length))
            f.nextMessageId) := hmem
      split_ifs at hcases
      · exact hcases
      · exact (Keyed.mem_remove.1 hcases).1
    rcases Keyed.mem_put.1 hput with hold | hnew
    · exact .inl hold.1
    · obtain ⟨hid, hcall⟩ := Prod.mk.inj hnew
      exact .inr ⟨rfl, hid, Option.some.inj hcall⟩

section

variable {frame : Nat} {f : WebFrameImpl V} (withCallback contentWorld isSealed : Bool)
  (functionName : String) (parameters : List V)

def newRequest (frame : Nat) (f : WebFrameImpl V) (withCallback contentWorld : Bool)
    (functionName : String) (parameters : List V) : FrameRequest V :=
  { frame, callback := if withCallback then some f.calls.length else none,
    messageId := f.nextMessageId, contentWorld, functionName, parameters }

theorem callJavaScriptFunction_eq (hf : s.frames[frame]? = some f) :
    s.callJavaScriptFunction frame withCallback contentWorld isSealed functionName parameters =
      let request := newRequest frame f withCallback contentWorld functionName parameters
      ({ s.operate frame (callOperation withCallback contentWorld isSealed) with
        requests := s.requests ++ [request],
        messages :=
          if !contentWorld && f.canCall contentWorld isSealed then s.messages ++ [request]
          else s.messages,
        evaluations :=
          if contentWorld && withCallback then s.evaluations ++ [request]
          else s.evaluations } : FrameChannel V) := by
  unfold callJavaScriptFunction
  simp only [hf]
  rfl

theorem callback_newRequest {call : Nat}
    (h : (newRequest frame f withCallback contentWorld functionName parameters).callback =
      some call) : withCallback = true ∧ f.calls.length = call := by
  have hcallback : (if withCallback then some f.calls.length else none) = some call := h
  cases withCallback with
  | false => exact nomatch hcallback
  | true => exact ⟨rfl, Option.some.inj hcallback⟩

/-- No request so far has the message id or the callback of the new one. -/
theorem Inv.newRequest_fresh (h : s.Inv) (hf : s.frames[frame]? = some f)
    {other : FrameRequest V} (hother : other ∈ s.requests) (hframe : other.frame = frame) :
    other.messageId ≠ f.nextMessageId ∧ other.callback ≠ some f.calls.length := by
  obtain ⟨hid, hcallback⟩ := h.below other hother f (by rw [hframe]; exact hf)
  refine ⟨Nat.ne_of_lt hid, fun heq => ?_⟩
  have hlt := hcallback _ heq
  omega

/-- A call gives nothing. -/
theorem ran_operate_call {index call : Nat} {value : V} {f' : WebFrameImpl V}
    (hf' : (s.frames.modify frame fun f =>
      f.step (callOperation withCallback contentWorld isSealed))[index]? = some f')
    (hran : (call, some value) ∈ f'.ran) :
    ∃ f, s.frames[index]? = some f ∧ (call, some value) ∈ f.ran := by
  obtain ⟨f, hf, ⟨-, rfl⟩ | ⟨-, rfl⟩⟩ := getElem?_modify_cases hf'
  · rw [(step_callOperation f withCallback contentWorld isSealed).1] at hran
    exact ⟨f, hf, hran⟩
  · exact ⟨f', hf, hran⟩

theorem Inv.call (h : s.Inv) (hf : s.frames[frame]? = some f) :
    (s.callJavaScriptFunction frame withCallback contentWorld isSealed functionName
      parameters).Inv := by
  rw [callJavaScriptFunction_eq _ _ _ _ _ hf]
  let request := newRequest frame f withCallback contentWorld functionName parameters
  have hnew : request ∈ s.requests ++ [request] := List.mem_append_right _ List.mem_cons_self
  have hold : ∀ other ∈ s.requests, other ∈ s.requests ++ [request] := fun _ hmem =>
    List.mem_append_left _ hmem
  refine ⟨fun other hother => ?_, fun other hother f' hf' => ?_, fun one hone other hother => ?_,
    fun one hone other hother => ?_, fun index f' hf' messageId call hmem => ?_,
    fun index f' hf' call value hran => ?_, fun other hother => ?_, fun other hother => ?_,
    h.page.mono hold⟩
  · show other.frame < (s.frames.modify frame _).length
    rw [List.length_modify]
    rcases List.mem_append.1 hother with hother | hother
    · exact h.made other hother
    · rw [List.mem_singleton.1 hother]
      exact (List.getElem?_eq_some_iff.1 hf).1
  · obtain ⟨f₀, hf₀, hcases⟩ := getElem?_modify_cases hf'
    rcases List.mem_append.1 hother with hother | hother
    · obtain ⟨hid, hcallback⟩ := h.below other hother f₀ hf₀
      obtain ⟨-, rfl⟩ | ⟨-, rfl⟩ := hcases
      · obtain ⟨-, hnext, hcalls, -⟩ := step_callOperation f₀ withCallback contentWorld isSealed
        refine ⟨by omega, fun call hcall => ?_⟩
        have hlt := hcallback call hcall
        omega
      · exact ⟨hid, hcallback⟩
    · obtain rfl := List.mem_singleton.1 hother
      obtain ⟨-, rfl⟩ | ⟨hne, -⟩ := hcases
      · obtain rfl : f = f₀ := Option.some.inj (hf.symm.trans hf₀)
        obtain ⟨-, hnext, hcalls, -⟩ := step_callOperation f withCallback contentWorld isSealed
        refine ⟨?_, fun call hcall => ?_⟩
        · show f.nextMessageId < _
          omega
        · obtain ⟨rfl, rfl⟩ := callback_newRequest _ _ _ _ hcall
          rw [if_pos rfl] at hcalls
          omega
      · exact absurd rfl hne
  · -- the new message id is above all others of the frame
    intro hframe hid
    rcases List.mem_append.1 hone with hone | hone <;>
      rcases List.mem_append.1 hother with hother | hother
    · exact h.byId one hone other hother hframe hid
    · obtain rfl := List.mem_singleton.1 hother
      exact absurd hid (h.newRequest_fresh hf hone hframe).1
    · obtain rfl := List.mem_singleton.1 hone
      exact absurd hid.symm (h.newRequest_fresh hf hother hframe.symm).1
    · rw [List.mem_singleton.1 hone, List.mem_singleton.1 hother]
  · intro hframe call hone' hother'
    rcases List.mem_append.1 hone with hone | hone <;>
      rcases List.mem_append.1 hother with hother | hother
    · exact h.byCallback one hone other hother hframe call hone' hother'
    · obtain rfl := List.mem_singleton.1 hother
      obtain ⟨-, rfl⟩ := callback_newRequest _ _ _ _ hother'
      exact absurd hone' (h.newRequest_fresh hf hone hframe).2
    · obtain rfl := List.mem_singleton.1 hone
      obtain ⟨-, rfl⟩ := callback_newRequest _ _ _ _ hone'
      exact absurd hother' (h.newRequest_fresh hf hother hframe.symm).2
    · rw [List.mem_singleton.1 hone, List.mem_singleton.1 hother]
  · obtain ⟨f₀, hf₀, ⟨rfl, rfl⟩ | ⟨-, rfl⟩⟩ := getElem?_modify_cases hf'
    · obtain ⟨-, -, -, hpending⟩ := step_callOperation f₀ withCallback contentWorld isSealed
      rcases hpending messageId call hmem with hmem | ⟨rfl, rfl, rfl⟩
      · obtain ⟨other, hother, hwaits⟩ := h.pending index f₀ hf₀ messageId call hmem
        exact ⟨other, hold other hother, hwaits⟩
      · obtain rfl : f = f₀ := Option.some.inj (hf.symm.trans hf₀)
        exact ⟨request, hnew, rfl, rfl, rfl⟩
    · obtain ⟨other, hother, hwaits⟩ := h.pending index f' hf₀ messageId call hmem
      exact ⟨other, hold other hother, hwaits⟩
  · obtain ⟨f₀, hf₀, hran₀⟩ := ran_operate_call _ _ _ hf' hran
    obtain ⟨other, hother, hwaited⟩ := h.ran index f₀ hf₀ call value hran₀
    exact ⟨other, hold other hother, hwaited⟩
  · have hcases : other ∈ s.messages ∨ other = request := by
      have hmem : other ∈ (if !contentWorld && f.canCall contentWorld isSealed then
        s.messages ++ [request] else s.messages) := hother
      split_ifs at hmem
      · exact (List.mem_append.1 hmem).imp_right List.mem_singleton.1
      · exact .inl hmem
    rcases hcases with hmem | rfl
    · exact hold other (h.messages other hmem)
    · exact hnew
  · have hmem : other ∈ (if contentWorld && withCallback then s.evaluations ++ [request]
      else s.evaluations) := hother
    split_ifs at hmem with hworld
    · rcases List.mem_append.1 hmem with hmem | hmem
      · exact ⟨hold other (h.evaluations other hmem).1, (h.evaluations other hmem).2⟩
      · obtain rfl := List.mem_singleton.1 hmem
        exact ⟨hnew, (Bool.and_eq_true_iff.1 hworld).1⟩
    · exact ⟨hold other (h.evaluations other hmem).1, (h.evaluations other hmem).2⟩

theorem ResultsOwn.call (h : s.ResultsOwn) (hinv : s.Inv) (hf : s.frames[frame]? = some f) :
    (s.callJavaScriptFunction frame withCallback contentWorld isSealed functionName
      parameters).ResultsOwn := by
  rw [callJavaScriptFunction_eq _ _ _ _ _ hf]
  intro other hother hworld f' hf' call hcall value hran
  obtain ⟨f₀, hf₀, hran₀⟩ := ran_operate_call _ _ _ hf' hran
  rcases List.mem_append.1 hother with hother | hother
  · exact h other hother hworld f₀ hf₀ call hcall value hran₀
  · -- nothing has been given yet to the callback of the new request
    obtain rfl := List.mem_singleton.1 hother
    obtain ⟨-, rfl⟩ := callback_newRequest _ _ _ _ hcall
    obtain ⟨waited, hwaited, hframe, hcallback⟩ := hinv.ran frame f₀ hf₀ _ value hran₀
    exact absurd hcallback (hinv.newRequest_fresh hf hwaited hframe).2

end

/-! ### Registrations -/

theorem Inv.registered (h : s.Inv) (registrations : List Int) :
    ({ s with registrations } : FrameChannel V).Inv :=
  ⟨h.made, h.below, h.byId, h.byCallback, h.pending, h.ran, h.messages, h.evaluations, h.page⟩

/-- A frame that is made has no requests. -/
theorem frame_of_getElem?_append {frames : List (WebFrameImpl V)} {new f : WebFrameImpl V}
    {index : Nat} (h : (frames ++ [new])[index]? = some f) :
    frames[index]? = some f ∨ (index = frames.length ∧ f = new) := by
  by_cases hlt : index < frames.length
  · rw [List.getElem?_append_left hlt] at h
    exact .inl h
  · rw [List.getElem?_append_right (Nat.not_lt.1 hlt)] at h
    obtain ⟨hindex, hget⟩ := List.getElem?_eq_some_iff.1 h
    rw [List.length_singleton] at hindex
    refine .inr ⟨by omega, ?_⟩
    rw [← hget, List.getElem_singleton]

theorem Inv.frameMade (h : s.Inv) (isMainFrame hasFrameKey : Bool) (nextMessageId : Nat)
    (current : Option Nat) (registrations : List Int) :
    ({ s with
        registrations,
        frames := s.frames ++ [.start isMainFrame hasFrameKey nextMessageId],
        current } : FrameChannel V).Inv where
  made := by
    intro request hrequest
    show request.frame < (s.frames ++ [_]).length
    rw [List.length_append]
    exact Nat.lt_add_right _ (h.made request hrequest)
  below := by
    intro request hrequest f hf
    rcases frame_of_getElem?_append hf with hf | ⟨hnew, -⟩
    · exact h.below request hrequest f hf
    · exact absurd hnew (Nat.ne_of_lt (h.made request hrequest))
  byId := h.byId
  byCallback := h.byCallback
  pending := by
    intro frame f hf messageId call hmem
    rcases frame_of_getElem?_append hf with hf | ⟨-, rfl⟩
    · exact h.pending frame f hf messageId call hmem
    · exact nomatch hmem
  ran := by
    intro frame f hf call value hran
    rcases frame_of_getElem?_append hf with hf | ⟨-, rfl⟩
    · exact h.ran frame f hf call value hran
    · exact nomatch hran
  messages := h.messages
  evaluations := h.evaluations
  page := h.page

theorem ResultsOwn.frameMade (h : s.ResultsOwn) (hinv : s.Inv) (isMainFrame hasFrameKey : Bool)
    (nextMessageId : Nat) (current : Option Nat) (registrations : List Int) :
    ({ s with
        registrations,
        frames := s.frames ++ [.start isMainFrame hasFrameKey nextMessageId],
        current } : FrameChannel V).ResultsOwn := by
  intro request hrequest hworld f hf call hcall value hran
  rcases frame_of_getElem?_append hf with hf | ⟨hnew, -⟩
  · exact h request hrequest hworld f hf call hcall value hran
  · exact absurd hnew (Nat.ne_of_lt (hinv.made request hrequest))

/-! ### Results -/

/-- The request whose callback waits under a message id. -/
theorem Inv.waiting (h : s.Inv) {frame messageId call : Nat} {f : WebFrameImpl V}
    (hf : s.frames[frame]? = some f)
    (hlookup : Keyed.lookup Prod.fst f.pendingRequests messageId = some (messageId, some call)) :
    ∃ request ∈ s.requests,
      request.frame = frame ∧ request.callback = some call ∧ request.messageId = messageId :=
  h.pending frame f hf messageId call (Keyed.mem_of_lookup hlookup)

theorem framesGive_completion (request : FrameRequest V) (result : Option V) :
    s.FramesGive
      (s.frames.modify request.frame fun f => f.onCompletion request.messageId result)
      fun frame call value => frame = request.frame ∧ ∃ f, s.frames[frame]? = some f ∧
        Keyed.lookup Prod.fst f.pendingRequests request.messageId =
          some (request.messageId, some call) ∧ result = some value := by
  refine framesGive_modify request.frame fun f => ?_
  unfold WebFrameImpl.onCompletion
  split_ifs
  · exact WebFrameImpl.Gives.refl _
  · exact WebFrameImpl.gives_completeRequest request.messageId result

theorem Inv.completionHandler (h : s.Inv) (position : Nat) (result : Option V) :
    (s.completionHandler position result).Inv := by
  unfold FrameChannel.completionHandler
  cases hget : s.evaluations[position]? with
  | none => exact h
  | some request =>
    refine h.operated (framesGive_completion request result) ?_ s.current
      (List.eraseIdx_subset ..) s.arrived
    rintro frame call value ⟨-, f, hf, hlookup, -⟩
    obtain ⟨waiting, hwaiting, hframe, hcallback, -⟩ := h.waiting hf hlookup
    exact ⟨waiting, hwaiting, hframe, hcallback⟩

/-- The completion handler of a content world completes a call there. -/
theorem ResultsOwn.completionHandler (h : s.ResultsOwn) (hinv : s.Inv) (position : Nat)
    (result : Option V) : (s.completionHandler position result).ResultsOwn := by
  unfold FrameChannel.completionHandler
  cases hget : s.evaluations[position]? with
  | none => exact h
  | some request =>
    refine h.operated (framesGive_completion request result) ?_ s.current _ s.arrived
    rintro own hown hworld call hcall value ⟨hsame, f, hf, hlookup, -⟩
    obtain ⟨waiting, hwaiting, hframe, hcallback, hid⟩ := hinv.waiting hf hlookup
    obtain rfl := hinv.byCallback waiting hwaiting own hown hframe call hcallback hcall
    obtain ⟨hrequest, hevaluated⟩ := hinv.evaluations request (List.mem_of_getElem? hget)
    obtain rfl := hinv.byId waiting hwaiting request hrequest hsame hid
    rw [hworld] at hevaluated
    exact nomatch hevaluated

theorem Inv.onJavaScriptReply (h : s.Inv) (position : Nat) :
    (s.onJavaScriptReply position).Inv := by
  unfold FrameChannel.onJavaScriptReply
  split
  · next messageId result _ =>
    refine h.operated (framesGive_map fun f => WebFrameImpl.gives_onReply messageId result) ?_
      s.current (fun _ hmem => hmem) _
    rintro frame call value ⟨f, hf, -, -, id, -, hlookup⟩
    obtain ⟨waiting, hwaiting, hframe, hcallback, -⟩ := h.waiting hf hlookup
    exact ⟨waiting, hwaiting, hframe, hcallback⟩
  · exact h

/-- **A reply gives its own results exactly when it is to a message of the same
`WebFrameImpl`.** -/
theorem Inv.ownReply_iff (h : s.Inv) (hresults : s.ResultsOwn) (position : Nat) :
    (s.onJavaScriptReply position).ResultsOwn ↔ s.OwnReply (.onJavaScriptReply position) := by
  unfold FrameChannel.onJavaScriptReply
  constructor
  · intro hafter message messageId result hlog request hrequest hworld f hf call hcall value
      hanswers
    simp only [hlog] at hafter
    -- the callback has run, so its function has been run, for a message with this id
    have hget : (s.frames.map fun f => f.onReply messageId result)[request.frame]? =
        some (f.onReply messageId result) := by
      rw [List.getElem?_map, hf]
      rfl
    have hexecuted := hafter request hrequest hworld _ hget call hcall value hanswers.ran
    have haccepted := h.page.executed _ _ _ _ _ _ hexecuted
    obtain ⟨-, -, id, rfl, hlookup⟩ := hanswers
    obtain ⟨waiting, hwaiting, hframe, hcallback, rfl⟩ := h.waiting hf hlookup
    obtain rfl := h.byCallback waiting hwaiting request hrequest hframe call hcallback hcall
    obtain ⟨sent, -, rfl, hid, hsent, -⟩ :=
      h.page.replied message _ result (List.mem_of_getElem? hlog)
    have hsent' : .accepted (.message sent) (waiting.messageId : Int) ∈ s.page.log := by
      rw [hid]
      exact hsent
    exact congrArg (fun payload => payload.request.frame)
      (h.page.accepted _ _ _ hsent' haccepted)
  · intro hown
    split
    · next message messageId result hlog =>
      refine hresults.operated (framesGive_map fun f => WebFrameImpl.gives_onReply messageId result)
        ?_ s.current s.evaluations _
      rintro request hrequest hworld call hcall value ⟨f, hf, hanswers⟩
      have hsame := hown message messageId result hlog request hrequest hworld f hf call hcall
        value hanswers
      obtain ⟨-, hresult, id, rfl, hlookup⟩ := hanswers
      obtain ⟨waiting, hwaiting, hframe, hcallback, rfl⟩ := h.waiting hf hlookup
      obtain rfl := h.byCallback waiting hwaiting request hrequest hframe call hcallback hcall
      obtain ⟨sent, hsent, rfl, hid, -, hreturned⟩ :=
        h.page.replied message _ result (List.mem_of_getElem? hlog)
      obtain rfl := h.byId sent hsent waiting hwaiting hsame (Int.ofNat_inj.1 hid).symm
      exact hreturned value hresult
    · exact hresults

/-! ## Runs -/

theorem Inv.step (h : s.Inv) (call : ChannelCall V) : (s.step call).Inv := by
  cases call with
  | callJavaScriptFunction frame withCallback contentWorld isSealed functionName parameters =>
    cases hf : s.frames[frame]? with
    | none =>
      show (s.callJavaScriptFunction ..).Inv
      unfold callJavaScriptFunction
      simpa only [hf] using h
    | some f => exact h.call withCallback contentWorld isSealed functionName parameters hf
  | routeMessage position =>
    show (s.routeMessage position).Inv
    unfold routeMessage
    cases hget : s.messages[position]? with
    | none => exact h
    | some request =>
      refine h.paged (h.page.step _ ?_).1 (List.eraseIdx_subset ..)
      intro message function heq
      obtain ⟨rfl, rfl⟩ := PageCall.routeMessage.inj heq
      exact ⟨request, h.messages request (List.mem_of_getElem? hget), rfl, rfl⟩
  | keyGenerated =>
    exact h.paged (h.page.step .keyGenerated fun _ _ heq => nomatch heq).1 fun _ hmem => hmem
  | messageDecrypted position =>
    exact h.paged (h.page.step (.messageDecrypted position) fun _ _ heq => nomatch heq).1
      fun _ hmem => hmem
  | functionDecrypted position outcome =>
    exact h.paged (h.page.step (.functionDecrypted position outcome) fun _ _ heq => nomatch heq).1
      fun _ hmem => hmem
  | onJavaScriptReply position => exact h.onJavaScriptReply position
  | completionHandler position result => exact h.completionHandler position result
  | timeout frame messageId =>
    exact h.operate frame (fun _ => WebFrameImpl.gives_timeout messageId) s.current
  | webStateDestroyed frame =>
    exact h.operate frame (fun _ => WebFrameImpl.gives_cancelFrom none false) s.current
  | callbackReturns frame =>
    exact h.operate frame (fun _ => WebFrameImpl.gives_callbackReturns) s.current
  | registerFrame => exact h.registered _
  | frameBecameAvailable position =>
    show (s.frameBecameAvailable position).Inv
    unfold frameBecameAvailable
    split
    · exact h
    · split_ifs
      · exact h.registered _
      · exact h.frameMade _ _ _ _ _
  | frameBecameUnavailable =>
    show s.frameBecameUnavailable.Inv
    unfold frameBecameUnavailable
    split
    · exact h
    · exact h.operate _ (fun _ => WebFrameImpl.gives_cancelFrom none true) none

/-- Only a reply can give a result that is not the call's own. -/
theorem Inv.resultsOwn_step (h : s.Inv) (hresults : s.ResultsOwn) (call : ChannelCall V) :
    (s.step call).ResultsOwn ↔ s.OwnReply call := by
  cases call with
  | onJavaScriptReply position => exact h.ownReply_iff hresults position
  | callJavaScriptFunction frame withCallback contentWorld isSealed functionName parameters =>
    refine iff_of_true ?_ trivial
    cases hf : s.frames[frame]? with
    | none =>
      show (s.callJavaScriptFunction ..).ResultsOwn
      unfold callJavaScriptFunction
      simpa only [hf] using hresults
    | some f =>
      exact ResultsOwn.call withCallback contentWorld isSealed functionName parameters hresults h hf
  | routeMessage position =>
    refine iff_of_true ?_ trivial
    show (s.routeMessage position).ResultsOwn
    unfold routeMessage
    cases hget : s.messages[position]? with
    | none => exact hresults
    | some request =>
      refine hresults.paged (h.page.step _ ?_).2 _
      intro message function heq
      obtain ⟨rfl, rfl⟩ := PageCall.routeMessage.inj heq
      exact ⟨request, h.messages request (List.mem_of_getElem? hget), rfl, rfl⟩
  | keyGenerated =>
    have hlog := (h.page.step .keyGenerated fun _ _ heq => nomatch heq).2
    exact iff_of_true (hresults.paged hlog _) trivial
  | messageDecrypted position =>
    have hlog := (h.page.step (.messageDecrypted position) fun _ _ heq => nomatch heq).2
    exact iff_of_true (hresults.paged hlog _) trivial
  | functionDecrypted position outcome =>
    have hlog := (h.page.step (.functionDecrypted position outcome) fun _ _ heq => nomatch heq).2
    exact iff_of_true (hresults.paged hlog _) trivial
  | completionHandler position result =>
    exact iff_of_true (hresults.completionHandler h position result) trivial
  | timeout frame messageId =>
    exact iff_of_true
      (hresults.operate frame (fun _ => WebFrameImpl.gives_timeout messageId) s.current) trivial
  | webStateDestroyed frame =>
    exact iff_of_true
      (hresults.operate frame (fun _ => WebFrameImpl.gives_cancelFrom none false) s.current) trivial
  | callbackReturns frame =>
    exact iff_of_true
      (hresults.operate frame (fun _ => WebFrameImpl.gives_callbackReturns) s.current) trivial
  | registerFrame => exact iff_of_true hresults trivial
  | frameBecameAvailable position =>
    refine iff_of_true ?_ trivial
    show (s.frameBecameAvailable position).ResultsOwn
    unfold frameBecameAvailable
    split
    · exact hresults
    · split_ifs
      · exact hresults
      · exact hresults.frameMade h _ _ _ _ _
  | frameBecameUnavailable =>
    refine iff_of_true ?_ trivial
    show s.frameBecameUnavailable.ResultsOwn
    unfold frameBecameUnavailable
    split
    · exact hresults
    · exact hresults.operate _ (fun _ => WebFrameImpl.gives_cancelFrom none true) none

/-- **Callbacks get the results of their own calls, after every step of a run, exactly when
no request is answered by the reply to a message of another `WebFrameImpl`.** -/
theorem results_own_iff {calls : List (ChannelCall V)} (hinit : (channelMachine V).init s)
    (hrun : (channelMachine V).Run s calls) :
    (channelMachine V).Always (fun s call => (s.step call).ResultsOwn) s calls ↔
      (channelMachine V).Always OwnReply s calls := by
  obtain ⟨isMainFrame, frameSymmetricKey, rfl⟩ := hinit
  refine Machine.always_iff_of_invariant (I := fun s => s.Inv ∧ s.ResultsOwn)
    (fun s call hI _ => hI.1.resultsOwn_step hI.2 call)
    (fun s call hI _ hown => ⟨hI.1.step call, hown⟩)
    ⟨start_inv isMainFrame frameSymmetricKey, fun _ hmem => nomatch hmem⟩ hrun

/-- The frame becomes unavailable after it has answered a call, and is registered again
before the reply comes. -/
def registeredAgain : List (ChannelCall Nat) :=
  [.registerFrame, .frameBecameAvailable 0, .callJavaScriptFunction 0 true false true "a" [],
    .routeMessage 0, .messageDecrypted 0, .functionDecrypted 0 (.returned (some 7)),
    .frameBecameUnavailable, .callbackReturns 0, .registerFrame, .frameBecameAvailable 0,
    .callJavaScriptFunction 1 true false true "b" [3], .onJavaScriptReply 2, .routeMessage 0,
    .messageDecrypted 0, .functionDecrypted 0 (.returned (some 9)), .onJavaScriptReply 5]

theorem results_own_registeredAgain :
    (channelMachine Nat).Always (fun s call => (s.step call).ResultsOwn) (start true true)
      registeredAgain := by
  refine (results_own_iff ⟨true, true, rfl⟩ (by decide)).2 ⟨trivial, trivial, trivial, trivial,
    trivial, trivial, trivial, trivial, trivial, trivial, trivial, ?_, trivial, trivial, trivial,
    ?_, trivial⟩
  · rintro message messageId result hlog request hrequest - f hf call - value
      ⟨-, -, id, hid, hlookup⟩
    obtain ⟨rfl, rfl, -⟩ := PageEvent.replied.inj (Option.some.inj hlog)
    rcases List.mem_cons.1 hrequest with rfl | hrequest
    · rfl
    · -- no callback waits under the id
      obtain rfl := List.mem_singleton.1 hrequest
      obtain rfl := Option.some.inj hf
      obtain rfl := Int.ofNat_inj.1 hid
      exact nomatch (show none = some (0, some call) from hlookup)
  · rintro message messageId result hlog request hrequest - f hf call - value ⟨hhere, -⟩
    obtain ⟨rfl, -, -⟩ := PageEvent.replied.inj (Option.some.inj hlog)
    rcases List.mem_cons.1 hrequest with rfl | hrequest
    · obtain rfl := Option.some.inj hf
      exact nomatch (show true = false from hhere)
    · obtain rfl := List.mem_singleton.1 hrequest
      rfl
/-- A call of the `WebFrameImpl` before has the id of the one that waits: the page had not
received it when it registered. -/
def staleReply : List (ChannelCall Nat) :=
  [.registerFrame, .frameBecameAvailable 0, .callJavaScriptFunction 0 true false true "a" [],
    .frameBecameUnavailable, .callbackReturns 0, .registerFrame, .frameBecameAvailable 0,
    .callJavaScriptFunction 1 true false true "b" [], .routeMessage 0, .messageDecrypted 0,
    .functionDecrypted 0 (.returned (some 7)), .onJavaScriptReply 2]

theorem staleReply_answers :
    ¬ ∀ calls : List (ChannelCall Nat), (channelMachine Nat).Run (start true true) calls →
      ((channelMachine Nat).exec (start true true) calls).ResultsOwn := by
  intro hall
  have hown := hall staleReply (by decide) ⟨1, some 0, 0, false, "b", []⟩ (by decide) rfl _ rfl 0
    rfl 7 (by decide)
  exact absurd hown (by decide)

end FrameChannel

end IosChrome.JsMessaging

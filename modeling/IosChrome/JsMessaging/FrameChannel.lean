import IosChrome.JsMessaging.Message
import IosChrome.JsMessaging.WebFrameImpl

/-!
# The channel of an encrypted frame

The two ends of it: the page of the frame, which lives as long as its JavaScript context
does, and the `WebFrameImpl` that the frames manager makes when the frame registers. A
frame that becomes unavailable and registers again gets another `WebFrameImpl`, which goes
on with the message ids where the page has got to; what was under way stays so.

Messages, replies and registrations are delivered in any order, each at most once. The page
is the one of `message.js`, with an AEAD that opens what it has sealed.
-/

namespace IosChrome.JsMessaging

open IosChrome.Lib

/-- A call of the `WebFrameImpl` with number `frame`. `callback` is the number of its
callback there, if it has one. -/
structure FrameRequest (V : Type) where
  frame : Nat
  callback : Option Nat
  messageId : Nat
  contentWorld : Bool
  functionName : String
  parameters : List V
  deriving DecidableEq

/-- The two payloads that are sealed for a request. -/
inductive Payload (V : Type) where
  | message (request : FrameRequest V)
  | function (request : FrameRequest V)
  deriving DecidableEq

variable {V : Type}

namespace Payload

def request : Payload V → FrameRequest V
  | .message request => request
  | .function request => request

/-- A payload opens with the data it was sealed with. -/
def decrypt : Payload V → String → Option (Details V)
  | .message request, data =>
    if data = "" then
      some { messageId := some request.messageId, replyWithResult := request.callback.isSome,
             functionName := none, parameters := none }
    else none
  | .function request, data =>
    if data = additionalData request.messageId then
      some { messageId := none, replyWithResult := false,
             functionName := some request.functionName, parameters := some request.parameters }
    else none

end Payload

structure FrameChannel (V : Type) where
  isMainFrame : Bool
  /-- Every `WebFrameImpl` that was made for the frame. -/
  frames : List (WebFrameImpl V)
  /-- The one that is in the map of the frames manager. -/
  current : Option Nat
  requests : List (FrameRequest V)
  page : Page (Payload V) V
  messages : List (FrameRequest V)
  /-- What a content world evaluates with a completion handler. -/
  evaluations : List (FrameRequest V)
  /-- The registrations in flight, with the message id that was received last. -/
  registrations : List Int
  /-- Where the replies that have arrived are in the log of the page. -/
  arrived : List Nat
  deriving DecidableEq

namespace WebFrameImpl

/-- The subscription to replies ends with the frame. -/
def onReply (f : WebFrameImpl V) (messageId : Int) (result : Option V) : WebFrameImpl V :=
  if f.destroyed then f
  else
    match messageId with
    | .ofNat messageId => f.step (.onJavaScriptReply messageId result)
    | .negSucc _ => f

/-- Completion handlers have weak pointers to the frame. -/
def onCompletion (f : WebFrameImpl V) (messageId : Nat) (result : Option V) : WebFrameImpl V :=
  if f.destroyed then f else f.step (.completionHandler messageId result)

end WebFrameImpl

/-! ## Runs -/

inductive ChannelCall (V : Type) where
  | callJavaScriptFunction (frame : Nat) (withCallback contentWorld isSealed : Bool)
    (functionName : String) (parameters : List V)
  /-- A message comes to the page. -/
  | routeMessage (position : Nat)
  | keyGenerated
  | messageDecrypted (position : Nat)
  | functionDecrypted (position : Nat) (outcome : Outcome V)
  /-- A reply comes to the browser: one of those in the log of the page. -/
  | onJavaScriptReply (position : Nat)
  | completionHandler (position : Nat) (result : Option V)
  | timeout (frame messageId : Nat)
  | webStateDestroyed (frame : Nat)
  | callbackReturns (frame : Nat)
  | registerFrame
  | frameBecameAvailable (position : Nat)
  | frameBecameUnavailable
  deriving DecidableEq

namespace FrameChannel

/-- The operation of the frame that a call is. -/
def callOperation (withCallback contentWorld isSealed : Bool) : FrameOperation V :=
  if withCallback then .callWithCallback contentWorld isSealed
  else .callJavaScriptFunction contentWorld

def operate (s : FrameChannel V) (frame : Nat) (operation : FrameOperation V) : FrameChannel V :=
  { s with frames := s.frames.modify frame fun f => f.step operation }

def callJavaScriptFunction (s : FrameChannel V) (frame : Nat)
    (withCallback contentWorld isSealed : Bool) (functionName : String) (parameters : List V) :
    FrameChannel V :=
  match s.frames[frame]? with
  | none => s
  | some f =>
    let request : FrameRequest V :=
      { frame, callback := if withCallback then some f.calls.length else none,
        messageId := f.nextMessageId, contentWorld, functionName, parameters }
    { s.operate frame (callOperation withCallback contentWorld isSealed) with
      requests := s.requests ++ [request],
      messages :=
        if !contentWorld && f.canCall contentWorld isSealed then s.messages ++ [request]
        else s.messages,
      evaluations :=
        if contentWorld && withCallback then s.evaluations ++ [request] else s.evaluations }

def routeMessage (s : FrameChannel V) (position : Nat) : FrameChannel V :=
  match s.messages[position]? with
  | none => s
  | some request =>
    { s with
      messages := s.messages.eraseIdx position,
      page := s.page.step Payload.decrypt
        (.routeMessage (.message request) (some (.function request))) }

def onJavaScriptReply (s : FrameChannel V) (position : Nat) : FrameChannel V :=
  match s.page.log[position]? with
  | some (.replied _ messageId result) =>
    { s with
      arrived := s.arrived ++ [position],
      frames := s.frames.map fun f => f.onReply messageId result }
  | _ => s

def completionHandler (s : FrameChannel V) (position : Nat) (result : Option V) :
    FrameChannel V :=
  match s.evaluations[position]? with
  | none => s
  | some request =>
    { s with
      evaluations := s.evaluations.eraseIdx position,
      frames := s.frames.modify request.frame fun f => f.onCompletion request.messageId result }

/-- The frame that is made goes on after the last message id the page had received. -/
def frameBecameAvailable (s : FrameChannel V) (position : Nat) : FrameChannel V :=
  match s.registrations[position]? with
  | none => s
  | some lastSentMessageId =>
    let rest : FrameChannel V := { s with registrations := s.registrations.eraseIdx position }
    if s.current.isSome then rest
    else
      { rest with
        frames := s.frames ++
          [.start s.isMainFrame true (max 0 (lastSentMessageId + 1)).toNat],
        current := some s.frames.length }

def frameBecameUnavailable (s : FrameChannel V) : FrameChannel V :=
  match s.current with
  | none => s
  | some frame => { s.operate frame .destroy with current := none }

def step (s : FrameChannel V) : ChannelCall V → FrameChannel V
  | .callJavaScriptFunction frame withCallback contentWorld isSealed functionName parameters =>
    s.callJavaScriptFunction frame withCallback contentWorld isSealed functionName parameters
  | .routeMessage position => s.routeMessage position
  | .keyGenerated => { s with page := s.page.step Payload.decrypt .keyGenerated }
  | .messageDecrypted position =>
    { s with page := s.page.step Payload.decrypt (.messageDecrypted position) }
  | .functionDecrypted position outcome =>
    { s with page := s.page.step Payload.decrypt (.functionDecrypted position outcome) }
  | .onJavaScriptReply position => s.onJavaScriptReply position
  | .completionHandler position result => s.completionHandler position result
  | .timeout frame messageId => s.operate frame (.timeout messageId)
  | .webStateDestroyed frame => s.operate frame .webStateDestroyed
  | .callbackReturns frame => s.operate frame .callbackReturns
  | .registerFrame => { s with registrations := s.registrations ++ [s.page.lastReceivedMessageId] }
  | .frameBecameAvailable position => s.frameBecameAvailable position
  | .frameBecameUnavailable => s.frameBecameUnavailable

/-- The frame is there, and the operation may be made. -/
def MayOperate (s : FrameChannel V) (frame : Nat) (operation : FrameOperation V) : Prop :=
  ∃ f ∈ s.frames[frame]?, f.Pre operation

instance (s : FrameChannel V) (frame : Nat) (operation : FrameOperation V) :
    Decidable (s.MayOperate frame operation) :=
  inferInstanceAs (Decidable (∃ f ∈ s.frames[frame]?, f.Pre operation))

/-- What is in flight is delivered once, in any order. The page registers when it has a
key. -/
def Pre (s : FrameChannel V) : ChannelCall V → Prop
  | .callJavaScriptFunction frame withCallback contentWorld isSealed _ _ =>
    s.MayOperate frame (callOperation withCallback contentWorld isSealed)
  | .routeMessage position => position < s.messages.length
  | .keyGenerated => True
  | .messageDecrypted position => s.page.Pre (.messageDecrypted position)
  | .functionDecrypted position outcome => s.page.Pre (.functionDecrypted position outcome)
  | .onJavaScriptReply position => position < s.page.log.length ∧ position ∉ s.arrived
  | .completionHandler position _ => position < s.evaluations.length
  | .timeout frame messageId => s.MayOperate frame (.timeout messageId)
  | .webStateDestroyed frame => s.MayOperate frame .webStateDestroyed
  | .callbackReturns frame => s.MayOperate frame .callbackReturns
  | .registerFrame => s.page.frameSymmetricKey = true
  | .frameBecameAvailable position => position < s.registrations.length
  | .frameBecameUnavailable => ∀ frame ∈ s.current, s.MayOperate frame .destroy

instance (s : FrameChannel V) : ∀ call, Decidable (s.Pre call) := by
  intro call
  unfold Pre
  cases call <;> infer_instance

/-- No frame has been made yet. -/
def start (isMainFrame frameSymmetricKey : Bool) : FrameChannel V :=
  { isMainFrame, frames := [], current := none, requests := [],
    page := .create frameSymmetricKey, messages := [], evaluations := [], registrations := [],
    arrived := [] }

end FrameChannel

def channelMachine (V : Type) : Machine (FrameChannel V) (ChannelCall V) :=
  { init := fun s => ∃ isMainFrame frameSymmetricKey, s = .start isMainFrame frameSymmetricKey,
    pre := FrameChannel.Pre, step := FrameChannel.step }

instance (s : FrameChannel V) (call : ChannelCall V) :
    Decidable ((channelMachine V).pre s call) :=
  inferInstanceAs (Decidable (s.Pre call))

end IosChrome.JsMessaging

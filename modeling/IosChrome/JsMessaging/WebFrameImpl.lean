import IosChrome.Lib.Keyed
import IosChrome.Lib.Machine

/-!
# Calls of JavaScript and their callbacks

`WebFrameImpl` keeps the callbacks of its calls in `pending_requests_`, by message
id. A reply, a completion handler or a timeout completes one request; the end of
the web state and the destruction of the frame complete them all. In each case the
callbacks are moved out of the map, client code is run, and only then is the entry
erased: while a callback runs, its entry is in the map and empty.

The model stops where client code is entered. `operations` are the operations that
wait for a callback to return, the innermost first, and `callbackReturns` goes on
with that one; what the client does in the meantime are calls like any other. An
operation that uses an empty entry, or a frame that is gone, is a `fault`.
-/

namespace IosChrome.JsMessaging

open IosChrome.Lib

/-! ## The frame -/

/-- An operation that waits for a callback to return. -/
inductive PendingOperation where
  /-- `CompleteRequest` erases the entry then. -/
  | completing (messageId : Nat)
  /-- `CancelPendingRequests` goes on with the entry after this one. `destroys` tells
  whether the destructor has called it. -/
  | cancelling (messageId : Nat) (destroys : Bool)
  deriving DecidableEq

def PendingOperation.messageId : PendingOperation → Nat
  | .completing messageId => messageId
  | .cancelling messageId _ => messageId

def PendingOperation.destroys : PendingOperation → Bool
  | .completing _ => false
  | .cancelling _ destroys => destroys

/-- The members of `WebFrameImpl` its requests are about, with what runs. A request is
named by the number of its call; an entry of the map without one has been moved
out. -/
structure WebFrameImpl (R : Type) where
  isMainFrame : Bool
  hasFrameKey : Bool
  webState : Bool
  nextMessageId : Nat
  pendingRequests : List (Nat × Option Nat)
  operations : List PendingOperation
  destroyed : Bool
  fault : Bool
  /-- What each call with a callback has returned. -/
  calls : List Bool
  /-- The callbacks run, with their results. -/
  ran : List (Nat × Option R)
  deriving DecidableEq

variable {R : Type}

namespace WebFrameImpl

/-- What `CallJavaScriptFunctionInContentWorld` returns: it is called in a content
world, or in the frame, for which an iframe needs a key; a payload may not be
`sealed`. -/
def canCall (f : WebFrameImpl R) (contentWorld isSealed : Bool) : Bool :=
  if contentWorld then true
  else if !(f.isMainFrame || f.hasFrameKey) then false
  else if !f.hasFrameKey then f.isMainFrame
  else isSealed

/-- A call without a callback takes a message id, too. -/
def callJavaScriptFunction (f : WebFrameImpl R) : WebFrameImpl R :=
  { f with nextMessageId := f.nextMessageId + 1 }

def callWithCallback (f : WebFrameImpl R) (contentWorld isSealed : Bool) : WebFrameImpl R :=
  let messageId : Nat := f.nextMessageId
  let called : Bool := f.canCall contentWorld isSealed
  let pending : List (Nat × Option Nat) :=
    Keyed.put Prod.fst f.pendingRequests (messageId, some f.calls.length)
  { f.callJavaScriptFunction with
    calls := f.calls ++ [called],
    -- the callbacks of a call that failed are removed
    pendingRequests := if called then pending else Keyed.remove Prod.fst pending messageId }

/-- The callbacks of a request are moved out of its entry, and the completion is run:
it has the control until it returns. -/
def enterCallback (f : WebFrameImpl R) (messageId call : Nat) (result : Option R)
    (operation : PendingOperation) : WebFrameImpl R :=
  { f with
    pendingRequests := f.pendingRequests.map fun entry =>
      if entry.1 = messageId then (entry.1, none) else entry,
    ran := f.ran ++ [(call, result)],
    operations := operation :: f.operations }

def completeRequest (f : WebFrameImpl R) (messageId : Nat) (result : Option R) :
    WebFrameImpl R :=
  match Keyed.lookup Prod.fst f.pendingRequests messageId with
  | none => f
  | some (_, none) => { f with fault := true }
  | some (_, some call) => f.enterCallback messageId call result (.completing messageId)

/-- The timeout of a request whose callbacks have been moved out or destroyed has been
canceled. -/
def timeout (f : WebFrameImpl R) (messageId : Nat) : WebFrameImpl R :=
  match Keyed.lookup Prod.fst f.pendingRequests messageId with
  | none => f
  | some (_, none) => f
  | some (_, some _) => f.completeRequest messageId none

/-- The loop of `CancelPendingRequests` from the first entry after `last` on, and what
follows it in `WebStateDestroyed` and in the destructor. -/
def cancelFrom (f : WebFrameImpl R) (last : Option Nat) (destroys : Bool) : WebFrameImpl R :=
  match f.pendingRequests.find? fun entry => last.all (fun messageId => messageId < entry.1) with
  | none => { f with pendingRequests := [], webState := false, destroyed := destroys }
  | some (_, none) => { f with fault := true }
  | some (messageId, some call) =>
    f.enterCallback messageId call none (.cancelling messageId destroys)

def webStateDestroyed (f : WebFrameImpl R) : WebFrameImpl R := f.cancelFrom none false

def destroy (f : WebFrameImpl R) : WebFrameImpl R := f.cancelFrom none true

/-- The running callback returns to the operation that has run it. -/
def callbackReturns (f : WebFrameImpl R) : WebFrameImpl R :=
  match f.operations with
  | [] => f
  | operation :: outer =>
    let back : WebFrameImpl R := { f with operations := outer }
    if f.destroyed then { back with fault := true }
    else
      match operation with
      | .completing messageId =>
        { back with pendingRequests := Keyed.remove Prod.fst f.pendingRequests messageId }
      | .cancelling messageId destroys => back.cancelFrom (some messageId) destroys

end WebFrameImpl

/-! ## Runs -/

inductive FrameOperation (R : Type) where
  | callJavaScriptFunction (contentWorld : Bool)
  | callWithCallback (contentWorld isSealed : Bool)
  /-- The page may send any reply at any time. -/
  | onJavaScriptReply (messageId : Nat) (result : Option R)
  | completionHandler (messageId : Nat) (result : Option R)
  | timeout (messageId : Nat)
  | webStateDestroyed
  | destroy
  | callbackReturns
  deriving DecidableEq

namespace WebFrameImpl

def step (f : WebFrameImpl R) : FrameOperation R → WebFrameImpl R
  | .callJavaScriptFunction _ => f.callJavaScriptFunction
  | .callWithCallback contentWorld isSealed => f.callWithCallback contentWorld isSealed
  | .onJavaScriptReply messageId result => f.completeRequest messageId result
  | .completionHandler messageId result => f.completeRequest messageId result
  | .timeout messageId => f.timeout messageId
  | .webStateDestroyed => f.webStateDestroyed
  | .destroy => f.destroy
  | .callbackReturns => f.callbackReturns

/-- The frame is used until it is destroyed, and it is destroyed once. Its observer is
called while it is attached, and only a content world can be called without a web
state. -/
def Pre (f : WebFrameImpl R) : FrameOperation R → Prop
  | .callbackReturns => f.operations ≠ []
  | .webStateDestroyed => f.destroyed = false ∧ f.webState = true
  | .destroy => f.destroyed = false ∧ ∀ operation ∈ f.operations, operation.destroys = false
  | .callJavaScriptFunction contentWorld =>
    f.destroyed = false ∧ (contentWorld = false → f.webState = true)
  | .callWithCallback contentWorld _ =>
    f.destroyed = false ∧ (contentWorld = false → f.webState = true)
  | .onJavaScriptReply _ _ => f.destroyed = false
  | .completionHandler _ _ => f.destroyed = false
  | .timeout _ => f.destroyed = false

instance (f : WebFrameImpl R) : ∀ operation, Decidable (f.Pre operation) := by
  intro operation
  unfold Pre
  cases operation <;> infer_instance

def start (isMainFrame hasFrameKey : Bool) (nextMessageId : Nat) : WebFrameImpl R :=
  { isMainFrame, hasFrameKey, webState := true, nextMessageId, pendingRequests := [],
    operations := [], destroyed := false, fault := false, calls := [], ran := [] }

end WebFrameImpl

def frameMachine (R : Type) : Machine (WebFrameImpl R) (FrameOperation R) :=
  { init := fun f => ∃ isMainFrame hasFrameKey nextMessageId,
      f = .start isMainFrame hasFrameKey nextMessageId,
    pre := WebFrameImpl.Pre, step := WebFrameImpl.step }

instance (f : WebFrameImpl R) (operation : FrameOperation R) :
    Decidable ((frameMachine R).pre f operation) :=
  inferInstanceAs (Decidable (f.Pre operation))

end IosChrome.JsMessaging

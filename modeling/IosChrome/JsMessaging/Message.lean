import IosChrome.Lib.Machine

/-!
# Messages to a frame

`message.js` keeps the end of the channel that lies in a frame. A message comes in two
payloads: one with its id, and one with the function to run, sealed for that id. The
first is decrypted, and the id is checked and recorded; then the second is decrypted and
the function is run. The decryptions take their time, so several messages are under way
at once, and each step finds the id that was recorded last.

What is done is kept in `log`. The decryption is a parameter, and so is what a function
returns.
-/

namespace IosChrome.JsMessaging

open IosChrome.Lib

/-- The entries read of the object that a payload decrypts to. One of another type is no
entry, and a payload that cannot be decoded decrypts to nothing. -/
structure Details (V : Type) where
  messageId : Option Int
  replyWithResult : Bool
  functionName : Option String
  parameters : Option (List V)
  deriving DecidableEq

/-- What a function payload is sealed with. -/
def additionalData (messageId : Int) : String := toString messageId

/-- What running a function comes to. No result is `null` or `undefined`. -/
inductive Outcome (V : Type) where
  | returned (result : Option V)
  | threw
  deriving DecidableEq

/-- A function that is being decrypted, for the message that was accepted with it. -/
structure FunctionJob (C : Type) where
  message : C
  function : C
  messageId : Int
  replyWithResult : Bool
  deriving DecidableEq

inductive PageEvent (C V : Type) where
  | accepted (message : C) (messageId : Int)
  | executed (message function : C) (messageId : Int) (functionName : String)
    (parameters : List V) (outcome : Outcome V)
  | replied (message : C) (messageId : Int) (result : Option V)
  deriving DecidableEq

structure Page (C V : Type) where
  frameSymmetricKey : Bool
  lastReceivedMessageId : Int
  /-- The messages that are being decrypted, with their function payloads. -/
  messageJobs : List (C × Option C)
  functionJobs : List (FunctionJob C)
  log : List (PageEvent C V)
  deriving DecidableEq

variable {C V : Type}

namespace Page

def create (frameSymmetricKey : Bool) : Page C V :=
  { frameSymmetricKey, lastReceivedMessageId := -1, messageJobs := [], functionJobs := [],
    log := [] }

def executeMessage (p : Page C V) (message : C) (function : Option C) : Page C V :=
  if p.frameSymmetricKey then { p with messageJobs := p.messageJobs ++ [(message, function)] }
  else p

def replyWithResult (p : Page C V) (message : C) (messageId : Int) (result : Option V) :
    Page C V :=
  { p with log := p.log ++ [.replied message messageId result] }

/-- What follows the first decryption. -/
def acceptMessage (p : Page C V) (message : C) (function : Option C) (details : Details V) :
    Page C V :=
  match details.messageId with
  | none => p
  | some messageId =>
    if messageId ≤ p.lastReceivedMessageId then p
    else
      let accepted : Page C V :=
        { p with
          lastReceivedMessageId := messageId,
          log := p.log ++ [.accepted message messageId] }
      match function with
      | none =>
        -- the function payload was dropped
        if details.replyWithResult then accepted.replyWithResult message messageId none
        else accepted
      | some function =>
        { accepted with
          functionJobs := p.functionJobs ++
            [{ message, function, messageId, replyWithResult := details.replyWithResult }] }

def finishJob (p : Page C V) (job : FunctionJob C) (result : Option V) : Page C V :=
  if job.replyWithResult then p.replyWithResult job.message job.messageId result else p

/-- What follows the second decryption. -/
def executeFunction (p : Page C V) (job : FunctionJob C) (details : Details V)
    (outcome : Outcome V) : Page C V :=
  match details.functionName, details.parameters with
  | some functionName, some parameters =>
    if 1 ≤ functionName.length then
      let executed : Page C V :=
        { p with
          log := p.log ++ [.executed job.message job.function job.messageId functionName
            parameters outcome] }
      match outcome with
      | .returned result => executed.finishJob job result
      | .threw => executed
    else p.finishJob job none
  | _, _ => p.finishJob job none

variable (decrypt : C → String → Option (Details V))

def messageDecrypted (p : Page C V) (position : Nat) : Page C V :=
  match p.messageJobs[position]? with
  | none => p
  | some (message, function) =>
    let rest : Page C V := { p with messageJobs := p.messageJobs.eraseIdx position }
    match decrypt message "" with
    | none => rest
    | some details => rest.acceptMessage message function details

def functionDecrypted (p : Page C V) (position : Nat) (outcome : Outcome V) : Page C V :=
  match p.functionJobs[position]? with
  | none => p
  | some job =>
    let rest : Page C V := { p with functionJobs := p.functionJobs.eraseIdx position }
    match decrypt job.function (additionalData job.messageId) with
    | none => rest
    | some details => rest.executeFunction job details outcome

end Page

/-! ## Runs -/

inductive PageCall (C V : Type) where
  | keyGenerated
  | routeMessage (message : C) (function : Option C)
  | messageDecrypted (position : Nat)
  | functionDecrypted (position : Nat) (outcome : Outcome V)
  deriving DecidableEq

namespace Page

variable (decrypt : C → String → Option (Details V))

def step (p : Page C V) : PageCall C V → Page C V
  | .keyGenerated => { p with frameSymmetricKey := true }
  | .routeMessage message function => p.executeMessage message function
  | .messageDecrypted position => p.messageDecrypted decrypt position
  | .functionDecrypted position outcome => p.functionDecrypted decrypt position outcome

/-- Only what is under way is completed, in any order. -/
def Pre (p : Page C V) : PageCall C V → Prop
  | .keyGenerated => True
  | .routeMessage _ _ => True
  | .messageDecrypted position => position < p.messageJobs.length
  | .functionDecrypted position _ => position < p.functionJobs.length

instance (p : Page C V) : ∀ call, Decidable (p.Pre call) := by
  intro call
  unfold Pre
  cases call <;> infer_instance

end Page

def pageMachine (decrypt : C → String → Option (Details V)) :
    Machine (Page C V) (PageCall C V) :=
  { init := fun p => ∃ frameSymmetricKey, p = .create frameSymmetricKey,
    pre := Page.Pre, step := Page.step decrypt }

instance (decrypt : C → String → Option (Details V)) (p : Page C V) (call : PageCall C V) :
    Decidable ((pageMachine decrypt).pre p call) :=
  inferInstanceAs (Decidable (p.Pre call))

end IosChrome.JsMessaging

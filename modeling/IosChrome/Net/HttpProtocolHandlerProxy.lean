import IosChrome.Lib.Machine

/-!
# CRNHTTPProtocolHandlerProxyWithClientThread

The proxy passes the events of a network request to the client of an `NSURLProtocol`, on the
client's thread. A method called from any thread posts a block to that thread; there the
block is run, or queued while the client has paused the request, and `resume` runs the queue.

The client may pause, resume and invalidate from inside the callbacks it receives, so the
model stops where a callback is entered: `running` is the stack of the methods that are
waiting for a callback to return, and `callbackReturns` continues the innermost one. No run
loop is nested in a callback, so a posted block is delivered only when none is running.

`_requestComplete` is left out. Only `DCHECK`s read it, and what is proved does not need them.
-/

namespace IosChrome.Net

/-- The calls on the client. The numbers stand for the objects handed over. -/
inductive ClientCall where
  | didFailWithError (nsErrorCode netErrorCode : Int)
  | didLoadData (data : List UInt8)
  | didReceiveResponse (response : Nat)
  | wasRedirectedToRequest (request redirectResponse : Nat)
  | didFinishLoading
  deriving DecidableEq

/-- A block posted to the client thread, with its place in the posting order. -/
structure Block where
  posted : Nat
  call : ClientCall
  deriving DecidableEq

/-- The methods that run blocks. -/
inductive BlockRunner where
  | performBlock
  | runQueuedBlocks
  deriving DecidableEq

/-- The proxy, the blocks posted to its client thread, and what the client has received. -/
structure HttpProtocolHandlerProxy where
  /-- `_protocol` is not nil. -/
  valid : Bool
  paused : Bool
  /-- `none` is nil. -/
  queuedBlocks : Option (List Block)
  posted : Nat
  inFlight : List Block
  delivered : List Block
  running : List BlockRunner
  received : List Block
  /-- `removeObjectAtIndex:` was called out of bounds. -/
  raised : Bool
  deriving DecidableEq

namespace HttpProtocolHandlerProxy

def initWithProtocol : HttpProtocolHandlerProxy where
  valid := true
  paused := false
  queuedBlocks := some []
  posted := 0
  inFlight := []
  delivered := []
  running := []
  received := []
  raised := false

variable (p : HttpProtocolHandlerProxy)

/-- The client is entered. -/
def receive (block : Block) (runner : BlockRunner) : HttpProtocolHandlerProxy :=
  { p with received := p.received ++ [block], running := runner :: p.running }

/-- `[_protocol client]` is nil when the protocol is. -/
def runBlock (block : Block) (runner : BlockRunner) : HttpProtocolHandlerProxy :=
  if p.valid then p.receive block runner else p

def invalidate : HttpProtocolHandlerProxy :=
  { p with valid := false, queuedBlocks := none }

/-- The loop of `runQueuedBlocksOnClientThread` on a queue, up to the first callback. The
block it runs is still the first of the queue. -/
def drain : List Block → HttpProtocolHandlerProxy
  | [] => { p with queuedBlocks := some [] }
  | block :: rest =>
    if p.paused then { p with queuedBlocks := some (block :: rest) }
    else if p.valid then
      { p with queuedBlocks := some (block :: rest) }.receive block .runQueuedBlocks
    else drain rest

def runQueuedBlocksOnClientThread : HttpProtocolHandlerProxy :=
  match p.queuedBlocks with
  | none => p
  | some blocks => p.drain blocks

def performBlockOnClientThread (block : Block) : HttpProtocolHandlerProxy :=
  if p.paused then { p with queuedBlocks := p.queuedBlocks.map (· ++ [block]) }
  else p.runBlock block .performBlock

/-- The methods called from any thread: nothing is posted for a protocol that is gone. -/
def postBlockToClientThread (call : ClientCall) : HttpProtocolHandlerProxy :=
  if p.valid then
    { p with inFlight := p.inFlight ++ [⟨p.posted, call⟩], posted := p.posted + 1 }
  else p

/-- The run loop of the client thread takes the block posted first. -/
def deliver : HttpProtocolHandlerProxy :=
  match p.inFlight with
  | [] => p
  | block :: later =>
    { p with inFlight := later, delivered := p.delivered ++ [block] }.performBlockOnClientThread
      block

def pause : HttpProtocolHandlerProxy :=
  { p with paused := true }

def resume : HttpProtocolHandlerProxy :=
  { p with paused := false }.runQueuedBlocksOnClientThread

/-- The innermost callback returns. In `runQueuedBlocksOnClientThread` it is only now that the
first block of the queue is removed, whichever block that is by now. -/
def callbackReturns : HttpProtocolHandlerProxy :=
  match p.running with
  | [] => p
  | .performBlock :: outer => { p with running := outer }
  | .runQueuedBlocks :: outer =>
    match p.queuedBlocks with
    | none => { p with running := outer }
    | some [] => { p with running := outer, raised := true }
    | some (_ :: rest) => { p with running := outer }.drain rest

/-- What happens on the two threads. -/
inductive Call where
  | post (call : ClientCall)
  | deliver
  | pause
  | resume
  | invalidate
  | callbackReturns
  deriving DecidableEq

def step (call : Call) : HttpProtocolHandlerProxy :=
  match call with
  | .post clientCall => p.postBlockToClientThread clientCall
  | .deliver => p.deliver
  | .pause => p.pause
  | .resume => p.resume
  | .invalidate => p.invalidate
  | .callbackReturns => p.callbackReturns

/-- A block is delivered by the run loop, not inside a callback. -/
def Pre (call : Call) : Prop :=
  p.raised = false ∧
    match call with
    | .deliver => p.inFlight ≠ [] ∧ p.running = []
    | .callbackReturns => p.running ≠ []
    | _ => True

instance (call : Call) : Decidable (p.Pre call) := by
  unfold Pre
  cases call <;> infer_instance

def machine : Lib.Machine HttpProtocolHandlerProxy Call where
  init p := p = initWithProtocol
  pre := Pre
  step := step

instance (p : HttpProtocolHandlerProxy) (call : Call) : Decidable (machine.pre p call) :=
  inferInstanceAs (Decidable (p.Pre call))

end HttpProtocolHandlerProxy

end IosChrome.Net

import IosChrome.Lib.Machine
import IosChrome.Cookies.SystemCookieStore

/-!
# The store in `WKHTTPCookieStore`, and its creation times

`WKHTTPSystemCookieStore` keeps its cookies in WebKit's store and their times
in a `CookieCreationTimeManager` on the IO thread. An operation goes a long
way: a task on the UI thread calls the store, the store processes its
operations in their order, its completion handler runs on the UI thread and
posts the bookkeeping to the IO thread. Each of these is a queue here. The
cookies handed out are those of the store when it processes the call. This takes
the wrapper's cache to be current whenever it answers: a stale one hands out
cookies that are gone.

`ClearStoreAsync` is several operations: the cookies are fetched, each of them
is deleted, and when the last of the deletions has completed the whole table is
cleared. Cookies written meanwhile are not deleted, but their times are in the
table as well.

`write` numbers the calls of `SetCookieAsync`; a stored cookie remembers which
of them wrote it, and `madeUnique` what time the bookkeeping of a write came to.
Nothing the code does depends on the two.
-/

namespace IosChrome.Cookies

open IosChrome.Lib

/-- A cookie of the store, and the call of `SetCookieAsync` that wrote it; none
for one that was there before. -/
structure WrittenCookie where
  cookie : NSHTTPCookie
  write : Option Nat
  deriving DecidableEq

namespace WrittenCookie

def identity (written : WrittenCookie) : CookieIdentity := written.cookie.identity

end WrittenCookie

/-- What the store is asked to do. -/
inductive WKOperation where
  | getCookies (shouldInclude : NSHTTPCookie → Bool)
  | deleteCookie (cookie : NSHTTPCookie)
  | setCookie (cookie : NSHTTPCookie) (cookieTime : Time) (write : Nat)
  /-- The fetch of `ClearStoreAsync`. -/
  | getCookiesToClear
  /-- A deletion of `ClearStoreAsync`; `clear` tells the calls apart. -/
  | deleteToClear (clear : Nat) (cookie : NSHTTPCookie)

/-- A completion handler that has still to run on the UI thread. -/
inductive WKCompletion where
  | gotCookies (shouldInclude : NSHTTPCookie → Bool) (cookies : List NSHTTPCookie)
  | deletedCookie (cookie : NSHTTPCookie)
  | didSetCookie (cookie : NSHTTPCookie) (cookieTime : Time) (write : Nat)
  | gotCookiesToClear (cookies : List NSHTTPCookie)
  | deletedToClear (clear : Nat) (cookie : NSHTTPCookie)

namespace WKOperation

/-- What an operation does to the cookies of the store. -/
def apply (cookies : List WrittenCookie) : WKOperation → List WrittenCookie
  | .getCookies _ => cookies
  | .deleteCookie cookie => Keyed.remove WrittenCookie.identity cookies cookie.identity
  | .setCookie cookie _ write =>
    Keyed.put WrittenCookie.identity cookies { cookie := cookie, write := some write }
  | .getCookiesToClear => cookies
  | .deleteToClear _ cookie => Keyed.remove WrittenCookie.identity cookies cookie.identity

/-- Its completion handler, given what the store has when it is processed. -/
def completion (content : List NSHTTPCookie) : WKOperation → WKCompletion
  | .getCookies shouldInclude => .gotCookies shouldInclude content
  | .deleteCookie cookie => .deletedCookie cookie
  | .setCookie cookie cookieTime write => .didSetCookie cookie cookieTime write
  | .getCookiesToClear => .gotCookiesToClear content
  | .deleteToClear clear cookie => .deletedToClear clear cookie

end WKOperation

/-- A block posted to the IO thread. -/
inductive BookkeepingTask where
  | processCookies (shouldInclude : NSHTTPCookie → Bool) (cookies : List NSHTTPCookie)
  | deleteCreationTime (cookie : NSHTTPCookie)
  | setCreationTime (cookie : NSHTTPCookie) (cookieTime : Time) (write : Nat)
  | clear

/-- The bookkeeping a completion handler posts at once. -/
def WKCompletion.bookkeeping : WKCompletion → Option BookkeepingTask
  | .gotCookies shouldInclude cookies => some (.processCookies shouldInclude cookies)
  | .deletedCookie cookie => some (.deleteCreationTime cookie)
  | .didSetCookie cookie cookieTime write => some (.setCreationTime cookie cookieTime write)
  | .gotCookiesToClear _ => none
  | .deletedToClear _ _ => none

structure WKHTTPSystemCookieStore where
  /-- The tasks of the UI thread, by the call of the store each of them makes. -/
  uiTasks : List WKOperation
  cookies : List WrittenCookie
  operations : List WKOperation
  completions : List WKCompletion
  ioTasks : List BookkeepingTask
  creationTimeManager : CookieCreationTimeManager
  /-- `remainingCookiesToClearCount` of each call of `ClearStoreAsync`. -/
  remainingCookiesToClearCount : Nat → Nat
  clears : Nat
  writes : Nat
  madeUnique : CookieIdentity → Nat → Option Time

inductive CookieStoreEvent where
  | getAllCookiesAsync
  | getCookiesForURLAsync (shouldInclude : NSHTTPCookie → Bool)
  | deleteCookieAsync (cookie : NSHTTPCookie)
  | setCookieAsync (cookie : NSHTTPCookie) (optionalCreationTime : Option Time) (now : Time)
  | clearStoreAsync
  | runUITask
  | process
  | complete
  | runIOTask

namespace WKHTTPSystemCookieStore

def postToUIThread (s : WKHTTPSystemCookieStore) (operation : WKOperation) : WKHTTPSystemCookieStore :=
  { s with uiTasks := s.uiTasks ++ [operation] }

def postToIOThread (s : WKHTTPSystemCookieStore) (task : BookkeepingTask) : WKHTTPSystemCookieStore :=
  { s with ioTasks := s.ioTasks ++ [task] }

def getCookiesAsyncInternal (s : WKHTTPSystemCookieStore) (shouldInclude : NSHTTPCookie → Bool) :
    WKHTTPSystemCookieStore :=
  s.postToUIThread (.getCookies shouldInclude)

def getAllCookiesAsync (s : WKHTTPSystemCookieStore) : WKHTTPSystemCookieStore :=
  s.getCookiesAsyncInternal fun _ => true

def getCookiesForURLAsync (s : WKHTTPSystemCookieStore) (shouldInclude : NSHTTPCookie → Bool) :
    WKHTTPSystemCookieStore :=
  s.getCookiesAsyncInternal shouldInclude

def deleteCookieAsync (s : WKHTTPSystemCookieStore) (cookie : NSHTTPCookie) :
    WKHTTPSystemCookieStore :=
  s.postToUIThread (.deleteCookie cookie)

/-- The time is taken when the call is made. -/
def setCookieAsync (s : WKHTTPSystemCookieStore) (cookie : NSHTTPCookie)
    (optionalCreationTime : Option Time) (now : Time) : WKHTTPSystemCookieStore :=
  let cookieTime := match optionalCreationTime with
    | none => now
    | some t => if t = 0 then now else t
  { s.postToUIThread (.setCookie cookie cookieTime s.writes) with writes := s.writes + 1 }

def clearStoreAsync (s : WKHTTPSystemCookieStore) : WKHTTPSystemCookieStore :=
  s.postToUIThread .getCookiesToClear

/-- The first task of the UI thread calls the store. -/
def runUITask (s : WKHTTPSystemCookieStore) : WKHTTPSystemCookieStore :=
  match s.uiTasks with
  | [] => s
  | operation :: rest => { s with uiTasks := rest, operations := s.operations ++ [operation] }

/-- The cookies of the store, as it hands them out. -/
def content (s : WKHTTPSystemCookieStore) : List NSHTTPCookie := s.cookies.map (·.cookie)

/-- The store does what an operation asks for, and its completion handler is
due. -/
def perform (s : WKHTTPSystemCookieStore) (operation : WKOperation) : WKHTTPSystemCookieStore :=
  { s with
    cookies := operation.apply s.cookies
    completions := s.completions ++ [operation.completion s.content] }

/-- The store processes the first operation it has accepted. -/
def process (s : WKHTTPSystemCookieStore) : WKHTTPSystemCookieStore :=
  match s.operations with
  | [] => s
  | operation :: rest => { s with operations := rest }.perform operation

/-- The block `ClearStoreAsync` passes to `getAllCookies:`. -/
def didGetCookiesToClear (s : WKHTTPSystemCookieStore) (cookies : List NSHTTPCookie) :
    WKHTTPSystemCookieStore :=
  if cookies.length = 0 then s.postToIOThread .clear
  else
    { s with
      operations := s.operations ++ cookies.map (.deleteToClear s.clears)
      remainingCookiesToClearCount := fun k =>
        if k = s.clears then cookies.length else s.remainingCookiesToClearCount k
      clears := s.clears + 1 }

/-- The block it passes to `deleteCookie:`. -/
def didDeleteToClear (s : WKHTTPSystemCookieStore) (clear : Nat) : WKHTTPSystemCookieStore :=
  let counted : WKHTTPSystemCookieStore :=
    { s with
      remainingCookiesToClearCount := fun k =>
        if k = clear then s.remainingCookiesToClearCount k - 1
        else s.remainingCookiesToClearCount k }
  if counted.remainingCookiesToClearCount clear = 0 then counted.postToIOThread .clear else counted

def handle (s : WKHTTPSystemCookieStore) : WKCompletion → WKHTTPSystemCookieStore
  | .gotCookies shouldInclude cookies => s.postToIOThread (.processCookies shouldInclude cookies)
  | .deletedCookie cookie => s.postToIOThread (.deleteCreationTime cookie)
  | .didSetCookie cookie cookieTime write => s.postToIOThread (.setCreationTime cookie cookieTime write)
  | .gotCookiesToClear cookies => s.didGetCookiesToClear cookies
  | .deletedToClear clear _ => s.didDeleteToClear clear

/-- The first completion handler runs. -/
def complete (s : WKHTTPSystemCookieStore) : WKHTTPSystemCookieStore :=
  match s.completions with
  | [] => s
  | completion :: rest => { s with completions := rest }.handle completion

def bookkeep (s : WKHTTPSystemCookieStore) : BookkeepingTask → WKHTTPSystemCookieStore
  | .processCookies shouldInclude cookies =>
    { s with
      creationTimeManager :=
        (sortedArrayUsingFunction compareCookies s.creationTimeManager
          (cookies.filter shouldInclude)).1 }
  | .deleteCreationTime cookie =>
    { s with creationTimeManager := s.creationTimeManager.deleteCreationTime cookie }
  | .setCreationTime cookie cookieTime write =>
    { s with
      creationTimeManager := s.creationTimeManager.setUniqueCreationTime cookie cookieTime
      madeUnique := fun i n =>
        if i = cookie.identity ∧ n = write then
          some (s.creationTimeManager.makeUniqueCreationTime cookieTime)
        else s.madeUnique i n }
  | .clear => { s with creationTimeManager := s.creationTimeManager.clear }

/-- The first task of the IO thread runs. -/
def runIOTask (s : WKHTTPSystemCookieStore) : WKHTTPSystemCookieStore :=
  match s.ioTasks with
  | [] => s
  | task :: rest => { s with ioTasks := rest }.bookkeep task

def step (s : WKHTTPSystemCookieStore) : CookieStoreEvent → WKHTTPSystemCookieStore
  | .getAllCookiesAsync => s.getAllCookiesAsync
  | .getCookiesForURLAsync shouldInclude => s.getCookiesForURLAsync shouldInclude
  | .deleteCookieAsync cookie => s.deleteCookieAsync cookie
  | .setCookieAsync cookie optionalCreationTime now =>
    s.setCookieAsync cookie optionalCreationTime now
  | .clearStoreAsync => s.clearStoreAsync
  | .runUITask => s.runUITask
  | .process => s.process
  | .complete => s.complete
  | .runIOTask => s.runIOTask

/-- A new store object over what WebKit's store has. -/
def start (cookies : List NSHTTPCookie) : WKHTTPSystemCookieStore where
  uiTasks := []
  cookies := cookies.map fun cookie => { cookie := cookie, write := none }
  operations := []
  completions := []
  ioTasks := []
  creationTimeManager := .empty
  remainingCookiesToClearCount _ := 0
  clears := 0
  writes := 0
  madeUnique _ _ := none

end WKHTTPSystemCookieStore

/-- The store driven by its callers, the two threads and WebKit. -/
def systemCookieStoreMachine : Machine WKHTTPSystemCookieStore CookieStoreEvent where
  init s := ∃ cookies, s = .start cookies
  pre _ _ := True
  step := WKHTTPSystemCookieStore.step

end IosChrome.Cookies

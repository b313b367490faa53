import IosChrome.Lib.Machine
import IosChrome.Cookies.SystemCookie

/-!
# The cache in front of `WKHTTPCookieStore`

`CRWWKHTTPCookieStore` keeps the last list `getAllCookies:` brought and hands
it out again until something tells it that the store has changed: a write made
through it, another store being installed, or the store's own notification.
The cache is emptied when a write is issued, and filled when a fetch comes
back, whatever was issued in between.

The stores process what they have accepted in their order and answer each
fetch with their content at that moment; the answer travels back, and any
answer on its way may be the next to arrive. `Served` is the contract of a
run: each list handed to a caller was, with every write issued before the
call in it, the content of the installed store at some moment between the call
and the completion.

The contract is kept by every run whose replies are current when they arrive
(`served_of_repliesCurrent`): what carries it is `CacheCurrent`, that a cached
list is the installed store's content with no write on its way. A reply that a
write or another store has overtaken breaks it for good: it fills the cache
with the old list after the event that should have emptied it
(`overtaken_notServed`).
-/

namespace IosChrome.Cookies

open IosChrome.Lib

/-! ## The stores -/

inductive StoreOperation where
  | getAllCookies (call : Nat)
  | setCookie (cookie : NSHTTPCookie)
  | deleteCookie (cookie : NSHTTPCookie)
  deriving DecidableEq

def StoreOperation.isWrite : StoreOperation → Bool
  | .getAllCookies _ => false
  | .setCookie _ => true
  | .deleteCookie _ => true

/-- An operation a store has accepted, and how many calls of `getAllCookies:`
were made before it. -/
structure Accepted where
  operation : StoreOperation
  calls : Nat
  deriving DecidableEq

/-- `WKHTTPCookieStore`: its cookies, and what it has still to process. -/
structure WKHTTPCookieStore where
  cookies : List NSHTTPCookie
  operations : List Accepted
  deriving DecidableEq

/-- The list for the completion handler of one call. -/
structure Answer where
  call : Nat
  cookies : List NSHTTPCookie
  deriving DecidableEq

/-! ## The wrapper -/

/-- `CRWWKHTTPCookieStore` among the stores: `httpCookieStore` is the one it
observes, `replies` are on their way from a store, `posted` waits in the main
queue. -/
structure CookieSystem (S : Type) where
  httpCookieStore : Option S
  cachedCookies : Option (List NSHTTPCookie)
  stores : S → WKHTTPCookieStore
  replies : List Answer
  posted : List Answer
  calls : Nat

inductive CookieEvent (S : Type) where
  | getAllCookies
  | setCookie (cookie : NSHTTPCookie)
  | deleteCookie (cookie : NSHTTPCookie)
  | setHTTPCookieStore (store : Option S)
  /-- A change made by somebody else, told to the observer of the store. -/
  | cookiesDidChange (store : S) (cookies : List NSHTTPCookie)
  /-- The store processes the first operation it has accepted. -/
  | process (store : S)
  /-- The answer to a fetch arrives. -/
  | reply (call : Nat)
  /-- The main queue comes to a block `getAllCookies:` has dispatched. -/
  | runPosted

namespace CookieSystem

variable {S : Type} [DecidableEq S]

def updateStore (s : CookieSystem S) (x : S) (store : WKHTTPCookieStore) : CookieSystem S :=
  { s with stores := fun y => if y = x then store else s.stores y }

/-- A message to the installed store; one to `nil` does nothing. -/
def forward (s : CookieSystem S) (operation : StoreOperation) : CookieSystem S :=
  match s.httpCookieStore with
  | none => s
  | some x => s.updateStore x
      { s.stores x with
        operations := (s.stores x).operations ++ [{ operation := operation, calls := s.calls }] }

/-- What a call of `getAllCookies:` hands out without asking the store. -/
def result (s : CookieSystem S) : Option (List NSHTTPCookie) :=
  match s.httpCookieStore with
  | some _ => s.cachedCookies
  | none => some []

def getAllCookies (s : CookieSystem S) : CookieSystem S :=
  match s.result with
  | some cookies =>
    { s with
      posted := s.posted ++ [{ call := s.calls, cookies := cookies }]
      calls := s.calls + 1 }
  | none => { s.forward (.getAllCookies s.calls) with calls := s.calls + 1 }

def setCookie (s : CookieSystem S) (cookie : NSHTTPCookie) : CookieSystem S :=
  forward { s with cachedCookies := none } (.setCookie cookie)

def deleteCookie (s : CookieSystem S) (cookie : NSHTTPCookie) : CookieSystem S :=
  forward { s with cachedCookies := none } (.deleteCookie cookie)

def setHTTPCookieStore (s : CookieSystem S) (newCookieStore : Option S) : CookieSystem S :=
  if newCookieStore = s.httpCookieStore then { s with cachedCookies := none }
  else { s with cachedCookies := none, httpCookieStore := newCookieStore }

/-- The store has changed; `cookiesDidChangeInCookieStore:` is sent to its
observer. -/
def cookiesDidChange (s : CookieSystem S) (x : S) (cookies : List NSHTTPCookie) : CookieSystem S :=
  let changed := s.updateStore x { s.stores x with cookies := cookies }
  if s.httpCookieStore = some x then { changed with cachedCookies := none } else changed

/-- What a store does with its first operation; the others stay. -/
def perform (s : CookieSystem S) (x : S) (rest : List Accepted) : StoreOperation → CookieSystem S
  | .getAllCookies call =>
    { s.updateStore x { s.stores x with operations := rest } with
      replies := s.replies ++ [{ call := call, cookies := (s.stores x).cookies }] }
  | .setCookie cookie =>
    s.updateStore x { cookies := storeCookie (s.stores x).cookies cookie, operations := rest }
  | .deleteCookie cookie =>
    s.updateStore x { cookies := dropCookie (s.stores x).cookies cookie, operations := rest }

def process (s : CookieSystem S) (x : S) : CookieSystem S :=
  match (s.stores x).operations with
  | [] => s
  | first :: rest => s.perform x rest first.operation

/-- The reply of a call that is on its way. -/
def replyOf (s : CookieSystem S) (call : Nat) : Option Answer := s.replies.find? (·.call = call)

/-- The block passed to the store's `getAllCookies:`. -/
def reply (s : CookieSystem S) (call : Nat) : CookieSystem S :=
  match s.replyOf call with
  | none => s
  | some answer =>
    { s with
      replies := s.replies.filter (·.call ≠ call)
      cachedCookies := some answer.cookies }

def step (s : CookieSystem S) : CookieEvent S → CookieSystem S
  | .getAllCookies => s.getAllCookies
  | .setCookie cookie => s.setCookie cookie
  | .deleteCookie cookie => s.deleteCookie cookie
  | .setHTTPCookieStore store => s.setHTTPCookieStore store
  | .cookiesDidChange x cookies => s.cookiesDidChange x cookies
  | .process x => s.process x
  | .reply call => s.reply call
  | .runPosted => { s with posted := s.posted.tail }

/-- The completion handler an event calls, and with what. -/
def handed (s : CookieSystem S) : CookieEvent S → Option Answer
  | .reply call => s.replyOf call
  | .runPosted => s.posted.head?
  | _ => none

/-- A new wrapper among stores that have nothing left to do. -/
def start (cookies : S → List NSHTTPCookie) : CookieSystem S where
  httpCookieStore := none
  cachedCookies := none
  stores x := { cookies := cookies x, operations := [] }
  replies := []
  posted := []
  calls := 0

end CookieSystem

/-- The wrapper driven by its callers, the stores and the main queue. -/
def cookieMachine (S : Type) [DecidableEq S] : Machine (CookieSystem S) (CookieEvent S) where
  init s := ∃ cookies, s = .start cookies
  pre _ _ := True
  step := CookieSystem.step

namespace CookieSystem

variable {S : Type} [DecidableEq S]

/-! ## What a caller must be given -/

/-- The installed store's cookies; none are there without a store. -/
def content (s : CookieSystem S) : List NSHTTPCookie :=
  match s.httpCookieStore with
  | none => []
  | some x => (s.stores x).cookies

/-- What the installed store has still to process. -/
def pending (s : CookieSystem S) : List Accepted :=
  match s.httpCookieStore with
  | none => []
  | some x => (s.stores x).operations

/-- The list is the content of the installed store, and every write issued
before the call is in it. -/
def Reflects (s : CookieSystem S) (answer : Answer) : Prop :=
  s.content = answer.cookies ∧
    ∀ op ∈ s.pending, op.operation.isWrite = true → ¬ op.calls ≤ answer.call

instance (s : CookieSystem S) (answer : Answer) : Decidable (s.Reflects answer) :=
  inferInstanceAs (Decidable (_ ∧ _))

/-- Each list handed to a caller was the content of the installed store at
some moment between the call and the completion. -/
def Served (s : CookieSystem S) (events : List (CookieEvent S)) : Prop :=
  ∀ before between event after answer,
    events = before ++ .getAllCookies :: (between ++ event :: after) →
    ((cookieMachine S).exec s (before ++ .getAllCookies :: between)).handed event = some answer →
    answer.call = ((cookieMachine S).exec s before).calls →
    ∃ n ≤ between.length,
      ((cookieMachine S).exec s (before ++ .getAllCookies :: between.take n)).Reflects answer

/-- Nothing has overtaken the reply that arrives: its list is what the
installed store has, and no write is on its way there. -/
def ReplyCurrent (s : CookieSystem S) : CookieEvent S → Prop
  | .reply call => ∀ answer ∈ s.replies, answer.call = call →
      s.content = answer.cookies ∧ ∀ op ∈ s.pending, op.operation.isWrite = false
  | _ => True

instance (s : CookieSystem S) : (event : CookieEvent S) → Decidable (s.ReplyCurrent event)
  | .reply _ => inferInstanceAs (Decidable (∀ _ ∈ s.replies, _))
  | .getAllCookies => isTrue trivial
  | .setCookie _ => isTrue trivial
  | .deleteCookie _ => isTrue trivial
  | .setHTTPCookieStore _ => isTrue trivial
  | .cookiesDidChange _ _ => isTrue trivial
  | .process _ => isTrue trivial
  | .runPosted => isTrue trivial

/-! ## The cached list is current -/

/-- A list that may be handed out again is what the installed store has, with
no write on its way to it. -/
def CacheCurrent (s : CookieSystem S) : Prop :=
  ∀ x cookies, s.httpCookieStore = some x → s.cachedCookies = some cookies →
    (s.stores x).cookies = cookies ∧ ∀ op ∈ (s.stores x).operations, op.operation.isWrite = false

variable {s : CookieSystem S}

omit [DecidableEq S] in
theorem cacheCurrent_of_no_cache (h : s.cachedCookies = none) :
    s.CacheCurrent := by
  intro x cookies _ hc
  rw [h] at hc
  cases hc

theorem forward_cachedCookies (s : CookieSystem S) (operation : StoreOperation) :
    (s.forward operation).cachedCookies = s.cachedCookies := by
  unfold forward
  split <;> rfl

theorem forward_posted (s : CookieSystem S) (operation : StoreOperation) :
    (s.forward operation).posted = s.posted := by
  unfold forward
  split <;> rfl

theorem forward_calls (s : CookieSystem S) (operation : StoreOperation) :
    (s.forward operation).calls = s.calls := by
  unfold forward
  split <;> rfl

theorem getAllCookies_of_result {cookies : List NSHTTPCookie} (h : s.result = some cookies) :
    s.getAllCookies =
      { s with
        posted := s.posted ++ [{ call := s.calls, cookies := cookies }]
        calls := s.calls + 1 } := by
  unfold getAllCookies
  rw [h]

theorem getAllCookies_of_no_result (h : s.result = none) :
    s.getAllCookies = { s.forward (.getAllCookies s.calls) with calls := s.calls + 1 } := by
  unfold getAllCookies
  rw [h]

omit [DecidableEq S] in
theorem no_cache_of_no_result (h : s.result = none) :
    s.cachedCookies = none := by
  unfold result at h
  split at h
  · exact h
  · cases h

theorem cacheCurrent_getAllCookies (h : s.CacheCurrent) :
    s.getAllCookies.CacheCurrent := by
  cases hr : s.result with
  | some cookies =>
    rw [getAllCookies_of_result hr]
    exact h
  | none =>
    rw [getAllCookies_of_no_result hr]
    exact cacheCurrent_of_no_cache ((forward_cachedCookies s _).trans (no_cache_of_no_result hr))

theorem cacheCurrent_updateStore_of_ne (h : s.CacheCurrent) {x : S}
    (hx : s.httpCookieStore ≠ some x) (store : WKHTTPCookieStore) :
    (s.updateStore x store).CacheCurrent := by
  intro y cookies hy hc
  have hne : y ≠ x := fun he => hx (he ▸ hy)
  show (if y = x then store else s.stores y).cookies = cookies ∧
    ∀ op ∈ (if y = x then store else s.stores y).operations, _
  rw [if_neg hne]
  exact h y cookies hy hc

theorem process_of_cons {x : S} {first : Accepted} {rest : List Accepted}
    (h : (s.stores x).operations = first :: rest) :
    s.process x = s.perform x rest first.operation := by
  unfold process
  rw [h]

theorem process_of_nil {x : S} (h : (s.stores x).operations = []) :
    s.process x = s := by
  unfold process
  rw [h]

theorem cacheCurrent_process (h : s.CacheCurrent) (x : S) :
    (s.process x).CacheCurrent := by
  cases hops : (s.stores x).operations with
  | nil =>
    rw [process_of_nil hops]
    exact h
  | cons first rest =>
    rw [process_of_cons hops]
    by_cases hx : s.httpCookieStore = some x
    · cases hc : s.cachedCookies with
      | none => cases first.operation <;> exact cacheCurrent_of_no_cache hc
      | some cookies =>
        -- with a cached list only fetches are in the queue, and they change nothing
        obtain ⟨hcookies, hquiet⟩ := h x cookies hx hc
        rw [hops] at hquiet
        have hfetch := hquiet first List.mem_cons_self
        cases hop : first.operation with
        | getAllCookies call =>
          intro y cookies' hy hc'
          obtain rfl : x = y := Option.some.inj (hx.symm.trans hy)
          obtain rfl : cookies = cookies' := Option.some.inj (hc.symm.trans hc')
          have hstore : ((s.perform x rest (.getAllCookies call)).stores x) =
              { s.stores x with operations := rest } := if_pos rfl
          rw [hstore]
          exact ⟨hcookies, fun op hop => hquiet op (List.mem_cons_of_mem _ hop)⟩
        | setCookie cookie => rw [hop] at hfetch; cases hfetch
        | deleteCookie cookie => rw [hop] at hfetch; cases hfetch
    · cases first.operation <;> exact cacheCurrent_updateStore_of_ne h hx _

omit [DecidableEq S] in
theorem cacheCurrent_reply (h : s.CacheCurrent) {call : Nat}
    (hcurrent : s.ReplyCurrent (.reply call)) : (s.reply call).CacheCurrent := by
  unfold reply
  cases hr : s.replyOf call with
  | none => exact h
  | some answer =>
    obtain ⟨hcontent, hquiet⟩ := hcurrent answer (List.mem_of_find?_eq_some hr)
      (by simpa using List.find?_some hr)
    intro x cookies hx hc
    obtain rfl : answer.cookies = cookies := Option.some.inj hc
    have hx' : s.httpCookieStore = some x := hx
    unfold content at hcontent
    unfold pending at hquiet
    rw [hx'] at hcontent hquiet
    exact ⟨hcontent, hquiet⟩

theorem cacheCurrent_step (h : s.CacheCurrent) (event : CookieEvent S)
    (hcurrent : s.ReplyCurrent event) : (s.step event).CacheCurrent := by
  cases event with
  | getAllCookies => exact cacheCurrent_getAllCookies h
  | setCookie cookie => exact cacheCurrent_of_no_cache (forward_cachedCookies _ _)
  | deleteCookie cookie => exact cacheCurrent_of_no_cache (forward_cachedCookies _ _)
  | setHTTPCookieStore store =>
    refine cacheCurrent_of_no_cache ?_
    show (s.setHTTPCookieStore store).cachedCookies = none
    unfold setHTTPCookieStore
    split <;> rfl
  | cookiesDidChange x cookies =>
    show (s.cookiesDidChange x cookies).CacheCurrent
    unfold cookiesDidChange
    by_cases hx : s.httpCookieStore = some x
    · rw [if_pos hx]
      exact cacheCurrent_of_no_cache rfl
    · rw [if_neg hx]
      exact cacheCurrent_updateStore_of_ne h hx _
  | process x => exact cacheCurrent_process h x
  | reply call => exact cacheCurrent_reply h hcurrent
  | runPosted => exact h

/-! ## What waits in the main queue -/

/-- What is posted for the calls before the `n`-th, and for it, was right when
it was called: `t` is the state right after. -/
structure PostedFor (t : CookieSystem S) (n : Nat) (s : CookieSystem S) : Prop where
  called : n < s.calls
  reflects : ∀ answer ∈ s.posted, answer.call = n → t.Reflects answer

/-- The blocks in the main queue are for calls that were made. -/
def PostedCalled (s : CookieSystem S) : Prop := ∀ answer ∈ s.posted, answer.call < s.calls

/-- How an event changes the main queue and the number of calls. -/
theorem step_posted (s : CookieSystem S) (event : CookieEvent S) :
    ((s.step event).calls = s.calls ∧ ∀ answer ∈ (s.step event).posted, answer ∈ s.posted) ∨
    (event = .getAllCookies ∧ (s.step event).calls = s.calls + 1 ∧
      ∀ answer ∈ (s.step event).posted, answer ∈ s.posted ∨ answer.call = s.calls) := by
  cases event with
  | getAllCookies =>
    refine .inr ⟨rfl, ?_⟩
    show s.getAllCookies.calls = _ ∧ ∀ answer ∈ s.getAllCookies.posted, _
    cases hr : s.result with
    | some cookies =>
      rw [getAllCookies_of_result hr]
      refine ⟨rfl, fun answer ha => ?_⟩
      rcases List.mem_append.1 ha with ha | ha
      · exact .inl ha
      · exact .inr (List.mem_singleton.1 ha ▸ rfl)
    | none =>
      rw [getAllCookies_of_no_result hr]
      refine ⟨rfl, fun answer ha => .inl ?_⟩
      exact forward_posted s _ ▸ ha
  | setCookie cookie =>
    left
    show (s.setCookie cookie).calls = _ ∧ ∀ answer ∈ (s.setCookie cookie).posted, _
    unfold setCookie
    rw [forward_calls, forward_posted]
    exact ⟨rfl, fun answer ha => ha⟩
  | deleteCookie cookie =>
    left
    show (s.deleteCookie cookie).calls = _ ∧ ∀ answer ∈ (s.deleteCookie cookie).posted, _
    unfold deleteCookie
    rw [forward_calls, forward_posted]
    exact ⟨rfl, fun answer ha => ha⟩
  | setHTTPCookieStore store =>
    left
    show (s.setHTTPCookieStore store).calls = _ ∧ ∀ answer ∈ (s.setHTTPCookieStore store).posted, _
    unfold setHTTPCookieStore
    split <;> exact ⟨rfl, fun answer ha => ha⟩
  | cookiesDidChange x cookies =>
    left
    show (s.cookiesDidChange x cookies).calls = _ ∧ ∀ answer ∈ (s.cookiesDidChange x cookies).posted, _
    unfold cookiesDidChange
    split <;> exact ⟨rfl, fun answer ha => ha⟩
  | process x =>
    left
    show (s.process x).calls = _ ∧ ∀ answer ∈ (s.process x).posted, _
    cases hops : (s.stores x).operations with
    | nil => exact ⟨congrArg calls (process_of_nil hops), fun answer ha => process_of_nil hops ▸ ha⟩
    | cons first rest =>
      rw [process_of_cons hops]
      cases first.operation <;> exact ⟨rfl, fun answer ha => ha⟩
  | reply call =>
    left
    show (s.reply call).calls = _ ∧ ∀ answer ∈ (s.reply call).posted, _
    unfold reply
    split <;> exact ⟨rfl, fun answer ha => ha⟩
  | runPosted => exact .inl ⟨rfl, fun answer ha => List.mem_of_mem_tail ha⟩

theorem postedCalled_step (h : s.PostedCalled) (event : CookieEvent S) :
    (s.step event).PostedCalled := by
  intro answer ha
  rcases step_posted s event with ⟨hcalls, hposted⟩ | ⟨_, hcalls, hposted⟩
  · rw [hcalls]
    exact h answer (hposted answer ha)
  · rw [hcalls]
    rcases hposted answer ha with hold | hnew
    · exact Nat.lt_succ_of_lt (h answer hold)
    · omega

theorem PostedFor.step {t s : CookieSystem S} {n : Nat} (h : PostedFor t n s)
    (event : CookieEvent S) : PostedFor t n (s.step event) := by
  have hcalled := h.called
  rcases step_posted s event with ⟨hcalls, hposted⟩ | ⟨_, hcalls, hposted⟩
  · exact ⟨hcalls ▸ hcalled, fun answer ha hn => h.reflects answer (hposted answer ha) hn⟩
  · refine ⟨by omega, fun answer ha hn => ?_⟩
    rcases hposted answer ha with hold | hnew
    · exact h.reflects answer hold hn
    · omega

/-- A call that is answered from the cache is answered with what the installed
store has at that moment. -/
theorem postedFor_call (hcache : s.CacheCurrent) (hposted : s.PostedCalled) :
    PostedFor s.getAllCookies s.calls s.getAllCookies := by
  have hold : ∀ answer ∈ s.posted, answer.call ≠ s.calls := fun answer ha =>
    Nat.ne_of_lt (hposted answer ha)
  cases hr : s.result with
  | none =>
    rw [getAllCookies_of_no_result hr]
    refine ⟨Nat.lt_succ_self _, fun answer ha hn => absurd hn (hold answer ?_)⟩
    exact forward_posted s _ ▸ ha
  | some cookies =>
    rw [getAllCookies_of_result hr]
    refine ⟨Nat.lt_succ_self _, fun answer ha hn => ?_⟩
    rcases List.mem_append.1 ha with ha | ha
    · exact absurd hn (hold answer ha)
    · obtain rfl := List.mem_singleton.1 ha
      unfold result at hr
      unfold Reflects content pending
      cases hx : s.httpCookieStore with
      | none =>
        rw [hx] at hr
        exact ⟨Option.some.inj hr, fun op hop => absurd hop List.not_mem_nil⟩
      | some x =>
        rw [hx] at hr
        obtain ⟨hcontent, hquiet⟩ := hcache x cookies hx hr
        refine ⟨hcontent, fun op hop hwrite => ?_⟩
        rw [hquiet op hop] at hwrite
        cases hwrite

/-! ## Runs -/

theorem cacheCurrent_exec {events : List (CookieEvent S)}
    (hcurrent : (cookieMachine S).Always ReplyCurrent s events) (h : s.CacheCurrent) :
    ((cookieMachine S).exec s events).CacheCurrent :=
  Machine.Guarded.invariant (I := CacheCurrent) (fun _ event h _ hcurrent => cacheCurrent_step h event hcurrent) h
    ((cookieMachine S).always_of_forall (fun _ _ => trivial) s events) hcurrent

theorem postedCalled_exec (h : s.PostedCalled) (events : List (CookieEvent S)) :
    ((cookieMachine S).exec s events).PostedCalled :=
  Machine.Run.invariant (I := PostedCalled) (fun _ event h _ => postedCalled_step h event) h
    ((cookieMachine S).always_of_forall (fun _ _ => trivial) s events)

theorem PostedFor.exec {t s : CookieSystem S} {n : Nat} (h : PostedFor t n s)
    (events : List (CookieEvent S)) : PostedFor t n ((cookieMachine S).exec s events) :=
  Machine.Run.invariant (fun _ event h _ => h.step event) h
    ((cookieMachine S).always_of_forall (fun _ _ => trivial) s events)

omit [DecidableEq S] in
theorem start_cacheCurrent (cookies : S → List NSHTTPCookie) : (start cookies).CacheCurrent :=
  cacheCurrent_of_no_cache rfl

omit [DecidableEq S] in
theorem start_postedCalled (cookies : S → List NSHTTPCookie) : (start cookies).PostedCalled :=
  fun _ ha => absurd ha List.not_mem_nil

/-- **A run whose replies are current when they arrive serves every caller.** -/
theorem served_of_repliesCurrent {s : CookieSystem S} {events : List (CookieEvent S)}
    (hstart : (cookieMachine S).init s)
    (hcurrent : (cookieMachine S).Always ReplyCurrent s events) : Served s events := by
  intro before between event after answer hevents hhanded hcall
  subst hevents
  obtain ⟨cookies, rfl⟩ := hstart
  rw [Machine.always_append, Machine.always_cons, Machine.always_append, Machine.always_cons]
    at hcurrent
  obtain ⟨hbefore, _, _, hevent, _⟩ := hcurrent
  -- up to the call: the cache is current, and nothing is posted for a later call
  have hcache := cacheCurrent_exec hbefore (start_cacheCurrent cookies)
  have hposted := postedCalled_exec (start_postedCalled cookies) before
  rw [Machine.exec_append, Machine.exec_cons] at hhanded
  cases event with
  | reply call =>
    -- a reply is current when it arrives: the last moment will do
    have ha := List.mem_of_find?_eq_some hhanded
    obtain ⟨hcontent, hquiet⟩ := hevent answer ha (by simpa using List.find?_some hhanded)
    refine ⟨between.length, Nat.le_refl _, ?_⟩
    rw [List.take_length, Machine.exec_append, Machine.exec_cons]
    refine ⟨hcontent, fun op hop hwrite => ?_⟩
    rw [hquiet op hop] at hwrite
    cases hwrite
  | runPosted =>
    -- a posted block has what was right when the call posted it
    have hfor := (postedFor_call hcache hposted).exec between
    refine ⟨0, Nat.zero_le _, ?_⟩
    rw [List.take_zero, Machine.exec_append, Machine.exec_cons]
    exact hfor.reflects answer (List.mem_of_mem_head? hhanded) hcall
  | getAllCookies => cases hhanded
  | setCookie cookie => cases hhanded
  | deleteCookie cookie => cases hhanded
  | setHTTPCookieStore store => cases hhanded
  | cookiesDidChange x cookies => cases hhanded
  | process x => cases hhanded

/-! ## A reply that was overtaken -/

/-- A cookie of the store `true`. -/
private def sessionCookie : NSHTTPCookie where
  name := "a"
  domain := "b"
  path := "/"
  value := "1"
  created := none
  expiresDate := none
  isSecure := false
  isHTTPOnly := false
  sameSitePolicy := none
  name_plain := by decide
  domain_plain := by decide

private def oneCookie : CookieSystem Bool := start fun x => if x then [sessionCookie] else []

/-- A fetch, its reply, and a call answered from the cache. -/
theorem served_of_repliesCurrent_cached :
    Served oneCookie
      [.setHTTPCookieStore (some true), .getAllCookies, .process true, .reply 0, .getAllCookies,
        .runPosted] :=
  served_of_repliesCurrent ⟨_, rfl⟩ (by decide +kernel)

/-- The fetch of the first store comes back after the second was installed:
its cookies fill the cache, and the next caller gets them. -/
theorem overtaken_notServed :
    ¬ Served oneCookie
      [.setHTTPCookieStore (some true), .getAllCookies, .setHTTPCookieStore (some false),
        .process true, .reply 0, .getAllCookies, .runPosted] := by
  intro h
  obtain ⟨n, hn, hreflects⟩ := h
    [.setHTTPCookieStore (some true), .getAllCookies, .setHTTPCookieStore (some false),
      .process true, .reply 0] [] .runPosted [] { call := 1, cookies := [sessionCookie] } rfl
    (by decide +kernel) (by decide +kernel)
  obtain rfl : n = 0 := Nat.le_zero.1 hn
  exact absurd hreflects (by decide +kernel)

end CookieSystem

end IosChrome.Cookies

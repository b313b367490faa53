import IosChrome.Cookies.WKHTTPSystemCookieStore

/-!
# The recorded times agree with the store

`TimesAgree` says of a store at rest that a cookie's recorded time is the one
made unique for the write it comes from, and that nothing is recorded for a
cookie that is not there.

On the way, the table is behind the store by the bookkeeping that is pending,
and what is kept is about that:

* the last pending block about a stored cookie is that of its write, or there
  is none and the table is right (`Settled`);
* once the pending blocks have run nothing is recorded for a cookie that is not
  there, or a clear is under way whose last block will take it away (`absent`,
  and `behind` for the blocks that follow that one).

The second survives everything. The first does not survive the end of a clear:
the table is cleared then, and a cookie that was written while the clear was
under way keeps its time only if its own block is still to come. That is
`ClearsBehindWrites`, under which `timesAgree_of_clearsBehindWrites` holds.
-/

namespace IosChrome.Cookies

open IosChrome.Lib

/-! ## The pending bookkeeping of one cookie -/

namespace BookkeepingTask

/-- The block decides what is recorded for the identity. -/
def settles (i : CookieIdentity) : BookkeepingTask → Bool
  | .processCookies _ _ => false
  | .deleteCreationTime cookie => cookie.identity = i
  | .setCreationTime cookie _ _ => cookie.identity = i
  | .clear => true

/-- The last of the blocks that decide it. -/
def lastOn (i : CookieIdentity) (tasks : List BookkeepingTask) : Option BookkeepingTask :=
  (tasks.filter (settles i)).getLast?

/-- Whether a time can be recorded for the identity after the block, if one was
before or not. -/
def presentStep (i : CookieIdentity) (present : Bool) : BookkeepingTask → Bool
  | .processCookies _ cookies => present || cookies.any fun cookie => cookie.identity = i
  | .deleteCreationTime cookie => if cookie.identity = i then false else present
  | .setCreationTime cookie _ _ => if cookie.identity = i then true else present
  | .clear => false

def presentAfter (i : CookieIdentity) (present : Bool) (tasks : List BookkeepingTask) : Bool :=
  tasks.foldl (presentStep i) present

variable {i : CookieIdentity}

theorem lastOn_append (tasks later : List BookkeepingTask) :
    lastOn i (tasks ++ later) = (lastOn i later).or (lastOn i tasks) := by
  unfold lastOn
  rw [List.filter_append, List.getLast?_append]

variable {task : BookkeepingTask}

theorem lastOn_concat_of_not (h : task.settles i = false) (tasks : List BookkeepingTask) :
    lastOn i (tasks ++ [task]) = lastOn i tasks := by
  rw [lastOn_append]
  simp [lastOn, h]

theorem lastOn_concat_of_settles (h : task.settles i = true) (tasks : List BookkeepingTask) :
    lastOn i (tasks ++ [task]) = some task := by
  rw [lastOn_append]
  simp [lastOn, h]

theorem lastOn_cons (task : BookkeepingTask) (later : List BookkeepingTask) :
    lastOn i (task :: later) =
      (lastOn i later).or (if task.settles i = true then some task else none) := by
  rw [← List.singleton_append, lastOn_append]
  by_cases h : task.settles i = true
  · simp [lastOn, h]
  · simp [lastOn, h]

theorem lastOn_ne_none {tasks : List BookkeepingTask} (hmem : task ∈ tasks)
    (h : task.settles i = true) : lastOn i tasks ≠ none := by
  unfold lastOn
  rw [Ne, List.getLast?_eq_none_iff]
  exact List.ne_nil_of_mem (List.mem_filter.2 ⟨hmem, h⟩)

theorem presentStep_mono {b b' : Bool} (h : b = true → b' = true) (task : BookkeepingTask)
    (hb : presentStep i b task = true) : presentStep i b' task = true := by
  cases task with
  | processCookies shouldInclude cookies =>
    rcases Bool.or_eq_true_iff.1 hb with hb | hb
    · exact Bool.or_eq_true_iff.2 (.inl (h hb))
    · exact Bool.or_eq_true_iff.2 (.inr hb)
  | deleteCreationTime cookie =>
    have hb : (if cookie.identity = i then false else b) = true := hb
    show (if cookie.identity = i then false else b') = true
    by_cases hid : cookie.identity = i
    · rw [if_pos hid] at hb
      cases hb
    · rw [if_neg hid] at hb ⊢
      exact h hb
  | setCreationTime cookie cookieTime write =>
    have hb : (if cookie.identity = i then true else b) = true := hb
    show (if cookie.identity = i then true else b') = true
    by_cases hid : cookie.identity = i
    · rw [if_pos hid]
    · rw [if_neg hid] at hb ⊢
      exact h hb
  | clear => cases hb

/-- With less recorded before, no more is recorded after. -/
theorem presentAfter_mono {tasks : List BookkeepingTask} : ∀ {b b' : Bool}, (b = true → b' = true) →
    presentAfter i b' tasks = false → presentAfter i b tasks = false := by
  induction tasks with
  | nil =>
    intro b b' h hb'
    cases b with
    | false => rfl
    | true =>
      have hb' : b' = false := hb'
      exact absurd ((h rfl).symm.trans hb') Bool.noConfusion
  | cons task tasks ih =>
    intro b b' h hb'
    exact ih (presentStep_mono h task) hb'

end BookkeepingTask

open BookkeepingTask

namespace WKCompletion

/-- The clear a completion counts for. -/
def clearOf : WKCompletion → Option Nat
  | .deletedToClear k _ => some k
  | _ => none

/-- The completion of the write a stored cookie comes from. -/
def ofWrite (written : WrittenCookie) : WKCompletion → Bool
  | .didSetCookie cookie _ write =>
    cookie.identity = written.identity ∧ written.write = some write
  | _ => false

/-- As `presentStep`, for the block of a completion, with a deletion of a clear
counted as if it took the time away itself. -/
def behindStep (i : CookieIdentity) (present : Bool) (completion : WKCompletion) : Bool :=
  match completion with
  | .deletedToClear _ cookie => if cookie.identity = i then false else present
  | completion =>
    match completion.bookkeeping with
    | none => present
    | some task => presentStep i present task

def presentBehind (i : CookieIdentity) (present : Bool) (completions : List WKCompletion) : Bool :=
  completions.foldl (behindStep i) present

variable {i : CookieIdentity} {task : BookkeepingTask}

theorem behindStep_of_bookkeeping {completion : WKCompletion}
    (h : completion.bookkeeping = some task) (b : Bool) :
    behindStep i b completion = presentStep i b task := by
  cases completion <;> cases h <;> rfl

theorem behindStep_mono {b b' : Bool} (h : b = true → b' = true) (completion : WKCompletion)
    (hb : behindStep i b completion = true) : behindStep i b' completion = true := by
  cases completion with
  | gotCookies shouldInclude cookies =>
    rw [behindStep_of_bookkeeping rfl] at hb ⊢
    exact presentStep_mono h _ hb
  | deletedCookie cookie =>
    rw [behindStep_of_bookkeeping rfl] at hb ⊢
    exact presentStep_mono h _ hb
  | didSetCookie cookie cookieTime write =>
    rw [behindStep_of_bookkeeping rfl] at hb ⊢
    exact presentStep_mono h _ hb
  | gotCookiesToClear cookies => exact h hb
  | deletedToClear k cookie =>
    have hb : (if cookie.identity = i then false else b) = true := hb
    show (if cookie.identity = i then false else b') = true
    by_cases hid : cookie.identity = i
    · rw [if_pos hid] at hb
      cases hb
    · rw [if_neg hid] at hb ⊢
      exact h hb

theorem presentBehind_mono {completions : List WKCompletion} : ∀ {b b' : Bool},
    (b = true → b' = true) → presentBehind i b' completions = false →
    presentBehind i b completions = false := by
  induction completions with
  | nil =>
    intro b b' h hb'
    cases b with
    | false => rfl
    | true =>
      have hb' : b' = false := hb'
      exact absurd ((h rfl).symm.trans hb') Bool.noConfusion
  | cons completion completions ih =>
    intro b b' h hb'
    exact ih (behindStep_mono h completion) hb'

/-- Where no deletion of a clear is due, the completions do what their blocks
do. -/
theorem presentBehind_eq {completions : List WKCompletion} : ∀ (b : Bool),
    (∀ completion ∈ completions, completion.clearOf = none) →
    presentBehind i b completions = presentAfter i b (completions.filterMap bookkeeping) := by
  induction completions with
  | nil => intro b _; rfl
  | cons completion completions ih =>
    intro b h
    have hhead := h completion List.mem_cons_self
    have htail : ∀ c ∈ completions, c.clearOf = none :=
      fun c hc => h c (List.mem_cons_of_mem _ hc)
    cases completion with
    | gotCookies shouldInclude cookies => exact ih _ htail
    | deletedCookie cookie => exact ih _ htail
    | didSetCookie cookie cookieTime write => exact ih _ htail
    | gotCookiesToClear cookies => exact ih _ htail
    | deletedToClear k cookie => cases hhead

end WKCompletion

/-- The clear an operation counts for. -/
def WKOperation.clearOf : WKOperation → Option Nat
  | .deleteToClear k _ => some k
  | _ => none

theorem WKOperation.clearOf_completion (operation : WKOperation) (content : List NSHTTPCookie) :
    (operation.completion content).clearOf = operation.clearOf := by
  cases operation <;> rfl

/-! ## What is kept -/

namespace WKHTTPSystemCookieStore

/-- Nothing is pending anywhere. -/
structure Quiescent (s : WKHTTPSystemCookieStore) : Prop where
  uiTasks : s.uiTasks = []
  operations : s.operations = []
  completions : s.completions = []
  ioTasks : s.ioTasks = []

/-- The store has no cookie of that identity. -/
def Absent (s : WKHTTPSystemCookieStore) (cookie : NSHTTPCookie) : Prop :=
  ∀ written ∈ s.cookies, written.identity ≠ cookie.identity

/-- **What the table owes the store**: the time of a stored cookie is the one
made unique for the write it comes from, and no other cookie has a time. -/
structure TimesAgree (s : WKHTTPSystemCookieStore) : Prop where
  recorded : ∀ written ∈ s.cookies, ∀ n, written.write = some n →
    ∃ t, s.madeUnique written.identity n = some t ∧
      s.creationTimeManager.recorded written.cookie = some t
  absent : ∀ cookie, s.Absent cookie → s.creationTimeManager.recorded cookie = none

/-- The blocks the IO thread has still to run, those of the completion handlers
that are due included. -/
def pendingBookkeeping (s : WKHTTPSystemCookieStore) : List BookkeepingTask :=
  s.ioTasks ++ s.completions.filterMap WKCompletion.bookkeeping

/-- How many deletions of a clear have still to complete. -/
def pendingClear (s : WKHTTPSystemCookieStore) (k : Nat) : Nat :=
  s.operations.countP (fun operation => operation.clearOf = some k) +
    s.completions.countP (fun completion => completion.clearOf = some k)

/-- A clear is under way. -/
def Clearing (s : WKHTTPSystemCookieStore) : Prop := ∃ k, s.pendingClear k ≠ 0

/-- The last pending block about a stored cookie is that of its write, or its
time is recorded and stays. -/
def Settled (s : WKHTTPSystemCookieStore) (written : WrittenCookie) (n : Nat) : Prop :=
  match lastOn written.identity s.pendingBookkeeping with
  | some task => ∃ cookie cookieTime, task = .setCreationTime cookie cookieTime n
  | none => ∃ t, s.madeUnique written.identity n = some t ∧
      s.creationTimeManager.recorded written.cookie = some t

/-- Whether a time is recorded once the pending blocks have run. -/
def presentAtRest (s : WKHTTPSystemCookieStore) (cookie : NSHTTPCookie) : Bool :=
  presentAfter cookie.identity (s.creationTimeManager.recorded cookie).isSome s.pendingBookkeeping

/-- The counts of the clears are right. -/
structure Counted (s : WKHTTPSystemCookieStore) : Prop where
  ui : ∀ operation ∈ s.uiTasks, operation.clearOf = none
  counted : ∀ k, s.remainingCookiesToClearCount k = s.pendingClear k
  fresh : ∀ k, s.clears ≤ k → s.remainingCookiesToClearCount k = 0

/-- No time of a cookie that is not stored will last. -/
structure Forgotten (s : WKHTTPSystemCookieStore) : Prop where
  absent : ∀ cookie, s.Absent cookie → s.presentAtRest cookie = false ∨ s.Clearing
  behind : ∀ cookie, s.Absent cookie →
    WKCompletion.presentBehind cookie.identity false s.completions = false

/-- The time of every stored cookie is right or will be. -/
def Remembered (s : WKHTTPSystemCookieStore) : Prop :=
  ∀ written ∈ s.cookies, ∀ n, written.write = some n → s.Settled written n

/-- The completion handler posts the block that clears the table. -/
def postsClear (s : WKHTTPSystemCookieStore) : WKCompletion → Bool
  | .gotCookiesToClear cookies => cookies.length = 0
  | .deletedToClear k _ => s.remainingCookiesToClearCount k - 1 = 0
  | _ => false

/-- When the table is about to be cleared, each stored cookie that was written
by a call has its completion handler still to run. -/
def ClearsBehindWrites (s : WKHTTPSystemCookieStore) : CookieStoreEvent → Prop
  | .complete =>
    match s.completions with
    | [] => True
    | completion :: rest => s.postsClear completion = true →
        ∀ written ∈ s.cookies, written.write ≠ none →
          ∃ later ∈ rest, later.ofWrite written = true
  | _ => True

instance (s : WKHTTPSystemCookieStore) :
    (event : CookieStoreEvent) → Decidable (s.ClearsBehindWrites event)
  | .complete =>
    match h : s.completions with
    | [] => isTrue (by unfold ClearsBehindWrites; rw [h]; trivial)
    | completion :: rest =>
      decidable_of_iff (s.postsClear completion = true →
        ∀ written ∈ s.cookies, written.write ≠ none →
          ∃ later ∈ rest, later.ofWrite written = true)
        (by unfold ClearsBehindWrites; rw [h])
  | .getAllCookiesAsync => isTrue trivial
  | .getCookiesForURLAsync _ => isTrue trivial
  | .deleteCookieAsync _ => isTrue trivial
  | .setCookieAsync _ _ _ => isTrue trivial
  | .clearStoreAsync => isTrue trivial
  | .runUITask => isTrue trivial
  | .process => isTrue trivial
  | .runIOTask => isTrue trivial

variable {s : WKHTTPSystemCookieStore}

theorem Quiescent.pendingBookkeeping (hq : s.Quiescent) : s.pendingBookkeeping = [] := by
  unfold WKHTTPSystemCookieStore.pendingBookkeeping
  rw [hq.ioTasks, hq.completions]
  rfl

theorem Quiescent.not_clearing (hq : s.Quiescent) : ¬ s.Clearing := by
  rintro ⟨k, hk⟩
  apply hk
  unfold pendingClear
  rw [hq.operations, hq.completions]
  rfl

theorem absent_at_rest (hq : s.Quiescent) (h : s.Forgotten) :
    ∀ cookie, s.Absent cookie → s.creationTimeManager.recorded cookie = none := by
  intro cookie habsent
  have hrest := (h.absent cookie habsent).resolve_right hq.not_clearing
  unfold presentAtRest at hrest
  rw [hq.pendingBookkeeping] at hrest
  cases hr : s.creationTimeManager.recorded cookie with
  | none => rfl
  | some t =>
    rw [hr] at hrest
    cases hrest

theorem timesAgree_of_quiescent (hq : s.Quiescent) (hforgotten : s.Forgotten)
    (hremembered : s.Remembered) : s.TimesAgree := by
  refine ⟨fun written hmem n hn => ?_, absent_at_rest hq hforgotten⟩
  have hsettled := hremembered written hmem n hn
  unfold Settled at hsettled
  rw [hq.pendingBookkeeping] at hsettled
  exact hsettled

/-! ## The callers and the tasks of the UI thread -/

/-- A step that touches neither the cookies nor the times, and moves no
operation of a clear. -/
structure Quiet (s s' : WKHTTPSystemCookieStore) : Prop where
  cookies : s'.cookies = s.cookies
  completions : s'.completions = s.completions
  ioTasks : s'.ioTasks = s.ioTasks
  manager : s'.creationTimeManager = s.creationTimeManager
  madeUnique : s'.madeUnique = s.madeUnique
  remaining : s'.remainingCookiesToClearCount = s.remainingCookiesToClearCount
  clears : s'.clears = s.clears
  pendingClear : s'.pendingClear = s.pendingClear
  ui : (∀ operation ∈ s.uiTasks, operation.clearOf = none) →
    ∀ operation ∈ s'.uiTasks, operation.clearOf = none

variable {s' : WKHTTPSystemCookieStore}

theorem Quiet.pendingBookkeeping (h : Quiet s s') : s'.pendingBookkeeping = s.pendingBookkeeping := by
  unfold WKHTTPSystemCookieStore.pendingBookkeeping
  rw [h.completions, h.ioTasks]

theorem Counted.of_quiet (h : s.Counted) (hq : Quiet s s') : s'.Counted where
  ui := hq.ui h.ui
  counted k := by rw [hq.remaining, hq.pendingClear]; exact h.counted k
  fresh k hk := by rw [hq.remaining]; exact h.fresh k (hq.clears ▸ hk)

theorem Forgotten.of_quiet (h : s.Forgotten) (hq : Quiet s s') : s'.Forgotten where
  absent cookie habsent := by
    unfold presentAtRest Clearing
    rw [hq.manager, hq.pendingBookkeeping, hq.pendingClear]
    exact h.absent cookie fun written hmem => habsent written (hq.cookies ▸ hmem)
  behind cookie habsent := by
    rw [hq.completions]
    exact h.behind cookie fun written hmem => habsent written (hq.cookies ▸ hmem)

theorem Remembered.of_quiet (h : s.Remembered) (hq : Quiet s s') : s'.Remembered := by
  intro written hmem n hn
  unfold Settled
  rw [hq.pendingBookkeeping, hq.madeUnique, hq.manager]
  exact h written (hq.cookies ▸ hmem) n hn

theorem quiet_postToUIThread {operation : WKOperation} (h : operation.clearOf = none) :
    Quiet s (s.postToUIThread operation) := by
  refine ⟨rfl, rfl, rfl, rfl, rfl, rfl, rfl, rfl, fun hui op hop => ?_⟩
  rcases List.mem_append.1 hop with hop | hop
  · exact hui op hop
  · exact List.mem_singleton.1 hop ▸ h

theorem quiet_setCookieAsync (cookie : NSHTTPCookie) (optionalCreationTime : Option Time)
    (now : Time) : Quiet s (s.setCookieAsync cookie optionalCreationTime now) := by
  refine ⟨rfl, rfl, rfl, rfl, rfl, rfl, rfl, rfl, fun hui op hop => ?_⟩
  rcases List.mem_append.1 hop with hop | hop
  · exact hui op hop
  · exact List.mem_singleton.1 hop ▸ rfl

theorem quiet_runUITask (hui : ∀ operation ∈ s.uiTasks, operation.clearOf = none) :
    Quiet s s.runUITask := by
  unfold runUITask
  cases htasks : s.uiTasks with
  | nil => exact ⟨rfl, rfl, rfl, rfl, rfl, rfl, rfl, rfl, id⟩
  | cons operation rest =>
    rw [htasks] at hui
    refine ⟨rfl, rfl, rfl, rfl, rfl, rfl, rfl, ?_, fun _ op hop => hui op (List.mem_cons_of_mem _ hop)⟩
    -- the operation that moves is none of a clear's deletions
    funext k
    have hop := hui operation List.mem_cons_self
    unfold pendingClear
    simp [hop]

/-! ## The store processes an operation -/

theorem counted_process (h : s.Counted) : s.process.Counted := by
  unfold process
  cases hops : s.operations with
  | nil => exact h
  | cons operation rest =>
    refine ⟨h.ui, fun k => ?_, h.fresh⟩
    have hcounted := h.counted k
    unfold pendingClear at hcounted ⊢
    rw [hops] at hcounted
    show s.remainingCookiesToClearCount k =
      rest.countP _ + (s.completions ++ [operation.completion _]).countP _
    rw [hcounted, List.countP_cons, List.countP_append, List.countP_singleton,
      operation.clearOf_completion]
    omega

theorem process_of_cons {operation : WKOperation} {rest : List WKOperation}
    (h : s.operations = operation :: rest) :
    s.process = { s with operations := rest }.perform operation := by
  unfold process
  rw [h]

theorem pendingBookkeeping_perform (s : WKHTTPSystemCookieStore) (operation : WKOperation) :
    (s.perform operation).pendingBookkeeping =
      s.pendingBookkeeping ++ ((operation.completion s.content).bookkeeping).toList := by
  show s.ioTasks ++ (s.completions ++ [operation.completion s.content]).filterMap _ = _
  rw [List.filterMap_append, ← List.append_assoc]
  unfold pendingBookkeeping
  cases h : (operation.completion s.content).bookkeeping with
  | none => rw [List.filterMap_cons_none h]; rfl
  | some task => rw [List.filterMap_cons_some h]; rfl

/-- A cookie that is gone but was not removed was not there before. -/
theorem absent_of_remove {cookie removed : NSHTTPCookie} (hne : removed.identity ≠ cookie.identity)
    (h : ∀ written ∈ Keyed.remove WrittenCookie.identity s.cookies removed.identity,
      written.identity ≠ cookie.identity) : s.Absent cookie := by
  intro written hmem he
  exact h written (Keyed.mem_remove.2 ⟨hmem, fun he' => hne (he'.symm.trans he)⟩) he

theorem content_any_of_absent {cookie : NSHTTPCookie} (h : s.Absent cookie) :
    (s.content.any fun c => c.identity = cookie.identity) = false := by
  rw [List.any_eq_false]
  intro c hc
  obtain ⟨written, hmem, rfl⟩ := List.mem_map.1 hc
  have hne : written.cookie.identity ≠ cookie.identity := h written hmem
  simpa using hne

/-- What an operation does to a cookie that is not stored afterwards: it was not
stored before and the completion leaves its time alone, or the completion takes
its time away. -/
theorem absent_perform {operation : WKOperation} {cookie : NSHTTPCookie}
    (h : (s.perform operation).Absent cookie) :
    (∀ b, WKCompletion.behindStep cookie.identity b (operation.completion s.content) = false) ∨
    (s.Absent cookie ∧
      ∀ b, WKCompletion.behindStep cookie.identity b (operation.completion s.content) = b) := by
  cases operation with
  | getCookies shouldInclude =>
    refine .inr ⟨h, fun b => ?_⟩
    have hany := content_any_of_absent (s := s) h
    show (b || s.content.any fun c => c.identity = cookie.identity) = b
    rw [hany, Bool.or_false]
  | deleteCookie removed =>
    by_cases he : removed.identity = cookie.identity
    · exact .inl fun b => if_pos he
    · exact .inr ⟨absent_of_remove he h, fun b => if_neg he⟩
  | setCookie stored cookieTime write =>
    have hne : stored.identity ≠ cookie.identity :=
      h { cookie := stored, write := some write } (Keyed.mem_put.2 (.inr rfl))
    refine .inr ⟨fun written hmem he => ?_, fun b => if_neg hne⟩
    exact h written (Keyed.mem_put.2 (.inl ⟨hmem, fun he' => hne (he'.symm.trans he)⟩)) he
  | getCookiesToClear => exact .inr ⟨h, fun b => rfl⟩
  | deleteToClear k removed =>
    by_cases he : removed.identity = cookie.identity
    · exact .inl fun b => if_pos he
    · exact .inr ⟨absent_of_remove he h, fun b => if_neg he⟩

theorem presentAfter_concat (i : CookieIdentity) (b : Bool) (tasks : List BookkeepingTask)
    (completion : WKCompletion) (h : completion.clearOf = none) :
    presentAfter i b (tasks ++ completion.bookkeeping.toList) =
      WKCompletion.behindStep i (presentAfter i b tasks) completion := by
  unfold presentAfter
  rw [List.foldl_append]
  cases completion with
  | deletedToClear k cookie => cases h
  | _ => rfl

theorem forgotten_process (h : s.Forgotten) : s.process.Forgotten := by
  cases hops : s.operations with
  | nil =>
    unfold process
    rw [hops]
    exact h
  | cons operation rest =>
    have hcount : ∀ k, s.process.pendingClear k = s.pendingClear k := by
      intro k
      rw [process_of_cons hops]
      unfold pendingClear
      rw [hops]
      show rest.countP _ + (s.completions ++ [operation.completion _]).countP _ = _
      rw [List.countP_cons, List.countP_append, List.countP_singleton, operation.clearOf_completion]
      omega
    rw [process_of_cons hops] at hcount ⊢
    refine ⟨fun cookie habsent => ?_, fun cookie habsent => ?_⟩
    · cases hclear : operation.clearOf with
      | some k =>
        -- the completion of a clear's deletion is due now
        refine .inr ⟨k, ?_⟩
        rw [hcount]
        unfold pendingClear
        rw [hops, List.countP_cons, if_pos (by simpa using hclear)]
        omega
      | none =>
        have hnone : (operation.completion s.content).clearOf = none :=
          (operation.clearOf_completion s.content).trans hclear
        unfold presentAtRest
        rw [pendingBookkeeping_perform]
        show presentAfter _ _ (s.pendingBookkeeping ++
          (operation.completion s.content).bookkeeping.toList) = false ∨ _
        rw [presentAfter_concat _ _ _ _ hnone]
        rcases absent_perform (s := s) habsent with hgone | ⟨hbefore, hsame⟩
        · exact .inl (hgone _)
        · rw [hsame]
          rcases h.absent cookie hbefore with hrest | ⟨k, hk⟩
          · exact .inl hrest
          · exact .inr ⟨k, (hcount k).symm ▸ hk⟩
    · show WKCompletion.presentBehind cookie.identity false
        (s.completions ++ [operation.completion s.content]) = false
      unfold WKCompletion.presentBehind
      rw [List.foldl_append]
      rcases absent_perform (s := s) habsent with hgone | ⟨hbefore, hsame⟩
      · exact hgone _
      · exact (hsame _).trans (h.behind cookie hbefore)

/-- A block that does not decide a cookie's time leaves it settled. -/
theorem settled_of_lastOn {written : WrittenCookie} {n : Nat} (h : s.Settled written n)
    (hlast : lastOn written.identity s'.pendingBookkeeping =
      lastOn written.identity s.pendingBookkeeping)
    (hunique : s'.madeUnique = s.madeUnique)
    (hmanager : s'.creationTimeManager = s.creationTimeManager) : s'.Settled written n := by
  unfold Settled at h ⊢
  rw [hlast, hunique, hmanager]
  exact h

theorem remembered_process (h : s.Remembered) : s.process.Remembered := by
  cases hops : s.operations with
  | nil =>
    unfold process
    rw [hops]
    exact h
  | cons operation rest =>
    rw [process_of_cons hops]
    intro written hmem n hn
    have hkeep : ∀ (hold : written ∈ s.cookies),
        (∀ task, (operation.completion s.content).bookkeeping = some task →
          task.settles written.identity = false) →
        ({ s with operations := rest }.perform operation).Settled written n := by
      intro hold hleave
      refine settled_of_lastOn (h written hold n hn) ?_ rfl rfl
      rw [pendingBookkeeping_perform]
      show lastOn _ (s.pendingBookkeeping ++ (operation.completion s.content).bookkeeping.toList) = _
      cases hb : (operation.completion s.content).bookkeeping with
      | none => rw [Option.toList_none, List.append_nil]
      | some task => exact lastOn_concat_of_not (hleave task hb) _
    cases operation with
    | getCookies shouldInclude =>
      refine hkeep hmem fun task htask => ?_
      cases htask
      rfl
    | deleteCookie removed =>
      obtain ⟨hold, hne⟩ := Keyed.mem_remove.1 hmem
      refine hkeep hold fun task htask => ?_
      cases htask
      exact decide_eq_false fun he => hne he.symm
    | setCookie stored cookieTime write =>
      rcases Keyed.mem_put.1 hmem with ⟨hold, hne⟩ | rfl
      · refine hkeep hold fun task htask => ?_
        cases htask
        exact decide_eq_false fun he => hne he.symm
      · -- the block of the write itself is the last one now
        obtain rfl : write = n := Option.some.inj hn
        have hsettles : (BookkeepingTask.setCreationTime stored cookieTime write).settles
            stored.identity = true := decide_eq_true rfl
        unfold Settled
        rw [pendingBookkeeping_perform]
        show match lastOn stored.identity (s.pendingBookkeeping ++
          [.setCreationTime stored cookieTime write]) with | some task => _ | none => _
        rw [lastOn_concat_of_settles hsettles]
        exact ⟨stored, cookieTime, rfl⟩
    | getCookiesToClear => exact hkeep hmem fun task htask => nomatch htask
    | deleteToClear k removed =>
      exact hkeep (Keyed.mem_remove.1 hmem).1 fun task htask => nomatch htask

/-! ## A completion handler runs -/

theorem complete_of_cons {completion : WKCompletion} {rest : List WKCompletion}
    (h : s.completions = completion :: rest) :
    s.complete = { s with completions := rest }.handle completion := by
  unfold complete
  rw [h]

theorem complete_of_nil (h : s.completions = []) : s.complete = s := by
  unfold complete
  rw [h]

/-- What a completion handler does: the counts of the clears stay right, and
either the pending blocks stay what they are, or it posts the block that clears
the table. -/
structure Handled (s s' : WKHTTPSystemCookieStore) (completion : WKCompletion)
    (rest : List WKCompletion) : Prop where
  counted : s'.Counted
  cookies : s'.cookies = s.cookies
  completions : s'.completions = rest
  manager : s'.creationTimeManager = s.creationTimeManager
  madeUnique : s'.madeUnique = s.madeUnique
  pending : (s.postsClear completion = true ∧
      s'.ioTasks = s.ioTasks ++ [.clear]) ∨
    (s.postsClear completion = false ∧ s'.pendingBookkeeping = s.pendingBookkeeping ∧
      (s.Clearing → s'.Clearing))

variable {task : BookkeepingTask}

/-- A completion handler that posts its block at once only moves it. -/
theorem handled_of_bookkeeping {completion : WKCompletion} {rest : List WKCompletion}
    (hc : s.completions = completion :: rest) (h : s.Counted)
    (hb : completion.bookkeeping = some task) (hclear : completion.clearOf = none)
    (hposts : s.postsClear completion = false)
    (hhandle : s.complete = { s with completions := rest }.postToIOThread task) :
    Handled s s.complete completion rest := by
  have hcount : ∀ k, s.complete.pendingClear k = s.pendingClear k := by
    intro k
    rw [hhandle]
    unfold pendingClear
    rw [hc, List.countP_cons, hclear]
    rfl
  rw [hhandle] at hcount ⊢
  refine ⟨⟨h.ui, fun k => (h.counted k).trans (hcount k).symm, h.fresh⟩, rfl, rfl, rfl, rfl,
    .inr ⟨hposts, ?_, fun ⟨k, hk⟩ => ⟨k, (hcount k).symm ▸ hk⟩⟩⟩
  show (s.ioTasks ++ [task]) ++ rest.filterMap WKCompletion.bookkeeping = _
  unfold pendingBookkeeping
  rw [hc, List.filterMap_cons_some hb, List.append_assoc]
  rfl

theorem handled_gotCookiesToClear {cookies : List NSHTTPCookie} {rest : List WKCompletion}
    (hc : s.completions = .gotCookiesToClear cookies :: rest) (h : s.Counted) :
    Handled s s.complete (.gotCookiesToClear cookies) rest := by
  rw [complete_of_cons hc]
  show Handled s ({ s with completions := rest }.didGetCookiesToClear cookies) _ rest
  unfold didGetCookiesToClear
  have hrest : ∀ k, s.pendingClear k =
      s.operations.countP (fun op => op.clearOf = some k) +
        rest.countP (fun c => c.clearOf = some k) := by
    intro k
    unfold pendingClear
    rw [hc, List.countP_cons]
    rfl
  by_cases hempty : cookies.length = 0
  · -- nothing to clear: the table is cleared at once
    rw [if_pos hempty]
    refine ⟨⟨h.ui, fun k => (h.counted k).trans (hrest k), h.fresh⟩, rfl, rfl, rfl, rfl,
      .inl ⟨decide_eq_true hempty, rfl⟩⟩
  · -- the deletions are issued, under a number no clear had before
    rw [if_neg hempty]
    have hcount : ∀ k, ((s.operations ++ cookies.map (WKOperation.deleteToClear s.clears)).countP
          fun op => op.clearOf = some k) =
        s.operations.countP (fun op => op.clearOf = some k) +
          if k = s.clears then cookies.length else 0 := by
      intro k
      rw [List.countP_append, List.countP_map]
      congr 1
      by_cases hk : k = s.clears
      · subst hk
        rw [if_pos rfl]
        exact List.countP_eq_length.2 fun c _ => decide_eq_true rfl
      · rw [if_neg hk]
        refine List.countP_eq_zero.2 fun c _ => ?_
        have hne : (WKOperation.deleteToClear s.clears c).clearOf ≠ some k :=
          fun he => hk (Option.some.inj he).symm
        simpa using hne
    refine ⟨⟨h.ui, fun k => ?_, fun k hk => ?_⟩, rfl, rfl, rfl, rfl,
      .inr ⟨decide_eq_false hempty, ?_, fun _ => ⟨s.clears, ?_⟩⟩⟩
    · show (if k = s.clears then cookies.length else s.remainingCookiesToClearCount k) =
        (s.operations ++ _).countP _ + rest.countP _
      rw [hcount]
      by_cases hk : k = s.clears
      · subst hk
        have hzero := (h.counted s.clears).symm.trans (h.fresh s.clears (le_refl _))
        rw [hrest] at hzero
        rw [if_pos rfl, if_pos rfl]
        omega
      · have hcounted := h.counted k
        rw [hrest] at hcounted
        rw [if_neg hk, if_neg hk]
        omega
    · have hk : s.clears + 1 ≤ k := hk
      show (if k = s.clears then cookies.length else s.remainingCookiesToClearCount k) = 0
      rw [if_neg (by omega)]
      exact h.fresh k (by omega)
    · show s.ioTasks ++ rest.filterMap WKCompletion.bookkeeping = _
      unfold pendingBookkeeping
      rw [hc]
      rfl
    · show (s.operations ++ _).countP _ + rest.countP _ ≠ 0
      rw [hcount, if_pos rfl]
      omega

theorem handled_deletedToClear {k : Nat} {cookie : NSHTTPCookie} {rest : List WKCompletion}
    (hc : s.completions = .deletedToClear k cookie :: rest) (h : s.Counted) :
    Handled s s.complete (.deletedToClear k cookie) rest := by
  rw [complete_of_cons hc]
  show Handled s ({ s with completions := rest }.didDeleteToClear k) _ rest
  have hrest : ∀ k', s.pendingClear k' =
      s.operations.countP (fun op => op.clearOf = some k') +
        (rest.countP (fun c => c.clearOf = some k') + if k' = k then 1 else 0) := by
    intro k'
    unfold pendingClear
    rw [hc, List.countP_cons]
    congr 2
    by_cases hk : k' = k
    · subst hk
      rw [if_pos rfl]
      exact if_pos (decide_eq_true rfl)
    · have hne : (WKCompletion.deletedToClear k cookie).clearOf ≠ some k' :=
        fun he => hk (Option.some.inj he).symm
      rw [if_neg hk, if_neg (by simpa using hne)]
  have hcounted : ∀ k', (if k' = k then s.remainingCookiesToClearCount k' - 1
        else s.remainingCookiesToClearCount k') =
      s.operations.countP (fun op => op.clearOf = some k') +
        rest.countP (fun c => c.clearOf = some k') := by
    intro k'
    have hk' := h.counted k'
    rw [hrest] at hk'
    by_cases hk : k' = k
    · rw [if_pos hk] at hk' ⊢
      omega
    · rw [if_neg hk] at hk' ⊢
      omega
  have hfresh : ∀ k', s.clears ≤ k' → (if k' = k then s.remainingCookiesToClearCount k' - 1
      else s.remainingCookiesToClearCount k') = 0 := by
    intro k' hk'
    have hzero := h.fresh k' hk'
    split <;> omega
  unfold didDeleteToClear
  show Handled s (if (if k = k then s.remainingCookiesToClearCount k - 1
    else s.remainingCookiesToClearCount k) = 0 then _ else _) _ rest
  rw [if_pos (rfl : k = k)]
  by_cases hlast : s.remainingCookiesToClearCount k - 1 = 0
  · rw [if_pos hlast]
    exact ⟨⟨h.ui, hcounted, hfresh⟩, rfl, rfl, rfl, rfl, .inl ⟨decide_eq_true hlast, rfl⟩⟩
  · rw [if_neg hlast]
    refine ⟨⟨h.ui, hcounted, hfresh⟩, rfl, rfl, rfl, rfl,
      .inr ⟨decide_eq_false hlast, ?_, fun _ => ⟨k, ?_⟩⟩⟩
    · show s.ioTasks ++ rest.filterMap WKCompletion.bookkeeping = _
      unfold pendingBookkeeping
      rw [hc]
      rfl
    · -- another deletion of the clear is still to complete
      have hk := hcounted k
      rw [if_pos rfl] at hk
      show s.operations.countP _ + rest.countP _ ≠ 0
      omega

theorem handled_complete {completion : WKCompletion} {rest : List WKCompletion}
    (hc : s.completions = completion :: rest) (h : s.Counted) :
    Handled s s.complete completion rest := by
  cases completion with
  | gotCookies shouldInclude cookies =>
    exact handled_of_bookkeeping hc h rfl rfl rfl (complete_of_cons hc)
  | deletedCookie cookie => exact handled_of_bookkeeping hc h rfl rfl rfl (complete_of_cons hc)
  | didSetCookie cookie cookieTime write =>
    exact handled_of_bookkeeping hc h rfl rfl rfl (complete_of_cons hc)
  | gotCookiesToClear cookies => exact handled_gotCookiesToClear hc h
  | deletedToClear k cookie => exact handled_deletedToClear hc h

theorem counted_complete (h : s.Counted) : s.complete.Counted := by
  cases hc : s.completions with
  | nil => exact (complete_of_nil hc).symm ▸ h
  | cons completion rest => exact (handled_complete hc h).counted

theorem forgotten_complete (hcounted : s.Counted) (h : s.Forgotten) : s.complete.Forgotten := by
  cases hc : s.completions with
  | nil => exact (complete_of_nil hc).symm ▸ h
  | cons completion rest =>
    have hhandled := handled_complete hc hcounted
    have hbehind : ∀ cookie, s.Absent cookie →
        WKCompletion.presentBehind cookie.identity false rest = false := by
      intro cookie habsent
      have hwhole := h.behind cookie habsent
      rw [hc] at hwhole
      exact WKCompletion.presentBehind_mono (fun hb => nomatch hb) hwhole
    have hold : ∀ cookie, s.complete.Absent cookie → s.Absent cookie :=
      fun cookie habsent written hmem => habsent written (hhandled.cookies.symm ▸ hmem)
    refine ⟨fun cookie habsent => ?_, fun cookie habsent => ?_⟩
    · rcases hhandled.pending with ⟨_, hio⟩ | ⟨_, hpending, hclearing⟩
      · by_cases hclear : s.complete.Clearing
        · exact .inr hclear
        · -- no other clear is under way: what follows the block records nothing
          left
          have hnone : ∀ c ∈ rest, c.clearOf = none := by
            intro c hcmem
            cases hk : c.clearOf with
            | none => rfl
            | some k =>
              refine absurd ⟨k, ?_⟩ hclear
              unfold pendingClear
              rw [hhandled.completions]
              have hpos : 0 < rest.countP fun c => c.clearOf = some k :=
                List.countP_pos_iff.2 ⟨c, hcmem, by simpa using hk⟩
              omega
          unfold presentAtRest pendingBookkeeping
          rw [hio, hhandled.completions, List.append_assoc]
          unfold presentAfter
          rw [List.foldl_append]
          have hrest := hbehind cookie (hold cookie habsent)
          rw [WKCompletion.presentBehind_eq false hnone] at hrest
          exact hrest
      · rcases h.absent cookie (hold cookie habsent) with hrest | hclear
        · left
          unfold presentAtRest
          rw [hpending, hhandled.manager]
          exact hrest
        · exact .inr (hclearing hclear)
    · rw [hhandled.completions]
      exact hbehind cookie (hold cookie habsent)

/-- **At the end of a clear the times survive that are still to be recorded.** -/
theorem remembered_complete (hcounted : s.Counted) (h : s.Remembered)
    (hbehind : s.ClearsBehindWrites .complete) : s.complete.Remembered := by
  cases hc : s.completions with
  | nil => exact (complete_of_nil hc).symm ▸ h
  | cons completion rest =>
    have hhandled := handled_complete hc hcounted
    intro written hmem n hn
    rw [hhandled.cookies] at hmem
    refine settled_of_lastOn (h written hmem n hn) ?_ hhandled.madeUnique hhandled.manager
    rcases hhandled.pending with ⟨hposts, hio⟩ | ⟨_, hpending, _⟩
    · -- the block of the write comes after the one that clears the table
      unfold ClearsBehindWrites at hbehind
      rw [hc] at hbehind
      obtain ⟨later, hlater, hwrite⟩ := hbehind hposts written hmem (by rw [hn]; nofun)
      have hlast : lastOn written.identity (rest.filterMap WKCompletion.bookkeeping) ≠ none := by
        cases later with
        | didSetCookie cookie cookieTime write =>
          have hid : cookie.identity = written.identity := (of_decide_eq_true hwrite).1
          exact lastOn_ne_none (List.mem_filterMap.2 ⟨_, hlater, rfl⟩)
            (show decide (cookie.identity = written.identity) = true from decide_eq_true hid)
        | _ => cases hwrite
      obtain ⟨task, htask⟩ := Option.ne_none_iff_exists'.1 hlast
      have hnone : completion.bookkeeping = none := by
        cases completion with
        | gotCookiesToClear cookies => rfl
        | deletedToClear k cookie => rfl
        | _ => cases hposts
      unfold pendingBookkeeping
      rw [hio, hhandled.completions, hc, List.filterMap_cons_none hnone, lastOn_append,
        lastOn_append, lastOn_append, htask]
      rfl
    · rw [hpending]

/-! ## A block runs on the IO thread -/

theorem runIOTask_of_cons {rest : List BookkeepingTask} (h : s.ioTasks = task :: rest) :
    s.runIOTask = { s with ioTasks := rest }.bookkeep task := by
  unfold runIOTask
  rw [h]

theorem runIOTask_of_nil (h : s.ioTasks = []) : s.runIOTask = s := by
  unfold runIOTask
  rw [h]

/-- A block touches the times only. -/
theorem bookkeep_frame (s : WKHTTPSystemCookieStore) (task : BookkeepingTask) :
    (s.bookkeep task).uiTasks = s.uiTasks ∧ (s.bookkeep task).cookies = s.cookies ∧
    (s.bookkeep task).operations = s.operations ∧ (s.bookkeep task).completions = s.completions ∧
    (s.bookkeep task).ioTasks = s.ioTasks ∧
    (s.bookkeep task).remainingCookiesToClearCount = s.remainingCookiesToClearCount ∧
    (s.bookkeep task).clears = s.clears := by
  cases task <;> exact ⟨rfl, rfl, rfl, rfl, rfl, rfl, rfl⟩

/-- A block records a time only where `presentStep` says that it may. -/
theorem recorded_bookkeep (s : WKHTTPSystemCookieStore) (task : BookkeepingTask)
    (cookie : NSHTTPCookie)
    (h : ((s.bookkeep task).creationTimeManager.recorded cookie).isSome = true) :
    presentStep cookie.identity (s.creationTimeManager.recorded cookie).isSome task = true := by
  cases task with
  | processCookies shouldInclude cookies =>
    have hframe := sortedCookies_frame (cookies.filter shouldInclude) s.creationTimeManager
    refine Bool.or_eq_true_iff.2 ?_
    cases hr : s.creationTimeManager.recorded cookie with
    | some t => exact .inl rfl
    | none =>
      obtain ⟨c, hc, hid⟩ := hframe.new cookie hr (Option.isSome_iff_ne_none.1 h)
      exact .inr (List.any_eq_true.2 ⟨c, (List.mem_filter.1 hc).1, decide_eq_true hid⟩)
  | deleteCreationTime removed =>
    have h : ((s.creationTimeManager.deleteCreationTime removed).recorded cookie).isSome = true := h
    rw [CookieCreationTimeManager.recorded_deleteCreationTime] at h
    show (if removed.identity = cookie.identity then false else _) = true
    by_cases he : cookie.identity = removed.identity
    · rw [if_pos he] at h
      cases h
    · rw [if_neg he] at h
      rw [if_neg (Ne.symm he)]
      exact h
  | setCreationTime stored cookieTime write =>
    have h : ((s.creationTimeManager.setUniqueCreationTime stored cookieTime).recorded
        cookie).isSome = true := h
    rw [CookieCreationTimeManager.recorded_setUniqueCreationTime] at h
    show (if stored.identity = cookie.identity then true else _) = true
    by_cases he : cookie.identity = stored.identity
    · rw [if_pos he.symm]
    · rw [if_neg he] at h
      rw [if_neg (Ne.symm he)]
      exact h
  | clear => cases h

/-- The block of a write records the time it has made unique. -/
theorem settled_bookkeep_write (s : WKHTTPSystemCookieStore) (stored : NSHTTPCookie)
    (cookieTime : Time) (n : Nat) {written : WrittenCookie}
    (hid : stored.identity = written.identity) :
    ∃ t, (s.bookkeep (.setCreationTime stored cookieTime n)).madeUnique written.identity n = some t ∧
      (s.bookkeep (.setCreationTime stored cookieTime n)).creationTimeManager.recorded
        written.cookie = some t := by
  refine ⟨s.creationTimeManager.makeUniqueCreationTime cookieTime, if_pos ⟨hid.symm, rfl⟩, ?_⟩
  refine (CookieCreationTimeManager.recorded_setUniqueCreationTime _ stored written.cookie _).trans ?_
  exact if_pos hid.symm

/-- A block that does not decide a cookie's time leaves it as it is. -/
theorem bookkeep_keeps (s : WKHTTPSystemCookieStore) {written : WrittenCookie} {n : Nat} {t : Time}
    (h : task.settles written.identity = false) (hunique : s.madeUnique written.identity n = some t)
    (hrecorded : s.creationTimeManager.recorded written.cookie = some t) :
    (s.bookkeep task).madeUnique written.identity n = some t ∧
      (s.bookkeep task).creationTimeManager.recorded written.cookie = some t := by
  cases task with
  | processCookies shouldInclude cookies =>
    exact ⟨hunique, (sortedCookies_frame (cookies.filter shouldInclude)
      s.creationTimeManager).kept written.cookie t hrecorded⟩
  | deleteCreationTime removed =>
    have hne : written.cookie.identity ≠ removed.identity :=
      fun he => of_decide_eq_false h he.symm
    refine ⟨hunique, ?_⟩
    refine (CookieCreationTimeManager.recorded_deleteCreationTime _ removed written.cookie).trans ?_
    rw [if_neg hne]
    exact hrecorded
  | setCreationTime stored cookieTime write =>
    have hne : written.cookie.identity ≠ stored.identity :=
      fun he => of_decide_eq_false h he.symm
    refine ⟨(if_neg fun he => hne he.1).trans hunique, ?_⟩
    refine (CookieCreationTimeManager.recorded_setUniqueCreationTime _ stored written.cookie _).trans ?_
    rw [if_neg hne]
    exact hrecorded
  | clear => cases h

theorem counted_runIOTask (h : s.Counted) : s.runIOTask.Counted := by
  cases hio : s.ioTasks with
  | nil => exact (runIOTask_of_nil hio).symm ▸ h
  | cons task rest =>
    rw [runIOTask_of_cons hio]
    obtain ⟨hui, _, hops, hcompletions, _, hremaining, hclears⟩ :=
      bookkeep_frame { s with ioTasks := rest } task
    refine ⟨fun op hop => h.ui op (hui ▸ hop), fun k => ?_, fun k hk => ?_⟩
    · unfold pendingClear
      rw [hremaining, hops, hcompletions]
      exact h.counted k
    · rw [hremaining]
      exact h.fresh k (hclears ▸ hk)

theorem forgotten_runIOTask (h : s.Forgotten) : s.runIOTask.Forgotten := by
  cases hio : s.ioTasks with
  | nil => exact (runIOTask_of_nil hio).symm ▸ h
  | cons task rest =>
    rw [runIOTask_of_cons hio]
    obtain ⟨_, hcookies, hops, hcompletions, htasks, _, _⟩ :=
      bookkeep_frame { s with ioTasks := rest } task
    have hold : ∀ cookie, ({ s with ioTasks := rest }.bookkeep task).Absent cookie →
        s.Absent cookie := fun cookie habsent written hmem =>
      habsent written (hcookies.symm ▸ hmem)
    refine ⟨fun cookie habsent => ?_, fun cookie habsent => ?_⟩
    · rcases h.absent cookie (hold cookie habsent) with hrest | ⟨k, hk⟩
      · left
        unfold presentAtRest pendingBookkeeping at hrest ⊢
        rw [hio] at hrest
        rw [htasks, hcompletions]
        exact presentAfter_mono (recorded_bookkeep { s with ioTasks := rest } task cookie) hrest
      · right
        refine ⟨k, ?_⟩
        unfold pendingClear
        rw [hops, hcompletions]
        exact hk
    · rw [hcompletions]
      exact h.behind cookie (hold cookie habsent)

theorem remembered_runIOTask (h : s.Remembered) : s.runIOTask.Remembered := by
  cases hio : s.ioTasks with
  | nil => exact (runIOTask_of_nil hio).symm ▸ h
  | cons task rest =>
    rw [runIOTask_of_cons hio]
    obtain ⟨_, hcookies, _, hcompletions, htasks, _, _⟩ :=
      bookkeep_frame { s with ioTasks := rest } task
    intro written hmem n hn
    have hsettled := h written (hcookies ▸ hmem) n hn
    have hafter : ({ s with ioTasks := rest }.bookkeep task).pendingBookkeeping =
        rest ++ s.completions.filterMap WKCompletion.bookkeeping := by
      unfold pendingBookkeeping
      rw [htasks, hcompletions]
    have hbefore : s.pendingBookkeeping =
        task :: (rest ++ s.completions.filterMap WKCompletion.bookkeeping) := by
      unfold pendingBookkeeping
      rw [hio]
      rfl
    unfold Settled at hsettled ⊢
    rw [hbefore, lastOn_cons] at hsettled
    rw [hafter]
    cases hlast : lastOn written.identity
        (rest ++ s.completions.filterMap WKCompletion.bookkeeping) with
    | some later =>
      rw [hlast] at hsettled
      exact hsettled
    | none =>
      rw [hlast] at hsettled
      cases hsettles : task.settles written.identity with
      | true =>
        -- the block was the last one about the cookie, so it is that of its write
        rw [hsettles] at hsettled
        obtain ⟨stored, cookieTime, rfl⟩ := hsettled
        exact settled_bookkeep_write _ stored cookieTime n (of_decide_eq_true hsettles)
      | false =>
        rw [hsettles] at hsettled
        obtain ⟨t, hunique, hrecorded⟩ := hsettled
        exact ⟨t, bookkeep_keeps { s with ioTasks := rest } hsettles hunique hrecorded⟩

/-! ## Runs -/

/-- A call or a task of the UI thread is quiet. -/
theorem quiet_or_run (h : s.Counted) (event : CookieStoreEvent) :
    Quiet s (s.step event) ∨ event = .process ∨ event = .complete ∨ event = .runIOTask := by
  cases event with
  | getAllCookiesAsync => exact .inl (quiet_postToUIThread rfl)
  | getCookiesForURLAsync shouldInclude => exact .inl (quiet_postToUIThread rfl)
  | deleteCookieAsync cookie => exact .inl (quiet_postToUIThread rfl)
  | setCookieAsync cookie optionalCreationTime now =>
    exact .inl (quiet_setCookieAsync cookie optionalCreationTime now)
  | clearStoreAsync => exact .inl (quiet_postToUIThread rfl)
  | runUITask => exact .inl (quiet_runUITask h.ui)
  | process => exact .inr (.inl rfl)
  | complete => exact .inr (.inr (.inl rfl))
  | runIOTask => exact .inr (.inr (.inr rfl))

theorem counted_step (h : s.Counted) (event : CookieStoreEvent) : (s.step event).Counted := by
  rcases quiet_or_run h event with hquiet | rfl | rfl | rfl
  · exact h.of_quiet hquiet
  · exact counted_process h
  · exact counted_complete h
  · exact counted_runIOTask h

theorem forgotten_step (hcounted : s.Counted) (h : s.Forgotten) (event : CookieStoreEvent) :
    (s.step event).Forgotten := by
  rcases quiet_or_run hcounted event with hquiet | rfl | rfl | rfl
  · exact h.of_quiet hquiet
  · exact forgotten_process h
  · exact forgotten_complete hcounted h
  · exact forgotten_runIOTask h

theorem remembered_step (hcounted : s.Counted) (h : s.Remembered) (event : CookieStoreEvent)
    (hbehind : s.ClearsBehindWrites event) : (s.step event).Remembered := by
  rcases quiet_or_run hcounted event with hquiet | rfl | rfl | rfl
  · exact h.of_quiet hquiet
  · exact remembered_process h
  · exact remembered_complete hcounted h hbehind
  · exact remembered_runIOTask h

theorem start_counted (cookies : List NSHTTPCookie) : (start cookies).Counted :=
  ⟨fun _ hop => absurd hop List.not_mem_nil, fun _ => rfl, fun _ _ => rfl⟩

theorem start_forgotten (cookies : List NSHTTPCookie) : (start cookies).Forgotten :=
  ⟨fun _ _ => .inl rfl, fun _ _ => rfl⟩

theorem start_remembered (cookies : List NSHTTPCookie) : (start cookies).Remembered := by
  intro written hmem n hn
  obtain ⟨cookie, _, rfl⟩ := List.mem_map.1 hmem
  cases hn

/-- **At rest no time is recorded for a cookie that is not stored**, whatever
the order of the steps. -/
theorem absent_of_quiescent {events : List CookieStoreEvent}
    (hinit : systemCookieStoreMachine.init s)
    (hq : (systemCookieStoreMachine.exec s events).Quiescent) :
    ∀ cookie, (systemCookieStoreMachine.exec s events).Absent cookie →
      (systemCookieStoreMachine.exec s events).creationTimeManager.recorded cookie = none := by
  obtain ⟨cookies, rfl⟩ := hinit
  have hinv : (systemCookieStoreMachine.exec (start cookies) events).Counted ∧
      (systemCookieStoreMachine.exec (start cookies) events).Forgotten :=
    Machine.Run.invariant (M := systemCookieStoreMachine) (I := fun s => s.Counted ∧ s.Forgotten)
      (fun _ event h _ => ⟨counted_step h.1 event, forgotten_step h.1 h.2 event⟩)
      ⟨start_counted cookies, start_forgotten cookies⟩
      (systemCookieStoreMachine.always_of_forall (fun _ _ => trivial) _ events)
  exact absent_at_rest hq hinv.2

/-- **At rest the recorded times agree with the store**, if every clear of the
table came before the blocks of the writes it must not take away. -/
theorem timesAgree_of_clearsBehindWrites {events : List CookieStoreEvent}
    (hinit : systemCookieStoreMachine.init s)
    (hbehind : systemCookieStoreMachine.Always ClearsBehindWrites s events)
    (hq : (systemCookieStoreMachine.exec s events).Quiescent) :
    (systemCookieStoreMachine.exec s events).TimesAgree := by
  obtain ⟨cookies, rfl⟩ := hinit
  have hinv : (systemCookieStoreMachine.exec (start cookies) events).Counted ∧
      (systemCookieStoreMachine.exec (start cookies) events).Forgotten ∧
      (systemCookieStoreMachine.exec (start cookies) events).Remembered :=
    Machine.Guarded.invariant (M := systemCookieStoreMachine)
      (I := fun s => s.Counted ∧ s.Forgotten ∧ s.Remembered)
      (fun _ event h _ hbehind => ⟨counted_step h.1 event, forgotten_step h.1 h.2.1 event,
        remembered_step h.1 h.2.2 event hbehind⟩)
      ⟨start_counted cookies, start_forgotten cookies, start_remembered cookies⟩
      (systemCookieStoreMachine.always_of_forall (fun _ _ => trivial) _ events) hbehind
  exact timesAgree_of_quiescent hq hinv.2.1 hinv.2.2

/-! ## A write while the store is cleared -/

private def plainCookie (name : String) (h : ';' ∉ name.toList) : NSHTTPCookie where
  name := name
  domain := "a.b"
  path := "/"
  value := "1"
  created := none
  expiresDate := none
  isSecure := false
  isHTTPOnly := false
  sameSitePolicy := none
  name_plain := h
  domain_plain := by decide

private def old : NSHTTPCookie := plainCookie "old" (by decide)
private def new : NSHTTPCookie := plainCookie "new" (by decide)

/-- The store is cleared, and then a cookie is written. -/
private def writtenAfter : List CookieStoreEvent :=
  [.clearStoreAsync, .setCookieAsync new (some 7) 7, .runUITask, .process, .complete, .process,
    .complete, .runUITask, .process, .complete, .runIOTask, .runIOTask]

theorem timesAgree_writtenAfter :
    (systemCookieStoreMachine.exec (start [old]) writtenAfter).TimesAgree :=
  timesAgree_of_clearsBehindWrites ⟨[old], rfl⟩ (by decide +kernel) ⟨rfl, rfl, rfl, rfl⟩

theorem absent_of_quiescent_writtenAfter :
    let s := systemCookieStoreMachine.exec (start [old]) writtenAfter
    s.Quiescent ∧ ∀ cookie, s.Absent cookie → s.creationTimeManager.recorded cookie = none :=
  ⟨⟨rfl, rfl, rfl, rfl⟩, absent_of_quiescent ⟨[old], rfl⟩ ⟨rfl, rfl, rfl, rfl⟩⟩

/-- The cookie is written after the clear has fetched what it is to delete, and
its block runs before the one that clears the table. -/
private def writtenMeanwhile : List CookieStoreEvent :=
  [.clearStoreAsync, .setCookieAsync new (some 7) 7, .runUITask, .process, .runUITask, .process,
    .complete, .complete, .process, .complete, .runIOTask, .runIOTask]

theorem writtenMeanwhile_unrecorded :
    (systemCookieStoreMachine.exec (start [old]) writtenMeanwhile).Quiescent ∧
      ¬ (systemCookieStoreMachine.exec (start [old]) writtenMeanwhile).TimesAgree := by
  refine ⟨⟨rfl, rfl, rfl, rfl⟩, fun h => ?_⟩
  obtain ⟨t, _, hrecorded⟩ := h.recorded { cookie := new, write := some 0 }
    (by decide +kernel) 0 rfl
  have hnone : (systemCookieStoreMachine.exec (start [old])
      writtenMeanwhile).creationTimeManager.recorded new = none := by decide +kernel
  rw [hnone] at hrecorded
  cases hrecorded

end WKHTTPSystemCookieStore

end IosChrome.Cookies

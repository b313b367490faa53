import IosChrome.TabGrid.CloseAllItems

/-!
# `ClosingWebStateObserverBrowserAgent`

A tab that is closed becomes a historical tab of the tab restore service, unless it has shown
nothing but the new tab page. The agent of a browser records it when its list says that the tab will
be detached, and that is before anybody knows whether it will be closed.

A closing is a detachment followed by `WillCloseWebStateAt` (`Ledger`), so every closed tab is
recorded once. A move to another browser is a detachment alone, and records a tab that stays open.
`recordsClosed_iff` says that no other call of the browsers does.

The restore service of a regular profile is never null. Snapshots are left to `BrowserUtil`.
-/

namespace IosChrome.Browsers

open Tabs
open TabGrid (TabNavigation kChromeUINewTabHost TabRestoreService recordHistoryForWebState)

/-! ## `RecordHistoryForWebStateAtIndex` -/

/-- Whether it creates a historical tab. -/
def createsHistoricalTab (navigation : TabNavigation) : Bool :=
  if navigation.isRestoreSessionInProgress then true
  else if navigation.itemCount ≤ 1 then
    match navigation.lastCommittedItemHost with
    | none => false
    | some host => host ≠ kChromeUINewTabHost
  else true

/-- More than an empty history and the new tab page. -/
def HasHistory (navigation : TabNavigation) : Prop :=
  1 < navigation.itemCount ∨
    ∃ host ∈ navigation.lastCommittedItemHost, host ≠ kChromeUINewTabHost

instance (navigation : TabNavigation) : Decidable (HasHistory navigation) :=
  inferInstanceAs (Decidable (_ ∨ _))

theorem createsHistoricalTab_of_hasHistory {navigation : TabNavigation}
    (h : HasHistory navigation) : createsHistoricalTab navigation = true := by
  unfold createsHistoricalTab
  split
  · rfl
  · split
    · rename_i hcount
      obtain hmany | ⟨host, hhost, hne⟩ := h
      · exact absurd hmany (Nat.not_lt.2 hcount)
      · rw [Option.mem_def.1 hhost]
        exact decide_eq_true hne
    · rfl

/-! ## The ledger of an operation -/

section

variable {W : Type}

def detachedTab (notified : Notified W) : Option W :=
  match notified.call with
  | .willDetachWebStateAt webState _ => some webState
  | _ => none

def closedTab (notified : Notified W) : Option W :=
  match notified.call with
  | .willCloseWebStateAt webState _ _ => some webState
  | _ => none

/-- What the observers hear of the tabs from some calls on. -/
structure Ledger (calls calls' : List (Notified W)) (detached closed : List W) : Prop where
  detached : calls'.filterMap detachedTab = calls.filterMap detachedTab ++ detached
  closed : calls'.filterMap closedTab = calls.filterMap closedTab ++ closed

theorem Ledger.trans {calls calls' calls'' : List (Notified W)}
    {detached closed detached' closed' : List W} (h : Ledger calls calls' detached closed)
    (h' : Ledger calls' calls'' detached' closed') :
    Ledger calls calls'' (detached ++ detached') (closed ++ closed') where
  detached := by rw [h'.detached, h.detached, List.append_assoc]
  closed := by rw [h'.closed, h.closed, List.append_assoc]

/-- Calls that say nothing of detached or closed tabs. -/
theorem Ledger.silent {calls calls' calls'' : List (Notified W)} {detached closed : List W}
    (h : Ledger calls calls' detached closed) (h' : Ledger calls' calls'' [] []) :
    Ledger calls calls'' detached closed where
  detached := by rw [h'.detached, h.detached, List.append_nil]
  closed := by rw [h'.closed, h.closed, List.append_nil]

theorem Ledger.refl (calls : List (Notified W)) : Ledger calls calls [] [] where
  detached := (List.append_nil _).symm
  closed := (List.append_nil _).symm

theorem ledger_notify {calls : List (Notified W)} {m : Mutation W} {call : ObserverCall W}
    (h : m.calls = calls) : Ledger calls (m.notify call).calls
      ([⟨m.webStateList, call⟩].filterMap detachedTab)
      ([⟨m.webStateList, call⟩].filterMap closedTab) where
  detached := by rw [Mutation.notify_calls, List.filterMap_append, h]
  closed := by rw [Mutation.notify_calls, List.filterMap_append, h]

variable [DecidableEq W]

theorem ledger_notifyIfActive (m : Mutation W) (oldWebState : Option W)
    (reason : ActiveWebStateChangeReason) :
    Ledger m.calls (m.notifyIfActiveWebStateChanged oldWebState reason).calls [] [] := by
  unfold Mutation.notifyIfActiveWebStateChanged
  dsimp only
  split
  · exact Ledger.refl m.calls
  · exact ledger_notify (by rfl)

theorem ledger_activate (m : Mutation W) (index : Int) (reason : ActiveWebStateChangeReason) :
    Ledger m.calls (m.activateWebStateAtImpl index reason).calls [] [] :=
  ledger_notifyIfActive (m.update (·.setActiveIndex index)) _ reason

theorem ledger_detach {m : Mutation W} {index : Int} {webState : W}
    (h : m.webStateList.getWebStateAt index = some webState) :
    Ledger m.calls (m.detachWebStateAtImpl index).calls [webState] [] := by
  unfold Mutation.detachWebStateAtImpl
  rw [h]
  dsimp only
  have hwill : Ledger m.calls (m.notify (.willDetachWebStateAt webState index)).calls
      [webState] [] := ledger_notify (by rfl)
  split
  · exact (hwill.silent (ledger_notify (by rfl))).silent (ledger_notifyIfActive _ _ _)
  · exact hwill.silent (ledger_notify (by rfl))

theorem ledger_close {m : Mutation W} {index : Int} {webState : W}
    (h : m.webStateList.getWebStateAt index = some webState) (closeFlags : Int32) :
    Ledger m.calls (m.closeWebStateAtImpl index closeFlags).calls [webState] [webState] := by
  unfold Mutation.closeWebStateAtImpl
  rw [h]
  exact (ledger_detach h).trans (ledger_notify (by rfl))

/-- The tab of an index and the others. -/
theorem perm_removeWrapperAt {l : WebStateList W} {i : Nat} {webState : W}
    (h : l.webStates[i]? = some webState) :
    l.webStates.Perm (webState :: (l.removeWrapperAt i).webStates) := by
  obtain ⟨hlt, rfl⟩ := List.getElem?_eq_some_iff.1 h
  rw [WebStateList.removeWrapperAt_webStates]
  exact (List.getElem_cons_eraseIdx_perm hlt).symm

theorem ledger_closeAllLoop (closeFlags : Int32) : ∀ (rounds : Nat) (m : Mutation W),
    ∃ gone, Ledger m.calls (Mutation.closeAllLoop closeFlags rounds m).calls gone gone ∧
      m.webStateList.webStates.Perm
        (gone ++ (Mutation.closeAllLoop closeFlags rounds m).webStateList.webStates)
  | 0, m => ⟨[], Ledger.refl m.calls, List.Perm.refl _⟩
  | rounds + 1, m => by
    unfold Mutation.closeAllLoop
    split
    · exact ⟨[], Ledger.refl m.calls, List.Perm.refl _⟩
    · rename_i hempty
      obtain ⟨i, webState, hi, -, hget, hat⟩ := (WebStateList.containsIndex_last
        (Bool.not_eq_true _ ▸ hempty)).getWebStateAt
      obtain ⟨gone, hledger, hperm⟩ := ledger_closeAllLoop closeFlags rounds
        (m.closeWebStateAtImpl (m.webStateList.count - 1) closeFlags)
      refine ⟨webState :: gone, (ledger_close hat closeFlags).trans hledger, ?_⟩
      rw [Mutation.closeWebStateAtImpl_webStateList m closeFlags hat, hi] at hperm
      rw [hi]
      exact (perm_removeWrapperAt hget).trans (hperm.cons webState)

/-- The tab an operation puts into the list. -/
def brings : Operation W → Option W
  | .insertWebState _ _ webState _ _ => some webState
  | .replaceWebStateAt _ webState => some webState
  | _ => none

/-- An operation closes `gone`: tabs that were in the list and are not any more. -/
structure Closes (m : Mutation W) (op : Operation W) (gone : List W) : Prop where
  ledger : Ledger m.calls (op.perform m).calls gone gone
  nodup : gone.Nodup
  were : ∀ w ∈ gone, w ∈ m.webStateList.webStates
  rest : ∀ w ∈ (op.perform m).webStateList.webStates,
    w ∉ gone ∧ (w ∈ m.webStateList.webStates ∨ brings op = some w)

theorem closes_none {m : Mutation W} {op : Operation W}
    (hledger : Ledger m.calls (op.perform m).calls [] [])
    (hmem : ∀ w ∈ (op.perform m).webStateList.webStates,
      w ∈ m.webStateList.webStates ∨ brings op = some w) : Closes m op [] :=
  ⟨hledger, List.nodup_nil, by simp, fun w hw => ⟨List.not_mem_nil, hmem w hw⟩⟩

theorem closes_of_perm {m : Mutation W} {op : Operation W} {gone : List W}
    (hnodup : m.webStateList.webStates.Nodup)
    (hledger : Ledger m.calls (op.perform m).calls gone gone)
    (hperm : m.webStateList.webStates.Perm (gone ++ (op.perform m).webStateList.webStates)) :
    Closes m op gone := by
  obtain ⟨hgone, -, hdisjoint⟩ := List.nodup_append.1 (hperm.nodup_iff.1 hnodup)
  exact ⟨hledger, hgone, fun w hw => hperm.mem_iff.2 (List.mem_append_left _ hw),
    fun w hw => ⟨fun hin => hdisjoint w hin w hw rfl,
      Or.inl (hperm.mem_iff.2 (List.mem_append_right _ hw))⟩⟩

/-- **The ledger of an operation.** But for a detachment, the tabs that are detached are the ones
that are closed. -/
theorem perform_ledger {m : Mutation W} (h : ListInv m.webStateList) {op : Operation W}
    (hv : op.Valid m.webStateList) (hnot : ∀ index, op ≠ .detachWebStateAt index) :
    ∃ gone, Closes m op gone := by
  cases op with
  | insertWebState nav index webState insertionFlags opener =>
    refine ⟨[], closes_none ?_ fun w hw => ?_⟩
    · simp only [Operation.perform, Mutation.insertWebStateImpl]
      split
      · exact Ledger.silent (ledger_notify (by rfl)) (ledger_activate _ _ _)
      · exact ledger_notify (by rfl)
    · obtain ⟨i, hi, htabs⟩ := insertWebStateImpl_webStates hv
      change w ∈ (m.insertWebStateImpl nav index webState insertionFlags
        opener).2.webStateList.webStates at hw
      rw [htabs, List.mem_insertIdx hi] at hw
      rcases hw with rfl | hw
      · exact Or.inr rfl
      · exact Or.inl hw
  | moveWebStateAt fromIndex toIndex =>
    obtain ⟨i, webState, rfl, -, hget, hat⟩ := hv.1.getWebStateAt
    obtain ⟨j, rfl, hj⟩ := hv.2.exists_nat
    refine ⟨[], closes_none ?_ fun w hw => ?_⟩
    · simp only [Operation.perform, Mutation.moveWebStateAtImpl, hat]
      split
      · exact Ledger.refl m.calls
      · exact ledger_notify (by rfl)
    · refine Or.inl ?_
      change w ∈ (m.moveWebStateAtImpl i j).webStateList.webStates at hw
      rw [Mutation.moveWebStateAtImpl_webStateList m j hat] at hw
      split at hw
      · exact hw
      · rw [WebStateList.moveWrapper_webStates _ _ _ hat, Int.toNat_natCast,
          Int.toNat_natCast] at hw
        rw [← WebStateList.length_webStates] at hj
        exact (Lib.move_perm hget hj).mem_iff.1 hw
  | replaceWebStateAt index webState =>
    obtain ⟨i, old, rfl, -, -, hat⟩ := hv.1.getWebStateAt
    refine ⟨[], closes_none ?_ fun w hw => ?_⟩
    · simp only [Operation.perform, Mutation.replaceWebStateAtImpl, hat]
      exact Ledger.silent (ledger_notify (by rfl)) (ledger_notifyIfActive _ _ _)
    · change w ∈ (m.replaceWebStateAtImpl i webState).webStateList.webStates at hw
      rw [Mutation.replaceWebStateAtImpl_webStateList m webState hat,
        WebStateList.replaceWrapper_webStates] at hw
      rcases List.mem_or_eq_of_mem_set hw with hw | rfl
      · exact Or.inl hw
      · exact Or.inr rfl
  | detachWebStateAt index => exact absurd rfl (hnot index)
  | closeWebStateAt index closeFlags =>
    obtain ⟨i, webState, rfl, -, hget, hat⟩ := WebStateList.ContainsIndex.getWebStateAt hv
    refine ⟨[webState], closes_of_perm h.nodup (ledger_close hat closeFlags) ?_⟩
    change m.webStateList.webStates.Perm
      (webState :: (m.closeWebStateAtImpl i closeFlags).webStateList.webStates)
    rw [Mutation.closeWebStateAtImpl_webStateList m closeFlags hat]
    exact perm_removeWrapperAt hget
  | closeAllWebStates closeFlags =>
    have hbegin : Ledger m.calls ((m.notify .willBeginBatchOperation).activateWebStateAtImpl
        kInvalidIndex .closed).calls [] [] :=
      Ledger.silent (ledger_notify (by rfl)) (ledger_activate _ _ _)
    have htabs : ((m.notify .willBeginBatchOperation).activateWebStateAtImpl kInvalidIndex
        .closed).webStateList.webStates = m.webStateList.webStates := by
      rw [Mutation.activateWebStateAtImpl_webStateList, WebStateList.setActiveIndex_webStates]
      rfl
    obtain ⟨gone, hledger, hperm⟩ := ledger_closeAllLoop closeFlags _
      ((m.notify .willBeginBatchOperation).activateWebStateAtImpl kInvalidIndex .closed)
    rw [htabs] at hperm
    exact ⟨gone, closes_of_perm h.nodup ((hbegin.trans hledger).silent (ledger_notify (by rfl)))
      hperm⟩
  | activateWebStateAt index =>
    refine ⟨[], closes_none (ledger_activate m index .activated) fun w hw => Or.inl ?_⟩
    change w ∈ (m.activateWebStateAtImpl index .activated).webStateList.webStates at hw
    rwa [Mutation.activateWebStateAtImpl_webStateList,
      WebStateList.setActiveIndex_webStates] at hw
  | setOpenerOfWebStateAt index opener =>
    refine ⟨[], closes_none (Ledger.refl m.calls) fun w hw => Or.inl ?_⟩
    change w ∈ (m.webStateList.setOpenerOfWebStateAt index opener).webStates at hw
    rwa [WebStateList.setOpenerOfWebStateAt_webStates] at hw

end

/-! ## The browsers -/

/-- The regular browsers, each with its agent. `historicalTabs` are the tabs the restore service
was given; `closedTabs` are the tabs that were closed, and whether they had a history then. -/
structure ClosingBrowsers (B W : Type) where
  browsers : List B
  webStateList : B → WebStateList W
  navigation : W → TabNavigation
  historicalTabs : List W
  closedTabs : List (W × Bool)

inductive ClosingCall (B W : Type) where
  | perform (browser : B) (operation : Operation W)
  | moveTabToBrowser (nav : W → Int32) (webState : W) (destinationBrowser : B)
      (destinationTabIndex : Int)
  | navigate (webState : W) (navigation : TabNavigation)

namespace ClosingBrowsers

variable {B W : Type} [DecidableEq B] [DecidableEq W] (s : ClosingBrowsers B W)

/-- An operation of a browser's list, and the agent's part in it. -/
def performOperation (browser : B) (operation : Operation W) : ClosingBrowsers B W :=
  let m := operation.perform { webStateList := s.webStateList browser }
  { s with
    webStateList := fun b => if b = browser then m.webStateList else s.webStateList b
    historicalTabs := s.historicalTabs ++ (m.calls.filterMap detachedTab).filter fun webState =>
      createsHistoricalTab (s.navigation webState)
    closedTabs := s.closedTabs ++ (m.calls.filterMap closedTab).map fun webState =>
      (webState, decide (HasHistory (s.navigation webState))) }

/-- `FindBrowser`. -/
def findBrowser (webState : W) : Option B :=
  s.browsers.find? fun browser => webState ∈ (s.webStateList browser).webStates

def moveTabToBrowser (nav : W → Int32) (webState : W) (destinationBrowser : B)
    (destinationTabIndex : Int) : ClosingBrowsers B W :=
  match s.findBrowser webState with
  | none => s
  | some sourceBrowser =>
    let sourceTabIndex := (s.webStateList sourceBrowser).getIndexOfWebState webState
    if sourceBrowser = destinationBrowser then
      s.performOperation destinationBrowser (.moveWebStateAt sourceTabIndex destinationTabIndex)
    else
      let s := s.performOperation sourceBrowser (.detachWebStateAt sourceTabIndex)
      let insertionFlags :=
        if (s.webStateList destinationBrowser).empty then insertActivate else insertForceIndex
      s.performOperation destinationBrowser
        (.insertWebState nav destinationTabIndex webState insertionFlags .null)

def step : ClosingCall B W → ClosingBrowsers B W
  | .perform browser operation => s.performOperation browser operation
  | .moveTabToBrowser nav webState destinationBrowser destinationTabIndex =>
    s.moveTabToBrowser nav webState destinationBrowser destinationTabIndex
  | .navigate webState navigation =>
    { s with navigation := fun w => if w = webState then navigation else s.navigation w }

/-- The tab is in no browser, and was not closed. -/
def New (webState : W) : Prop :=
  (∀ b ∈ s.browsers, webState ∉ (s.webStateList b).webStates) ∧
    ∀ entry ∈ s.closedTabs, entry.1 ≠ webState

/-- The operations are made as their lists require, with new tabs only; tabs are not detached but by
a move, and a move is to an index that will be in range. -/
def Pre : ClosingCall B W → Prop
  | .perform browser operation =>
    browser ∈ s.browsers ∧ operation.Valid (s.webStateList browser) ∧
      (∀ index, operation ≠ .detachWebStateAt index) ∧
      ∀ webState, brings operation = some webState → s.New webState
  | .moveTabToBrowser _ webState destination index =>
    destination ∈ s.browsers ∧ ((s.webStateList destination).ContainsIndex index ∨
      webState ∉ (s.webStateList destination).webStates ∧
        index = (s.webStateList destination).count)
  | .navigate _ _ => True

/-- Empty browsers. -/
def closingMachine (B W : Type) [DecidableEq B] [DecidableEq W] :
    Lib.Machine (ClosingBrowsers B W) (ClosingCall B W) where
  init s := (∀ b ∈ s.browsers, s.webStateList b = {}) ∧ s.historicalTabs = [] ∧ s.closedTabs = []
  pre s call := s.Pre call
  step s call := s.step call

/-- **Closed tabs are recorded once, and open tabs are not.** -/
structure RecordsClosed : Prop where
  closed : ∀ w, (w, true) ∈ s.closedTabs → s.historicalTabs.count w = 1
  stays : ∀ b ∈ s.browsers, ∀ w ∈ (s.webStateList b).webStates, w ∉ s.historicalTabs

/-- The condition: a tab that is moved from one browser to another has nothing to record. -/
def MovesUnrecorded : ClosingCall B W → Prop
  | .moveTabToBrowser _ webState destination _ =>
    ∀ source, s.findBrowser webState = some source → source ≠ destination →
      createsHistoricalTab (s.navigation webState) = false
  | _ => True

variable {s}

/-- The invariant of the browsers and the logs. -/
structure Inv (s : ClosingBrowsers B W) : Prop where
  list : ∀ b ∈ s.browsers, ListInv (s.webStateList b)
  apart : ∀ b ∈ s.browsers, ∀ b' ∈ s.browsers, ∀ w ∈ (s.webStateList b).webStates,
    w ∈ (s.webStateList b').webStates → b = b'
  records : s.RecordsClosed
  open_not_closed : ∀ b ∈ s.browsers, ∀ w ∈ (s.webStateList b).webStates,
    ∀ entry ∈ s.closedTabs, entry.1 ≠ w
  recorded : ∀ w ∈ s.historicalTabs, ∃ history, (w, history) ∈ s.closedTabs

/-- Closing tabs and bringing a new one keep the invariant. -/
theorem Inv.perform (h : s.Inv) {b : B} {op : Operation W}
    (hpre : s.Pre (.perform b op)) : (s.performOperation b op).Inv := by
  obtain ⟨hb, hv, hnot, hnew⟩ := hpre
  have hlist := h.list b hb
  obtain ⟨gone, hledger, hnodup, hwere, hrest⟩ :=
    perform_ledger (m := { webStateList := s.webStateList b }) hlist hv hnot
  have hhistorical : (s.performOperation b op).historicalTabs =
      s.historicalTabs ++ gone.filter fun w => createsHistoricalTab (s.navigation w) :=
    congrArg (fun l => s.historicalTabs ++ List.filter _ l) hledger.detached
  have hclosed : (s.performOperation b op).closedTabs =
      s.closedTabs ++ gone.map fun w => (w, decide (HasHistory (s.navigation w))) :=
    congrArg (fun l => s.closedTabs ++ List.map _ l) hledger.closed
  have htabs : ∀ b', b' ∈ s.browsers → ∀ w ∈ ((s.performOperation b op).webStateList b').webStates,
      w ∉ gone ∧ (w ∈ (s.webStateList b').webStates ∨ (b' = b ∧ s.New w)) := by
    intro b' hb' w hw
    simp only [performOperation] at hw
    split at hw
    · rename_i heq
      subst heq
      obtain ⟨hgone, hwas | hbrings⟩ := hrest w hw
      · exact ⟨hgone, Or.inl hwas⟩
      · exact ⟨hgone, Or.inr ⟨rfl, hnew w hbrings⟩⟩
    · rename_i hne
      exact ⟨fun hgone => hne (h.apart b' hb' b hb w hw (hwere w hgone)), Or.inl hw⟩
  have hnotRecorded : ∀ b', b' ∈ s.browsers →
      ∀ w ∈ ((s.performOperation b op).webStateList b').webStates,
        w ∉ s.historicalTabs ∧ ∀ entry ∈ s.closedTabs, entry.1 ≠ w := by
    intro b' hb' w hw
    obtain ⟨-, hwas | ⟨-, hfresh⟩⟩ := htabs b' hb' w hw
    · exact ⟨h.records.stays b' hb' w hwas, h.open_not_closed b' hb' w hwas⟩
    · refine ⟨fun hmem => ?_, hfresh.2⟩
      obtain ⟨history, hentry⟩ := h.recorded w hmem
      exact hfresh.2 _ hentry rfl
  refine ⟨fun b' hb' => ?_, fun b' hb' b'' hb'' w hw hw' => ?_, ⟨fun w hw => ?_,
    fun b' hb' w hw => ?_⟩, fun b' hb' w hw entry hentry => ?_, fun w hw => ?_⟩
  · simp only [performOperation]
    split
    · exact perform_inv (m := { webStateList := s.webStateList b }) hlist op hv
    · exact h.list b' hb'
  · obtain ⟨-, hwas | ⟨rfl, hfresh⟩⟩ := htabs b' hb' w hw
    · obtain ⟨-, hwas' | ⟨rfl, hfresh⟩⟩ := htabs b'' hb'' w hw'
      · exact h.apart b' hb' b'' hb'' w hwas hwas'
      · exact absurd hwas (hfresh.1 b' hb')
    · obtain ⟨-, hwas' | ⟨rfl, -⟩⟩ := htabs b'' hb'' w hw'
      · exact absurd hwas' (hfresh.1 b'' hb'')
      · rfl
  · rw [hclosed] at hw
    rw [hhistorical, List.count_append]
    rcases List.mem_append.1 hw with hw | hw
    · have hno : w ∉ gone := fun hgone => h.open_not_closed b hb w (hwere w hgone) _ hw rfl
      rw [h.records.closed w hw,
        List.count_eq_zero.2 fun hmem => hno (List.mem_of_mem_filter hmem)]
    · obtain ⟨w', hgone, heq⟩ := List.mem_map.1 hw
      obtain ⟨rfl, hhistory⟩ := Prod.mk.inj heq
      have hcreates := createsHistoricalTab_of_hasHistory (of_decide_eq_true hhistory)
      have hfilter : (gone.filter fun w => createsHistoricalTab (s.navigation w)).count w' =
          gone.count w' := List.count_filter hcreates
      rw [List.count_eq_zero.2 (h.records.stays b hb w' (hwere w' hgone)), hfilter,
        List.count_eq_one_of_mem hnodup hgone]
  · rw [hhistorical, List.mem_append, not_or]
    exact ⟨(hnotRecorded b' hb' w hw).1,
      fun hmem => (htabs b' hb' w hw).1 (List.mem_of_mem_filter hmem)⟩
  · rw [hclosed] at hentry
    rcases List.mem_append.1 hentry with hentry | hentry
    · exact (hnotRecorded b' hb' w hw).2 entry hentry
    · obtain ⟨w', hgone, rfl⟩ := List.mem_map.1 hentry
      rintro rfl
      exact (htabs b' hb' _ hw).1 hgone
  · rw [hhistorical] at hw
    rw [hclosed]
    rcases List.mem_append.1 hw with hw | hw
    · obtain ⟨history, hentry⟩ := h.recorded w hw
      exact ⟨history, List.mem_append_left _ hentry⟩
    · exact ⟨_, List.mem_append_right _ (List.mem_map.2 ⟨w, List.mem_of_mem_filter hw, rfl⟩)⟩

/-- A tab that is taken out of its browser is in none, and it is the only one the agent hears of. -/
theorem Inv.detach (h : s.Inv) {b : B} (hb : b ∈ s.browsers) {w : W}
    (hw : w ∈ (s.webStateList b).webStates) :
    let s' := s.performOperation b (.detachWebStateAt ((s.webStateList b).getIndexOfWebState w))
    s'.historicalTabs =
        s.historicalTabs ++ [w].filter (fun w => createsHistoricalTab (s.navigation w)) ∧
      s'.New w ∧ (createsHistoricalTab (s.navigation w) = false → s'.Inv) := by
  intro s'
  obtain ⟨i, hindex, hget⟩ := WebStateList.getIndexOfWebState_of_mem hw
  have hlt : i < (s.webStateList b).webStateWrappers.length := by
    rw [← WebStateList.length_webStates]
    exact (List.getElem?_eq_some_iff.1 hget).1
  have hat : (s.webStateList b).getWebStateAt i = some w := by
    rw [WebStateList.getWebStateAt_natCast, hget]
  have hledger := ledger_detach (m := { webStateList := s.webStateList b }) hat
  have hlist : s'.webStateList b = (s.webStateList b).removeWrapperAt i := by
    simp only [s', performOperation, if_true, hindex]
    exact Mutation.detachWebStateAtImpl_webStateList _ hat
  have hother : ∀ b' ≠ b, s'.webStateList b' = s.webStateList b' := fun b' hne => if_neg hne
  have hperm := perm_removeWrapperAt hget
  have hout : w ∉ ((s.webStateList b).removeWrapperAt i).webStates :=
    (List.nodup_cons.1 (hperm.nodup_iff.1 (h.list b hb).nodup)).1
  have htabs : ∀ b' ∈ s.browsers, ∀ w' ∈ (s'.webStateList b').webStates,
      w' ≠ w ∧ w' ∈ (s.webStateList b').webStates := by
    intro b' hb' w' hw'
    by_cases hne : b' = b
    · subst hne
      rw [hlist] at hw'
      exact ⟨fun heq => hout (heq ▸ hw'), hperm.mem_iff.2 (List.mem_cons_of_mem w hw')⟩
    · rw [hother b' hne] at hw'
      exact ⟨fun heq => hne (h.apart b' hb' b hb w' hw' (heq ▸ hw)), hw'⟩
  have hhistorical : s'.historicalTabs =
      s.historicalTabs ++ [w].filter fun w => createsHistoricalTab (s.navigation w) := by
    have hcalls := hledger.detached
    simp only [s', performOperation, hindex]
    exact congrArg (fun l => s.historicalTabs ++ List.filter _ l) hcalls
  have hclosed : s'.closedTabs = s.closedTabs := by
    have hcalls := hledger.closed
    simp only [s', performOperation, hindex]
    exact (congrArg (fun l => s.closedTabs ++ List.map _ l) hcalls).trans (List.append_nil _)
  refine ⟨hhistorical, ⟨fun b' hb' hmem => (htabs b' hb' w hmem).1 rfl, ?_⟩, fun hcreates => ?_⟩
  · rw [hclosed]
    exact h.open_not_closed b hb w hw
  · have hsame : s'.historicalTabs = s.historicalTabs := by simp [hhistorical, hcreates]
    refine ⟨fun b' hb' => ?_, fun b' hb' b'' hb'' w' hw' hw'' => ?_, ⟨fun w' hw' => ?_,
      fun b' hb' w' hw' => ?_⟩, fun b' hb' w' hw' => ?_, fun w' hw' => ?_⟩
    · by_cases hne : b' = b
      · rw [hne, hlist]
        exact removeWrapperAt_inv (h.list b hb) hlt
      · rw [hother b' hne]
        exact h.list b' hb'
    · exact h.apart b' hb' b'' hb'' w' (htabs b' hb' w' hw').2 (htabs b'' hb'' w' hw'').2
    · rw [hsame]
      exact h.records.closed w' (hclosed ▸ hw')
    · rw [hsame]
      exact h.records.stays b' hb' w' (htabs b' hb' w' hw').2
    · rw [hclosed]
      exact h.open_not_closed b' hb' w' (htabs b' hb' w' hw').2
    · rw [hsame] at hw'
      rw [hclosed]
      exact h.recorded w' hw'

omit [DecidableEq B] in
theorem findBrowser_eq_some {webState : W} {b : B} (h : s.findBrowser webState = some b) :
    b ∈ s.browsers ∧ webState ∈ (s.webStateList b).webStates :=
  ⟨List.mem_of_find?_eq_some h, by simpa using List.find?_some h⟩

omit [DecidableEq B] [DecidableEq W] in
/-- The second half of a move is the insertion of a new tab. -/
theorem pre_insert (nav : W → Int32) {w : W} {destination : B} (index : Int) (h : s.New w)
    (hdestination : destination ∈ s.browsers)
    (hindex : (s.webStateList destination).ContainsIndex index ∨
      index = (s.webStateList destination).count) (flags : Int32) :
    s.Pre (.perform destination (.insertWebState nav index w flags .null)) := by
  refine ⟨hdestination, ⟨h.1 destination hdestination, ?_, fun _ => hindex⟩, ?_, ?_⟩
  · simp [WebStateOpener.null]
  · intro index' heq
    cases heq
  · intro w' hbrings
    cases hbrings
    exact h

theorem mem_perform_insert {nav : W → Int32} {w : W} {destination : B} {index : Int}
    {flags : Int32}
    (hpre : s.Pre (.perform destination (.insertWebState nav index w flags .null))) :
    w ∈ ((s.performOperation destination
      (.insertWebState nav index w flags .null)).webStateList destination).webStates := by
  obtain ⟨i, hi, htabs⟩ := insertWebStateImpl_webStates
    (m := { webStateList := s.webStateList destination }) hpre.2.1
  simp only [performOperation, if_true, Operation.perform, htabs]
  exact (List.mem_insertIdx hi).2 (Or.inl rfl)

omit [DecidableEq B] in
/-- A move inside a list is an operation of it. -/
theorem pre_move {w : W} {b : B} (hb : b ∈ s.browsers)
    (hw : w ∈ (s.webStateList b).webStates) {index : Int}
    (hindex : (s.webStateList b).ContainsIndex index) :
    s.Pre (.perform b (.moveWebStateAt ((s.webStateList b).getIndexOfWebState w) index)) := by
  obtain ⟨i, hi, hget⟩ := WebStateList.getIndexOfWebState_of_mem hw
  refine ⟨hb, ⟨?_, hindex⟩, ?_, ?_⟩
  · rw [hi, WebStateList.containsIndex_natCast, ← WebStateList.length_webStates]
    exact (List.getElem?_eq_some_iff.1 hget).1
  · intro index' heq
    cases heq
  · intro w' hbrings
    cases hbrings

theorem Inv.step {call : ClosingCall B W} (h : s.Inv) (hpre : s.Pre call) :
    (s.MovesUnrecorded call → (s.step call).Inv) ∧
      ((s.step call).RecordsClosed → s.MovesUnrecorded call) := by
  cases call with
  | perform browser operation => exact ⟨fun _ => h.perform hpre, fun _ => trivial⟩
  | navigate webState navigation =>
    exact ⟨fun _ => ⟨h.list, h.apart, ⟨h.records.closed, h.records.stays⟩, h.open_not_closed,
      h.recorded⟩, fun _ => trivial⟩
  | moveTabToBrowser nav w destination index =>
    obtain ⟨hdestination, hindex⟩ := hpre
    simp only [ClosingBrowsers.step, moveTabToBrowser]
    cases hfind : s.findBrowser w with
    | none => exact ⟨fun _ => h, fun _ source heq => by simp [hfind] at heq⟩
    | some source =>
      obtain ⟨hsource, hw⟩ := findBrowser_eq_some hfind
      by_cases heq : source = destination
      · subst heq
        have hcontains : (s.webStateList source).ContainsIndex index :=
          hindex.elim id fun hend => absurd hw hend.1
        simp only [if_true]
        refine ⟨fun _ => h.perform (pre_move hsource hw hcontains), fun _ source' heq => ?_⟩
        obtain rfl := Option.some.inj (hfind.symm.trans heq)
        exact fun hne => absurd rfl hne
      · obtain ⟨hhistorical, hnew, hkept⟩ := h.detach hsource hw
        simp only [heq, if_false]
        have hlist : ∀ op, (s.performOperation source op).webStateList destination =
            s.webStateList destination := fun op => if_neg (Ne.symm heq)
        have hins := fun flags => pre_insert nav index hnew hdestination
          (by rw [hlist]; exact hindex.imp id And.right) flags
        refine ⟨fun hmoves => (hkept (hmoves source hfind heq)).perform (hins _),
          fun hrecords source' hfind' _ => ?_⟩
        -- A recorded tab is open in the other browser.
        by_contra hcreates
        refine hrecords.stays destination hdestination w (mem_perform_insert (hins _)) ?_
        refine List.mem_append_left _ ?_
        rw [hhistorical]
        exact List.mem_append_right _ (by simpa using hcreates)

/-- **Closed tabs are recorded once and open ones never along a run, if and only if only tabs with
nothing to record are moved to another browser.** -/
theorem recordsClosed_iff {s : ClosingBrowsers B W} {calls : List (ClosingCall B W)}
    (hinit : (closingMachine B W).init s) (hrun : (closingMachine B W).Run s calls) :
    (closingMachine B W).Always
        (fun s call => ((closingMachine B W).step s call).RecordsClosed) s calls ↔
      (closingMachine B W).Always MovesUnrecorded s calls := by
  obtain ⟨hlists, hhistorical, hclosed⟩ := hinit
  have hnone : ∀ b ∈ s.browsers, (s.webStateList b).webStates = [] := fun b hb => by
    rw [hlists b hb]
    rfl
  have hinv : s.Inv := by
    refine ⟨fun b hb => hlists b hb ▸ init_inv, fun b hb _ _ w hw => ?_, ⟨by simp [hclosed],
      by simp [hhistorical]⟩, by simp [hclosed], by simp [hhistorical]⟩
    rw [hnone b hb] at hw
    cases hw
  exact (Lib.Machine.always_iff_of_invariant (I := Inv)
    (fun s call h hpre => ⟨fun hmoves => ((h.step hpre).1 hmoves).records, (h.step hpre).2⟩)
    (fun s call h hpre hmoves => (h.step hpre).1 hmoves) hinv hrun).symm

/-- Two browsers without tabs, and tabs that have shown a page. -/
def twoBrowsers : ClosingBrowsers Bool Nat where
  browsers := [true, false]
  webStateList _ := {}
  navigation _ := ⟨false, 2, some "host", false, "", true⟩
  historicalTabs := []
  closedTabs := []

theorem twoBrowsers_pre : twoBrowsers.Pre (.perform true
    (.insertWebState (fun _ => 0) 0 1 insertActivate .null)) := by
  refine ⟨by decide, by decide, fun index heq => ?_, fun w hbrings => ?_⟩
  · cases heq
  · cases hbrings
    exact ⟨by decide, by decide⟩

theorem recordsClosed_iff_closed :
    let calls : List (ClosingCall Bool Nat) :=
      [.perform true (.insertWebState (fun _ => 0) 0 1 insertActivate .null),
        .perform true (.closeWebStateAt 0 0)]
    (closingMachine Bool Nat).Always
        (fun s call => ((closingMachine Bool Nat).step s call).RecordsClosed) twoBrowsers calls ↔
      (closingMachine Bool Nat).Always MovesUnrecorded twoBrowsers calls := by
  intro calls
  refine recordsClosed_iff ⟨fun _ _ => rfl, rfl, rfl⟩ ⟨twoBrowsers_pre, ?_, trivial⟩
  refine ⟨by decide, by decide, fun index heq => ?_, fun w hbrings => ?_⟩
  · cases heq
  · cases hbrings

/-- **A tab is moved to another browser**: it is open there, and a historical tab. -/
theorem twoBrowsers_moved :
    let calls : List (ClosingCall Bool Nat) :=
      [.perform true (.insertWebState (fun _ => 0) 0 1 insertActivate .null),
        .moveTabToBrowser (fun _ => 0) 1 false 0]
    (closingMachine Bool Nat).init twoBrowsers ∧ (closingMachine Bool Nat).Run twoBrowsers calls ∧
      ((closingMachine Bool Nat).exec twoBrowsers calls).historicalTabs = [1] ∧
      ¬ ((closingMachine Bool Nat).exec twoBrowsers calls).RecordsClosed := by
  intro calls
  exact ⟨⟨fun _ _ => rfl, rfl, rfl⟩, ⟨twoBrowsers_pre, ⟨by decide, by decide⟩, trivial⟩, by decide,
    fun h => h.stays false (by decide) 1 (by decide) (by decide)⟩

end ClosingBrowsers

end IosChrome.Browsers

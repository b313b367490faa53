import IosChrome.FindInPage.MatchTraversal
import Mathlib.Logic.Relation

/-!
# Searching the frames of a page

`FindInPageManagerImpl` asks each frame of the page to search. The answers come
later, in any order, also for searches that a newer one has replaced and from frames
that are gone. A search is completed once, when each of its frames has answered
(`search_completed_once`): `pending_frame_call_count_` counts the frames that are still
to be asked, that have been asked, and whose `Pump` could not be called (`Pending`).
-/

namespace IosChrome.FindInPage

open IosChrome.Lib

/-- A callback bound by `StartSearch` that has not been run. -/
structure SearchCallback where
  frameId : FrameId
  uniqueId : Int
  deriving DecidableEq

/-- The frames of the page are those that were announced: the request's. -/
structure FindInPageManagerImpl where
  lastFindRequest : FindInPageRequest := .new
  callbacks : List SearchCallback := []
  /-- The callbacks of the search that `Pump` dropped. -/
  dropped : Nat := 0
  /-- How often `LastFindRequestCompleted` was run or posted for the search. -/
  completions : Nat := 0

def kFindInPagePending : Int := -1

namespace FindInPageManagerImpl

variable (m : FindInPageManagerImpl)

def receive : FindInPageManagerImpl :=
  { m with lastFindRequest := m.lastFindRequest.didReceiveFindResponseFromOneFrame }

def complete : FindInPageManagerImpl := { m with completions := m.completions + 1 }

def reset (query : Option String) (calls : Nat) : FindInPageManagerImpl :=
  { m with lastFindRequest := m.lastFindRequest.reset query calls, dropped := 0, completions := 0 }

/-- The body of the loop of `StartSearch`. -/
def search (called : FrameId → Bool) (m : FindInPageManagerImpl) (frameId : FrameId) :
    FindInPageManagerImpl :=
  if called frameId then
    { m with callbacks := m.callbacks ++ [⟨frameId, m.lastFindRequest.uniqueId⟩] }
  else if m.receive.lastFindRequest.areAllFindResponsesReturned then m.receive.complete
  else m.receive

def startSearch (query : String) (called : FrameId → Bool) : FindInPageManagerImpl :=
  let frames := m.lastFindRequest.frameOrder
  let m := m.reset (some query) frames.length
  if frames.length = 0 then m.complete else frames.foldl (search called) m

def lastFindRequestCompleted : FindInPageManagerImpl :=
  if m.lastFindRequest.getTotalMatchCount = 0 then m
  else { m with lastFindRequest := m.lastFindRequest.goToFirstMatch.2 }

/-- The callback runs; a frame that is gone has no result. -/
def processFindInPageResult (callback : SearchCallback) (resultMatches : Option Int)
    (pump : Bool) : FindInPageManagerImpl :=
  let m := { m with callbacks := m.callbacks.erase callback }
  let result := if callback.frameId ∈ m.lastFindRequest.frameOrder then resultMatches else none
  if callback.uniqueId ≠ m.lastFindRequest.uniqueId then m
  else if result = some kFindInPagePending then
    if pump then { m with callbacks := m.callbacks ++ [callback] }
    else { m with dropped := m.dropped + 1 }
  else
    let counted := m.lastFindRequest.setMatchCountForFrame (result.getD 0) callback.frameId
    let m := { m with lastFindRequest := counted }.receive
    if m.lastFindRequest.areAllFindResponsesReturned then m.complete.lastFindRequestCompleted else m

def selectMatch (found : Option (Bool × FindInPageRequest)) : FindInPageManagerImpl :=
  match found with
  | some (_, request) => { m with lastFindRequest := request }
  | none => m

/-- What `SelectDidFinish` does with the match count of its result. -/
def counted (matchCount : Option Int) : FindInPageRequest :=
  match matchCount with
  | some count =>
    if count ≠ m.lastFindRequest.getMatchCountForSelectedFrame then
      m.lastFindRequest.setMatchCountForSelectedFrame count
    else m.lastFindRequest
  | none => m.lastFindRequest

def selectDidFinish (matchCount index : Option Int) : FindInPageManagerImpl :=
  let m := { m with lastFindRequest := m.counted matchCount }
  match index with
  | some index =>
    { m with lastFindRequest := m.lastFindRequest.setCurrentSelectedMatchFrameIndex index }
  | none => m

/-- One call of the manager: a frame is announced once, a callback is run once, and a
posted task runs at any time. -/
inductive Step (m : FindInPageManagerImpl) : FindInPageManagerImpl → Prop
  | webFrameDidBecomeAvailable (webFrame : WebFrame)
      (h : webFrame.frameId ∉ m.lastFindRequest.frameOrder) :
    Step m { m with lastFindRequest := m.lastFindRequest.addFrame webFrame h }
  | webFrameWillBecomeUnavailable (frameId : FrameId) :
    Step m { m with lastFindRequest := m.lastFindRequest.removeFrame frameId }
  | startSearch (query : String) (called : FrameId → Bool) : Step m (m.startSearch query called)
  | stopFinding : Step m (m.reset none 0)
  | selectNextMatch (turns : Nat) : Step m (m.selectMatch (m.lastFindRequest.goToNextMatch turns))
  | selectPreviousMatch (turns : Nat) :
    Step m (m.selectMatch (m.lastFindRequest.goToPreviousMatch turns))
  | processFindInPageResult {callback : SearchCallback} (h : callback ∈ m.callbacks)
      (resultMatches : Option Int) (pump : Bool) :
    Step m (m.processFindInPageResult callback resultMatches pump)
  | lastFindRequestCompleted : Step m m.lastFindRequestCompleted
  | selectDidFinish (matchCount index : Option Int) : Step m (m.selectDidFinish matchCount index)

variable {m} {owed : Nat}

/-! ## The answers -/

/-- `owed` of the pending calls have neither been made nor answered. -/
structure Pending (m : FindInPageManagerImpl) (owed : Nat) : Prop where
  pending : m.lastFindRequest.pendingFrameCallCount =
    (m.callbacks.countP (·.uniqueId = m.lastFindRequest.uniqueId) + m.dropped + owed : Nat)
  asked : ∀ callback ∈ m.callbacks, callback.uniqueId ≤ m.lastFindRequest.uniqueId

/-- A search is completed where nothing is pending. -/
structure Inv (m : FindInPageManagerImpl) (owed : Nat) : Prop extends m.Pending owed where
  idle : m.lastFindRequest.query = none → m.lastFindRequest.pendingFrameCallCount = 0
  done : m.completions =
    if m.lastFindRequest.query ≠ none ∧ m.lastFindRequest.pendingFrameCallCount = 0 then 1 else 0

theorem Pending.settle (h : m.Pending owed) (hquery : m.lastFindRequest.query ≠ none)
    (hnone : m.completions = 0) :
    (if m.lastFindRequest.areAllFindResponsesReturned then m.complete else m).Inv owed := by
  split
  all_goals
    rename_i hall
    refine ⟨{ h with }, fun hidle => absurd hidle hquery, ?_⟩
  · exact (congrArg (· + 1) hnone).trans (if_pos ⟨hquery, of_decide_eq_true hall⟩).symm
  · exact hnone.trans (if_neg fun hdone => hall (decide_eq_true hdone.2)).symm

theorem Inv.ask (h : m.Inv (owed + 1)) {callback : SearchCallback}
    (hid : callback.uniqueId = m.lastFindRequest.uniqueId) :
    { m with callbacks := m.callbacks ++ [callback] }.Inv owed where
  pending := by
    have hpending := h.pending
    rw [List.countP_append, List.countP_singleton, if_pos (decide_eq_true hid)]
    dsimp only
    omega
  asked := fun other hmem => (List.mem_append.1 hmem).elim (h.asked other) fun hnew =>
    (List.mem_singleton.1 hnew).symm ▸ hid.le
  idle := h.idle
  done := h.done

/-- The last answer completes the search. -/
theorem Inv.answer (h : m.Inv (owed + 1)) :
    (if m.receive.lastFindRequest.areAllFindResponsesReturned then m.receive.complete
      else m.receive).Inv owed := by
  have hpending := h.pending
  have hdone := h.done
  rw [if_neg fun hdone => by have := hdone.2; omega] at hdone
  refine Pending.settle (m := m.receive) ⟨?_, h.asked⟩ (fun hnone => ?_) hdone
  · show m.lastFindRequest.pendingFrameCallCount - 1 =
      (m.callbacks.countP (·.uniqueId = m.lastFindRequest.uniqueId) + m.dropped + owed : Nat)
    omega
  · have := h.idle hnone
    omega

theorem Inv.searches {called : FrameId → Bool} {frames : List FrameId} (h : m.Inv frames.length) :
    (frames.foldl (search called) m).Inv 0 := by
  induction frames generalizing m with
  | nil => exact h
  | cons frameId frames ih =>
    refine ih (m := search called m frameId) ?_
    unfold search
    split
    · exact h.ask rfl
    · exact h.answer

/-- What is asked from now on is asked for another search. -/
theorem Pending.reset (h : m.Pending 0) (query : Option String) (calls : Nat) :
    (m.reset query calls).Pending calls := by
  have hold : ∀ callback ∈ m.callbacks, callback.uniqueId < m.lastFindRequest.uniqueId + 1 :=
    fun callback hmem => Int.lt_add_one_of_le (h.asked callback hmem)
  have hnone : m.callbacks.countP (·.uniqueId = m.lastFindRequest.uniqueId + 1) = 0 :=
    List.countP_eq_zero.2 fun callback hmem hsame =>
      (hold callback hmem).ne (of_decide_eq_true hsame)
  refine ⟨?_, fun callback hmem => (hold callback hmem).le⟩
  show (calls : Int) =
    (m.callbacks.countP (·.uniqueId = m.lastFindRequest.uniqueId + 1) + 0 + calls : Nat)
  rw [hnone]
  omega

theorem Inv.startSearch (h : m.Inv 0) (query : String) (called : FrameId → Bool) :
    (m.startSearch query called).Inv 0 := by
  have hreset := (h.toPending.reset (some query) m.lastFindRequest.frameOrder.length).settle
    (Option.some_ne_none _) rfl
  unfold FindInPageManagerImpl.startSearch
  dsimp only
  split
  · rename_i hempty
    rw [hempty] at hreset ⊢
    exact hreset
  · rename_i hframes
    have hpending :
        ¬ (m.reset (some query) _).lastFindRequest.areAllFindResponsesReturned = true :=
      fun hall => hframes (Int.ofNat_eq_zero.1 (of_decide_eq_true hall))
    rw [if_neg hpending] at hreset
    exact hreset.searches

theorem Inv.lastFindRequestCompleted (h : m.Inv 0) : m.lastFindRequestCompleted.Inv 0 := by
  unfold FindInPageManagerImpl.lastFindRequestCompleted
  split
  · exact h
  · unfold FindInPageRequest.goToFirstMatch
    split <;> exact ⟨⟨h.pending, h.asked⟩, h.idle, h.done⟩

theorem Inv.processFindInPageResult (h : m.Inv 0) {callback : SearchCallback}
    (hmem : callback ∈ m.callbacks) (resultMatches : Option Int) (pump : Bool) :
    (m.processFindInPageResult callback resultMatches pump).Inv 0 := by
  have hpending := h.pending
  have hasked : ∀ other ∈ m.callbacks.erase callback, other.uniqueId ≤ m.lastFindRequest.uniqueId :=
    fun other hother => h.asked other (List.mem_of_mem_erase hother)
  rw [(List.perm_cons_erase hmem).countP_eq, List.countP_cons] at hpending
  unfold FindInPageManagerImpl.processFindInPageResult
  dsimp only
  by_cases hsame : callback.uniqueId = m.lastFindRequest.uniqueId
  · rw [if_pos (decide_eq_true hsame)] at hpending
    have herased : { m with callbacks := m.callbacks.erase callback }.Inv 1 :=
      ⟨⟨by dsimp only; omega, hasked⟩, h.idle, h.done⟩
    rw [if_neg (not_not.2 hsame)]
    generalize (if callback.frameId ∈ m.lastFindRequest.frameOrder then resultMatches else none) =
      result
    split
    · split
      · exact herased.ask hsame
      · refine ⟨⟨?_, hasked⟩, h.idle, h.done⟩
        dsimp only
        omega
    · have hcounted : { m with
          callbacks := m.callbacks.erase callback
          lastFindRequest :=
            m.lastFindRequest.setMatchCountForFrame (result.getD 0) callback.frameId }.Inv 1 :=
        ⟨⟨herased.pending, hasked⟩, h.idle, h.done⟩
      have hanswer := hcounted.answer
      split
      · rename_i hall
        rw [if_pos hall] at hanswer
        exact hanswer.lastFindRequestCompleted
      · rename_i hall
        rwa [if_neg hall] at hanswer
  · rw [if_neg (by simpa using hsame)] at hpending
    rw [if_pos hsame]
    exact ⟨⟨hpending, hasked⟩, h.idle, h.done⟩

theorem Inv.selectMatch (h : m.Inv 0) (turns : Nat) :
    (m.selectMatch (m.lastFindRequest.goToNextMatch turns)).Inv 0 ∧
      (m.selectMatch (m.lastFindRequest.goToPreviousMatch turns)).Inv 0 := by
  unfold FindInPageRequest.goToNextMatch FindInPageRequest.goToPreviousMatch
  constructor
  all_goals
    split
    · exact h
    · split
      · exact h
      · split
        · exact ⟨⟨h.pending, h.asked⟩, h.idle, h.done⟩
        · generalize m.lastFindRequest.searchFrame _ _ _ = found
          cases found with
          | none => exact h
          | some _ => exact ⟨⟨h.pending, h.asked⟩, h.idle, h.done⟩

theorem Step.inv {m' : FindInPageManagerImpl} (hstep : Step m m') (h : m.Inv 0) : m'.Inv 0 := by
  cases hstep with
  | webFrameDidBecomeAvailable => exact ⟨⟨h.pending, h.asked⟩, h.idle, h.done⟩
  | webFrameWillBecomeUnavailable => exact ⟨⟨h.pending, h.asked⟩, h.idle, h.done⟩
  | startSearch query called => exact h.startSearch query called
  | stopFinding =>
    exact ⟨h.toPending.reset none 0, fun _ => rfl, (if_neg fun hdone => hdone.1 rfl).symm⟩
  | selectNextMatch turns => exact (h.selectMatch turns).1
  | selectPreviousMatch turns => exact (h.selectMatch turns).2
  | processFindInPageResult hmem result pump => exact h.processFindInPageResult hmem result pump
  | lastFindRequestCompleted => exact h.lastFindRequestCompleted
  | selectDidFinish matchCount index =>
    unfold FindInPageManagerImpl.selectDidFinish counted
      FindInPageRequest.setMatchCountForSelectedFrame
    dsimp only
    repeat' split
    all_goals exact ⟨⟨h.pending, h.asked⟩, h.idle, h.done⟩

/-- **A search is completed once, when all its frames have answered**: not before, not
again, and never if a `Pump` could not be called. -/
theorem search_completed_once (hrun : Relation.ReflTransGen Step {} m) :
    m.completions =
      if m.lastFindRequest.query ≠ none ∧ m.dropped = 0 ∧
        ∀ callback ∈ m.callbacks, callback.uniqueId ≠ m.lastFindRequest.uniqueId then 1 else 0 := by
  have hinv : m.Inv 0 := by
    induction hrun with
    | refl => exact ⟨⟨rfl, fun _ hmem => absurd hmem List.not_mem_nil⟩, fun _ => rfl, rfl⟩
    | tail _ hstep ih => exact hstep.inv ih
  have hpending := hinv.pending
  have hnone : (∀ callback ∈ m.callbacks, callback.uniqueId ≠ m.lastFindRequest.uniqueId) ↔
      m.callbacks.countP (·.uniqueId = m.lastFindRequest.uniqueId) = 0 := by
    simp [List.countP_eq_zero]
  rw [hinv.done]
  refine if_congr (and_congr_right fun _ => ?_) rfl rfl
  rw [hnone]
  omega

/-- Of two frames one cannot be called, and the other answers later. -/
theorem search_completed_once_twoFrames : ∃ m, Relation.ReflTransGen Step {} m ∧
    m.lastFindRequest.frameOrder = ["main", "child"] ∧ m.completions = 1 := by
  have hmain := Relation.ReflTransGen.single
    (Step.webFrameDidBecomeAvailable (m := {}) ⟨"main", true⟩ List.not_mem_nil)
  have hchild := hmain.tail (.webFrameDidBecomeAvailable ⟨"child", false⟩ (by decide))
  have hsearch := hchild.tail (.startSearch "foo" (· = "main"))
  have hrun := hsearch.tail
    (@Step.processFindInPageResult _ ⟨"main", 1⟩ (by decide) (some 2) true)
  exact ⟨_, hrun, by decide, (search_completed_once hrun).trans (by decide)⟩

end FindInPageManagerImpl

end IosChrome.FindInPage

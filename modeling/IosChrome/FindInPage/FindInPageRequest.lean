import IosChrome.Lib.CyclicOrder
import IosChrome.Lib.Keyed
import Mathlib.Algebra.BigOperators.Group.Finset.Basic
import Mathlib.Algebra.Order.BigOperators.Group.List
import Mathlib.Algebra.Ring.Int.Defs

/-!
# A find request

`FindInPageRequest`: the query, how many frames have to answer yet, the matches
of each frame, the order of the frames, and the selected match. The order has
each frame once, as the frames manager announces a frame once, and every frame of
it has a count; the map may have counts of other frames too.

The selected match moves round the page: from the last match of the last frame
that has any to the first one, and back. The loops over the frames are written
with a number of turns they may take.
-/

namespace IosChrome.FindInPage

open IosChrome.Lib

abbrev FrameId : Type := String

/-- What the request asks of a frame that becomes available. -/
structure WebFrame where
  frameId : FrameId
  isMainFrame : Bool
  deriving DecidableEq

/-- The iterator `selected_frame_id_` is the frame it is at, or none at the end. -/
structure FindInPageRequest where
  uniqueId : Int
  query : Option String
  pendingFrameCallCount : Int
  frameMatchCount : List (FrameId × Int)
  frameOrder : List FrameId
  selectedFrameId : Option FrameId
  selectedMatchIndexInSelectedFrame : Int
  unique : Keyed.Unique Prod.fst frameMatchCount
  nodup : frameOrder.Nodup
  counted : ∀ id ∈ frameOrder, id ∈ frameMatchCount.map Prod.fst
  deriving DecidableEq

namespace FindInPageRequest

def new : FindInPageRequest where
  uniqueId := 0
  query := none
  pendingFrameCallCount := 0
  frameMatchCount := []
  frameOrder := []
  selectedFrameId := none
  selectedMatchIndexInSelectedFrame := -1
  unique := List.nodup_nil
  nodup := List.nodup_nil
  counted := fun _ hid => absurd hid List.not_mem_nil

variable (r : FindInPageRequest)

/-- `frame_match_count_[frame_id]`, of a frame that has a count. -/
def matchCount (frameId : FrameId) : Int :=
  ((Keyed.lookup Prod.fst r.frameMatchCount frameId).map Prod.snd).getD 0

def reset (newQuery : Option String) (newPendingFrameCallCount : Int) : FindInPageRequest :=
  { r with
    uniqueId := r.uniqueId + 1
    selectedFrameId := none
    selectedMatchIndexInSelectedFrame := -1
    query := newQuery
    pendingFrameCallCount := newPendingFrameCallCount
    frameMatchCount := r.frameMatchCount.map fun pair => (pair.1, 0)
    unique := by
      unfold Keyed.Unique
      rw [List.map_map]
      exact r.unique
    counted := by
      rw [List.map_map]
      exact r.counted }

def getTotalMatchCount : Int := (r.frameMatchCount.map Prod.snd).sum

/-- The first frame with matches, and its first match. -/
def goToFirstMatch : Bool × FindInPageRequest :=
  match r.frameOrder.find? fun frameId => 0 < r.matchCount frameId with
  | some frameId =>
    (true, { r with selectedFrameId := some frameId, selectedMatchIndexInSelectedFrame := 0 })
  | none => (false, r)

/-- The `do`-loop of `GoToNextMatch` and `GoToPreviousMatch`. -/
def searchFrame (step : FrameId → Option FrameId) (turns : Nat) (frameId : FrameId) :
    Option FrameId :=
  CyclicOrder.search step (fun frameId => r.matchCount frameId ≠ 0) turns frameId

/-- The answer and the request afterwards; none if the loop takes more turns. -/
def goToNextMatch (turns : Nat) : Option (Bool × FindInPageRequest) :=
  if r.getTotalMatchCount = 0 then some (false, r)
  else
    match r.selectedFrameId.or r.frameOrder.head? with
    | none => none
    | some frameId =>
      if r.selectedMatchIndexInSelectedFrame + 1 < r.matchCount frameId then
        some (true,
          { r with
            selectedFrameId := some frameId
            selectedMatchIndexInSelectedFrame := r.selectedMatchIndexInSelectedFrame + 1 })
      else
        (r.searchFrame (CyclicOrder.next r.frameOrder) turns frameId).map fun found =>
          (true, { r with selectedFrameId := some found, selectedMatchIndexInSelectedFrame := 0 })

def goToPreviousMatch (turns : Nat) : Option (Bool × FindInPageRequest) :=
  if r.getTotalMatchCount = 0 then some (false, r)
  else
    match r.selectedFrameId.or r.frameOrder.head? with
    | none => none
    | some frameId =>
      if 0 ≤ r.selectedMatchIndexInSelectedFrame - 1 then
        some (true,
          { r with
            selectedFrameId := some frameId
            selectedMatchIndexInSelectedFrame := r.selectedMatchIndexInSelectedFrame - 1 })
      else
        (r.searchFrame (CyclicOrder.previous r.frameOrder) turns frameId).map fun found =>
          (true,
            { r with
              selectedFrameId := some found
              selectedMatchIndexInSelectedFrame := r.matchCount found - 1 })

/-- `-1` for a frame without a count. -/
def getMatchCountForFrame (frameId : FrameId) : Int :=
  match Keyed.lookup Prod.fst r.frameMatchCount frameId with
  | none => -1
  | some pair => pair.2

def setMatchCountForFrame (matchCount : Int) (frameId : FrameId) : FindInPageRequest :=
  { r with
    frameMatchCount := Keyed.put Prod.fst r.frameMatchCount (frameId, matchCount)
    unique := r.unique.put (frameId, matchCount)
    counted := fun id hid => by
      obtain ⟨pair, hpair, rfl⟩ := List.mem_map.1 (r.counted id hid)
      by_cases hne : pair.1 = frameId
      · exact List.mem_map.2 ⟨_, Keyed.mem_put.2 (.inr rfl), hne.symm⟩
      · exact List.mem_map.2 ⟨pair, Keyed.mem_put.2 (.inl ⟨hpair, hne⟩), rfl⟩ }

def getMatchCountForSelectedFrame : Int :=
  match r.selectedFrameId with
  | none => -1
  | some frameId => r.matchCount frameId

def setMatchCountForSelectedFrame (matchCount : Int) : FindInPageRequest :=
  match r.selectedFrameId with
  | none => r
  | some frameId => r.setMatchCountForFrame matchCount frameId

def getCurrentSelectedMatchPageIndex : Int :=
  if r.selectedMatchIndexInSelectedFrame = -1 then -1
  else r.selectedMatchIndexInSelectedFrame +
    ((r.frameOrder.takeWhile fun frameId => some frameId ≠ r.selectedFrameId).map r.matchCount).sum

def setCurrentSelectedMatchFrameIndex (index : Int) : FindInPageRequest :=
  { r with selectedMatchIndexInSelectedFrame := index }

def removeFrame (frameId : FrameId) : FindInPageRequest :=
  { r with
    selectedFrameId := if r.selectedFrameId = some frameId then none else r.selectedFrameId
    selectedMatchIndexInSelectedFrame :=
      if r.selectedFrameId = some frameId then -1 else r.selectedMatchIndexInSelectedFrame
    frameOrder := r.frameOrder.filter (· ≠ frameId)
    frameMatchCount := Keyed.remove Prod.fst r.frameMatchCount frameId
    unique := r.unique.remove frameId
    nodup := r.nodup.filter _
    counted := fun id hid => by
      obtain ⟨hmem, hne⟩ := List.mem_filter.1 hid
      obtain ⟨pair, hpair, rfl⟩ := List.mem_map.1 (r.counted id hmem)
      exact List.mem_map.2 ⟨pair, Keyed.mem_remove.2 ⟨hpair, of_decide_eq_true hne⟩, rfl⟩ }

/-- Main frame matches show up first. The frames manager has no other frame of
this id. -/
def addFrame (webFrame : WebFrame) (h : webFrame.frameId ∉ r.frameOrder) : FindInPageRequest :=
  { r.setMatchCountForFrame 0 webFrame.frameId with
    frameOrder :=
      if webFrame.isMainFrame then webFrame.frameId :: r.frameOrder
      else r.frameOrder ++ [webFrame.frameId]
    nodup := by
      split
      · exact List.nodup_cons.2 ⟨h, r.nodup⟩
      · exact (List.perm_append_singleton _ _).nodup_iff.2 (List.nodup_cons.2 ⟨h, r.nodup⟩)
    counted := fun id hid => by
      have hcases : id = webFrame.frameId ∨ id ∈ r.frameOrder := by
        split at hid
        · exact List.mem_cons.1 hid
        · exact (List.mem_append.1 hid).symm.imp_left List.mem_singleton.1
      rcases hcases with rfl | hold
      · exact List.mem_map.2 ⟨_, Keyed.mem_put.2 (.inr rfl), rfl⟩
      · exact (r.setMatchCountForFrame 0 webFrame.frameId).counted id hold }

def didReceiveFindResponseFromOneFrame : FindInPageRequest :=
  { r with pendingFrameCallCount := r.pendingFrameCallCount - 1 }

def areAllFindResponsesReturned : Bool := r.pendingFrameCallCount = 0

end FindInPageRequest

end IosChrome.FindInPage

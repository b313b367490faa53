import IosChrome.Tabs.Operations

/-!
# Drops on the tab grid

A tab or a URL is dropped on the grid at an index of it. `TabGridMediator` moves the tab or inserts
a new one there; the URL of a drop from another application arrives later, and is inserted at the
index of the drop all the same.

`listCalls` are the calls of the drops on the lists of tabs, each with the list it is made on.
Whether their indices are in range is a matter of the number of tabs at that moment, and
`indicesInRange_iff` says when it is. Other code calls the lists as they require. Snapshots that
move along with a tab are left out.
-/

namespace IosChrome.TabGrid

open Tabs

/-- The browsers of a profile and the mediator of one of them; `pendingDrops` are the indices of the
drops whose URL has not arrived. -/
structure GridDrops (B W : Type) where
  browsers : List B
  webStateList : B → WebStateList W
  browser : Option B
  pendingDrops : List Nat
  listCalls : List (WebStateList W × Operation W)

/-- The local object of a drag item. A dropped URL is loaded by a new tab. -/
inductive LocalObject (W : Type) where
  | tabInfo (tab : W)
  | urlInfo (newTab : W)

inductive GridCall (B W : Type) where
  | perform (browser : B) (operation : Operation W)
  | setBrowser (browser : Option B)
  | dropItem (nav : W → Int32) (localObject : LocalObject W) (destinationIndex : Nat)
      (fromSameCollection : Bool)
  | dropItemFromProvider (canLoadObject : Bool) (destinationIndex : Nat)
  | urlLoaded (nav : W → Int32) (drop : Nat) (newTab : W)

namespace GridDrops

section

variable {B W : Type} [DecidableEq B] [DecidableEq W] (s : GridDrops B W)

def update (browser : B) (operation : Operation W) : GridDrops B W :=
  { s with
    webStateList := fun b =>
      if b = browser then
        (operation.perform { webStateList := s.webStateList browser }).webStateList
      else s.webStateList b }

/-- A call of the mediator on the list of a browser. -/
def callList (browser : B) (operation : Operation W) : GridDrops B W :=
  { s.update browser operation with
    listCalls := s.listCalls ++ [(s.webStateList browser, operation)] }

/-- `FindBrowser`. -/
def findBrowser (tab : W) : Option B :=
  s.browsers.find? fun browser => tab ∈ (s.webStateList browser).webStates

def moveTabToBrowser (nav : W → Int32) (tab : W) (destinationBrowser : B)
    (destinationTabIndex : Int) : GridDrops B W :=
  match s.findBrowser tab with
  -- `NOTREACHED`, for a tab of another profile.
  | none => s
  | some sourceBrowser =>
    let sourceTabIndex := (s.webStateList sourceBrowser).getIndexOfWebState tab
    if sourceBrowser = destinationBrowser then
      s.callList destinationBrowser (.moveWebStateAt sourceTabIndex destinationTabIndex)
    else
      let s := s.callList sourceBrowser (.detachWebStateAt sourceTabIndex)
      let insertionFlags :=
        if (s.webStateList destinationBrowser).empty then insertActivate else insertForceIndex
      s.callList destinationBrowser
        (.insertWebState nav destinationTabIndex tab insertionFlags .null)

/-- `insertNewItemAtIndex:withURL:`. -/
def insertNewItemAtIndex (nav : W → Int32) (index : Nat) (newTab : W) : GridDrops B W :=
  match s.browser with
  -- For a while after the last incognito tab is closed.
  | none => s
  | some browser =>
    s.callList browser
      (.insertWebState nav index newTab (insertForceIndex ||| insertActivate) .null)

/-- `dropItem:toIndex:fromSameCollection:`. Without a browser no tab gets to a list. -/
def dropItem (nav : W → Int32) (localObject : LocalObject W) (destinationIndex : Nat)
    (fromSameCollection : Bool) : GridDrops B W :=
  match localObject with
  | .tabInfo tab =>
    match s.browser with
    | none => s
    | some browser =>
      -- Nothing says that the tab comes from another list.
      if !fromSameCollection then s.moveTabToBrowser nav tab browser destinationIndex
      else
        let sourceIndex := (s.webStateList browser).getIndexOfWebState tab
        if sourceIndex ≠ kInvalidIndex then
          s.callList browser (.moveWebStateAt sourceIndex destinationIndex)
        else s
  | .urlInfo newTab => s.insertNewItemAtIndex nav destinationIndex newTab

/-- `dropItemFromProvider:toIndex:placeholderContext:`. -/
def dropItemFromProvider (canLoadObject : Bool) (destinationIndex : Nat) : GridDrops B W :=
  if !canLoadObject then s
  else { s with pendingDrops := s.pendingDrops ++ [destinationIndex] }

/-- The load handler of a drop, on the main queue. -/
def urlLoaded (nav : W → Int32) (drop : Nat) (newTab : W) : GridDrops B W :=
  match s.pendingDrops[drop]? with
  | none => s
  | some destinationIndex =>
    { s with pendingDrops := s.pendingDrops.eraseIdx drop }.insertNewItemAtIndex nav
      destinationIndex newTab

def step : GridCall B W → GridDrops B W
  | .perform browser operation => s.update browser operation
  | .setBrowser browser => { s with browser := browser }
  | .dropItem nav localObject destinationIndex fromSameCollection =>
    s.dropItem nav localObject destinationIndex fromSameCollection
  | .dropItemFromProvider canLoadObject destinationIndex =>
    s.dropItemFromProvider canLoadObject destinationIndex
  | .urlLoaded nav drop newTab => s.urlLoaded nav drop newTab

/-- The number of items of the grid. -/
def itemsCount : Int :=
  match s.browser with
  | none => 0
  | some browser => (s.webStateList browser).count

/-- A drop is at an index of the grid, or at its end if nothing leaves the grid. -/
def Pre : GridCall B W → Prop
  | .perform browser operation => operation.Valid (s.webStateList browser)
  | .setBrowser _ => True
  | .dropItem _ _ destinationIndex fromSameCollection =>
    if fromSameCollection then destinationIndex < s.itemsCount
    else destinationIndex ≤ s.itemsCount
  | .dropItemFromProvider _ destinationIndex => destinationIndex ≤ s.itemsCount
  | .urlLoaded _ drop _ => drop < s.pendingDrops.length

instance : (call : GridCall B W) → Decidable (s.Pre call)
  | .perform browser operation =>
    inferInstanceAs (Decidable (operation.Valid (s.webStateList browser)))
  | .setBrowser _ => isTrue trivial
  | .dropItem _ _ destinationIndex fromSameCollection =>
    inferInstanceAs (Decidable (if fromSameCollection then destinationIndex < s.itemsCount
      else destinationIndex ≤ s.itemsCount))
  | .dropItemFromProvider _ destinationIndex =>
    inferInstanceAs (Decidable (destinationIndex ≤ s.itemsCount))
  | .urlLoaded _ drop _ => inferInstanceAs (Decidable (drop < s.pendingDrops.length))

def gridMachine (B W : Type) [DecidableEq B] [DecidableEq W] :
    Lib.Machine (GridDrops B W) (GridCall B W) where
  init s := (∀ b, s.webStateList b = {}) ∧ s.pendingDrops = [] ∧ s.listCalls = []
  pre s call := s.Pre call
  step s call := s.step call

instance (call : GridCall B W) : Decidable ((gridMachine B W).pre s call) :=
  inferInstanceAs (Decidable (s.Pre call))

end

variable {B W : Type} {s : GridDrops B W}

/-- What the `DCHECK`s of `MoveWebStateAt` and, with `INSERT_FORCE_INDEX`, of `InsertWebState` ask
of the indices. -/
def InRange (call : WebStateList W × Operation W) : Prop :=
  match call.2 with
  | .moveWebStateAt fromIndex toIndex =>
    call.1.ContainsIndex fromIndex ∧ call.1.ContainsIndex toIndex
  | .insertWebState _ index _ insertionFlags _ =>
    isInsertionFlagSet insertionFlags insertForceIndex = true →
      call.1.ContainsIndex index ∨ index = call.1.count
  | _ => True

def IndicesInRange (s : GridDrops B W) : Prop :=
  ∀ call ∈ s.listCalls, InRange call

/-- The condition: no tab of this very list is dropped at its end from elsewhere, and the list a
late URL finds is not too short for the index of its drop. -/
def DropFits [DecidableEq W] (s : GridDrops B W) : GridCall B W → Prop
  | .dropItem _ (.tabInfo tab) destinationIndex false =>
    ∀ browser ∈ s.browser, s.findBrowser tab = some browser →
      (destinationIndex : Int) < (s.webStateList browser).count
  | .urlLoaded _ drop _ =>
    ∀ browser ∈ s.browser, ∀ destinationIndex ∈ s.pendingDrops[drop]?,
      (destinationIndex : Int) ≤ (s.webStateList browser).count
  | _ => True

theorem containsIndex_or_end_iff {l : WebStateList W} {index : Nat} :
    l.ContainsIndex index ∨ (index : Int) = l.count ↔ (index : Int) ≤ l.count := by
  unfold WebStateList.ContainsIndex WebStateList.count
  omega

/-- A tab is where it is found. -/
theorem containsIndex_getIndexOfWebState [DecidableEq W] {l : WebStateList W} {tab : W}
    (h : tab ∈ l.webStates) : l.ContainsIndex (l.getIndexOfWebState tab) := by
  obtain ⟨i, hi, hget⟩ := WebStateList.getIndexOfWebState_of_mem h
  rw [hi, WebStateList.containsIndex_natCast, ← WebStateList.length_webStates]
  exact (List.getElem?_eq_some_iff.1 hget).1

variable [DecidableEq B] [DecidableEq W]

theorem indicesInRange_callList (h : s.IndicesInRange) (browser : B) (operation : Operation W) :
    (s.callList browser operation).IndicesInRange ↔
      InRange (s.webStateList browser, operation) := by
  constructor
  · intro hall
    exact hall _ (List.mem_append_right _ (List.mem_singleton_self _))
  · intro hcall call hmem
    rcases List.mem_append.1 hmem with hmem | hmem
    · exact h call hmem
    · rwa [List.mem_singleton.1 hmem]

theorem indicesInRange_insertNewItem (h : s.IndicesInRange) (nav : W → Int32) (index : Nat)
    (newTab : W) : (s.insertNewItemAtIndex nav index newTab).IndicesInRange ↔
      ∀ browser ∈ s.browser, (index : Int) ≤ (s.webStateList browser).count := by
  unfold insertNewItemAtIndex
  cases hbrowser : s.browser with
  | none => exact ⟨fun _ _ => nofun, fun _ => h⟩
  | some browser =>
    have hflag : isInsertionFlagSet (insertForceIndex ||| insertActivate) insertForceIndex =
        true := by decide
    simp only [indicesInRange_callList h, InRange, hflag, true_implies, containsIndex_or_end_iff,
      Option.mem_some_iff, forall_eq']

/-- A tab from another browser comes to an index that its new list has, or is its end. -/
theorem indicesInRange_moveTabToBrowser (h : s.IndicesInRange) (nav : W → Int32) (tab : W)
    {destination : B} {index : Nat} (hindex : (index : Int) ≤ (s.webStateList destination).count) :
    (s.moveTabToBrowser nav tab destination index).IndicesInRange ↔
      (s.findBrowser tab = some destination →
        (index : Int) < (s.webStateList destination).count) := by
  unfold moveTabToBrowser
  cases hfind : s.findBrowser tab with
  | none => exact ⟨fun _ => nofun, fun _ => h⟩
  | some source =>
    have hmem : tab ∈ (s.webStateList source).webStates := by
      simpa using List.find?_some hfind
    by_cases heq : source = destination
    · subst heq
      have hcontains : (s.webStateList source).ContainsIndex index ↔
          (index : Int) < (s.webStateList source).count := by
        unfold WebStateList.ContainsIndex WebStateList.count
        omega
      simp only [if_true, indicesInRange_callList h, InRange,
        containsIndex_getIndexOfWebState hmem, true_and, hcontains, true_implies]
    · -- The list of the destination is the one of the drop still.
      have hdetached : (s.callList source
          (.detachWebStateAt ((s.webStateList source).getIndexOfWebState tab))).IndicesInRange :=
        (indicesInRange_callList h _ _).2 trivial
      have hsame : ∀ operation, (s.callList source operation).webStateList destination =
          s.webStateList destination := fun _ => if_neg (Ne.symm heq)
      have hne : some source ≠ some destination := fun hsome => heq (Option.some.inj hsome)
      simp only [heq, if_false, hne, false_implies, iff_true]
      refine (indicesInRange_callList hdetached _ _).2 fun _ => ?_
      rw [hsame]
      exact containsIndex_or_end_iff.2 hindex

/-- One call, from any state. -/
theorem indicesInRange_step {call : GridCall B W} (h : s.IndicesInRange) (hpre : s.Pre call) :
    (s.step call).IndicesInRange ↔ s.DropFits call := by
  cases call with
  | perform browser operation => exact ⟨fun _ => trivial, fun _ => h⟩
  | setBrowser browser => exact ⟨fun _ => trivial, fun _ => h⟩
  | dropItemFromProvider canLoadObject destinationIndex =>
    refine ⟨fun _ => trivial, fun _ => ?_⟩
    cases canLoadObject with
    | false => exact h
    | true => exact h
  | urlLoaded nav drop newTab =>
    simp only [GridDrops.step, urlLoaded, DropFits]
    cases hdrop : s.pendingDrops[drop]? with
    | none => exact ⟨fun _ _ _ _ => nofun, fun _ => h⟩
    | some destinationIndex =>
      have hrest : { s with pendingDrops := s.pendingDrops.eraseIdx drop }.IndicesInRange := h
      simp only [indicesInRange_insertNewItem hrest, Option.mem_some_iff, forall_eq']
  | dropItem nav localObject destinationIndex fromSameCollection =>
    cases localObject with
    | urlInfo newTab =>
      have hfits : ∀ browser ∈ s.browser,
          (destinationIndex : Int) ≤ (s.webStateList browser).count := by
        intro browser hbrowser
        simp only [Pre, itemsCount, Option.mem_def.1 hbrowser] at hpre
        split at hpre <;> omega
      refine ⟨fun _ => ?_, fun _ => (indicesInRange_insertNewItem h _ _ _).2 hfits⟩
      cases fromSameCollection <;> trivial
    | tabInfo tab =>
      cases hbrowser : s.browser with
      | none =>
        simp only [GridDrops.step, dropItem, hbrowser]
        refine ⟨fun _ => ?_, fun _ => h⟩
        cases fromSameCollection with
        | false => simp only [DropFits, hbrowser, Option.mem_def, reduceCtorEq, false_implies,
            implies_true]
        | true => trivial
      | some browser =>
        simp only [Pre, itemsCount, hbrowser] at hpre
        cases fromSameCollection with
        | false =>
          simp only [GridDrops.step, dropItem, hbrowser, DropFits, Bool.not_false, if_true,
            indicesInRange_moveTabToBrowser h nav tab hpre, Option.mem_some_iff, forall_eq']
        | true =>
          refine ⟨fun _ => trivial, fun _ => ?_⟩
          simp only [GridDrops.step, dropItem, hbrowser, Bool.not_true, Bool.false_eq_true,
            if_false]
          split
          · rename_i hsource
            have hmem : tab ∈ (s.webStateList browser).webStates := by
              by_contra hnot
              exact hsource (WebStateList.getIndexOfWebState_of_not_mem hnot)
            refine (indicesInRange_callList h _ _).2
              ⟨containsIndex_getIndexOfWebState hmem, Int.natCast_nonneg _, hpre⟩
          · exact h

/-- **The indices of drops are in range along a run, if and only if no tab is dropped from elsewhere
at the end of the list that has it, and no late URL comes to a list that is shorter than the index
of its drop.** -/
theorem indicesInRange_iff {s : GridDrops B W} {calls : List (GridCall B W)}
    (hinit : (gridMachine B W).init s) (hrun : (gridMachine B W).Run s calls) :
    (gridMachine B W).Always (fun s call => ((gridMachine B W).step s call).IndicesInRange) s
        calls ↔
      (gridMachine B W).Always DropFits s calls := by
  have hnone : s.IndicesInRange := by
    intro call hmem
    rw [hinit.2.2] at hmem
    cases hmem
  exact Lib.Machine.always_iff_of_invariant (I := IndicesInRange)
    (fun s call h hpre => indicesInRange_step h hpre) (fun s call _ _ hnext => hnext) hnone hrun

/-- Two browsers without tabs, the grid shows the first. -/
def emptyGrid : GridDrops Bool Nat where
  browsers := [true, false]
  webStateList _ := {}
  browser := some true
  pendingDrops := []
  listCalls := []

/-- A tab of the other window is dropped between the two of the grid, then the first of these last,
and a URL behind them. -/
theorem indicesInRange_iff_moved :
    let calls : List (GridCall Bool Nat) :=
      [.perform true (.insertWebState (fun _ => 0) 0 1 insertActivate .null),
        .perform true (.insertWebState (fun _ => 0) 1 2 insertActivate .null),
        .perform false (.insertWebState (fun _ => 0) 0 3 insertActivate .null),
        .dropItem (fun _ => 0) (.tabInfo 3) 1 false, .dropItem (fun _ => 0) (.tabInfo 1) 2 false,
        .dropItemFromProvider true 3, .urlLoaded (fun _ => 0) 0 4]
    (gridMachine Bool Nat).Always
        (fun s call => ((gridMachine Bool Nat).step s call).IndicesInRange) emptyGrid calls ↔
      (gridMachine Bool Nat).Always DropFits emptyGrid calls := by
  intro calls
  exact indicesInRange_iff ⟨fun _ => rfl, rfl, rfl⟩ (by decide)

/-- **A URL that arrives late, and a tab that is there already.** The tab of the grid is closed
before the URL that was dropped behind it arrives; and the tab is dropped from elsewhere behind
itself. -/
theorem indices_out_of_range :
    let opened : GridCall Bool Nat :=
      .perform true (.insertWebState (fun _ => 0) 0 1 insertActivate .null)
    let late : List (GridCall Bool Nat) := [opened, .dropItemFromProvider true 1,
      .perform true (.closeWebStateAt 0 0), .urlLoaded (fun _ => 0) 0 2]
    let there : List (GridCall Bool Nat) := [opened, .dropItem (fun _ => 0) (.tabInfo 1) 1 false]
    (gridMachine Bool Nat).init emptyGrid ∧
      ((gridMachine Bool Nat).Run emptyGrid late ∧
        ¬((gridMachine Bool Nat).exec emptyGrid late).IndicesInRange) ∧
      (gridMachine Bool Nat).Run emptyGrid there ∧
        ¬((gridMachine Bool Nat).exec emptyGrid there).IndicesInRange := by
  intro opened late there
  refine ⟨⟨fun _ => rfl, rfl, rfl⟩, ⟨by decide, fun h => ?_⟩, by decide, fun h => ?_⟩
  · have hbad := h _ (List.mem_singleton_self _) (by decide)
    exact absurd hbad (by decide)
  · have hbad := (h _ (List.mem_singleton_self _)).2
    exact absurd hbad (by decide)

end GridDrops

end IosChrome.TabGrid

import IosChrome.Lib.ListEdit

/-!
# `WebStateList`: the list of tabs and its order controller

`web_state_list.mm` keeps the tabs of a window in a vector of wrappers, the
index of the active one, and for each tab the tab that opened it
(`WebStateOpener`, a raw pointer and the navigation index the opener was at).
This file has the data and the queries: the getters, the search for the tabs
opened by a given one, and `WebStateListOrderController`, which decides where
a new tab goes and which tab becomes active when one is removed. The mutating
operations are in `Operations.lean`.

A `WebState` is an identity only (`W`, with decidable equality): the list owns
its tabs through `unique_ptr`, so two tabs are the same exactly when the
pointers are. Indices are `Int`, with `kInvalidIndex = -1` for "none" as in
the source. `WebStateOpener::navigation_index` stays a 32-bit value, it
travels through `NSNumber` when the list is saved.

`GetLastCommittedItemIndex` of a tab's navigation manager is not part of the
list: where the source asks for it, the function takes the value as an
argument.
-/

namespace IosChrome.Tabs

/-- No tab (`WebStateList::kInvalidIndex`). -/
def kInvalidIndex : Int := -1

/-- The opener of a tab: `opener` is null when it has none. -/
structure WebStateOpener (W : Type) where
  opener : Option W
  navigationIndex : Int32
  deriving DecidableEq, Repr

namespace WebStateOpener

variable {W : Type}

/-- `WebStateOpener()`: a null opener, whose navigation index is `-1`
(`NavigationIndexFromWebState(nullptr)`). -/
def null : WebStateOpener W := ⟨none, -1⟩

/-- `WebStateOpener(web::WebState* opener)`: the navigation index is read from
the opener's navigation manager, given by `navigationIndex`. -/
def ofWebState (navigationIndex : W → Int32) : Option W → WebStateOpener W
  | none => null
  | some opener => ⟨some opener, navigationIndex opener⟩

@[simp] theorem null_opener : (null : WebStateOpener W).opener = none := rfl

@[simp] theorem ofWebState_opener (nav : W → Int32) (o : Option W) :
    (ofWebState nav o).opener = o := by
  cases o <;> rfl

end WebStateOpener

/-- `WebStateList::WebStateWrapper`. -/
structure WebStateWrapper (W : Type) where
  webState : W
  opener : WebStateOpener W := .null
  shouldResetOpener : Bool := false
  deriving DecidableEq, Repr

namespace WebStateWrapper

variable {W : Type}

def setOpener (wrapper : WebStateWrapper W) (opener : WebStateOpener W) : WebStateWrapper W :=
  { wrapper with shouldResetOpener := false, opener := opener }

/-- `ReplaceWebState` clears the opener and leaves the reset flag alone. -/
def replaceWebState (wrapper : WebStateWrapper W) (webState : W) : WebStateWrapper W :=
  { wrapper with webState := webState, opener := .null }

/-- `WasOpenedBy`. `group` is the opener's navigation index when `use_group`
is set. -/
def wasOpenedBy [DecidableEq W] (wrapper : WebStateWrapper W) (opener : W)
    (group : Option Int32) : Bool :=
  if wrapper.opener.opener ≠ some opener then false
  else match group with
    | none => true
    | some openerNavigationIndex =>
      wrapper.opener.navigationIndex == openerNavigationIndex

@[simp] theorem setOpener_webState (w : WebStateWrapper W) (o : WebStateOpener W) :
    (w.setOpener o).webState = w.webState := rfl

@[simp] theorem setOpener_opener (w : WebStateWrapper W) (o : WebStateOpener W) :
    (w.setOpener o).opener = o := rfl

@[simp] theorem setOpener_shouldResetOpener (w : WebStateWrapper W) (o : WebStateOpener W) :
    (w.setOpener o).shouldResetOpener = false := rfl

@[simp] theorem replaceWebState_webState (w : WebStateWrapper W) (v : W) :
    (w.replaceWebState v).webState = v := rfl

@[simp] theorem replaceWebState_opener (w : WebStateWrapper W) (v : W) :
    (w.replaceWebState v).opener = .null := rfl

end WebStateWrapper

/-- `WebStateList`: the wrappers and the active index. `locked_` and the batch
flag only guard against re-entrant calls and have no counterpart. -/
structure WebStateList (W : Type) where
  webStateWrappers : List (WebStateWrapper W) := []
  activeIndex : Int := kInvalidIndex
  deriving DecidableEq, Repr

namespace WebStateList

variable {W : Type}

/-! ## Getters -/

def count (l : WebStateList W) : Int := l.webStateWrappers.length

def empty (l : WebStateList W) : Bool := l.webStateWrappers.isEmpty

def ContainsIndex (l : WebStateList W) (index : Int) : Prop :=
  0 ≤ index ∧ index < l.count

instance (l : WebStateList W) (index : Int) : Decidable (l.ContainsIndex index) :=
  inferInstanceAs (Decidable (_ ∧ _))

/-- The tabs, in order. -/
def webStates (l : WebStateList W) : List W := l.webStateWrappers.map (·.webState)

/-- `GetWebStateWrapperAt`. The source requires `ContainsIndex(index)`; outside
the list there is no wrapper. -/
def getWebStateWrapperAt (l : WebStateList W) (index : Int) : Option (WebStateWrapper W) :=
  if index < 0 then none else l.webStateWrappers[index.toNat]?

def getActiveWebStateWrapper (l : WebStateList W) : Option (WebStateWrapper W) :=
  if l.activeIndex ≠ kInvalidIndex then l.getWebStateWrapperAt l.activeIndex else none

def getActiveWebState (l : WebStateList W) : Option W :=
  l.getActiveWebStateWrapper.map (·.webState)

def getWebStateAt (l : WebStateList W) (index : Int) : Option W :=
  (l.getWebStateWrapperAt index).map (·.webState)

def getOpenerOfWebStateAt (l : WebStateList W) (index : Int) : WebStateOpener W :=
  match l.getWebStateWrapperAt index with
  | none => .null
  | some wrapper => wrapper.opener

/-- The active tab is read off the tabs and the active index. -/
theorem getActiveWebState_eq (l : WebStateList W) :
    l.getActiveWebState = Lib.current l.webStates l.activeIndex := by
  unfold getActiveWebState getActiveWebStateWrapper getWebStateWrapperAt Lib.current webStates
  by_cases hinv : l.activeIndex = kInvalidIndex
  · rw [if_neg (by simpa using hinv), if_pos (by unfold kInvalidIndex at hinv; omega)]
    rfl
  · rw [if_pos hinv]
    split
    · rfl
    · rw [List.getElem?_map]

theorem getWebStateWrapperAt_natCast (l : WebStateList W) (i : Nat) :
    l.getWebStateWrapperAt i = l.webStateWrappers[i]? := by
  unfold getWebStateWrapperAt
  rw [if_neg (by omega), Int.toNat_natCast]

theorem getWebStateAt_natCast (l : WebStateList W) (i : Nat) :
    l.getWebStateAt i = l.webStates[i]? := by
  rw [getWebStateAt, getWebStateWrapperAt_natCast, webStates, List.getElem?_map]

theorem getOpenerOfWebStateAt_natCast (l : WebStateList W) (i : Nat) :
    l.getOpenerOfWebStateAt i = (l.webStateWrappers[i]?.map (·.opener)).getD .null := by
  rw [getOpenerOfWebStateAt, getWebStateWrapperAt_natCast]
  cases l.webStateWrappers[i]? <;> rfl

@[simp] theorem length_webStates (l : WebStateList W) :
    l.webStates.length = l.webStateWrappers.length := List.length_map _

/-- An index of the list is a natural number below its length. -/
theorem ContainsIndex.exists_nat {l : WebStateList W} {index : Int}
    (h : l.ContainsIndex index) :
    ∃ i : Nat, index = i ∧ i < l.webStateWrappers.length := by
  obtain ⟨h0, hlt⟩ := h
  unfold count at hlt
  exact ⟨index.toNat, by omega, by omega⟩

/-- A valid index holds a tab. -/
theorem ContainsIndex.getWebStateAt {l : WebStateList W} {index : Int}
    (h : l.ContainsIndex index) :
    ∃ i w, index = (i : Nat) ∧ i < l.webStateWrappers.length ∧ l.webStates[i]? = some w ∧
      l.getWebStateAt index = some w := by
  obtain ⟨i, rfl, hi⟩ := h.exists_nat
  have hi' : i < l.webStates.length := by rw [length_webStates]; exact hi
  have hw : l.webStates[i]? = some l.webStates[i] := List.getElem?_eq_getElem hi'
  exact ⟨i, _, rfl, hi, hw, by rw [getWebStateAt_natCast, hw]⟩

/-- A list that is not empty has a last tab. -/
theorem containsIndex_last {l : WebStateList W} (h : l.empty = false) :
    l.ContainsIndex (l.count - 1) := by
  have hpos : 0 < l.webStateWrappers.length := by
    rw [empty, List.isEmpty_eq_false_iff] at h
    exact List.length_pos_iff.2 h
  unfold ContainsIndex count
  omega

theorem containsIndex_natCast {l : WebStateList W} {i : Nat} :
    l.ContainsIndex i ↔ i < l.webStateWrappers.length := by
  unfold ContainsIndex count
  omega

variable [DecidableEq W]

/-- `GetIndexOfWebState`: the first wrapper of the tab. -/
def getIndexOfWebState (l : WebStateList W) (webState : W) : Int :=
  match l.webStateWrappers.findIdx? (·.webState = webState) with
  | none => kInvalidIndex
  | some index => index

/-- `GetIndexOfWebState` finds a tab of the list at an index that holds it. -/
theorem getIndexOfWebState_of_mem {l : WebStateList W} {w : W} (h : w ∈ l.webStates) :
    ∃ i : Nat, l.getIndexOfWebState w = i ∧ l.webStates[i]? = some w := by
  unfold getIndexOfWebState
  obtain ⟨wrapper, hmem, hw⟩ := List.mem_map.1 h
  cases hf : l.webStateWrappers.findIdx? (·.webState = w) with
  | none =>
    rw [List.findIdx?_eq_none_iff] at hf
    have := hf wrapper hmem
    simp [hw] at this
  | some i =>
    obtain ⟨hi, hp, _⟩ := List.findIdx?_eq_some_iff_getElem.1 hf
    refine ⟨i, rfl, ?_⟩
    rw [webStates, List.getElem?_map, List.getElem?_eq_getElem hi]
    simpa using hp

/-- …and there is only one when the tabs are distinct. -/
theorem getIndexOfWebState_of_getElem? {l : WebStateList W} (h : l.webStates.Nodup) {j : Nat}
    {w : W} (hj : l.webStates[j]? = some w) : l.getIndexOfWebState w = j := by
  obtain ⟨i, hi, hiw⟩ := getIndexOfWebState_of_mem (List.mem_of_getElem? hj)
  obtain ⟨hilt, hiw⟩ := List.getElem?_eq_some_iff.1 hiw
  obtain ⟨hjlt, hjw⟩ := List.getElem?_eq_some_iff.1 hj
  rw [hi, h.getElem_inj_iff.1 (hiw.trans hjw.symm)]

/-- …and gives `kInvalidIndex` for a tab that is not in it. -/
theorem getIndexOfWebState_of_not_mem {l : WebStateList W} {w : W} (h : w ∉ l.webStates) :
    l.getIndexOfWebState w = kInvalidIndex := by
  unfold getIndexOfWebState
  have hf : l.webStateWrappers.findIdx? (·.webState = w) = none := by
    rw [List.findIdx?_eq_none_iff]
    intro wrapper hmem
    have : wrapper.webState ≠ w := fun he => h (he ▸ List.mem_map_of_mem hmem)
    simpa using this
  rw [hf]

/-! ## The tabs opened by a tab -/

/-- The loop of `GetIndexOfNthWebStateOpenedBy` over the indices it visits:
the index of the `n`-th one that `opened` accepts, or the last one accepted
when there are fewer. -/
def nthOpenedLoop (opened : Nat → Bool) : List Nat → Nat → Int → Int
  | [], _, foundIndex => foundIndex
  | index :: indices, n, foundIndex =>
    if opened index then
      if n - 1 = 0 then index else nthOpenedLoop opened indices (n - 1) index
    else nthOpenedLoop opened indices n foundIndex

/-- The indices visited from `start`, cyclically, `start` itself excluded. -/
def cyclicIndices (start length : Nat) : List Nat :=
  (List.range' 1 (length - 1)).map fun i => (start + i) % length

def openedAt (l : WebStateList W) (opener : W) (group : Option Int32) (index : Nat) : Bool :=
  match l.webStateWrappers[index]? with
  | none => false
  | some wrapper => wrapper.wasOpenedBy opener group

/-- `GetIndexOfNthWebStateOpenedBy`. -/
def getIndexOfNthWebStateOpenedBy (l : WebStateList W) (opener : Option W) (startIndex : Int)
    (group : Option Int32) (n : Nat) : Int :=
  match opener with
  | none => kInvalidIndex
  | some opener =>
    if l.ContainsIndex startIndex then
      nthOpenedLoop (l.openedAt opener group)
        (cyclicIndices startIndex.toNat l.webStateWrappers.length) n kInvalidIndex
    else kInvalidIndex

def getIndexOfNextWebStateOpenedBy (l : WebStateList W) (opener : Option W) (startIndex : Int)
    (group : Option Int32) : Int :=
  l.getIndexOfNthWebStateOpenedBy opener startIndex group 1

/-- `GetIndexOfLastWebStateOpenedBy` asks for the `INT_MAX`-th one. -/
def getIndexOfLastWebStateOpenedBy (l : WebStateList W) (opener : Option W) (startIndex : Int)
    (group : Option Int32) : Int :=
  l.getIndexOfNthWebStateOpenedBy opener startIndex group 2147483647

/-! ## `WebStateListOrderController` -/

/-- `DetermineInsertionIndex`: after the last tab of the opener's group, else
after the opener, else at the end. -/
def determineInsertionIndex (l : WebStateList W) (nav : W → Int32) (opener : Option W) : Int :=
  match opener with
  | none => l.count
  | some opener =>
    let openerIndex := l.getIndexOfWebState opener
    let listChildIndex :=
      l.getIndexOfLastWebStateOpenedBy (some opener) openerIndex (some (nav opener))
    let referenceIndex := if listChildIndex ≠ kInvalidIndex then listChildIndex else openerIndex
    referenceIndex + 1

/-- `GetValidIndex`: where an index points once `removingIndex` is gone. -/
def getValidIndex (activeIndex removingIndex : Int) : Int :=
  if activeIndex < removingIndex then activeIndex else activeIndex - 1

/-- `DetermineNewActiveIndex`. -/
def determineNewActiveIndex (l : WebStateList W) (activeIndex removingIndex : Int) : Int :=
  if activeIndex = kInvalidIndex then kInvalidIndex
  else if l.count = 1 then kInvalidIndex
  else if activeIndex ≠ removingIndex then getValidIndex activeIndex removingIndex
  else
    let childIndex := l.getIndexOfNextWebStateOpenedBy (l.getWebStateAt removingIndex)
      removingIndex none
    if childIndex ≠ kInvalidIndex then getValidIndex childIndex removingIndex
    else
      let opener := l.getOpenerOfWebStateAt removingIndex
      match opener.opener with
      | none => if removingIndex = l.count - 1 then removingIndex - 1 else removingIndex
      | some openerWebState =>
        let siblingIndex := l.getIndexOfNextWebStateOpenedBy (some openerWebState)
          removingIndex none
        if siblingIndex ≠ kInvalidIndex then getValidIndex siblingIndex removingIndex
        else getValidIndex (l.getIndexOfWebState openerWebState) removingIndex

/-! ## Where the searches end up -/

/-- The loop returns the value it started from or an index it accepted. -/
theorem nthOpenedLoop_mem (opened : Nat → Bool) : ∀ (is : List Nat) (n : Nat) (found : Int),
    nthOpenedLoop opened is n found = found ∨
      ∃ i ∈ is, opened i = true ∧ nthOpenedLoop opened is n found = i
  | [], _, _ => Or.inl rfl
  | i :: is, n, found => by
    unfold nthOpenedLoop
    split
    next hi =>
      split
      · exact Or.inr ⟨i, List.mem_cons_self, hi, rfl⟩
      · rcases nthOpenedLoop_mem opened is (n - 1) i with h | ⟨j, hj, ho, h⟩
        · exact Or.inr ⟨i, List.mem_cons_self, hi, h⟩
        · exact Or.inr ⟨j, List.mem_cons_of_mem _ hj, ho, h⟩
    next =>
      rcases nthOpenedLoop_mem opened is n found with h | ⟨j, hj, ho, h⟩
      · exact Or.inl h
      · exact Or.inr ⟨j, List.mem_cons_of_mem _ hj, ho, h⟩

theorem mem_cyclicIndices {start length i : Nat} (hs : start < length)
    (h : i ∈ cyclicIndices start length) : i < length ∧ i ≠ start := by
  unfold cyclicIndices at h
  obtain ⟨k, hk, rfl⟩ := List.mem_map.1 h
  rw [List.mem_range'_1] at hk
  refine ⟨Nat.mod_lt _ (by omega), fun he => ?_⟩
  by_cases hlt : start + k < length
  · rw [Nat.mod_eq_of_lt hlt] at he
    omega
  · rw [Nat.mod_eq_sub_mod (by omega), Nat.mod_eq_of_lt (by omega)] at he
    omega

/-- A search for opened tabs gives `kInvalidIndex` or another tab of the list,
one that `opener` opened. -/
theorem getIndexOfNthWebStateOpenedBy_spec (l : WebStateList W) (opener : W) (i : Nat)
    (group : Option Int32) (n : Nat) (hi : i < l.webStateWrappers.length) :
    l.getIndexOfNthWebStateOpenedBy (some opener) i group n = kInvalidIndex ∨
      ∃ j : Nat, l.getIndexOfNthWebStateOpenedBy (some opener) i group n = j ∧
        j < l.webStateWrappers.length ∧ j ≠ i ∧ l.openedAt opener group j = true := by
  have hc : l.ContainsIndex i := containsIndex_natCast.2 hi
  simp only [getIndexOfNthWebStateOpenedBy, if_pos hc, Int.toNat_natCast]
  rcases nthOpenedLoop_mem (l.openedAt opener group)
    (cyclicIndices i l.webStateWrappers.length) n kInvalidIndex with h | ⟨j, hj, ho, h⟩
  · exact Or.inl h
  · obtain ⟨hlt, hne⟩ := mem_cyclicIndices hi hj
    exact Or.inr ⟨j, h, hlt, hne, ho⟩

/-- Away from the removed element, `GetValidIndex` points into the shorter
list. -/
theorem getValidIndex_range {i j n : Nat} (hi : i < n) (hj : j < n) (hne : j ≠ i) :
    0 ≤ getValidIndex j i ∧ getValidIndex j i < (n : Int) - 1 := by
  unfold getValidIndex
  split <;> omega

end WebStateList

end IosChrome.Tabs

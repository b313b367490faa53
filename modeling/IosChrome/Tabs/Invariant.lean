import IosChrome.Tabs.Operations

/-!
# The invariant of `WebStateList`

The opener links are raw pointers and the active index is a bare `int`; both
stay meaningful only because every operation repairs them. `ListInv` says what
is repaired: the active index is `kInvalidIndex` or in range, the tabs are
distinct, and every wrapper is well formed against the tabs of the list
(`WrapperInv`), in particular its opener is another tab of the list.

`WrapperInv` also carries two facts no caller sees but later proofs need: a
null opener has navigation index `-1`, and the flag that resets an inherited
opener is only ever set on a wrapper whose opener is already null. The source
sets the flag before it sets the opener, and `SetOpener` clears it.

Each write keeps the invariant (`removeWrapperAt_inv` is the one with an
argument: `determineNewActiveIndex_range`), so each operation does
(`perform_inv`), so it holds in every reachable list (`reachable_inv`).
-/

namespace IosChrome.Tabs

variable {W : Type}

/-- A wrapper is well formed in a list with these tabs. -/
structure WrapperInv (tabs : List W) (wrapper : WebStateWrapper W) : Prop where
  opener : ∀ o, wrapper.opener.opener = some o → o ∈ tabs ∧ o ≠ wrapper.webState
  null : wrapper.opener.opener = none → wrapper.opener = .null
  reset : wrapper.shouldResetOpener = true → wrapper.opener = .null

/-- The invariant of the list. -/
structure ListInv (l : WebStateList W) : Prop where
  active : l.activeIndex = kInvalidIndex ∨ l.ContainsIndex l.activeIndex
  nodup : l.webStates.Nodup
  wrappers : ∀ wrapper ∈ l.webStateWrappers, WrapperInv l.webStates wrapper

/-! ## Wrappers -/

theorem WrapperInv.of_null (tabs : List W) {wrapper : WebStateWrapper W}
    (h : wrapper.opener = .null) : WrapperInv tabs wrapper where
  opener o ho := by
    rw [h] at ho
    exact absurd ho (by simp)
  null _ := h
  reset _ := h

variable {opener : WebStateOpener W}

theorem WrapperInv.of_setOpener {tabs : List W} {wrapper : WebStateWrapper W} {o : W}
    (ho : opener.opener = some o) (hmem : o ∈ tabs) (hne : o ≠ wrapper.webState) :
    WrapperInv tabs (wrapper.setOpener opener) where
  opener o' ho' := by
    rw [WebStateWrapper.setOpener_opener, ho] at ho'
    cases ho'
    exact ⟨hmem, hne⟩
  null hn := by
    rw [WebStateWrapper.setOpener_opener, ho] at hn
    exact absurd hn (by simp)
  reset hr := absurd hr (by simp)

/-- What a wrapper needs of the tabs is that its opener is still there. -/
theorem WrapperInv.of_tabs {tabs tabs' : List W} {wrapper : WebStateWrapper W}
    (h : WrapperInv tabs wrapper)
    (hmem : ∀ o, wrapper.opener.opener = some o → o ∈ tabs') : WrapperInv tabs' wrapper where
  opener o ho := ⟨hmem o ho, (h.opener o ho).2⟩
  null := h.null
  reset := h.reset

/-! ## Writes to the openers -/

/-- The empty list. -/
theorem init_inv : ListInv ({} : WebStateList W) where
  active := .inl rfl
  nodup := List.nodup_nil
  wrappers _ hw := absurd hw (by simp)

variable {l : WebStateList W}

/-- A write to the wrapper at `index` that gives a well-formed wrapper keeps
the invariant. -/
theorem modifyWrapperAt_inv (h : ListInv l) (index : Int)
    {f : WebStateWrapper W → WebStateWrapper W} (hf : ∀ w, (f w).webState = w.webState)
    (hw : ∀ w, l.getWebStateWrapperAt index = some w → WrapperInv l.webStates (f w)) :
    ListInv (l.modifyWrapperAt index f) := by
  have htabs := l.modifyWrapperAt_webStates index hf
  refine ⟨?_, by rw [htabs]; exact h.nodup, ?_⟩
  · unfold WebStateList.ContainsIndex WebStateList.count
    rw [WebStateList.modifyWrapperAt_activeIndex, ← WebStateList.length_webStates, htabs,
      WebStateList.length_webStates]
    exact h.active
  · rw [htabs]
    unfold WebStateList.getWebStateWrapperAt at hw
    unfold WebStateList.modifyWrapperAt
    split
    next => exact h.wrappers
    next hpos =>
      rw [if_neg hpos] at hw
      intro w hmem
      obtain ⟨j, hj⟩ := List.getElem?_of_mem hmem
      rw [List.getElem?_modify] at hj
      obtain ⟨w', hw', rfl⟩ := Option.map_eq_some_iff.1 hj
      split
      next he =>
        subst he
        exact hw w' hw'
      next => exact h.wrappers w' (List.mem_of_getElem? hw')

/-- An explicit opener must be another tab of the list. -/
theorem setOpenerOfWebStateAt_inv (h : ListInv l) {i : Nat} {o : W} (ho : opener.opener = some o)
    (hmem : o ∈ l.webStates) (hne : l.webStates[i]? ≠ some o) :
    ListInv (l.setOpenerOfWebStateAt i opener) := by
  refine modifyWrapperAt_inv h i (fun _ => rfl) fun w hw => ?_
  refine WrapperInv.of_setOpener ho hmem fun he => hne ?_
  rw [← WebStateList.getWebStateAt_natCast, WebStateList.getWebStateAt, hw, he]
  rfl

theorem clearAllOpeners_inv (h : ListInv l) :
    ListInv l.clearAllOpeners := by
  refine ⟨?_, by rw [WebStateList.clearAllOpeners_webStates]; exact h.nodup, ?_⟩
  · unfold WebStateList.ContainsIndex WebStateList.count WebStateList.clearAllOpeners
    rw [List.length_map]
    exact h.active
  · intro w hw
    obtain ⟨w', _, rfl⟩ := List.mem_map.1 hw
    exact .of_null _ rfl

/-- Activation writes at most a null opener. -/
theorem setActiveIndex_inv (h : ListInv l) {index : Int}
    (hindex : index = kInvalidIndex ∨ l.ContainsIndex index) :
    ListInv (l.setActiveIndex index) := by
  obtain ⟨l', hset, hreset⟩ : ∃ l' : WebStateList W,
      l.setActiveIndex index = { l' with activeIndex := index } ∧ ListInv l' := by
    unfold WebStateList.setActiveIndex
    cases l.getActiveWebStateWrapper with
    | none => exact ⟨l, rfl, h⟩
    | some _ =>
      refine ⟨_, rfl, modifyWrapperAt_inv h _ (fun w => by split <;> rfl) fun w hw => ?_⟩
      have hmem : w ∈ l.webStateWrappers := by
        unfold WebStateList.getWebStateWrapperAt at hw
        split at hw
        · exact absurd hw (by simp)
        · exact List.mem_of_getElem? hw
      split
      · exact .of_null _ rfl
      · exact h.wrappers w hmem
  rw [hset]
  refine ⟨?_, hreset.nodup, hreset.wrappers⟩
  rw [← hset]
  unfold WebStateList.ContainsIndex WebStateList.count
  rw [← WebStateList.length_webStates, WebStateList.setActiveIndex_webStates,
    WebStateList.length_webStates]
  exact hindex

/-! ## Insertion and moves -/

variable {webState : W}

theorem insertWrapperAt_inv (h : ListInv l) {i : Nat} (hi : i ≤ l.webStateWrappers.length)
    (hnew : webState ∉ l.webStates) :
    ListInv (l.insertWrapperAt i webState) := by
  have hi' : i ≤ l.webStates.length := by rw [WebStateList.length_webStates]; exact hi
  have hperm : (l.webStates.insertIdx i webState).Perm (webState :: l.webStates) :=
    List.perm_insertIdx _ _ hi'
  refine ⟨?_, ?_, ?_⟩
  · have hlen : (l.insertWrapperAt i webState).count = l.count + 1 := by
      unfold WebStateList.count WebStateList.insertWrapperAt
      rw [Int.toNat_natCast, List.length_insertIdx_of_le_length hi]
      rfl
    have hactive : (l.insertWrapperAt i webState).activeIndex =
        if l.activeIndex ≥ i then l.activeIndex + 1 else l.activeIndex := rfl
    unfold WebStateList.ContainsIndex
    rw [hlen, hactive]
    rcases h.active with ha | ⟨h0, hlt⟩
    · left
      rw [ha, if_neg (by unfold kInvalidIndex; omega)]
    · right
      split <;> omega
  · rw [WebStateList.insertWrapperAt_webStates, Int.toNat_natCast, hperm.nodup_iff]
    exact List.nodup_cons.2 ⟨hnew, h.nodup⟩
  · rw [WebStateList.insertWrapperAt_webStates, Int.toNat_natCast]
    intro w hw
    rcases List.eq_or_mem_of_mem_insertIdx hw with rfl | hw
    · exact .of_null _ rfl
    · refine (h.wrappers w hw).of_tabs fun o ho => ?_
      exact hperm.mem_iff.2 (List.mem_cons_of_mem _ ((h.wrappers w hw).opener o ho).1)

theorem insertionBase_inv (h : ListInv l) (insertionFlags : Int32) :
    ListInv (l.insertionBase insertionFlags) := by
  unfold WebStateList.insertionBase
  split
  · exact clearAllOpeners_inv h
  · exact h

/-- The reset flag is only set on the wrapper just inserted, whose opener is
still null. -/
theorem markInserted_inv {i : Nat} (h : ListInv (l.insertWrapperAt i webState))
    (insertionFlags : Int32) (hi : i ≤ l.webStateWrappers.length) :
    ListInv ((l.insertWrapperAt i webState).markInserted i insertionFlags) := by
  unfold WebStateList.markInserted
  split
  next =>
    refine modifyWrapperAt_inv h i (fun _ => rfl) fun w hw => ?_
    rw [WebStateList.getWebStateWrapperAt_natCast, WebStateList.insertWrapperAt,
      Int.toNat_natCast, List.getElem?_insertIdx_self, if_pos hi] at hw
    cases hw
    exact .of_null _ rfl
  next => exact h

/-- **An insertion keeps the invariant up to its activation**: the opener it
sets was a tab before the new one came in. -/
theorem inserted_inv (h : ListInv l) {i : Nat} (insertionFlags : Int32)
    (hi : i ≤ l.webStateWrappers.length) (hnew : webState ∉ l.webStates)
    (hopener : ∀ o, opener.opener = some o → o ∈ l.webStates) :
    ListInv (((l.insertWrapperAt i webState).markInserted i insertionFlags).setInsertedOpener
      i opener) := by
  have hmarked := markInserted_inv (insertWrapperAt_inv h hi hnew) insertionFlags hi
  unfold WebStateList.setInsertedOpener
  split
  next hsome =>
    obtain ⟨o, ho⟩ := Option.isSome_iff_exists.1 hsome
    have hmem := hopener o ho
    have htabs : ((l.insertWrapperAt i webState).markInserted i insertionFlags).webStates =
        l.webStates.insertIdx i webState := by
      rw [WebStateList.markInserted_webStates, WebStateList.insertWrapperAt_webStates,
        Int.toNat_natCast]
    refine setOpenerOfWebStateAt_inv hmarked ho ?_ ?_
    · rw [htabs]
      exact List.subset_insertIdx _ _ _ hmem
    · rw [htabs, List.getElem?_insertIdx_self]
      split
      · rintro he
        cases he
        exact hnew hmem
      · simp
  next => exact hmarked

/-- The active tab, when there is one, is a tab of the list. -/
theorem mem_of_getActiveWebState {w : W} (h : l.getActiveWebState = some w) : w ∈ l.webStates := by
  rw [WebStateList.getActiveWebState_eq] at h
  exact Lib.mem_of_current h

/-- The opener of an insertion, inherited or not, is null or a tab of the list. -/
theorem insertionOpener_mem (nav : W → Int32) {insertionFlags : Int32}
    (hopener : ∀ o ∈ opener.opener, o ∈ l.webStates) :
    ∀ o, ((l.insertionBase insertionFlags).insertionOpener nav insertionFlags opener).opener = some o →
      o ∈ (l.insertionBase insertionFlags).webStates := by
  intro o ho
  unfold WebStateList.insertionOpener at ho
  split at ho
  · rw [WebStateOpener.ofWebState_opener] at ho
    exact mem_of_getActiveWebState ho
  · rw [WebStateList.insertionBase_webStates]
    exact hopener o ho

/-- Moving permutes the tabs, and the active index follows its own. -/
theorem moveWrapper_inv (h : ListInv l) {i j : Nat} (hi : i < l.webStateWrappers.length)
    (hj : j < l.webStateWrappers.length) :
    ListInv (l.moveWrapper i j) := by
  have hw : l.getWebStateWrapperAt i = some l.webStateWrappers[i] := by
    rw [WebStateList.getWebStateWrapperAt_natCast, List.getElem?_eq_getElem hi]
  have hperm : ((l.webStateWrappers.eraseIdx i).insertIdx j l.webStateWrappers[i]).Perm
      l.webStateWrappers :=
    (List.perm_insertIdx _ _ (by rw [List.length_eraseIdx_of_lt hi]; omega)).trans
      (List.getElem_cons_eraseIdx_perm hi)
  have heq : l.moveWrapper i j =
      { webStateWrappers := (l.webStateWrappers.eraseIdx i).insertIdx j l.webStateWrappers[i]
        activeIndex := (l.moveWrapper i j).activeIndex } := by
    unfold WebStateList.moveWrapper
    rw [hw]
    rfl
  have hactive : (l.moveWrapper i j).activeIndex = kInvalidIndex ∨
      l.ContainsIndex (l.moveWrapper i j).activeIndex := by
    unfold WebStateList.moveWrapper WebStateList.ContainsIndex WebStateList.count kInvalidIndex
    rw [hw]
    simp only
    rcases h.active with ha | ⟨h0, hlt⟩
    · left
      unfold kInvalidIndex at ha
      rw [ha, if_neg (by omega), if_neg (by omega)]
    · right
      unfold WebStateList.count at hlt
      split
      next => omega
      next =>
        split
        next => split <;> omega
        next => omega
  have htabs : (l.moveWrapper i j).webStates.Perm l.webStates := by
    rw [heq]
    exact hperm.map _
  refine ⟨?_, htabs.nodup_iff.2 h.nodup, fun w hmem => ?_⟩
  · unfold WebStateList.ContainsIndex WebStateList.count at hactive ⊢
    rwa [← WebStateList.length_webStates, htabs.length_eq, WebStateList.length_webStates]
  · have hmem' : w ∈ l.webStateWrappers := by
      rw [heq] at hmem
      exact hperm.mem_iff.1 hmem
    exact (h.wrappers w hmem').of_tabs fun o ho =>
      htabs.mem_iff.2 ((h.wrappers w hmem').opener o ho).1

/-! ## Replacement and removal -/

variable [DecidableEq W]

/-- Once `ClearOpenersReferencing` ran for a tab, no opener is that tab. -/
theorem clearOpenersReferencing_inv (h : ListInv l) {i : Nat} {old : W}
    (hold : l.webStates[i]? = some old) :
    ListInv (l.clearOpenersReferencing i) ∧
    ∀ w ∈ (l.clearOpenersReferencing i).webStateWrappers, w.opener.opener ≠ some old := by
  have hwrappers : (l.clearOpenersReferencing i).webStateWrappers =
      l.webStateWrappers.map fun wrapper =>
        if wrapper.opener.opener = some old then wrapper.setOpener .null else wrapper := by
    unfold WebStateList.clearOpenersReferencing
    rw [WebStateList.getWebStateAt_natCast, hold]
  refine ⟨⟨?_, ?_, ?_⟩, ?_⟩
  · unfold WebStateList.ContainsIndex WebStateList.count
    rw [hwrappers, List.length_map, WebStateList.clearOpenersReferencing_activeIndex]
    exact h.active
  · rw [WebStateList.clearOpenersReferencing_webStates]
    exact h.nodup
  · rw [WebStateList.clearOpenersReferencing_webStates, hwrappers]
    intro w hw
    obtain ⟨w', hw', rfl⟩ := List.mem_map.1 hw
    split
    · exact .of_null _ rfl
    · exact h.wrappers w' hw'
  · rw [hwrappers]
    intro w hw
    obtain ⟨w', _, rfl⟩ := List.mem_map.1 hw
    split
    next => simp
    next hne => exact hne

theorem replaceWrapper_inv (h : ListInv l) {i : Nat} (hi : i < l.webStateWrappers.length)
    (hnew : webState ∉ l.webStates) :
    ListInv (l.replaceWrapper i webState) := by
  have hi' : i < l.webStates.length := by rw [WebStateList.length_webStates]; exact hi
  have hold : l.webStates[i]? = some l.webStates[i] := List.getElem?_eq_getElem hi'
  obtain ⟨hclear, hgone⟩ := clearOpenersReferencing_inv h hold
  have htabs := WebStateList.replaceWrapper_webStates l i webState
  refine ⟨?_, ?_, ?_⟩
  · unfold WebStateList.ContainsIndex WebStateList.count
    rw [← WebStateList.length_webStates, htabs, List.length_set,
      WebStateList.length_webStates, WebStateList.replaceWrapper_activeIndex]
    exact h.active
  · rw [htabs]
    exact List.Nodup.set h.nodup hnew
  · rw [htabs]
    unfold WebStateList.replaceWrapper WebStateList.modifyWrapperAt
    rw [if_neg (by omega), Int.toNat_natCast]
    intro w hmem
    obtain ⟨j, hj⟩ := List.getElem?_of_mem hmem
    rw [List.getElem?_modify] at hj
    obtain ⟨w', hw', rfl⟩ := Option.map_eq_some_iff.1 hj
    have hmem' := List.mem_of_getElem? hw'
    by_cases hij : i = j
    · rw [if_pos hij]
      exact .of_null _ rfl
    · rw [if_neg hij]
      refine (hclear.wrappers w' hmem').of_tabs fun o ho => ?_
      -- the opener is a tab, and not the one that was replaced
      have hin := ((hclear.wrappers w' hmem').opener o ho).1
      rw [WebStateList.clearOpenersReferencing_webStates] at hin
      obtain ⟨k, hk⟩ := List.getElem?_of_mem hin
      refine List.mem_of_getElem? (i := k) ?_
      have hne : i ≠ k := by
        rintro rfl
        rw [hold] at hk
        exact hgone w' hmem' (ho.trans hk.symm)
      rw [List.getElem?_set_ne hne]
      exact hk

/-- `kInvalidIndex`, or an index of a list of `n` tabs. -/
def ValidIn (n : Int) (index : Int) : Prop := index = kInvalidIndex ∨ (0 ≤ index ∧ index < n)

/-- While there are other tabs, one of them becomes active, for every opener graph: the
searches for a child or a sibling never end on the removed tab, and neither does the
fall-back on its opener. -/
theorem determineNewActiveIndex_contains (h : ListInv l) {i : Nat}
    (hi : i < l.webStateWrappers.length) (hactive : l.activeIndex ≠ kInvalidIndex)
    (hcount : l.count ≠ 1) :
    0 ≤ l.determineNewActiveIndex l.activeIndex i ∧
      l.determineNewActiveIndex l.activeIndex i < l.count - 1 := by
  obtain ⟨a, ha, halt⟩ := (h.active.resolve_left hactive).exists_nat
  unfold WebStateList.determineNewActiveIndex
  rw [if_neg hactive, if_neg hcount]
  unfold WebStateList.count at hcount ⊢
  split
  next hne =>
    rw [ha] at hne ⊢
    exact WebStateList.getValidIndex_range hi halt (by omega)
  next =>
    have hi' : i < l.webStates.length := by rw [WebStateList.length_webStates]; exact hi
    rw [WebStateList.getWebStateAt_natCast, List.getElem?_eq_getElem hi']
    have hopened : ∀ o, l.getIndexOfNextWebStateOpenedBy (some o) i none ≠ kInvalidIndex →
        0 ≤ WebStateList.getValidIndex (l.getIndexOfNextWebStateOpenedBy (some o) i none) i ∧
          WebStateList.getValidIndex (l.getIndexOfNextWebStateOpenedBy (some o) i none) i <
            (l.webStateWrappers.length : Int) - 1 := by
      intro o ho
      obtain ⟨j, hj, hlt, hne, _⟩ :=
        (l.getIndexOfNthWebStateOpenedBy_spec o i none 1 hi).resolve_left ho
      rw [WebStateList.getIndexOfNextWebStateOpenedBy, hj]
      exact WebStateList.getValidIndex_range hi hlt hne
    by_cases hchild :
        l.getIndexOfNextWebStateOpenedBy (some l.webStates[i]) i none ≠ kInvalidIndex
    · rw [if_pos hchild]
      exact hopened _ hchild
    · rw [if_neg hchild]
      have hw : l.getOpenerOfWebStateAt i = l.webStateWrappers[i].opener := by
        rw [WebStateList.getOpenerOfWebStateAt, WebStateList.getWebStateWrapperAt_natCast,
          List.getElem?_eq_getElem hi]
      simp only [hw]
      cases hopener : l.webStateWrappers[i].opener.opener with
      | none =>
        simp only
        split <;> omega
      | some opener =>
        simp only
        by_cases hsibling :
            l.getIndexOfNextWebStateOpenedBy (some opener) i none ≠ kInvalidIndex
        · rw [if_pos hsibling]
          exact hopened _ hsibling
        · rw [if_neg hsibling]
          -- the opener is a tab other than the removed one
          obtain ⟨hmem, hne⟩ := (h.wrappers _ (List.getElem_mem hi)).opener opener hopener
          obtain ⟨j, hj, hjw⟩ := WebStateList.getIndexOfWebState_of_mem hmem
          have hjlt : j < l.webStates.length := (List.getElem?_eq_some_iff.1 hjw).1
          rw [WebStateList.length_webStates] at hjlt
          rw [hj]
          refine WebStateList.getValidIndex_range hi hjlt ?_
          rintro rfl
          rw [WebStateList.webStates, List.getElem?_map, List.getElem?_eq_getElem hi] at hjw
          exact hne (Option.some.inj hjw).symm

/-- **The new active index is valid in the list without the removed tab.** -/
theorem determineNewActiveIndex_range (h : ListInv l) {i : Nat} (hi : i < l.webStateWrappers.length)
    :
    ValidIn (l.count - 1) (l.determineNewActiveIndex l.activeIndex i) := by
  by_cases hactive : l.activeIndex = kInvalidIndex
  · unfold WebStateList.determineNewActiveIndex
    rw [if_pos hactive]
    exact .inl rfl
  · by_cases hcount : l.count = 1
    · unfold WebStateList.determineNewActiveIndex
      rw [if_neg hactive, if_pos hcount]
      exact .inl rfl
    · exact .inr (determineNewActiveIndex_contains h hi hactive hcount)

theorem removeWrapperAt_inv (h : ListInv l) {i : Nat} (hi : i < l.webStateWrappers.length) :
    ListInv (l.removeWrapperAt i) := by
  have hi' : i < l.webStates.length := by rw [WebStateList.length_webStates]; exact hi
  have hold : l.webStates[i]? = some l.webStates[i] := List.getElem?_eq_getElem hi'
  have htabs := WebStateList.removeWrapperAt_webStates l i
  rw [Int.toNat_natCast] at htabs
  refine ⟨?_, ?_, ?_⟩
  · rw [WebStateList.removeWrapperAt_activeIndex]
    unfold WebStateList.ContainsIndex WebStateList.count
    rw [← WebStateList.length_webStates, htabs, List.length_eraseIdx_of_lt hi',
      WebStateList.length_webStates]
    have hrange := determineNewActiveIndex_range h hi
    unfold ValidIn WebStateList.count at hrange
    omega
  · rw [htabs]
    exact h.nodup.sublist (List.eraseIdx_sublist _ _)
  · -- clearing the openers does not depend on the active index
    have hclear := clearOpenersReferencing_inv h hold
    have hwrappers : (l.removeWrapperAt i).webStateWrappers =
        (l.clearOpenersReferencing i).webStateWrappers.eraseIdx i := by
      have hat : ∀ activeIndex,
          ({ l with activeIndex := activeIndex } : WebStateList W).getWebStateAt i =
            some l.webStates[i] := fun activeIndex =>
        (WebStateList.getWebStateAt_natCast _ _).trans hold
      unfold WebStateList.removeWrapperAt WebStateList.clearOpenersReferencing
      simp only [hat, Int.toNat_natCast]
    rw [htabs, hwrappers]
    intro w hmem
    have hmem' := List.mem_of_mem_eraseIdx hmem
    refine (hclear.1.wrappers w hmem').of_tabs fun o ho => ?_
    have hin := ((hclear.1.wrappers w hmem').opener o ho).1
    rw [WebStateList.clearOpenersReferencing_webStates] at hin
    refine (List.mem_eraseIdx_iff_getElem?).2 ?_
    obtain ⟨k, hk⟩ := List.getElem?_of_mem hin
    refine ⟨k, ?_, hk⟩
    rintro rfl
    rw [hold] at hk
    exact hclear.2 w hmem' (ho.trans hk.symm)

/-! ## Operations -/

/-- An insertion index that was not forced is in range whatever the order
controller says, and a forced one is the caller's. -/
theorem insertionIndex_range (l : WebStateList W) (nav : W → Int32) {index : Int}
    {insertionFlags : Int32} (opener : WebStateOpener W)
    (h : isInsertionFlagSet insertionFlags insertForceIndex = true →
      l.ContainsIndex index ∨ index = l.count) :
    ∃ i : Nat, l.insertionIndex nav index insertionFlags opener = i ∧
      i ≤ l.webStateWrappers.length := by
  suffices hr : 0 ≤ l.insertionIndex nav index insertionFlags opener ∧
      l.insertionIndex nav index insertionFlags opener ≤ l.count by
    unfold WebStateList.count at hr
    exact ⟨(l.insertionIndex nav index insertionFlags opener).toNat, by omega, by omega⟩
  have hcount : 0 ≤ l.count := by unfold WebStateList.count; omega
  unfold WebStateList.insertionIndex
  split
  next hforce =>
    rcases h hforce with ⟨h0, hlt⟩ | rfl
    · omega
    · omega
  next =>
    simp only
    split <;> omega

theorem activateWebStateAtImpl_inv {m : Mutation W} (h : ListInv m.webStateList) {index : Int}
    (reason : ActiveWebStateChangeReason)
    (hindex : index = kInvalidIndex ∨ m.webStateList.ContainsIndex index) :
    ListInv (m.activateWebStateAtImpl index reason).webStateList := by
  rw [Mutation.activateWebStateAtImpl_webStateList]
  exact setActiveIndex_inv h hindex

theorem closeWebStateAtImpl_inv {m : Mutation W} (h : ListInv m.webStateList) {index : Int}
    (closeFlags : Int32) (hindex : m.webStateList.ContainsIndex index) :
    ListInv (m.closeWebStateAtImpl index closeFlags).webStateList := by
  obtain ⟨i, w, rfl, hi, _, hw⟩ := hindex.getWebStateAt
  rw [Mutation.closeWebStateAtImpl_webStateList m closeFlags hw]
  exact removeWrapperAt_inv h hi

/-- The closing loop keeps the invariant, and `count()` rounds empty the list. -/
theorem closeAllLoop_inv (closeFlags : Int32) : ∀ (rounds : Nat) (m : Mutation W),
    ListInv m.webStateList → ListInv (Mutation.closeAllLoop closeFlags rounds m).webStateList
  | 0, _, h => h
  | rounds + 1, m, h => by
    unfold Mutation.closeAllLoop
    split
    next => exact h
    next hne =>
      have hlast := WebStateList.containsIndex_last (Bool.eq_false_iff.2 hne)
      exact closeAllLoop_inv closeFlags rounds _ (closeWebStateAtImpl_inv h closeFlags hlast)

theorem closeAllLoop_empty (closeFlags : Int32) : ∀ (rounds : Nat) (m : Mutation W),
    m.webStateList.webStateWrappers.length ≤ rounds →
    (Mutation.closeAllLoop closeFlags rounds m).webStateList.webStates = []
  | 0, m, h => by
    have : m.webStateList.webStateWrappers = [] := List.length_eq_zero_iff.1 (by omega)
    show m.webStateList.webStates = []
    rw [WebStateList.webStates, this]
    rfl
  | rounds + 1, m, h => by
    unfold Mutation.closeAllLoop
    split
    next he =>
      rw [WebStateList.webStates, List.isEmpty_iff.1 he]
      rfl
    next hne =>
      obtain ⟨i, w, hi, hlt, _, hw⟩ :=
        (WebStateList.containsIndex_last (Bool.eq_false_iff.2 hne)).getWebStateAt
      refine closeAllLoop_empty closeFlags rounds _ ?_
      rw [Mutation.closeWebStateAtImpl_webStateList m closeFlags hw,
        ← WebStateList.length_webStates, WebStateList.removeWrapperAt_webStates, hi,
        Int.toNat_natCast, List.length_eraseIdx_of_lt (by rwa [WebStateList.length_webStates]),
        WebStateList.length_webStates]
      omega

/-- A valid insertion has an index in range. -/
theorem exists_insertionIndex {nav : W → Int32} {index : Int} {insertionFlags : Int32}
    (hv : (Operation.insertWebState nav index webState insertionFlags opener).Valid l)
    (opener' : WebStateOpener W) :
    ∃ i : Nat, (l.insertionBase insertionFlags).insertionIndex nav index insertionFlags opener' = i ∧
      i ≤ (l.insertionBase insertionFlags).webStateWrappers.length := by
  have hcount : (l.insertionBase insertionFlags).count = l.count := by
    unfold WebStateList.count
    rw [← WebStateList.length_webStates, WebStateList.insertionBase_webStates,
      WebStateList.length_webStates]
  refine insertionIndex_range _ nav opener' ?_
  unfold WebStateList.ContainsIndex
  rw [hcount]
  exact hv.2.2

/-- A valid insertion puts the tab somewhere among the others. -/
theorem insertWebStateImpl_webStates {m : Mutation W} {nav : W → Int32} {index : Int}
    {insertionFlags : Int32}
    (hv : (Operation.insertWebState nav index webState insertionFlags opener).Valid
      m.webStateList) :
    ∃ i ≤ m.webStateList.webStates.length,
      (m.insertWebStateImpl nav index webState insertionFlags opener).2.webStateList.webStates =
        m.webStateList.webStates.insertIdx i webState := by
  obtain ⟨i, hindex, hi⟩ := exists_insertionIndex hv _
  rw [← WebStateList.length_webStates, WebStateList.insertionBase_webStates] at hi
  refine ⟨i, hi, ?_⟩
  rw [m.insertWebStateImpl_eq nav index webState insertionFlags opener rfl rfl hindex]
  simp only
  split
  · simp
  · simp

theorem insertWebStateImpl_inv {m : Mutation W} (h : ListInv m.webStateList) {nav : W → Int32}
    {index : Int} {insertionFlags : Int32}
    (hv : (Operation.insertWebState nav index webState insertionFlags opener).Valid
      m.webStateList) :
    ListInv (m.insertWebStateImpl nav index webState insertionFlags opener).2.webStateList := by
  obtain ⟨i, hindex, hi⟩ := exists_insertionIndex hv _
  have hbefore := inserted_inv (insertionBase_inv h insertionFlags) insertionFlags hi
    (by rw [WebStateList.insertionBase_webStates]; exact hv.1)
    (insertionOpener_mem nav hv.2.1)
  rw [m.insertWebStateImpl_eq nav index webState insertionFlags opener rfl rfl hindex]
  simp only
  split
  · refine activateWebStateAtImpl_inv hbefore _ (.inr ?_)
    rw [WebStateList.insertWrapperAt_setInsertedOpener _ _ _ _ hi,
      WebStateList.containsIndex_natCast, List.length_insertIdx_of_le_length hi]
    exact Nat.lt_succ_of_le hi
  · exact hbefore

/-- **Every operation keeps the invariant.** -/
theorem perform_inv {m : Mutation W} (h : ListInv m.webStateList) (op : Operation W)
    (hv : op.Valid m.webStateList) : ListInv (op.perform m).webStateList := by
  cases op with
  | insertWebState nav index webState insertionFlags opener =>
    exact insertWebStateImpl_inv h hv
  | moveWebStateAt fromIndex toIndex =>
    obtain ⟨i, w, rfl, hi, _, hw⟩ := hv.1.getWebStateAt
    obtain ⟨j, rfl, hj⟩ := hv.2.exists_nat
    show ListInv (m.moveWebStateAtImpl i j).webStateList
    rw [m.moveWebStateAtImpl_webStateList j hw]
    split
    · exact h
    · exact moveWrapper_inv h hi hj
  | replaceWebStateAt index webState =>
    obtain ⟨i, w, rfl, hi, _, hw⟩ := hv.1.getWebStateAt
    show ListInv (m.replaceWebStateAtImpl i webState).webStateList
    rw [m.replaceWebStateAtImpl_webStateList webState hw]
    exact replaceWrapper_inv h hi hv.2
  | detachWebStateAt index =>
    obtain ⟨i, w, rfl, hi, _, hw⟩ := WebStateList.ContainsIndex.getWebStateAt hv
    show ListInv (m.detachWebStateAtImpl i).webStateList
    rw [m.detachWebStateAtImpl_webStateList hw]
    exact removeWrapperAt_inv h hi
  | closeWebStateAt index closeFlags => exact closeWebStateAtImpl_inv h closeFlags hv
  | closeAllWebStates closeFlags =>
    refine closeAllLoop_inv closeFlags _ _ ?_
    exact activateWebStateAtImpl_inv (m := m.notify .willBeginBatchOperation) h .closed (.inl rfl)
  | activateWebStateAt index => exact activateWebStateAtImpl_inv h .activated (.inr hv)
  | setOpenerOfWebStateAt index opener =>
    obtain ⟨hc, o, ho, hmem, hne⟩ := hv
    obtain ⟨i, rfl, _⟩ := hc.exists_nat
    rw [WebStateList.getWebStateAt_natCast] at hne
    exact setOpenerOfWebStateAt_inv h ho hmem hne

/-- The invariant holds of every list the operations reach. -/
theorem reachable_inv (h : (webStateListMachine W).Reachable l) :
    ListInv l :=
  h.invariant (fun _ hl => hl ▸ init_inv) fun l op hl hv =>
    perform_inv (m := { webStateList := l }) hl op hv

/-- **The list is well formed in every reachable state**: the active index is
`kInvalidIndex` or in range, the tabs are distinct, and every opener stored in
a wrapper is another tab of the list. -/
theorem webStateList_wellFormed {l : WebStateList W}
    (h : (webStateListMachine W).Reachable l) :
    (l.activeIndex = kInvalidIndex ∨ (0 ≤ l.activeIndex ∧ l.activeIndex < l.count)) ∧
    l.webStates.Nodup ∧
    ∀ wrapper ∈ l.webStateWrappers, ∀ o, wrapper.opener.opener = some o →
      o ∈ l.webStates ∧ o ≠ wrapper.webState :=
  have hinv := reachable_inv h
  ⟨hinv.active, hinv.nodup, fun wrapper hw => (hinv.wrappers wrapper hw).opener⟩

/-- Tab 2, opened by tab 1, moved in front of it and activated; then tab 1 is
detached. -/
theorem webStateList_wellFormed_detached :
    let l := (webStateListMachine Nat).exec {}
      [.insertWebState (fun _ => 0) 0 1 insertActivate .null,
        .insertWebState (fun _ => 0) 0 2 insertInheritOpener .null,
        .moveWebStateAt 1 0, .activateWebStateAt 0, .detachWebStateAt 1]
    (l.activeIndex = kInvalidIndex ∨ (0 ≤ l.activeIndex ∧ l.activeIndex < l.count)) ∧
    l.webStates.Nodup ∧
    ∀ wrapper ∈ l.webStateWrappers, ∀ o, wrapper.opener.opener = some o →
      o ∈ l.webStates ∧ o ≠ wrapper.webState :=
  webStateList_wellFormed ⟨{}, _, rfl, by decide, rfl⟩

end IosChrome.Tabs

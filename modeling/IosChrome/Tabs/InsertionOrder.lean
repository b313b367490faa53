import IosChrome.Tabs.InsertAndMove

/-!
# Where new tabs go

A tab opened by another one is inserted behind the last tab its opener opened
in the same navigation, or behind the opener itself. `GetIndexOfLastWebStateOpenedBy`
looks for that last child with a modular scan from the opener, so "last" means
last in the scan, and only because no child stands in front of its opener is it
also last in the list (`getIndexOfLastWebStateOpenedBy_spec`).

`Ordered` is the invariant that carries this through a run of insertions: every
tab stands behind its opener, and the children of each tab stand in the order
in which they came. Insertions for other families only push a family apart.
-/

namespace IosChrome.Tabs

/-- A call of `InsertWebState`, with the opener as `WebStateOpener(opener)` and the last committed
item index that the tabs' navigation managers answer during the call. -/
structure Insertion (W : Type) where
  navigationIndex : W → Int32
  index : Int
  webState : W
  insertionFlags : Int32
  opener : Option W

namespace Insertion

variable {W : Type}

def operation (insertion : Insertion W) : Operation W :=
  .insertWebState insertion.navigationIndex insertion.index insertion.webState
    insertion.insertionFlags (.ofWebState insertion.navigationIndex insertion.opener)

/-- Neither `INSERT_FORCE_INDEX` nor `INSERT_INHERIT_OPENER` is set. -/
def Plain (insertion : Insertion W) : Prop :=
  isInsertionFlagSet insertion.insertionFlags insertForceIndex = false ∧
    isInsertionFlagSet insertion.insertionFlags insertInheritOpener = false

instance (insertion : Insertion W) : Decidable insertion.Plain :=
  inferInstanceAs (Decidable (_ ∧ _))

/-- The opener is where it was in all the other insertions. -/
def Constant (lastCommitted : W → Int32) (insertion : Insertion W) : Prop :=
  ∀ opener, insertion.opener = some opener →
    insertion.navigationIndex opener = lastCommitted opener

end Insertion

/-! ## The last one of a scan -/

/-- Asked for more tabs than there are indices, the loop returns the last index it accepts. -/
theorem nthOpenedLoop_last (opened : Nat → Bool) : ∀ (indices : List Nat) (n : Nat) (found : Int),
    indices.length < n →
    (WebStateList.nthOpenedLoop opened indices n found = found ∧
      ∀ index ∈ indices, opened index = false) ∨
    ∃ (p index : Nat), indices[p]? = some index ∧ opened index = true ∧
      WebStateList.nthOpenedLoop opened indices n found = index ∧
      ∀ q later, p < q → indices[q]? = some later → opened later = false := by
  intro indices
  induction indices with
  | nil =>
    intro n found _
    exact .inl ⟨rfl, fun _ hmem => absurd hmem List.not_mem_nil⟩
  | cons index indices ih =>
    intro n found hn
    rw [List.length_cons] at hn
    unfold WebStateList.nthOpenedLoop
    cases hopened : opened index with
    | false =>
      rw [if_neg Bool.false_ne_true]
      rcases ih n found (by omega) with ⟨hfound, hnone⟩ | ⟨p, last, hp, hlast, hfound, hlater⟩
      · refine .inl ⟨hfound, fun other hmem => ?_⟩
        rcases List.mem_cons.1 hmem with rfl | hrest
        · exact hopened
        · exact hnone other hrest
      · refine .inr ⟨p + 1, last, hp, hlast, hfound, fun q later hq hlaterq => ?_⟩
        obtain ⟨q', rfl⟩ : ∃ q', q = q' + 1 := ⟨q - 1, by omega⟩
        exact hlater q' later (by omega) hlaterq
    | true =>
      rw [if_pos rfl, if_neg (by omega)]
      rcases ih (n - 1) index (by omega) with ⟨hfound, hnone⟩ | ⟨p, last, hp, hlast, hfound, hlater⟩
      · refine .inr ⟨0, index, rfl, hopened, hfound, fun q later hq hlaterq => ?_⟩
        obtain ⟨q', rfl⟩ : ∃ q', q = q' + 1 := ⟨q - 1, by omega⟩
        exact hnone later (List.mem_of_getElem? hlaterq)
      · refine .inr ⟨p + 1, last, hp, hlast, hfound, fun q later hq hlaterq => ?_⟩
        obtain ⟨q', rfl⟩ : ∃ q', q = q' + 1 := ⟨q - 1, by omega⟩
        exact hlater q' later (by omega) hlaterq

/-- The index the scan visits at each of its places. -/
theorem getElem?_cyclicIndices {start length p : Nat} (hp : p < length - 1) :
    (WebStateList.cyclicIndices start length)[p]? = some ((start + (1 + p)) % length) := by
  unfold WebStateList.cyclicIndices
  rw [List.getElem?_map, List.getElem?_range' hp, Option.map_some, Nat.one_mul]

variable {W : Type} [DecidableEq W]

/-- **The last child found by the scan is the last one in the list**, when none stands at or in
front of the index the scan starts from. -/
theorem getIndexOfLastWebStateOpenedBy_spec (l : WebStateList W) (opener : W) (group : Option Int32)
    {i : Nat} (hi : i < l.webStateWrappers.length) (hcount : l.webStateWrappers.length ≤ 2147483647)
    (hafter : ∀ j, j ≤ i → l.openedAt opener group j = false) :
    (l.getIndexOfLastWebStateOpenedBy (some opener) i group = kInvalidIndex ∧
      ∀ j, j < l.webStateWrappers.length → l.openedAt opener group j = false) ∨
    ∃ j, l.getIndexOfLastWebStateOpenedBy (some opener) i group = (j : Nat) ∧ i < j ∧
      j < l.webStateWrappers.length ∧
      ∀ k, j < k → k < l.webStateWrappers.length → l.openedAt opener group k = false := by
  have hc : l.ContainsIndex i := WebStateList.containsIndex_natCast.2 hi
  rw [WebStateList.getIndexOfLastWebStateOpenedBy, WebStateList.getIndexOfNthWebStateOpenedBy,
    if_pos hc, Int.toNat_natCast]
  -- an index behind `i` is visited at its distance from `i + 1`
  have hvisit : ∀ j, i < j → j < l.webStateWrappers.length →
      (WebStateList.cyclicIndices i l.webStateWrappers.length)[j - i - 1]? = some j := by
    intro j hij hj
    rw [getElem?_cyclicIndices (by omega), Nat.mod_eq_of_lt (by omega)]
    congr 1
    omega
  have hlength : (WebStateList.cyclicIndices i l.webStateWrappers.length).length <
      2147483647 := by
    unfold WebStateList.cyclicIndices
    rw [List.length_map, List.length_range']
    omega
  rcases nthOpenedLoop_last (l.openedAt opener group)
    (WebStateList.cyclicIndices i l.webStateWrappers.length) 2147483647 kInvalidIndex hlength with
    ⟨hfound, hnone⟩ | ⟨p, j, hp, hopened, hfound, hlater⟩
  · refine .inl ⟨hfound, fun j hj => ?_⟩
    by_cases hij : j ≤ i
    · exact hafter j hij
    · exact hnone j (List.mem_of_getElem? (hvisit j (by omega) hj))
  · obtain ⟨hjlt, _⟩ := WebStateList.mem_cyclicIndices hi (List.mem_of_getElem? hp)
    have hij : i < j := by
      by_contra hle
      rw [hafter j (by omega)] at hopened
      exact Bool.false_ne_true hopened
    have hplt : p < l.webStateWrappers.length - 1 := by
      have hlt := (List.getElem?_eq_some_iff.1 hp).1
      unfold WebStateList.cyclicIndices at hlt
      rwa [List.length_map, List.length_range'] at hlt
    -- the child was found before the scan wrapped around
    have hplace : j = i + (1 + p) := by
      rw [getElem?_cyclicIndices hplt] at hp
      have hp := Option.some.inj hp
      by_cases hwrap : i + (1 + p) < l.webStateWrappers.length
      · rw [Nat.mod_eq_of_lt hwrap] at hp
        exact hp.symm
      · rw [Nat.mod_eq_sub_mod (by omega), Nat.mod_eq_of_lt (by omega)] at hp
        omega
    refine .inr ⟨j, hfound, hij, hjlt, fun k hjk hk => ?_⟩
    exact hlater (k - i - 1) k (by omega) (hvisit k (by omega) hk)

/-! ## Families -/

/-- The tabs a tab opened, in the order of the list. -/
def WebStateList.childrenOf (l : WebStateList W) (opener : W) : List W :=
  (l.openers.filter fun tab => tab.2.opener = some opener).map (·.1)

/-- The tabs a tab opened, in the order of their insertion. -/
def openedInOrder (insertions : List (Insertion W)) (opener : W) : List W :=
  (insertions.filter fun insertion => insertion.opener = some opener).map (·.webState)

/-- The list after some insertions: who was opened by whom is known, everyone stands behind its
opener, and every family is in the order of its insertions. -/
structure Ordered (lastCommitted : W → Int32) (insertions : List (Insertion W))
    (l : WebStateList W) : Prop where
  inv : ListInv l
  length : l.webStates.length = insertions.length
  group : ∀ tab ∈ l.openers, ∀ opener, tab.2.opener = some opener →
    tab.2.navigationIndex = lastCommitted opener
  behind : ∀ (k : Nat) (tab : W × WebStateOpener W) (opener : W), l.openers[k]? = some tab →
    tab.2.opener = some opener → ∃ j, j < k ∧ l.webStates[j]? = some opener
  children : ∀ opener, l.childrenOf opener = openedInOrder insertions opener

variable {lastCommitted : W → Int32} {insertions : List (Insertion W)} {l : WebStateList W}

theorem ordered_empty : Ordered lastCommitted [] ({} : WebStateList W) where
  inv := init_inv
  length := rfl
  group _ h := absurd h List.not_mem_nil
  behind _ _ _ h := absurd h (by simp [WebStateList.openers])
  children _ := rfl

omit [DecidableEq W] in
theorem openers_getElem? (l : WebStateList W) (k : Nat) :
    l.openers[k]? = l.webStateWrappers[k]?.map fun wrapper => (wrapper.webState, wrapper.opener) :=
  List.getElem?_map

/-- In an ordered list the group of an opener is all it opened. -/
theorem Ordered.openedAt (h : Ordered lastCommitted insertions l) {opener : W} {k : Nat}
    {tab : W × WebStateOpener W} (hk : l.openers[k]? = some tab) :
    l.openedAt opener (some (lastCommitted opener)) k = true ↔ tab.2.opener = some opener := by
  have hgroup := h.group tab (List.mem_of_getElem? hk) opener
  rw [openers_getElem?] at hk
  obtain ⟨wrapper, hwrapper, rfl⟩ := Option.map_eq_some_iff.1 hk
  unfold WebStateList.openedAt
  rw [hwrapper]
  show wrapper.wasOpenedBy opener (some (lastCommitted opener)) = true ↔
    wrapper.opener.opener = some opener
  unfold WebStateWrapper.wasOpenedBy
  constructor
  · intro hopened
    by_contra hne
    rw [if_pos hne] at hopened
    exact Bool.false_ne_true hopened
  · intro hopened
    rw [if_neg (not_not.2 hopened)]
    exact beq_iff_eq.2 (hgroup hopened)

/-- **Where the order controller puts a tab**: behind its opener and behind all the tabs its
opener opened. -/
theorem Ordered.determineInsertionIndex (h : Ordered lastCommitted insertions l)
    (hcount : l.webStates.length ≤ 2147483647) {opener : W} (hmem : opener ∈ l.webStates)
    {navigationIndex : W → Int32} (hnav : navigationIndex opener = lastCommitted opener) :
    ∃ a i : Nat, l.determineInsertionIndex navigationIndex (some opener) = i ∧
      l.webStates[a]? = some opener ∧ a < i ∧ i ≤ l.webStates.length ∧
      ∀ (k : Nat) (tab : W × WebStateOpener W), i ≤ k → l.openers[k]? = some tab →
        tab.2.opener ≠ some opener := by
  obtain ⟨a, ha, htab⟩ := WebStateList.getIndexOfWebState_of_mem hmem
  obtain ⟨halt, _⟩ := List.getElem?_eq_some_iff.1 htab
  have halt' : a < l.webStateWrappers.length := by rwa [WebStateList.length_webStates] at halt
  have hafter : ∀ j, j ≤ a → l.openedAt opener (some (lastCommitted opener)) j = false := by
    intro j hja
    obtain ⟨tab, hj⟩ : ∃ tab, l.openers[j]? = some tab :=
      ⟨_, List.getElem?_eq_getElem (by rw [WebStateList.length_openers]; omega)⟩
    rw [← Bool.not_eq_true, h.openedAt hj]
    intro hopened
    obtain ⟨j', hj', htab'⟩ := h.behind j tab opener hj hopened
    have hsame : j' = a := (List.getElem?_inj (List.getElem?_eq_some_iff.1 htab').1
      h.inv.nodup).1 (htab'.trans htab.symm)
    omega
  unfold WebStateList.determineInsertionIndex
  simp only [ha, hnav]
  rw [WebStateList.length_webStates] at hcount
  rcases getIndexOfLastWebStateOpenedBy_spec l opener (some (lastCommitted opener)) halt' hcount
    hafter with ⟨hnone, hopened⟩ | ⟨j, hj, haj, hjlt, hopened⟩
  · refine ⟨a, a + 1, ?_, htab, by omega, by omega, fun k tab _ hk hsome => ?_⟩
    · rw [hnone, if_neg (not_not.2 rfl)]
      rfl
    · have hklt := (List.getElem?_eq_some_iff.1 hk).1
      rw [WebStateList.length_openers, WebStateList.length_webStates] at hklt
      exact Bool.false_ne_true ((hopened k hklt).symm.trans ((h.openedAt hk).2 hsome))
  · rw [← WebStateList.length_webStates] at hjlt
    refine ⟨a, j + 1, ?_, htab, by omega, by omega, fun k tab hik hk hsome => ?_⟩
    · rw [hj, if_pos (by unfold kInvalidIndex; omega)]
      rfl
    · have hklt := (List.getElem?_eq_some_iff.1 hk).1
      rw [WebStateList.length_openers, WebStateList.length_webStates] at hklt
      exact Bool.false_ne_true ((hopened k (by omega) hklt).symm.trans ((h.openedAt hk).2 hsome))

/-- The opener that is stored for a tab inserted without inheriting one. -/
def Insertion.stored (insertion : Insertion W) : WebStateOpener W :=
  .ofWebState insertion.navigationIndex insertion.opener

/-- The list after a plain insertion. -/
theorem step_insertion (h : ListInv l) {insertion : Insertion W} (hplain : insertion.Plain)
    (hv : insertion.operation.Valid l) :
    ∃ i : Nat, l.insertionIndex insertion.navigationIndex insertion.index insertion.insertionFlags
        insertion.stored = i ∧ i ≤ l.webStates.length ∧
      ((webStateListMachine W).step l insertion.operation).openers =
        l.openers.insertIdx i (insertion.webState, insertion.stored) := by
  have hbase : l.insertionBase insertion.insertionFlags = l := by
    unfold WebStateList.insertionBase
    rw [hplain.2, if_neg Bool.false_ne_true]
  have hopener : (l.insertionBase insertion.insertionFlags).insertionOpener
      insertion.navigationIndex insertion.insertionFlags insertion.stored = insertion.stored := by
    unfold WebStateList.insertionOpener
    rw [hplain.2, if_neg Bool.false_ne_true]
  have hstored : (WebStateList.insertedWrapper insertion.webState insertion.insertionFlags
      insertion.stored).opener = insertion.stored := by
    unfold WebStateList.insertedWrapper Insertion.stored
    cases insertion.opener with
    | none => rfl
    | some opener => rfl
  have hkept : (l.openers.map fun tab =>
      (tab.1, WebStateList.keptOpener insertion.insertionFlags tab.2)) = l.openers := by
    unfold WebStateList.keptOpener
    rw [hplain.2]
    exact List.map_id _
  obtain ⟨i, hindex, hi, hopeners⟩ := insertWebStateImpl_openers h hv hopener
  rw [hbase] at hindex
  rw [hstored, hkept] at hopeners
  rw [WebStateList.length_openers] at hi
  exact ⟨i, hindex, hi, hopeners⟩

/-- The place of a plain insertion: at the end, or behind the opener and all its children. -/
theorem Ordered.insertionIndex (h : Ordered lastCommitted insertions l)
    (hcount : l.webStates.length ≤ 2147483647) {insertion : Insertion W}
    (hplain : insertion.Plain) (hconstant : insertion.Constant lastCommitted)
    (hv : insertion.operation.Valid l) {i : Nat}
    (hi : l.insertionIndex insertion.navigationIndex insertion.index insertion.insertionFlags
      insertion.stored = i) :
    (insertion.opener = none → i = l.webStates.length) ∧
    ∀ opener, insertion.opener = some opener →
      (∃ a, a < i ∧ l.webStates[a]? = some opener) ∧
      ∀ (k : Nat) (tab : W × WebStateOpener W), i ≤ k → l.openers[k]? = some tab →
        tab.2.opener ≠ some opener := by
  unfold WebStateList.insertionIndex at hi
  rw [hplain.1, if_neg Bool.false_ne_true] at hi
  have hopener : insertion.stored.opener = insertion.opener := WebStateOpener.ofWebState_opener _ _
  simp only [hopener] at hi
  have hlength : l.count = l.webStates.length := by
    rw [WebStateList.length_webStates]
    rfl
  refine ⟨fun hnone => ?_, fun opener hsome => ?_⟩
  · have hend : l.determineInsertionIndex insertion.navigationIndex none = l.count := rfl
    rw [hnone, hend, if_neg (by omega)] at hi
    omega
  · have hmem : opener ∈ l.webStates := hv.2.1 opener (hopener.trans hsome)
    obtain ⟨a, j, hj, htab, haj, hjlt, hlast⟩ :=
      h.determineInsertionIndex hcount hmem (hconstant opener hsome)
    rw [hsome, hj, if_neg (by omega)] at hi
    have hij : j = i := by omega
    subst hij
    exact ⟨⟨a, haj, htab⟩, hlast⟩

/-- **A plain insertion keeps every family in order.** -/
theorem Ordered.insert (h : Ordered lastCommitted insertions l)
    (hcount : l.webStates.length ≤ 2147483647) {insertion : Insertion W}
    (hplain : insertion.Plain) (hconstant : insertion.Constant lastCommitted)
    (hv : insertion.operation.Valid l) :
    Ordered lastCommitted (insertions ++ [insertion])
      ((webStateListMachine W).step l insertion.operation) ∧
    (insertion.opener = none → ((webStateListMachine W).step l insertion.operation).webStates =
      l.webStates ++ [insertion.webState]) := by
  have hinv : ListInv ((webStateListMachine W).step l insertion.operation) :=
    perform_inv (m := { webStateList := l }) h.inv _ hv
  obtain ⟨i, hindex, hi, hopeners⟩ := step_insertion h.inv hplain hv
  obtain ⟨hend, hbehind⟩ := h.insertionIndex hcount hplain hconstant hv hindex
  have htabs : ((webStateListMachine W).step l insertion.operation).webStates =
      l.webStates.insertIdx i insertion.webState := by
    rw [← WebStateList.map_openers, hopeners, List.map_insertIdx, WebStateList.map_openers]
  have hopener : insertion.stored.opener = insertion.opener := WebStateOpener.ofWebState_opener _ _
  have hi' : i ≤ l.openers.length := by rwa [WebStateList.length_openers]
  refine ⟨⟨hinv, ?_, ?_, ?_, ?_⟩, fun hnone => ?_⟩
  · rw [htabs, List.length_insertIdx_of_le_length hi, h.length, List.length_append]
    rfl
  · intro tab htab opener hsome
    rw [hopeners] at htab
    rcases List.eq_or_mem_of_mem_insertIdx htab with rfl | hold
    · have hgiven : insertion.opener = some opener := hopener.symm.trans hsome
      show insertion.stored.navigationIndex = lastCommitted opener
      rw [Insertion.stored, hgiven]
      exact hconstant opener hgiven
    · exact h.group tab hold opener hsome
  · -- an insertion pushes a tab back at least as far as its opener
    intro k tab opener hk hsome
    rw [hopeners] at hk
    rw [htabs]
    rcases Nat.lt_trichotomy k i with hlt | rfl | hgt
    · rw [List.getElem?_insertIdx_of_lt hlt] at hk
      obtain ⟨j, hjk, hj⟩ := h.behind k tab opener hk hsome
      exact ⟨j, hjk, by rw [List.getElem?_insertIdx_of_lt (by omega)]; exact hj⟩
    · rw [List.getElem?_insertIdx_self, if_pos hi'] at hk
      cases hk
      obtain ⟨a, hak, ha⟩ := (hbehind opener (hopener.symm.trans hsome)).1
      exact ⟨a, hak, by rw [List.getElem?_insertIdx_of_lt hak]; exact ha⟩
    · rw [List.getElem?_insertIdx_of_gt hgt] at hk
      obtain ⟨j, hjk, hj⟩ := h.behind (k - 1) tab opener hk hsome
      by_cases hji : j < i
      · exact ⟨j, by omega, by rw [List.getElem?_insertIdx_of_lt hji]; exact hj⟩
      · exact ⟨j + 1, by omega, by rw [List.getElem?_insertIdx_of_gt (by omega)]; exact hj⟩
  · intro opener
    have hchildren := h.children opener
    unfold WebStateList.childrenOf openedInOrder at hchildren ⊢
    rw [hopeners, List.filter_append, List.map_append, ← hchildren]
    by_cases hsome : insertion.opener = some opener
    · have hin : decide (insertion.stored.opener = some opener) = true := by
        rw [hopener]
        exact decide_eq_true hsome
      have hlast : ∀ (k : Nat) (tab : W × WebStateOpener W), i ≤ k → l.openers[k]? = some tab →
          decide (tab.2.opener = some opener) = false :=
        fun k tab hik hk => decide_eq_false ((hbehind opener hsome).2 k tab hik hk)
      rw [Lib.filter_insertIdx_last (p := fun tab => decide (tab.2.opener = some opener)) hin _ _ hi'
        hlast, List.map_append, List.filter_cons, if_pos (decide_eq_true hsome)]
      rfl
    · have hout : decide (insertion.stored.opener = some opener) = false := by
        rw [hopener]
        exact decide_eq_false hsome
      rw [Lib.filter_insertIdx_of_not 
          (p := fun tab : W × WebStateOpener W => decide (tab.2.opener = some opener)) hout,
        List.filter_cons, if_neg (fun hyes => hsome (of_decide_eq_true hyes))]
      exact (List.append_nil _).symm
  · rw [htabs, hend hnone, List.insertIdx_length_self]

/-! ## Runs of insertions -/

theorem ordered_run : ∀ (insertions later : List (Insertion W)) {l : WebStateList W},
    Ordered lastCommitted insertions l → (insertions ++ later).length ≤ 2147483647 →
    (∀ insertion ∈ later, insertion.Plain ∧ insertion.Constant lastCommitted) →
    (webStateListMachine W).Run l (later.map Insertion.operation) →
    Ordered lastCommitted (insertions ++ later)
      ((webStateListMachine W).exec l (later.map Insertion.operation))
  | insertions, [], l, h, _, _, _ => by
    rw [List.append_nil]
    exact h
  | insertions, insertion :: later, l, h, hcount, hall, hrun => by
    obtain ⟨hplain, hconstant⟩ := hall insertion List.mem_cons_self
    have hlength : l.webStates.length ≤ 2147483647 := by
      rw [List.length_append] at hcount
      rw [h.length]
      omega
    have hstep := (h.insert hlength hplain hconstant hrun.1).1
    have hrest := ordered_run (insertions ++ [insertion]) later hstep (by rwa [List.append_assoc])
      (fun other hmem => hall other (List.mem_cons_of_mem _ hmem)) hrun.2
    rwa [List.append_assoc] at hrest

/-- **The order of the tabs after any run of plain insertions into an empty list**, as many as
`count()` can count: a tab with an opener stands behind it, the tabs with the same opener stand
in the order of their insertion, and a tab without an opener goes to the end. -/
theorem insertions_ordered (lastCommitted : W → Int32) {insertions : List (Insertion W)}
    (hcount : insertions.length ≤ 2147483647)
    (hall : ∀ insertion ∈ insertions, insertion.Plain ∧ insertion.Constant lastCommitted)
    (hrun : (webStateListMachine W).Run {} (insertions.map Insertion.operation)) :
    let after := fun done : List (Insertion W) =>
      (webStateListMachine W).exec {} (done.map Insertion.operation)
    let tabs := (after insertions).webStates
    (∀ insertion ∈ insertions, ∀ opener, insertion.opener = some opener →
      ∃ j k : Nat, j < k ∧ tabs[j]? = some opener ∧ tabs[k]? = some insertion.webState) ∧
    (∀ opener, (openedInOrder insertions opener).Sublist tabs) ∧
    ∀ before insertion later, insertions = before ++ insertion :: later →
      insertion.opener = none →
      (after (before ++ [insertion])).webStates = (after before).webStates ++
        [insertion.webState] := by
  intro after tabs
  have h : Ordered lastCommitted insertions (after insertions) :=
    ordered_run [] insertions ordered_empty hcount hall hrun
  refine ⟨fun insertion hmem opener hsome => ?_, fun opener => ?_,
    fun before insertion later heq hnone => ?_⟩
  · have hchild : insertion.webState ∈ (after insertions).childrenOf opener := by
      rw [h.children]
      exact List.mem_map_of_mem (List.mem_filter.2 ⟨hmem, decide_eq_true hsome⟩)
    obtain ⟨tab, htab, hwebState⟩ := List.mem_map.1 hchild
    obtain ⟨htab, hopener⟩ := List.mem_filter.1 htab
    obtain ⟨k, hk⟩ := List.getElem?_of_mem htab
    obtain ⟨j, hjk, hj⟩ := h.behind k tab opener hk (of_decide_eq_true hopener)
    refine ⟨j, k, hjk, hj, ?_⟩
    show (after insertions).webStates[k]? = some insertion.webState
    rw [← WebStateList.map_openers, List.getElem?_map, hk, ← hwebState]
    rfl
  · rw [← h.children]
    show ((after insertions).childrenOf opener).Sublist (after insertions).webStates
    rw [← WebStateList.map_openers]
    exact List.filter_sublist.map _
  · subst heq
    rw [List.length_append, List.length_cons] at hcount
    rw [List.map_append, List.map_cons] at hrun
    obtain ⟨hbefore, hinsert, _⟩ := (Lib.Machine.always_append _ _ _ _).1 hrun
    have hordered : Ordered lastCommitted before (after before) :=
      ordered_run [] before ordered_empty
        (by rw [List.nil_append]; omega)
        (fun other hmem => hall other (List.mem_append_left _ hmem)) hbefore
    obtain ⟨hplain, hconstant⟩ := hall insertion (List.mem_append_right _ List.mem_cons_self)
    have hend := (hordered.insert (by rw [hordered.length]; omega) hplain hconstant hinsert).2 hnone
    show ((webStateListMachine W).exec {} ((before ++ [insertion]).map _)).webStates = _
    rw [List.map_append, Lib.Machine.exec_append]
    exact hend

/-- Tab 1 opens 2 and 3, 2 opens 4, and 5 has no opener. -/
theorem insertions_ordered_twoFamilies :
    let insertions : List (Insertion Nat) :=
      [⟨fun _ => 7, 0, 1, insertActivate, none⟩, ⟨fun _ => 7, 0, 2, 0, some 1⟩,
        ⟨fun _ => 7, 0, 4, 0, some 2⟩, ⟨fun _ => 7, 0, 3, insertActivate, some 1⟩,
        ⟨fun _ => 7, 0, 5, 0, none⟩]
    let after := fun done : List (Insertion Nat) =>
      (webStateListMachine Nat).exec {} (done.map Insertion.operation)
    let tabs := (after insertions).webStates
    (∀ insertion ∈ insertions, ∀ opener, insertion.opener = some opener →
      ∃ j k : Nat, j < k ∧ tabs[j]? = some opener ∧ tabs[k]? = some insertion.webState) ∧
    (∀ opener, (openedInOrder insertions opener).Sublist tabs) ∧
    ∀ before insertion later, insertions = before ++ insertion :: later →
      insertion.opener = none →
      (after (before ++ [insertion])).webStates = (after before).webStates ++
        [insertion.webState] :=
  insertions_ordered (fun _ => 7) (by decide)
    (by
      intro insertion hmem
      simp only [List.mem_cons, List.not_mem_nil, or_false] at hmem
      rcases hmem with rfl | rfl | rfl | rfl | rfl <;> exact ⟨by decide, fun _ _ => rfl⟩)
    (by decide)

end IosChrome.Tabs

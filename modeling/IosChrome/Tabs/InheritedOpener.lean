import IosChrome.Tabs.InsertAndMove

/-!
# The opener a tab inherits

A tab inserted with `INSERT_INHERIT_OPENER` gets the active tab as its opener,
and its wrapper is told to drop that opener when another tab becomes active:
`SetShouldResetOpenerOnActiveWebStateChange(true)` is called for it, and
`ActivateWebStateAtImpl` asks for the flag. But the opener itself is stored
after the flag, through `SetOpener`, which clears it. So the flag is only ever
set on a wrapper without an opener (`WrapperInv.reset`), and no activation
drops one (`setActiveIndex_openers`).

The inherited opener therefore lasts as long as any other: until the opener or
the tab itself leaves the list, or another insertion breaks all links
(`BreaksLink`). `openedBy_step` is what one operation does to it, and
`inheritedOpener_dropped_iff` the condition for a whole run.
-/

namespace IosChrome.Tabs

namespace WebStateList

variable {W : Type}
variable {l : WebStateList W} {webState : W} {opener : Option W}

/-- Wherever the tab is in the list, this is its opener. -/
def OpenedBy (l : WebStateList W) (webState : W) (opener : Option W) : Prop :=
  ∀ tab ∈ l.openers, tab.1 = webState → tab.2.opener = opener

/-- A tab that is not in the list has any opener. -/
theorem OpenedBy.of_not_mem (h : webState ∉ l.webStates) (opener : Option W) :
    l.OpenedBy webState opener := by
  intro tab htab heq
  exact absurd (heq ▸ mem_webStates_of_openers htab) h

theorem OpenedBy.of_subset {l l' : WebStateList W} (h : l.OpenedBy webState opener)
    (hsub : l'.openers ⊆ l.openers) :
    l'.OpenedBy webState opener :=
  fun tab htab heq => h tab (hsub htab) heq

variable [DecidableEq W]

theorem clearOpenersReferencing_openers (l : WebStateList W) {i : Nat} {old : W}
    (hi : l.webStates[i]? = some old) :
    (l.clearOpenersReferencing i).openers = l.openers.map fun tab =>
      if tab.2.opener = some old then (tab.1, .null) else tab := by
  unfold clearOpenersReferencing
  rw [getWebStateAt_natCast, hi]
  unfold openers
  rw [List.map_map, List.map_map]
  refine List.map_congr_left fun wrapper _ => ?_
  show (WebStateWrapper.webState (if _ then _ else _), WebStateWrapper.opener (if _ then _ else _)) =
    if wrapper.opener.opener = some old then (wrapper.webState, .null)
    else (wrapper.webState, wrapper.opener)
  split <;> rfl

/-- The opener after `ClearOpenersReferencing`, which only ever takes one away. -/
theorem OpenedBy.cleared (h : l.OpenedBy webState opener) {i : Nat} {old : W}
    (hi : l.webStates[i]? = some old) :
    (l.clearOpenersReferencing i).OpenedBy webState
      (if opener = some old then none else opener) := by
  intro tab htab heq
  rw [clearOpenersReferencing_openers l hi] at htab
  obtain ⟨before, hbefore, rfl⟩ := List.mem_map.1 htab
  by_cases hold : before.2.opener = some old
  · rw [if_pos hold] at heq ⊢
    rw [if_pos ((h before hbefore heq).symm.trans hold)]
    rfl
  · rw [if_neg hold] at heq ⊢
    have hopener := h before hbefore heq
    rw [if_neg (hopener ▸ hold), hopener]

end WebStateList

/-! ## What one operation does to the link -/

variable {W : Type} [DecidableEq W]
variable {l : WebStateList W} {webState : W} {opener : Option W}

/-- The operation gives the tab an opener: the one it is called with, or a new inherited one
when the tab, after having left, is inserted again. -/
def Operation.SetsOpenerOf (l : WebStateList W) (webState : W) : Operation W → Prop
  | .setOpenerOfWebStateAt index _ => l.getWebStateAt index = some webState
  | .insertWebState _ _ inserted insertionFlags opener =>
    inserted = webState ∧
      (opener.opener.isSome ∨ isInsertionFlagSet insertionFlags insertInheritOpener = true)
  | _ => False

/-- The operation ends the link from a tab to its opener: it takes one of the two out of the
list, or it is an insertion that inherits its opener. -/
def Operation.BreaksLink (l : WebStateList W) (webState opener : W) : Operation W → Prop
  | .insertWebState _ _ _ insertionFlags _ =>
    isInsertionFlagSet insertionFlags insertInheritOpener = true
  | .replaceWebStateAt index _ | .detachWebStateAt index | .closeWebStateAt index _ =>
    l.getWebStateAt index = some webState ∨ l.getWebStateAt index = some opener
  | .closeAllWebStates _ => True
  | .moveWebStateAt .. | .activateWebStateAt _ | .setOpenerOfWebStateAt .. => False

instance (l : WebStateList W) (webState : W) :
    (op : Operation W) → Decidable (op.SetsOpenerOf l webState)
  | .insertWebState .. => inferInstanceAs (Decidable (_ ∧ (_ ∨ _)))
  | .setOpenerOfWebStateAt .. => inferInstanceAs (Decidable (_ = _))
  | .moveWebStateAt .. | .replaceWebStateAt .. | .detachWebStateAt _ | .closeWebStateAt ..
  | .closeAllWebStates _ | .activateWebStateAt _ => isFalse id

instance (l : WebStateList W) (webState opener : W) :
    (op : Operation W) → Decidable (op.BreaksLink l webState opener)
  | .insertWebState .. => inferInstanceAs (Decidable (_ = true))
  | .replaceWebStateAt .. | .detachWebStateAt _ | .closeWebStateAt .. =>
    inferInstanceAs (Decidable (_ ∨ _))
  | .closeAllWebStates _ => isTrue trivial
  | .moveWebStateAt .. | .activateWebStateAt _ | .setOpenerOfWebStateAt .. => isFalse id

/-- The link while it lasts: the tab is in the list and has its opener. -/
structure Linked (l : WebStateList W) (webState opener : W) : Prop where
  opened : l.OpenedBy webState (some opener)
  mem : webState ∈ l.webStates

/-- What is left of an opener when a tab leaves the list: nothing if that tab is the opener, and
nothing if it is the tab itself. -/
def remaining (webState old : W) (opener : Option W) : Option W :=
  if old = webState ∨ opener = some old then none else opener

theorem remaining_none (webState old : W) : remaining webState old none = none := by
  unfold remaining
  split <;> rfl

namespace WebStateList

/-- The tabs other than the one at `i`, with what is left of their openers. -/
theorem OpenedBy.other (h : ListInv l) (hopened : l.OpenedBy webState opener) {i k : Nat} {old : W}
    (hi : l.webStates[i]? = some old) (hne : k ≠ i) {tab : W × WebStateOpener W}
    (htab : (l.clearOpenersReferencing i).openers[k]? = some tab) (heq : tab.1 = webState) :
    tab.2.opener = remaining webState old opener := by
  have hother : old ≠ webState := by
    rintro rfl
    have hk : l.webStates[k]? = some tab.1 := by
      rw [← clearOpenersReferencing_webStates l i, ← map_openers, List.getElem?_map, htab]
      rfl
    rw [heq] at hk
    exact hne ((List.getElem?_inj (List.getElem?_eq_some_iff.1 hk).1 h.nodup).1
      (hk.trans hi.symm))
  rw [hopened.cleared hi tab (List.mem_of_getElem? htab) heq]
  unfold remaining
  by_cases hopener : opener = some old
  · rw [if_pos hopener, if_pos (.inr hopener)]
  · rw [if_neg hopener, if_neg (not_or.2 ⟨hother, hopener⟩)]

theorem removeWrapperAt_openers (l : WebStateList W) (i : Nat) :
    (l.removeWrapperAt i).openers = (l.clearOpenersReferencing i).openers.eraseIdx i := by
  have hclear : ∀ active : Int, (clearOpenersReferencing { l with activeIndex := active } i).openers =
      (l.clearOpenersReferencing i).openers := by
    intro active
    unfold clearOpenersReferencing
    rw [show getWebStateAt { l with activeIndex := active } i = l.getWebStateAt i from rfl]
    cases l.getWebStateAt i <;> rfl
  rw [← hclear (l.determineNewActiveIndex l.activeIndex i)]
  unfold removeWrapperAt openers
  rw [← List.eraseIdx_map, Int.toNat_natCast]

theorem OpenedBy.removed (h : ListInv l) (hopened : l.OpenedBy webState opener) {i : Nat} {old : W}
    (hi : l.webStates[i]? = some old) :
    (l.removeWrapperAt i).OpenedBy webState (remaining webState old opener) := by
  intro tab htab heq
  rw [removeWrapperAt_openers] at htab
  obtain ⟨k, hne, hk⟩ := List.mem_eraseIdx_iff_getElem?.1 htab
  exact hopened.other h hi hne hk heq

theorem replaceWrapper_openers (l : WebStateList W) (i : Nat) (webState : W) :
    (l.replaceWrapper i webState).openers =
      (l.clearOpenersReferencing i).openers.set i (webState, .null) := by
  unfold replaceWrapper modifyWrapperAt openers
  rw [if_neg (by omega), Int.toNat_natCast]
  refine List.ext_getElem? fun k => ?_
  rw [List.getElem?_map, List.getElem?_modify, List.getElem?_set, List.getElem?_map,
    List.length_map]
  by_cases hk : i = k
  · subst hk
    simp only [if_true]
    by_cases hlt : i < (l.clearOpenersReferencing i).webStateWrappers.length
    · rw [if_pos hlt, List.getElem?_eq_getElem hlt]
      rfl
    · rw [if_neg hlt, List.getElem?_eq_none (by omega)]
      rfl
  · simp only [if_neg hk]
    cases (l.clearOpenersReferencing i).webStateWrappers[k]? <;> rfl

/-- The tab that comes in has no opener. -/
theorem OpenedBy.replaced (h : ListInv l) (hopened : l.OpenedBy webState opener) {i : Nat}
    {old new : W} (hi : l.webStates[i]? = some old) (hnew : new = webState → opener = none) :
    (l.replaceWrapper i new).OpenedBy webState (remaining webState old opener) := by
  intro tab htab heq
  rw [replaceWrapper_openers] at htab
  obtain ⟨k, hk⟩ := List.getElem?_of_mem htab
  rw [List.getElem?_set] at hk
  by_cases hik : i = k
  · rw [if_pos hik] at hk
    split at hk
    next =>
      cases hk
      rw [hnew heq, remaining_none]
      rfl
    next => exact absurd hk (by simp)
  · rw [if_neg hik] at hk
    exact hopened.other h hi (Ne.symm hik) hk heq

end WebStateList

/-- What an operation leaves of the opener of a tab. -/
def Operation.linkAfter (l : WebStateList W) (webState : W) (opener : Option W) :
    Operation W → Option W
  | .insertWebState _ _ _ insertionFlags _ =>
    if isInsertionFlagSet insertionFlags insertInheritOpener then none else opener
  | .replaceWebStateAt index _ | .detachWebStateAt index | .closeWebStateAt index _ =>
    match l.getWebStateAt index with
    | none => opener
    | some old => remaining webState old opener
  | .closeAllWebStates _ => none
  | .moveWebStateAt .. | .activateWebStateAt _ | .setOpenerOfWebStateAt .. => opener

theorem WebStateList.OpenedBy.inserted (h : ListInv l)
    (hopened : l.OpenedBy webState opener) (hmem : opener.isSome → webState ∈ l.webStates)
    {nav : W → Int32} {index : Int} {new : W} {insertionFlags : Int32} {given : WebStateOpener W}
    (hv : (Operation.insertWebState nav index new insertionFlags given).Valid l)
    (hset : ¬ (Operation.insertWebState nav index new insertionFlags given).SetsOpenerOf l
      webState) :
    (Mutation.insertWebStateImpl { webStateList := l } nav index new insertionFlags
      given).2.webStateList.OpenedBy webState
      (if isInsertionFlagSet insertionFlags insertInheritOpener then none else opener) := by
  obtain ⟨i, _, _, hopeners⟩ := insertWebStateImpl_openers h hv rfl
  intro tab htab heq
  rw [hopeners] at htab
  rcases List.eq_or_mem_of_mem_insertIdx htab with rfl | hold
  · -- the tab comes back: it was away, and brings no opener with it
    have hback : new = webState := heq
    have haway : webState ∉ l.webStates := hback ▸ hv.1
    obtain ⟨hnull, hown⟩ := not_or.1 fun hgives => hset ⟨hback, hgives⟩
    have hopener : opener = none := by
      cases opener with
      | none => rfl
      | some a => exact absurd (hmem rfl) haway
    rw [if_neg hown, hopener, WebStateList.insertedWrapper_opener, WebStateList.insertionOpener,
      if_neg hown]
    exact Option.not_isSome_iff_eq_none.1 hnull
  · obtain ⟨before, hbefore, rfl⟩ := List.mem_map.1 hold
    unfold WebStateList.keptOpener
    split
    · rfl
    · exact hopened before hbefore heq

omit [DecidableEq W] in
theorem openedBy_of_no_tabs (h : l.webStates = []) (webState : W) (opener : Option W) :
    l.OpenedBy webState opener :=
  .of_not_mem (by rw [h]; exact List.not_mem_nil) opener

/-- **What one operation does to the opener of a tab** whose opener it does not set. -/
theorem openedBy_step (h : ListInv l) (hopened : l.OpenedBy webState opener)
    (hmem : opener.isSome → webState ∈ l.webStates) {op : Operation W} (hv : op.Valid l)
    (hset : ¬ op.SetsOpenerOf l webState) :
    ((webStateListMachine W).step l op).OpenedBy webState (op.linkAfter l webState opener) := by
  cases op with
  | insertWebState nav index new insertionFlags given => exact hopened.inserted h hmem hv hset
  | moveWebStateAt fromIndex toIndex =>
    obtain ⟨i, w, rfl, hi, _, _⟩ := hv.1.getWebStateAt
    obtain ⟨j, rfl, hj⟩ := hv.2.exists_nat
    have hwrapper := List.getElem?_eq_getElem hi
    refine hopened.of_subset fun tab htab => ?_
    rw [WebStateList.mem_openers_iff, (step_moveWebStateAt hwrapper hj).1] at htab
    obtain ⟨wrapper, hwrapper', rfl⟩ := htab
    refine WebStateList.mem_openers_iff.2 ⟨wrapper, ?_, rfl⟩
    rcases List.eq_or_mem_of_mem_insertIdx hwrapper' with rfl | hother
    · exact List.getElem_mem hi
    · exact List.mem_of_mem_eraseIdx hother
  | replaceWebStateAt index new =>
    obtain ⟨i, old, rfl, _, hi, hat⟩ := hv.1.getWebStateAt
    show ((Mutation.mk l []).replaceWebStateAtImpl i new).webStateList.OpenedBy webState
      (match l.getWebStateAt i with | none => _ | some _ => _)
    rw [Mutation.replaceWebStateAtImpl_webStateList _ new hat, hat]
    refine hopened.replaced h hi fun hback => ?_
    cases opener with
    | none => rfl
    | some a => exact absurd (hmem rfl) (hback ▸ hv.2)
  | detachWebStateAt index =>
    obtain ⟨i, old, rfl, _, hi, hat⟩ := WebStateList.ContainsIndex.getWebStateAt hv
    show ((Mutation.mk l []).detachWebStateAtImpl i).webStateList.OpenedBy webState
      (match l.getWebStateAt i with | none => _ | some _ => _)
    rw [Mutation.detachWebStateAtImpl_webStateList _ hat, hat]
    exact hopened.removed h hi
  | closeWebStateAt index closeFlags =>
    obtain ⟨i, old, rfl, _, hi, hat⟩ := WebStateList.ContainsIndex.getWebStateAt hv
    show ((Mutation.mk l []).closeWebStateAtImpl i closeFlags).webStateList.OpenedBy webState
      (match l.getWebStateAt i with | none => _ | some _ => _)
    rw [Mutation.closeWebStateAtImpl_webStateList _ closeFlags hat, hat]
    exact hopened.removed h hi
  | closeAllWebStates closeFlags =>
    exact openedBy_of_no_tabs (closeAllLoop_empty closeFlags _ _ (Nat.le_refl _)) webState _
  | activateWebStateAt index =>
    refine hopened.of_subset fun tab htab => ?_
    rwa [show ((webStateListMachine W).step l (.activateWebStateAt index)).openers = l.openers from
      (congrArg WebStateList.openers (Mutation.activateWebStateAtImpl_webStateList _ index
        .activated)).trans (WebStateList.setActiveIndex_openers h index)] at htab
  | setOpenerOfWebStateAt index given =>
    obtain ⟨i, w, rfl, _, hi, hat⟩ := hv.1.getWebStateAt
    have hother : l.getWebStateAt i ≠ some webState := hset
    rw [WebStateList.getWebStateAt_natCast] at hother
    intro tab htab heq
    obtain ⟨wrapper, hwrapper, rfl⟩ := WebStateList.mem_openers_iff.1 htab
    obtain ⟨j, hj⟩ := List.getElem?_of_mem hwrapper
    have hj' : (l.webStateWrappers.modify i (·.setOpener given))[j]? = some wrapper := by
      have hl' : ((webStateListMachine W).step l (.setOpenerOfWebStateAt i given)).webStateWrappers =
          l.webStateWrappers.modify i (·.setOpener given) := by
        show (l.modifyWrapperAt i (·.setOpener given)).webStateWrappers = _
        unfold WebStateList.modifyWrapperAt
        rw [if_neg (by omega), Int.toNat_natCast]
      rwa [hl'] at hj
    obtain ⟨before, hbefore, ⟨rfl, rfl⟩ | ⟨_, rfl⟩⟩ := Lib.getElem?_modify_cases hj'
    · refine absurd ?_ hother
      rw [WebStateList.webStates, List.getElem?_map, hbefore]
      exact congrArg some heq
    · exact hopened _ (WebStateList.mem_openers_iff.2 ⟨_, List.mem_of_getElem? hbefore, rfl⟩) heq

/-- A tab stays in the list until it is taken out. -/
theorem mem_step (h : ListInv l) {webState opener : W} (hmem : webState ∈ l.webStates)
    {op : Operation W} (hv : op.Valid l) (hkeeps : ¬ op.BreaksLink l webState opener) :
    webState ∈ ((webStateListMachine W).step l op).webStates := by
  obtain ⟨k, hk⟩ := List.getElem?_of_mem hmem
  have hremoved : ∀ i : Nat, l.getWebStateAt i ≠ some webState →
      webState ∈ (l.removeWrapperAt i).webStates := by
    intro i hne
    rw [WebStateList.getWebStateAt_natCast] at hne
    rw [WebStateList.removeWrapperAt_webStates, Int.toNat_natCast]
    exact List.mem_eraseIdx_iff_getElem?.2 ⟨k, fun hik => hne (hik ▸ hk), hk⟩
  cases op with
  | insertWebState nav index new insertionFlags given =>
    obtain ⟨i, _, _, hopeners⟩ := insertWebStateImpl_openers h hv rfl
    have htabs : ((webStateListMachine W).step l
        (.insertWebState nav index new insertionFlags given)).webStates =
        l.webStates.insertIdx i new := by
      rw [← WebStateList.map_openers, ← WebStateList.map_openers]
      refine (congrArg (List.map Prod.fst) hopeners).trans ?_
      rw [List.map_insertIdx, List.map_map]
      rfl
    rw [htabs]
    exact List.subset_insertIdx _ _ _ hmem
  | moveWebStateAt fromIndex toIndex =>
    obtain ⟨i, w, rfl, hi, _, _⟩ := hv.1.getWebStateAt
    obtain ⟨j, rfl, hj⟩ := hv.2.exists_nat
    have hwrapper := List.getElem?_eq_getElem hi
    have hperm : ((l.webStateWrappers.eraseIdx i).insertIdx j l.webStateWrappers[i]).Perm
        l.webStateWrappers :=
      (List.perm_insertIdx _ _ (by rw [List.length_eraseIdx_of_lt hi]; omega)).trans
        (List.getElem_cons_eraseIdx_perm hi)
    rw [WebStateList.webStates, (step_moveWebStateAt hwrapper hj).1]
    exact (hperm.map _).mem_iff.2 hmem
  | replaceWebStateAt index new =>
    obtain ⟨i, old, rfl, _, hi, hat⟩ := hv.1.getWebStateAt
    have hother : l.getWebStateAt i ≠ some webState := fun hsame => hkeeps (.inl hsame)
    rw [WebStateList.getWebStateAt_natCast] at hother
    show webState ∈ ((Mutation.mk l []).replaceWebStateAtImpl i new).webStateList.webStates
    rw [Mutation.replaceWebStateAtImpl_webStateList _ new hat,
      WebStateList.replaceWrapper_webStates]
    refine List.mem_of_getElem? (i := k) ?_
    rw [List.getElem?_set_ne (fun hik : i = k => hother (by rw [hik]; exact hk)), hk]
  | detachWebStateAt index =>
    obtain ⟨i, old, rfl, _, _, hat⟩ := WebStateList.ContainsIndex.getWebStateAt hv
    show webState ∈ ((Mutation.mk l []).detachWebStateAtImpl i).webStateList.webStates
    rw [Mutation.detachWebStateAtImpl_webStateList _ hat]
    exact hremoved i fun hsame => hkeeps (.inl hsame)
  | closeWebStateAt index closeFlags =>
    obtain ⟨i, old, rfl, _, _, hat⟩ := WebStateList.ContainsIndex.getWebStateAt hv
    show webState ∈ ((Mutation.mk l []).closeWebStateAtImpl i closeFlags).webStateList.webStates
    rw [Mutation.closeWebStateAtImpl_webStateList _ closeFlags hat]
    exact hremoved i fun hsame => hkeeps (.inl hsame)
  | closeAllWebStates closeFlags => exact absurd trivial hkeeps
  | activateWebStateAt index =>
    show webState ∈ ((Mutation.mk l []).activateWebStateAtImpl index .activated).webStateList.webStates
    rwa [Mutation.activateWebStateAtImpl_webStateList, WebStateList.setActiveIndex_webStates]
  | setOpenerOfWebStateAt index given =>
    show webState ∈ (l.setOpenerOfWebStateAt index given).webStates
    rwa [WebStateList.setOpenerOfWebStateAt_webStates]

theorem linkAfter_none (l : WebStateList W) (webState : W) (op : Operation W) :
    op.linkAfter l webState none = none := by
  cases op with
  | insertWebState => exact ite_self none
  | replaceWebStateAt index | detachWebStateAt index | closeWebStateAt index =>
    show (match l.getWebStateAt index with | none => none | some old => remaining webState old none)
      = none
    cases l.getWebStateAt index with
    | none => rfl
    | some old => exact remaining_none webState old
  | moveWebStateAt | closeAllWebStates | activateWebStateAt | setOpenerOfWebStateAt => rfl

theorem linkAfter_some (l : WebStateList W) (webState opener : W) (op : Operation W) :
    op.linkAfter l webState (some opener) =
      if op.BreaksLink l webState opener then none else some opener := by
  cases op with
  | insertWebState => rfl
  | replaceWebStateAt index | detachWebStateAt index | closeWebStateAt index =>
    show (match l.getWebStateAt index with
      | none => some opener
      | some old => remaining webState old (some opener)) =
      if l.getWebStateAt index = some webState ∨ l.getWebStateAt index = some opener then none
      else some opener
    cases l.getWebStateAt index with
    | none => simp
    | some old =>
      unfold remaining
      simp only [Option.some.injEq, eq_comm (a := opener)]
  | closeAllWebStates => exact (if_pos trivial).symm
  | moveWebStateAt | activateWebStateAt | setOpenerOfWebStateAt => exact (if_neg id).symm

/-! ## Runs -/

/-- A broken link stays broken. -/
theorem openedBy_none_exec : ∀ {l : WebStateList W} {ops : List (Operation W)},
    ListInv l → l.OpenedBy webState none → (webStateListMachine W).Run l ops →
    (webStateListMachine W).Always (fun l op => ¬ op.SetsOpenerOf l webState) l ops →
    ((webStateListMachine W).exec l ops).OpenedBy webState none
  | _, [], _, hopened, _, _ => hopened
  | l, op :: _, h, hopened, hrun, hset => by
    have hstep := openedBy_step h hopened (fun hsome => absurd hsome (by simp)) hrun.1 hset.1
    rw [linkAfter_none] at hstep
    have hinv : ListInv ((webStateListMachine W).step l op) :=
      perform_inv (m := { webStateList := l }) h op hrun.1
    exact openedBy_none_exec (l := (webStateListMachine W).step l op) hinv hstep hrun.2 hset.2

/-- **The link along a run**: it lasts exactly as long as no operation breaks it. -/
theorem linked_exec {webState opener : W} : ∀ {l : WebStateList W} {ops : List (Operation W)},
    ListInv l → Linked l webState opener → (webStateListMachine W).Run l ops →
    (webStateListMachine W).Always (fun l op => ¬ op.SetsOpenerOf l webState) l ops →
    (((webStateListMachine W).Always (fun l op => ¬ op.BreaksLink l webState opener) l ops ∧
        Linked ((webStateListMachine W).exec l ops) webState opener) ∨
      (¬ (webStateListMachine W).Always (fun l op => ¬ op.BreaksLink l webState opener) l ops ∧
        ((webStateListMachine W).exec l ops).OpenedBy webState none))
  | _, [], _, hlinked, _, _ => .inl ⟨trivial, hlinked⟩
  | l, op :: ops, h, hlinked, hrun, hset => by
    have hinv : ListInv ((webStateListMachine W).step l op) :=
      perform_inv (m := { webStateList := l }) h op hrun.1
    have hstep := openedBy_step h hlinked.opened (fun _ => hlinked.mem) hrun.1 hset.1
    rw [linkAfter_some] at hstep
    by_cases hbreaks : op.BreaksLink l webState opener
    · rw [if_pos hbreaks] at hstep
      exact .inr ⟨fun hall => hall.1 hbreaks,
        openedBy_none_exec (l := (webStateListMachine W).step l op) hinv hstep hrun.2 hset.2⟩
    · rw [if_neg hbreaks] at hstep
      have hlinked' : Linked ((webStateListMachine W).step l op) webState opener :=
        ⟨hstep, mem_step h hlinked.mem hrun.1 hbreaks⟩
      rcases linked_exec hinv hlinked' hrun.2 hset.2 with ⟨hall, hend⟩ | ⟨hsome, hend⟩
      · exact .inl ⟨⟨hbreaks, hall⟩, hend⟩
      · exact .inr ⟨fun hall => hsome hall.2, hend⟩

/-- The link an insertion with `INSERT_INHERIT_OPENER` makes. -/
theorem linked_inserted (h : ListInv l) {webState active : W}
    (hactive : l.getActiveWebState = some active) {nav : W → Int32} {index : Int}
    {insertionFlags : Int32} {opener : WebStateOpener W}
    (hinherit : isInsertionFlagSet insertionFlags insertInheritOpener = true)
    (hv : (Operation.insertWebState nav index webState insertionFlags opener).Valid l) :
    Linked ((webStateListMachine W).step l (.insertWebState nav index webState insertionFlags
      opener)) webState active := by
  obtain ⟨i, _, hi, hopeners⟩ := insertWebStateImpl_openers h hv rfl
  have hgiven : ((l.insertionBase insertionFlags).insertionOpener nav insertionFlags
      opener).opener = some active := by
    rw [WebStateList.insertionOpener, if_pos hinherit, WebStateOpener.ofWebState_opener,
      WebStateList.insertionBase_getActiveWebState, hactive]
  constructor
  · intro tab htab heq
    rcases List.eq_or_mem_of_mem_insertIdx (hopeners ▸ htab) with rfl | hold
    · rw [WebStateList.insertedWrapper_opener, hgiven]
    · obtain ⟨before, hbefore, rfl⟩ := List.mem_map.1 hold
      have heq : before.1 = webState := heq
      have hmem : webState ∈ l.webStates := heq ▸ WebStateList.mem_webStates_of_openers hbefore
      exact absurd hmem hv.1
  · rw [← WebStateList.map_openers]
    refine List.mem_map.2 ⟨_, hopeners ▸ (List.mem_insertIdx ?_).2 (.inl rfl), rfl⟩
    rw [List.length_map]
    exact hi

theorem WebStateList.OpenedBy.getOpener (hopened : l.OpenedBy webState opener)
    (hmem : webState ∈ l.webStates) :
    (l.getOpenerOfWebStateAt (l.getIndexOfWebState webState)).opener = opener := by
  obtain ⟨i, hi, htab⟩ := WebStateList.getIndexOfWebState_of_mem hmem
  rw [WebStateList.webStates, List.getElem?_map] at htab
  obtain ⟨wrapper, hwrapper, rfl⟩ := Option.map_eq_some_iff.1 htab
  rw [hi, WebStateList.getOpenerOfWebStateAt_natCast, hwrapper]
  exact hopened _ (WebStateList.mem_openers_iff.2 ⟨wrapper, List.mem_of_getElem? hwrapper, rfl⟩) rfl

/-- **The inherited opener is dropped when another tab is activated exactly if something else
broke the link before.** `l₁` is the list after the insertion, `l₂` the list after any later
operations that do not set the tab's opener; the tab is active in `l₂`, and `l₃` is the list
after the activation, of whichever tab. -/
theorem inheritedOpener_dropped_iff {l : WebStateList W} (h : (webStateListMachine W).Reachable l)
    {webState active : W} (hactive : l.getActiveWebState = some active) {nav : W → Int32}
    {index : Int} {insertionFlags : Int32} {opener : WebStateOpener W}
    (hinherit : isInsertionFlagSet insertionFlags insertInheritOpener = true)
    (hv : (Operation.insertWebState nav index webState insertionFlags opener).Valid l)
    {l₁ l₂ l₃ : WebStateList W}
    (h₁ : l₁ = (webStateListMachine W).step l
      (.insertWebState nav index webState insertionFlags opener))
    {ops : List (Operation W)} (hrun : (webStateListMachine W).Run l₁ ops)
    (hset : (webStateListMachine W).Always (fun l op => ¬ op.SetsOpenerOf l webState) l₁ ops)
    (h₂ : l₂ = (webStateListMachine W).exec l₁ ops)
    (hturn : l₂.getActiveWebState = some webState) {i : Int}
    (h₃ : l₃ = (webStateListMachine W).step l₂ (.activateWebStateAt i)) :
    (l₃.getOpenerOfWebStateAt (l₃.getIndexOfWebState webState)).opener = none ↔
      ¬ (webStateListMachine W).Always (fun l op => ¬ op.BreaksLink l webState active) l₁ ops := by
  have hinv := reachable_inv h
  have hinv₁ : ListInv l₁ := by
    rw [h₁]
    exact perform_inv (m := { webStateList := l }) hinv _ hv
  have hinv₂ : ListInv l₂ := by
    rw [h₂]
    exact hrun.invariant (fun l op hl hop => perform_inv (m := { webStateList := l }) hl op hop)
      hinv₁
  have hactivated : l₃.webStates = l₂.webStates ∧ l₃.openers = l₂.openers := by
    have hl₃ : l₃ = l₂.setActiveIndex i := by
      rw [h₃]
      exact Mutation.activateWebStateAtImpl_webStateList { webStateList := l₂ } i .activated
    rw [hl₃]
    exact ⟨l₂.setActiveIndex_webStates i, WebStateList.setActiveIndex_openers hinv₂ i⟩
  have hmem : webState ∈ l₃.webStates := by
    rw [hactivated.1]
    exact mem_of_getActiveWebState hturn
  have hlinked : Linked l₁ webState active := by
    rw [h₁]
    exact linked_inserted hinv hactive hinherit hv
  rcases linked_exec hinv₁ hlinked hrun hset with ⟨hall, hend⟩ | ⟨hsome, hend⟩
  · have hopened : l₃.OpenedBy webState (some active) := by
      intro tab htab
      rw [hactivated.2, h₂] at htab
      exact hend.opened tab htab
    rw [hopened.getOpener hmem]
    exact iff_of_false (Option.some_ne_none active) (not_not.2 hall)
  · have hopened : l₃.OpenedBy webState none := by
      intro tab htab
      rw [hactivated.2, h₂] at htab
      exact hend tab htab
    exact iff_of_true (hopened.getOpener hmem) hsome

/-- Tab 2 inherits tab 1, which is closed before tab 3 is activated. -/
theorem inheritedOpener_dropped_iff_openerClosed :
    let M := webStateListMachine Nat
    let l := M.step {} (.insertWebState (fun _ => 0) 0 1 insertActivate .null)
    let l₁ := M.step l
      (.insertWebState (fun _ => 0) 0 2 (insertActivate ||| insertInheritOpener) .null)
    let ops : List (Operation Nat) :=
      [.insertWebState (fun _ => 0) 0 3 0 .null, .closeWebStateAt 0 closeUserAction]
    let l₃ := M.step (M.exec l₁ ops) (.activateWebStateAt 1)
    (l₃.getOpenerOfWebStateAt (l₃.getIndexOfWebState 2)).opener = none ↔
      ¬ M.Always (fun l op => ¬ op.BreaksLink l 2 1) l₁ ops :=
  inheritedOpener_dropped_iff ⟨{}, [.insertWebState (fun _ => 0) 0 1 insertActivate .null], rfl,
    by decide, rfl⟩ (by decide) (by decide) (by decide) rfl (by decide) (by decide) rfl
    (by decide) rfl

/-- Tab 2 inherits tab 1 and is active; tab 1 is activated at once, and tab 2 keeps its opener. -/
theorem inheritedOpener_kept :
    ¬ ∀ (l l₁ l₂ l₃ : WebStateList Nat) (webState : Nat) (nav : Nat → Int32) (index i : Int)
      (insertionFlags : Int32) (opener : WebStateOpener Nat) (ops : List (Operation Nat)),
      (webStateListMachine Nat).Reachable l → l.getActiveWebState ≠ none →
      isInsertionFlagSet insertionFlags insertInheritOpener = true →
      (Operation.insertWebState nav index webState insertionFlags opener).Valid l →
      l₁ = (webStateListMachine Nat).step l
        (.insertWebState nav index webState insertionFlags opener) →
      (webStateListMachine Nat).Run l₁ ops →
      (webStateListMachine Nat).Always (fun l op => ¬ op.SetsOpenerOf l webState) l₁ ops →
      l₂ = (webStateListMachine Nat).exec l₁ ops → l₂.getActiveWebState = some webState →
      l₂.ContainsIndex i → l₃ = (webStateListMachine Nat).step l₂ (.activateWebStateAt i) →
      l₃.getActiveWebState ≠ some webState →
      (l₃.getOpenerOfWebStateAt (l₃.getIndexOfWebState webState)).opener = none := by
  intro h
  have hkept := h _ _ _ _ 2 (fun _ => 0) 0 0 (insertActivate ||| insertInheritOpener) .null []
    ⟨{}, [.insertWebState (fun _ => 0) 0 1 insertActivate .null], rfl, by decide, rfl⟩ (by decide)
    (by decide) (by decide) rfl trivial trivial rfl (by decide) (by decide) rfl (by decide)
  exact absurd hkept (by decide)

end IosChrome.Tabs

import IosChrome.Tabs.Serialization

/-!
# A list with restored tabs

What `DeserializeWebStateList` leaves is a list in order again: the restored tabs are new
(`restoredTabs_nodup`), the openers read back from their user data are tabs of the list and
never the tab itself (`storedOpener_spec`), and the selected tab is one of the restored ones.

Nothing is asked here of the window but that its selected index is one of its sessions', or
`NSNotFound`: the indices that its sessions carry may be any.
-/

namespace IosChrome.Tabs

open Sessions (SessionWindow nsNotFound)

variable {W R : Type}

/-- Whatever the user data holds, the opener that is read is another of the tabs after the old
count. -/
theorem storedOpener_spec {factory : WebStateFactory W R} {oldCount : Int} {tabs : List W}
    {index : Nat} {opener : WebStateOpener W} (h0 : 0 ≤ oldCount)
    (h : storedOpener factory oldCount tabs index = some opener) :
    ∃ (j : Nat) (o : W), opener.opener = some o ∧ tabs[j]? = some o ∧ j ≠ index ∧
      oldCount ≤ j := by
  unfold storedOpener at h
  split at h
  · cases h
  · split at h
    next boxedOpenerIndex boxedOpenerNavigationIndex _ _ =>
      simp only at h
      split at h
      · cases h
      next hrange =>
        split at h
        · cases h
        next hself =>
          split at h
          · cases h
          next o ho =>
            refine ⟨_, o, ?_, ho, ?_, ?_⟩
            · rw [← Option.some.inj h]
            · omega
            · omega
    · cases h

theorem restoredTabs_nodup {target : WebStateList W} (hinv : ListInv target)
    {factory : WebStateFactory W R} {sessions : List (SessionStorage R)}
    (hf : factory.Restores target sessions) : (restoredTabs target factory sessions).Nodup := by
  unfold restoredTabs
  rw [List.nodup_append]
  refine ⟨hinv.nodup, ?_, ?_⟩
  · rw [List.nodup_iff_getElem?_ne_getElem?]
    intro i j hij hj
    rw [List.length_mapIdx] at hj
    have hi : i < sessions.length := by omega
    rw [List.getElem?_mapIdx, List.getElem?_mapIdx, List.getElem?_eq_getElem hi,
      List.getElem?_eq_getElem hj]
    intro heq
    exact hf.distinct i j _ _ (List.getElem?_eq_getElem hi) (List.getElem?_eq_getElem hj)
      (Nat.ne_of_lt hij) (Option.some.inj heq)
  · rintro old hold new hnew rfl
    obtain ⟨i, hi⟩ := List.getElem?_of_mem hnew
    rw [List.getElem?_mapIdx] at hi
    obtain ⟨session, hsession, rfl⟩ := Option.map_eq_some_iff.1 hi
    exact hf.fresh i session hsession hold

variable [DecidableEq W] {target : WebStateList W} {factory : WebStateFactory W R}
  {window : SessionWindow (SessionStorage R)}

/-- A restored wrapper is one that was there, or the wrapper of a restored tab. -/
theorem restoredList_wrapperInv (hinv : ListInv target) (nav : W → Int32)
    (hf : factory.Restores target window.sessions) {wrapper : WebStateWrapper W}
    (hw : wrapper ∈ (restoredList target nav factory window).webStateWrappers) :
    WrapperInv (restoredTabs target factory window.sessions) wrapper := by
  obtain ⟨p, hp⟩ := List.getElem?_of_mem hw
  by_cases hlt : p < target.webStateWrappers.length
  · rw [restoredList_getElem?_old hinv nav factory window hlt] at hp
    have hold := hinv.wrappers wrapper (List.mem_of_getElem? hp)
    exact hold.of_tabs fun o ho => List.mem_append_left _ (hold.opener o ho).1
  · obtain ⟨i, rfl⟩ : ∃ i, p = target.webStateWrappers.length + i :=
      ⟨p - target.webStateWrappers.length, by omega⟩
    have htab : (restoredTabs target factory window.sessions)[
        target.webStateWrappers.length + i]? = some wrapper.webState := by
      rw [← restoredList_webStates hinv nav, WebStateList.webStates, List.getElem?_map, hp]
      rfl
    have hsession := htab
    rw [restoredTabs_getElem?] at hsession
    obtain ⟨session, hi, hrun⟩ := Option.map_eq_some_iff.1 hsession
    rw [restoredList_getElem?_new hinv nav factory window hi, hrun] at hp
    rw [← Option.some.inj hp]
    unfold writeOpener
    split
    · exact .of_null _ rfl
    next opener hstored =>
      have hcount : 0 ≤ target.count := by
        unfold WebStateList.count
        omega
      obtain ⟨j, o, ho, hj, hne, -⟩ := storedOpener_spec hcount hstored
      refine .of_setOpener ho (List.mem_of_getElem? hj) ?_
      -- two indices of a list without repetitions hold different tabs
      rintro rfl
      obtain ⟨hjlt, hjw⟩ := List.getElem?_eq_some_iff.1 hj
      obtain ⟨hilt, hiw⟩ := List.getElem?_eq_some_iff.1 htab
      exact hne ((restoredTabs_nodup hinv hf).getElem_inj_iff.1 (hjw.trans hiw.symm))

theorem length_restoredList (hinv : ListInv target) (nav : W → Int32)
    (factory : WebStateFactory W R) (window : SessionWindow (SessionStorage R)) :
    (restoredList target nav factory window).webStateWrappers.length =
      target.webStateWrappers.length + window.sessions.length := by
  rw [← WebStateList.length_webStates, restoredList_webStates hinv, restoredTabs,
    List.length_append, List.length_mapIdx, WebStateList.length_webStates]

theorem restoredList_inv (hinv : ListInv target) (nav : W → Int32)
    (hf : factory.Restores target window.sessions) :
    ListInv (restoredList target nav factory window) := by
  refine ⟨?_, ?_, fun wrapper hw => ?_⟩
  · rw [restoredList_activeIndex hinv]
    refine hinv.active.imp_right fun hactive => ?_
    have hlength := length_restoredList hinv nav factory window
    unfold WebStateList.ContainsIndex WebStateList.count at hactive ⊢
    omega
  · rw [restoredList_webStates hinv]
    exact restoredTabs_nodup hinv hf
  · rw [restoredList_webStates hinv]
    exact restoredList_wrapperInv hinv nav hf hw

theorem deserializeWebStateList_webStates (hinv : ListInv target) (nav : W → Int32)
    (factory : WebStateFactory W R) (window : SessionWindow (SessionStorage R)) :
    (deserializeWebStateList nav factory { webStateList := target } window).webStateList.webStates =
      restoredTabs target factory window.sessions := by
  rw [deserializeWebStateList_webStateList]
  split
  · rw [WebStateList.setActiveIndex_webStates, restoredList_webStates hinv]
  · exact restoredList_webStates hinv nav factory window

/-- **Restoring keeps the list in order.** The two lists together must have at most `INT_MAX`
tabs, for the selected index is shifted in 32 bits. -/
theorem deserializeWebStateList_inv (hinv : ListInv target) (nav : W → Int32)
    (hf : factory.Restores target window.sessions)
    (hcount : target.count + window.sessions.length ≤ intMax)
    (hselected : window.selectedIndex = nsNotFound ∨
      window.selectedIndex < window.sessions.length) :
    ListInv
      (deserializeWebStateList nav factory { webStateList := target } window).webStateList := by
  have hrestored := restoredList_inv hinv nav hf
  rw [deserializeWebStateList_webStateList]
  split
  next hne =>
    have hlt := hselected.resolve_left hne
    unfold WebStateList.count intMax at hcount
    have hold := int32_toInt_ofInt (n := target.count)
      (by unfold WebStateList.count; omega) (by unfold WebStateList.count intMax; omega)
    have hnew : (Int32.ofNat window.selectedIndex).toInt = window.selectedIndex :=
      Int32.toInt_ofNat_of_lt (by omega)
    have hsum : (Int32.ofInt target.count + Int32.ofNat window.selectedIndex).toInt =
        ((target.webStateWrappers.length + window.selectedIndex : Nat) : Int) := by
      unfold WebStateList.count at hold ⊢
      rw [int32_toInt_add (by omega) (by omega) (by unfold intMax; omega), hold, hnew]
      omega
    rw [hsum]
    refine setActiveIndex_inv hrestored (.inr (WebStateList.containsIndex_natCast.2 ?_))
    rw [length_restoredList hinv]
    omega
  · exact hrestored

/-- A serialized list selects one of its sessions. -/
theorem selectedIndex_serialized {l : WebStateList W} (hinv : ListInv l)
    (storageOf : W → SessionStorage R) :
    (serializeWebStateList l storageOf).selectedIndex = nsNotFound ∨
      (serializeWebStateList l storageOf).selectedIndex <
        (serializeWebStateList l storageOf).sessions.length := by
  have hselected : (serializeWebStateList l storageOf).selectedIndex =
    if l.activeIndex ≠ kInvalidIndex then l.activeIndex.toNat else nsNotFound := rfl
  by_cases hinvalid : l.activeIndex = kInvalidIndex
  · rw [if_neg (by simpa using hinvalid)] at hselected
    exact .inl hselected
  · obtain ⟨h0, hlt⟩ := hinv.active.resolve_left hinvalid
    rw [if_pos hinvalid] at hselected
    unfold WebStateList.count at hlt
    rw [hselected, length_sessions]
    omega

end IosChrome.Tabs

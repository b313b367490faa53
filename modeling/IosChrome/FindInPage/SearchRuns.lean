import IosChrome.FindInPage.Selection
import IosChrome.Lib.Machine

/-!
# Runs of the script

The calls of the script, in any order and interrupted anywhere, as a machine,
and the invariant of the states between them.
-/

namespace IosChrome.FindInPage

open IosChrome.Lib

/-! ## The machine -/

inductive ScriptCall where
  | findString (string : Text) (timer : Timer) (visible : NodeId → Bool)
  | pumpSearch (timer : Timer) (visible : NodeId → Bool)
  | selectAndScrollToVisibleMatch (index : Int) (visible : NodeId → Bool)

/-- What a call does. -/
def Script.perform (mapping : CaseMapping) (s : Script) : ScriptCall → Script
  | .findString string timer visible => (s.findString mapping visible string timer).1
  | .pumpSearch timer visible => (s.pumpSearch mapping visible timer).1
  | .selectAndScrollToVisibleMatch index visible => (s.selectAndScrollToVisibleMatch visible index).1

/-- The script in a page, under its calls. -/
def scriptMachine (mapping : CaseMapping) (page : Page) : Machine Script ScriptCall where
  init s := s = page.start
  pre _ _ := True
  step := Script.perform mapping

/-! ## The invariant -/

/-- What holds between calls. -/
structure ScriptInv (page : Page) (s : Script) : Prop where
  inv : ∃ bound, SearchInv page bound s ∧ (s.regex ≠ none → bound ≤ s.sectionsIndex)
  notInitialized : s.hasInitialized = false → s = page.start
  selection : s.SelectionInv

/-! ## Highlighting, counting and cleaning up -/

theorem Script.swapAll_frame : ∀ (rs : List Replacement) (i : Nat) (timer : Timer) (s : Script),
    ∃ dom index, (swapAll rs i timer s).1 = { s with dom := dom, replacementsIndex := index } ∧
      dom.data = s.dom.data ∧ dom.next = s.dom.next := by
  intro rs
  induction rs with
  | nil =>
    intro i timer s
    exact ⟨s.dom, s.replacementsIndex, rfl, rfl, rfl⟩
  | cons r rs ih =>
    intro i timer s
    unfold swapAll
    split
    · exact ⟨s.dom, i, rfl, rfl, rfl⟩
    · next timer' _ =>
      obtain ⟨dom, index, hrest, hdata, hnext⟩ := ih (i + 1) timer' (s.doSwap r)
      have hswap := NodeTree.exchange_frame s.dom r
      exact ⟨dom, index, hrest, hdata.trans hswap.1, hnext.trans hswap.2⟩

/-- Exchanges made before are not made again, so it does not matter from which
of them on `swapAll` goes. -/
theorem Page.swapAll_exchanging (page : Page) {extra : NodeId → List NodeId} :
    ∀ (rs : List Replacement) (i : Nat) (timer : Timer) {s : Script}
      {done pending : List Replacement}, rs = (done ++ pending).drop i → i ≤ done.length →
      s.replacementsIndex ≤ done.length →
      NodeTree.Exchanging page.dom extra done pending s.dom →
      ∃ done' pending', done' ++ pending' = done ++ pending ∧
        (Script.swapAll rs i timer s).1.replacementsIndex ≤ done'.length ∧
        NodeTree.Exchanging page.dom extra done' pending' (Script.swapAll rs i timer s).1.dom := by
  intro rs
  induction rs with
  | nil =>
    intro i timer s done pending _ _ hindex hex
    exact ⟨done, pending, rfl, hindex, hex⟩
  | cons r rs ih =>
    intro i timer s done pending hrs hi hindex hex
    unfold Script.swapAll
    split
    · exact ⟨done, pending, rfl, hi, hex⟩
    · have hrest : rs = (done ++ pending).drop (i + 1) := by
        rw [← List.drop_drop, ← hrs, List.drop_one, List.tail_cons]
      rcases Nat.lt_or_eq_of_le hi with hlt | heq
      · -- The exchange has been made.
        have hmem : r ∈ done := by
          rw [List.drop_append_of_le_length (Nat.le_of_lt hlt), List.drop_eq_getElem_cons hlt,
            List.cons_append] at hrs
          rw [(List.cons.inj hrs).1]
          exact List.getElem_mem hlt
        have hsame : s.doSwap r = s := by
          unfold Script.doSwap
          rw [hex.exchange_done page.forest hmem]
        rw [hsame]
        exact ih _ _ hrest hlt hindex hex
      · rw [heq, List.drop_left] at hrs
        subst hrs
        have hex' := hex.exchange page.forest
        have hlength : (done ++ [r]).length = done.length + 1 := by
          rw [List.length_append, List.length_singleton]
        obtain ⟨done', pending', hall, hindex', hex''⟩ := @ih (i + 1) _ (s.doSwap r) (done ++ [r]) rs
          (by rw [List.append_assoc, List.singleton_append]; exact hrest)
          (by rw [hlength]; omega) (by rw [hlength]; exact Nat.le_succ_of_le hindex) hex'
        exact ⟨done', pending', by rw [hall, List.append_assoc, List.singleton_append], hindex',
          hex''⟩

theorem Script.cleanUp_eq (s : Script) : s.cleanUp =
    { s with
      dom := s.replacements.foldl NodeTree.restore s.dom
      allText := []
      sections := []
      sectionsIndex := 0
      foundMatches := []
      selectedMatchIndex := -1
      selectedVisibleMatchIndex := -1
      matchId := 0
      partialMatches := []
      replacements := []
      replacementsIndex := 0
      searchStateIsClean := true } := by
  have hfold : ∀ (rs : List Replacement) (s : Script),
      rs.foldl undoSwap s = { s with dom := rs.foldl NodeTree.restore s.dom } := by
    intro rs
    induction rs with
    | nil =>
      intro s
      rfl
    | cons r rs ih =>
      intro s
      exact ih _
  unfold cleanUp
  rw [hfold]

namespace SearchInv

variable {page : Page} {bound : Nat} {s : Script}

theorem swapAll (h : SearchInv page bound s) (hclean : s.searchStateIsClean = false)
    (timer : Timer) :
    SearchInv page bound
      (Script.swapAll (s.replacements.drop s.replacementsIndex) s.replacementsIndex timer s).1 := by
  obtain ⟨done, pending, hall, hindex, hex⟩ := h.exchanging
  obtain ⟨done', pending', hall', hindex', hex'⟩ := page.swapAll_exchanging
    (s.replacements.drop s.replacementsIndex) s.replacementsIndex timer (by rw [hall]) hindex hindex
    hex
  obtain ⟨dom, index, hframe, hdata, hnext⟩ := Script.swapAll_frame
    (s.replacements.drop s.replacementsIndex) s.replacementsIndex timer s
  rw [hframe] at hindex' hex' ⊢
  refine ⟨h.documentElement, h.body, h.style, ?_, ⟨done', pending', hall.trans hall'.symm, hindex',
    hex'⟩, ?_, h.sections, h.stack, h.walked, h.walking, h.replaced, cleaned_of_false hclean, ?_,
    h.matches_nodup⟩
  · dsimp only
    rw [hdata, hnext]
    exact h.styleData
  · dsimp only
    rw [hdata, hnext]
    exact h.made
  · dsimp only
    rw [hnext]
    exact h.matchNodes

/-- All that is left of a search is taken back. -/
theorem cleanUp (h : SearchInv page bound s) : SearchInv page 0 s.cleanUp := by
  obtain ⟨done, pending, hall, -, hex⟩ := h.exchanging
  obtain ⟨hdata, hnext⟩ := NodeTree.foldl_restore_frame s.replacements s.dom
  have hrestored := (hex.restoreAll page.forest).dropPending
  rw [← hall] at hrestored
  rw [Script.cleanUp_eq]
  refine ⟨h.documentElement, h.body, h.style, ?_, ⟨[], [], rfl, Nat.le_refl _, hrestored⟩, ?_,
    nofun, h.stack, ?_, fun _ => rfl, nofun,
    fun _ => ⟨rfl, rfl, rfl, rfl, rfl, rfl, rfl, rfl, rfl, rfl⟩, nofun, List.nodup_nil⟩
  · dsimp only
    rw [hdata, hnext]
    exact h.styleData
  · dsimp only
    rw [hdata, hnext]
    exact h.made
  · exact (List.nodup_append.1 h.walked).2.1

end SearchInv

theorem Script.cleanUp_frame (s : Script) :
    s.cleanUp.Cleaned ∧ s.cleanUp.hasInitialized = s.hasInitialized := by
  rw [cleanUp_eq]
  exact ⟨⟨rfl, rfl, rfl, rfl, rfl, rfl, rfl, rfl, rfl, rfl⟩, rfl⟩

/-! ## Calls -/

theorem Script.countVisibleMatches_frame (visible : NodeId → Bool) (timer : Timer) (s : Script) :
    ∃ count iterator counted, (s.countVisibleMatches visible timer).1 =
      { s with
        visibleMatchCount := count, visibleMatchesCountIndexIterator := iterator
        lastCounted := counted } := by
  unfold countVisibleMatches
  simp only
  split
  · exact ⟨_, _, _, rfl⟩
  · exact ⟨_, _, _, rfl⟩

namespace SearchInv

variable {page : Page} {bound : Nat} {s : Script}

theorem countVisibleMatches (h : SearchInv page bound s) (visible : NodeId → Bool)
    (timer : Timer) : SearchInv page bound (s.countVisibleMatches visible timer).1 := by
  obtain ⟨count, iterator, counted, hframe⟩ := s.countVisibleMatches_frame visible timer
  rw [hframe]
  exact { h with clean := fun hclean => { h.clean hclean with } }

/-- A node the script has made changes its classes. -/
theorem modifyNode (h : SearchInv page bound s) {n : NodeId} {f : NodeData → NodeData}
    (hn : page.dom.next ≤ n ∧ n < s.dom.next ∧ s.styleElement ≠ some n)
    (hf : ∀ d, (f d).elementId = d.elementId) : SearchInv page bound (s.modifyNode n f) := by
  have hother : ∀ x, x ≠ n → (s.modifyNode n f).dom.data x = s.dom.data x := by
    intro x hx
    exact Function.update_of_ne hx ..
  obtain ⟨done, pending, hall, hindex, hex⟩ := h.exchanging
  have hex' : NodeTree.Exchanging page.dom (page.extra s.styleElement) done pending
      (s.modifyNode n f).dom := by
    refine hex.of_frame (Nat.le_refl _) (fun x hx => hother x ?_) rfl rfl
    rintro rfl
    exact absurd hn.1 (Nat.not_le_of_lt hx)
  refine ⟨h.documentElement, h.body, h.style, ?_, ⟨done, pending, hall, hindex, hex'⟩, ?_,
    h.sections, h.stack, h.walked, h.walking, h.replaced,
    fun hclean => { h.clean hclean with }, h.matchNodes, h.matches_nodup⟩
  · intro x hx
    refine ⟨(h.styleData x hx).1, (hother x ?_).trans (h.styleData x hx).2⟩
    rintro rfl
    exact hn.2.2 hx
  · intro x hge hlt hne
    by_cases hxn : x = n
    · subst hxn
      show (Function.update s.dom.data x _ x).elementId = ""
      rw [Function.update_self, hf]
      exact h.made x hge hlt hne
    · rw [hother x hxn]
      exact h.made x hge hlt hne

theorem modifyNodes (f : NodeData → NodeData) (hf : ∀ d, (f d).elementId = d.elementId) :
    ∀ (m : Match) {s : Script}, SearchInv page bound s →
      (∀ n ∈ m, page.dom.next ≤ n ∧ n < s.dom.next ∧ s.styleElement ≠ some n) →
      SearchInv page bound (m.foldl (fun s n => s.modifyNode n f) s) := by
  intro m
  induction m with
  | nil =>
    intro s h _
    exact h
  | cons n m ih =>
    intro s h hm
    rw [List.foldl_cons]
    exact ih (h.modifyNode (hm n (List.mem_cons_self ..)) hf)
      fun x hx => hm x (List.mem_cons_of_mem _ hx)

theorem currentMatch (h : SearchInv page bound s) {m : Match}
    (hm : s.getCurrentSelectedMatch = some m) :
    ∀ n ∈ m, page.dom.next ≤ n ∧ n < s.dom.next ∧ s.styleElement ≠ some n := by
  unfold Script.getCurrentSelectedMatch at hm
  split at hm
  · cases hm
  · exact h.matchNodes m (List.mem_of_getElem? hm)

end SearchInv

theorem elementId_addClass (className : String) (d : NodeData) :
    (Script.addClass className d).elementId = d.elementId := by
  unfold Script.addClass
  split
  · rfl
  · rfl

theorem Page.enable_dom (page : Page) : page.start.enable.dom =
    { data := Function.update page.dom.data page.dom.next styleNode
      parentNode := Function.update page.dom.parentNode page.dom.next (some page.body)
      childNodes := Function.update page.dom.childNodes page.body
        (page.dom.childNodes page.body ++ [page.dom.next])
      next := page.dom.next + 1 } :=
  NodeTree.appendChild_create (t := page.dom) _ page.body (page.forest.unused (Nat.le_refl _))

/-- The page with nothing but the style added. -/
theorem Page.exchanging_enable (page : Page) :
    NodeTree.Exchanging page.dom (page.extra (some page.dom.next)) [] []
      page.start.enable.dom := by
  have hbody := page.body_lt
  rw [page.enable_dom]
  constructor
  · exact ⟨List.nodup_nil, nofun, nofun, List.nodup_nil, nofun⟩
  · intro p n hn
    unfold Page.extra at hn
    split at hn
    · rw [List.mem_singleton.1 hn]
      exact ⟨Nat.le_refl _, Nat.lt_succ_self _, List.not_mem_nil⟩
    · cases hn
  · intro n hn
    exact Function.update_of_ne (Nat.ne_of_lt hn) ..
  · exact Nat.le_succ _
  · exact nofun
  · intro n hn
    have hn : page.dom.next + 1 ≤ n := hn
    dsimp only
    rw [Function.update_of_ne (by omega), page.forest.unused (by omega)]
  · intro p hp
    have hsingle : (page.dom.childNodes p).flatMap (NodeTree.expand []) = page.dom.childNodes p :=
      List.flatMap_singleton' _
    rw [hsingle]
    dsimp only
    unfold Page.extra
    by_cases h : p = page.body
    · rw [h, Function.update_self, if_pos rfl]
      rfl
    · rw [Function.update_of_ne h, if_neg h, List.append_nil]
  · intro c hc
    exact Function.update_of_ne (Nat.ne_of_lt hc) ..
  · exact nofun
  · exact nofun
  · intro n hn
    have hne : n ≠ page.body := by
      rintro rfl
      exact absurd hbody (Nat.not_lt_of_le hn)
    dsimp only
    rw [Function.update_of_ne hne, page.forest.leaf hn]

theorem Page.exchanging_start (page : Page) :
    NodeTree.Exchanging page.dom (page.extra none) [] [] page.dom := by
  have hextra : ∀ p, page.extra none p = [] := by
    intro p
    unfold Page.extra
    split
    · rfl
    · rfl
  refine ⟨⟨List.nodup_nil, nofun, nofun, List.nodup_nil, nofun⟩, ?_, fun _ _ => rfl,
    Nat.le_refl _, nofun, fun _ => page.forest.unused, ?_, fun _ _ => rfl, nofun, nofun,
    fun _ => page.forest.leaf⟩
  · intro p n hn
    rw [hextra] at hn
    cases hn
  · intro p _
    rw [hextra, List.append_nil]
    exact (List.flatMap_singleton' _).symm

theorem Page.start_cleaned (page : Page) : page.start.Cleaned :=
  ⟨rfl, rfl, rfl, rfl, rfl, rfl, rfl, rfl, rfl, rfl⟩

theorem SearchInv.start (page : Page) : SearchInv page 0 page.start :=
  ⟨rfl, rfl, rfl, nofun, ⟨[], [], rfl, Nat.le_refl _, page.exchanging_start⟩,
    fun _ hge hlt => absurd hlt (Nat.not_lt_of_le hge), nofun, nofun, List.nodup_nil,
    fun _ => rfl, nofun, fun _ => page.start_cleaned, nofun, List.nodup_nil⟩

/-- The module is enabled, in a page it has just been put into. -/
theorem SearchInv.enable (page : Page) :
    SearchInv page 0 { page.start.enable with hasInitialized := true } := by
  have hex := page.exchanging_enable
  refine ⟨rfl, rfl, rfl, ?_, ⟨[], [], rfl, Nat.le_refl _, hex⟩, ?_, nofun, nofun, List.nodup_nil,
    fun _ => rfl, nofun, fun _ => ⟨rfl, rfl, rfl, rfl, rfl, rfl, rfl, rfl, rfl, rfl⟩, nofun, List.nodup_nil⟩
  · intro n hn
    obtain rfl : page.dom.next = n := Option.some.inj hn
    dsimp only
    rw [page.enable_dom]
    exact ⟨Nat.lt_succ_self _, Function.update_self ..⟩
  · -- There is no other node.
    intro n hge hlt hne
    dsimp only at hlt
    rw [page.enable_dom] at hlt
    have hlt : n < page.dom.next + 1 := hlt
    exact absurd (congrArg some (Nat.le_antisymm hge (Nat.le_of_lt_succ hlt))) hne

namespace ScriptInv

variable {page : Page} {bound : Nat} {s : Script}

theorem of_initialized (h : SearchInv page bound s)
    (hbound : s.regex ≠ none → bound ≤ s.sectionsIndex) (hinit : s.hasInitialized = true)
    (hselection : s.SelectionInv) : ScriptInv page s :=
  ⟨⟨bound, h, hbound⟩, fun hfalse => absurd (hinit.symm.trans hfalse) nofun, hselection⟩

theorem start (page : Page) : ScriptInv page page.start :=
  ⟨⟨0, SearchInv.start page, fun hne => absurd rfl hne⟩, fun _ => rfl,
    .of_unselected nofun ⟨rfl, rfl⟩ nofun fun hne => absurd rfl hne⟩

end ScriptInv

namespace Searching

variable {page : Page} {s : Script}

theorem swapAll (h : Searching page s) (hclean : s.searchStateIsClean = false) (timer : Timer) :
    Searching page
      (Script.swapAll (s.replacements.drop s.replacementsIndex) s.replacementsIndex timer s).1 := by
  obtain ⟨bound, hinv, hbound⟩ := h.inv
  have hswapped := hinv.swapAll hclean timer
  obtain ⟨dom, index, hframe, hdata, -⟩ := Script.swapAll_frame
    (s.replacements.drop s.replacementsIndex) s.replacementsIndex timer s
  rw [hframe] at hswapped ⊢
  refine ⟨⟨bound, hswapped, hbound⟩, ?_⟩
  intro n hn
  dsimp only
  rw [hdata]
  exact h.bare n hn

/-- The count at the end of a search. -/
theorem countVisibleMatches (h : Searching page s) (hinit : s.hasInitialized = true)
    (hclean : s.searchStateIsClean = false) (hcount : s.visibleMatchCount = 0)
    (hindex : s.selectedMatchIndex = -1 ∧ s.selectedVisibleMatchIndex = -1)
    (visible : NodeId → Bool) (timer : Timer) :
    ScriptInv page { (s.countVisibleMatches visible timer).1 with searchInProgress := false } := by
  obtain ⟨bound, hinv, hbound⟩ := h.inv
  have hcounted := hinv.countVisibleMatches visible timer
  -- Either nothing has been counted, or all has.
  have hiterator : (s.countVisibleMatches visible timer).1.visibleMatchCount ≠ 0 →
      (s.countVisibleMatches visible timer).1.visibleMatchesCountIndexIterator = 0 := by
    unfold Script.countVisibleMatches
    simp only
    split
    · intro hne
      exact absurd hcount hne
    · intro _
      rfl
  obtain ⟨count, iterator, counted, hframe⟩ := s.countVisibleMatches_frame visible timer
  rw [hframe] at hcounted hiterator ⊢
  have hkept : SearchInv page bound { s with
      visibleMatchCount := count, visibleMatchesCountIndexIterator := iterator
      lastCounted := counted, searchInProgress := false } :=
    { hcounted with clean := cleaned_of_false hclean }
  exact .of_initialized hkept hbound hinit (.of_unselected h.bare hindex nofun hiterator)

/-- A search interrupted. -/
theorem scriptInv (h : Searching page s) (hinit : s.hasInitialized = true)
    (hcount : s.visibleMatchCount = 0)
    (hindex : s.selectedMatchIndex = -1 ∧ s.selectedVisibleMatchIndex = -1) : ScriptInv page s := by
  obtain ⟨bound, hinv, hbound⟩ := h.inv
  exact .of_initialized hinv hbound hinit
    (.of_unselected h.bare hindex (fun _ => hcount) fun hne => absurd hcount hne)

theorem highlightAndCount (h : Searching page s) (hinit : s.hasInitialized = true)
    (hclean : s.searchStateIsClean = false) (hcount : s.visibleMatchCount = 0)
    (hindex : s.selectedMatchIndex = -1 ∧ s.selectedVisibleMatchIndex = -1)
    (visible : NodeId → Bool) (timer : Timer) :
    ScriptInv page (s.highlightAndCount visible timer).1 := by
  have hswapped := h.swapAll hclean timer
  obtain ⟨dom, index, hframe, -, -⟩ := Script.swapAll_frame
    (s.replacements.drop s.replacementsIndex) s.replacementsIndex timer s
  unfold Script.highlightAndCount
  rcases hresult : Script.swapAll (s.replacements.drop s.replacementsIndex) s.replacementsIndex
    timer s with ⟨s', timer', stop⟩
  rw [hresult] at hswapped hframe
  obtain rfl : s' = _ := hframe
  cases stop with
  | some stop => exact hswapped.scriptInv hinit hcount hindex
  | none =>
    have hkept := hswapped.countVisibleMatches hinit hclean hcount hindex visible timer'
    simp only
    split
    · next s' hcounted =>
      rw [hcounted] at hkept
      exact hkept
    · next s' count' hcounted =>
      rw [hcounted] at hkept
      exact hkept

end Searching

namespace ScriptInv

variable {page : Page} {bound : Nat} {s : Script}

theorem pumpSearch (h : ScriptInv page s) (mapping : CaseMapping) (visible : NodeId → Bool)
    (timer : Timer) : ScriptInv page (s.pumpSearch mapping visible timer).1 := by
  unfold Script.pumpSearch
  split
  · exact h
  · next hnot =>
    have hprogress : s.searchInProgress = true := by
      rw [Bool.not_eq_true, Bool.not_eq_false'] at hnot
      exact hnot
    have hinit : s.hasInitialized = true := by
      by_contra hfalse
      rw [h.notInitialized (Bool.eq_false_iff.2 hfalse)] at hprogress
      cases hprogress
    obtain ⟨bound, hinv, hbound⟩ := h.inv
    obtain ⟨hcount, hindex⟩ := h.selection.uncounted hprogress
    have hbare := h.selection.bare hindex.1
    have hbegun : SearchInv page bound { s with searchStateIsClean := false } :=
      { hinv with clean := nofun }
    have hwalked := hbegun.walk mapping s.dom.next timer rfl
    have hstack := Script.walk_stack mapping s.dom.next timer { s with searchStateIsClean := false }
    obtain ⟨stack, sections, allText, hframe⟩ :=
      Script.walk_frame mapping s.dom.next timer { s with searchStateIsClean := false }
    rcases hresult : Script.walk mapping s.dom.next timer { s with searchStateIsClean := false }
      with ⟨s', timer', stop⟩
    rw [hresult] at hwalked hstack hframe
    obtain rfl : s' = _ := hframe
    have hsearching : Searching page _ := ⟨⟨bound, hwalked, hbound⟩, hbare⟩
    cases stop with
    | some stop => exact hsearching.scriptInv hinit hcount hindex
    | none =>
      obtain rfl : stack = [] := hstack rfl
      simp only
      unfold Script.findMatchesIfAny
      cases hregex : s.regex with
      | none =>
        rw [hregex] at hsearching
        exact hsearching.highlightAndCount hinit rfl hcount hindex visible timer'
      | some regex =>
        have hmatching := hsearching.matching rfl rfl (by dsimp only; rw [hregex]; exact nofun)
        rw [hregex] at hmatching
        have hfound := hmatching.findMatches mapping (allText.length + 1) regex timer'
        obtain ⟨dom, foundMatches, replacements, partialMatches, sectionsIndex, matchId, regex',
          hframe⟩ := Script.findMatches_frame mapping (allText.length + 1) regex timer'
            { s with
              sections := sections, allText := allText, stack := [], regex := some regex
              searchStateIsClean := false }
        simp only
        rcases hmatches : Script.findMatches mapping (allText.length + 1) regex timer' _
          with ⟨s', timer'', stop⟩
        rw [hmatches] at hfound hframe
        obtain rfl : s' = _ := hframe
        cases stop with
        | some stop => exact hfound.scriptInv hinit hcount hindex
        | none => exact hfound.highlightAndCount hinit rfl hcount hindex visible timer''

theorem prepareSearch (h : ScriptInv page s) :
    ScriptInv page s.prepareSearch ∧ SearchInv page 0 s.prepareSearch ∧
      s.prepareSearch.hasInitialized = true ∧ s.prepareSearch.Cleaned := by
  have hbare : ∀ {s : Script}, s.foundMatches = [] → s.Bare := by
    intro s hnil n hn
    rw [hnil] at hn
    cases hn
  unfold Script.prepareSearch
  cases hinit : s.hasInitialized with
  | false =>
    rw [h.notInitialized hinit]
    have henabled := SearchInv.enable page
    exact ⟨of_initialized henabled (fun _ => Nat.zero_le _) rfl
      (.of_unselected nofun ⟨rfl, rfl⟩ nofun fun hne => absurd rfl hne), henabled, rfl,
      henabled.clean rfl⟩
  | true =>
    obtain ⟨bound, hinv, -⟩ := h.inv
    cases hclean : s.searchStateIsClean with
    | true =>
      simp only [Bool.not_true, Bool.false_eq_true, if_false, hclean]
      have hcleaned := hinv.clean hclean
      have hzero : SearchInv page 0 s := by
        refine { hinv with replaced := ?_ }
        rw [hcleaned.replacements]
        exact nofun
      exact ⟨h, hzero, hinit, hcleaned⟩
    | false =>
      simp only [Bool.not_true, Bool.false_eq_true, if_false, hclean, Bool.not_false, if_true]
      have hcleaned := hinv.cleanUp
      have hframe := s.cleanUp_frame
      refine ⟨of_initialized hcleaned (fun _ => Nat.zero_le _) (hframe.2.trans hinit) ?_, hcleaned,
        hframe.2.trans hinit, hframe.1⟩
      rw [Script.cleanUp_eq]
      exact .of_unselected (hbare rfl) ⟨rfl, rfl⟩ (fun hprogress => (h.selection.uncounted hprogress).1)
        h.selection.iterator

theorem startSearch (h : SearchInv page 0 s) (hcleaned : s.Cleaned) (hinit : s.hasInitialized = true)
    (regex : Regex) : ScriptInv page (s.startSearch regex) := by
  have hstack : ∀ n ∈ [s.body], n < page.dom.next := by
    intro n hn
    rw [List.mem_singleton.1 hn, h.body]
    exact page.body_lt
  have hwalked : (s.sections.map Section.node ++ [s.body].flatMap page.walkOrder).Nodup := by
    rw [hcleaned.sections, List.flatMap_singleton]
    exact Page.walkOrder_nodup _
  have hstarted : SearchInv page 0 (s.startSearch regex) := { h with
    stack := hstack
    walked := hwalked
    walking := fun _ => hcleaned.replacements
    clean := fun _ => { hcleaned with } }
  refine of_initialized hstarted (fun _ => Nat.zero_le _) hinit (.of_unselected ?_
    ⟨hcleaned.selectedMatchIndex, hcleaned.selectedVisibleMatchIndex⟩ (fun _ => rfl) fun _ => rfl)
  intro n hn
  have hn : n ∈ s.foundMatches.flatten := hn
  rw [hcleaned.foundMatches] at hn
  cases hn

theorem findString (h : ScriptInv page s) (mapping : CaseMapping) (visible : NodeId → Bool)
    (string : Text) (timer : Timer) :
    ScriptInv page (s.findString mapping visible string timer).1 := by
  obtain ⟨hprepared, hinv, hinit, hcleaned⟩ := h.prepareSearch
  unfold Script.findString
  simp only
  split
  · exact hprepared
  · split
    · next regex _ => exact (startSearch hinv hcleaned hinit regex).pumpSearch mapping visible timer
    · exact hprepared

theorem select (h : ScriptInv page s) (visible : NodeId → Bool) (index : Int) :
    ScriptInv page (s.selectAndScrollToVisibleMatch visible index).1 := by
  have hselection := h.selection.select visible index
  by_cases hinvalid : index ≥ s.visibleMatchCount ∨ index < 0
  · unfold Script.selectAndScrollToVisibleMatch
    rw [if_pos hinvalid]
    exact h
  · have hinit : s.hasInitialized = true := by
      by_contra hfalse
      rw [h.notInitialized (Bool.eq_false_iff.2 hfalse)] at hinvalid
      have hzero : page.start.visibleMatchCount = 0 := rfl
      omega
    obtain ⟨bound, hinv, hbound⟩ := h.inv
    have hremoved : SearchInv page bound s.removeSelection := by
      unfold Script.removeSelection
      split
      · next m hm =>
        exact hinv.modifyNodes (Script.removeClass cssClassNameSelect) (fun _ => rfl) m
          (hinv.currentMatch hm)
      · exact hinv
    have hrecounted : SearchInv page bound (s.recounted visible) :=
      { hremoved with clean := fun hclean => { hremoved.clean hclean with } }
    rcases Script.select_cases visible h.selection hinvalid with ⟨-, hselect⟩ |
      ⟨total, k, m, -, -, hat, -, -, -, hselect, -, -⟩
    · rw [hselect] at hselection ⊢
      obtain ⟨dom, hframe⟩ := s.recounted_frame visible
      rw [hframe] at hrecounted hselection ⊢
      have hkept : SearchInv page bound { s with
          dom := dom, visibleMatchCount := s.visibleCount visible
          visibleMatchesCountIndexIterator := 0
          lastCounted := s.foundMatches.map (Script.isVisible visible)
          selectedMatchIndex := -1, selectedVisibleMatchIndex := -1 } :=
        { hrecounted with clean := fun hclean =>
            { hrecounted.clean hclean with
              selectedMatchIndex := rfl, selectedVisibleMatchIndex := rfl } }
      exact of_initialized hkept hbound hinit hselection
    · -- Matches have been found, so the state is not clean.
      have hclean : s.searchStateIsClean = false := by
        by_contra htrue
        rw [(hinv.clean (Bool.not_eq_false _ ▸ htrue)).foundMatches] at hat
        cases hat
      obtain ⟨dom, hrecountedFrame⟩ := s.recounted_frame visible
      have hset : SearchInv page bound { s.recounted visible with
          selectedMatchIndex := total, selectedVisibleMatchIndex := k } := by
        rw [hrecountedFrame] at hrecounted ⊢
        exact { hrecounted with clean := cleaned_of_false hclean }
      have hadded := hset.modifyNodes (Script.addClass cssClassNameSelect) (elementId_addClass _) m ?_
      · rw [hselect] at hselection ⊢
        obtain ⟨dom, hframe⟩ := s.withSelection_frame visible total k m
        have hkept : SearchInv page bound (s.withSelection visible total k m) := hadded
        rw [hframe] at hkept hselection ⊢
        exact of_initialized hkept hbound hinit hselection
      · rw [hrecountedFrame] at hset ⊢
        exact hset.matchNodes m (List.mem_of_getElem? hat)

end ScriptInv

/-- **Every run keeps the invariant.** -/
theorem ScriptInv.exec (page : Page) (mapping : CaseMapping) (calls : List ScriptCall) :
    ScriptInv page ((scriptMachine mapping page).exec page.start calls) := by
  refine Machine.Run.invariant (M := scriptMachine mapping page) (I := ScriptInv page) ?_
    (ScriptInv.start page) ?_
  · intro s call h _
    cases call with
    | findString string timer visible => exact h.findString mapping visible string timer
    | pumpSearch timer visible => exact h.pumpSearch mapping visible timer
    | selectAndScrollToVisibleMatch index visible => exact h.select visible index
  · exact Machine.always_of_forall _ (fun _ _ => trivial) _ _

end IosChrome.FindInPage

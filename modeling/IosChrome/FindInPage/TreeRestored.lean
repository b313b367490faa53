import IosChrome.FindInPage.SearchRuns

/-!
# The tree after a clean-up

A search interrupted anywhere has made some of its replacements; `cleanUp_`
goes over all of them, and those not made are not undone. So any run of the
calls, and then `findString` of the empty string, leaves the page's nodes as
they were.

`stop` first removes the style element, and looks for it by its id: where an
element of the page comes first with that id, it removes the page's element, or
throws before it has cleaned anything up.
-/

namespace IosChrome.FindInPage

open IosChrome.Lib

/-- The nodes of the page are as they were, the style aside. -/
structure TreeKept (page : Page) (s : Script) : Prop where
  data : ∀ n, n < page.dom.next → s.dom.data n = page.dom.data n
  parentNode : ∀ n, n < page.dom.next → s.dom.parentNode n = page.dom.parentNode n
  childNodes : ∀ n, n < page.dom.next →
    s.dom.childNodes n = page.dom.childNodes n ++ page.extra s.styleElement n

/-- A clean-up at the end of a run. -/
inductive CleanUpCall where
  | findString (timer : Timer) (visible : NodeId → Bool)
  | stop

/-- What a clean-up does. -/
def Script.finish (mapping : CaseMapping) (s : Script) : CleanUpCall → Script
  | .findString timer visible => (s.findString mapping visible [] timer).1
  | .stop => s.stop.1

/-! ## Cleaning up -/

variable {page : Page} {s : Script}

theorem TreeKept.of_exchanging (pending : List Replacement)
    (h : NodeTree.Exchanging page.dom (page.extra s.styleElement) [] pending s.dom) :
    TreeKept page s where
  data := h.data
  parentNode := h.parentNode
  childNodes _ hn := h.childNodes_nil hn

theorem SearchInv.kept_of_cleaned {bound : Nat} (h : SearchInv page bound s) (hcleaned : s.Cleaned)
    : TreeKept page s := by
  obtain ⟨done, pending, hall, -, hex⟩ := h.exchanging
  rw [hcleaned.replacements] at hall
  obtain ⟨rfl, rfl⟩ := List.append_eq_nil_iff.1 hall.symm
  exact .of_exchanging [] hex

/-- **`findString` of the empty string leaves the tree as it was.** -/
theorem ScriptInv.kept_findString (h : ScriptInv page s) (mapping : CaseMapping)
    (visible : NodeId → Bool) (timer : Timer) :
    TreeKept page (s.findString mapping visible [] timer).1 := by
  obtain ⟨-, hinv, -, hcleaned⟩ := h.prepareSearch
  exact hinv.kept_of_cleaned hcleaned

/-! ## The style -/

/-- The page and the style: what `getElementById` looks through. -/
theorem Page.enable_childNodes (page : Page) (n : NodeId) :
    page.start.enable.dom.childNodes n =
      page.dom.childNodes n ++ page.extra (some page.dom.next) n := by
  rw [page.enable_dom]
  unfold Page.extra
  dsimp only
  by_cases hn : n = page.body
  · rw [hn, Function.update_self, if_pos rfl]
    rfl
  · rw [Function.update_of_ne hn, if_neg hn, List.append_nil]

theorem Page.extra_new (page : Page) {style : Option NodeId} {n : NodeId}
    (hn : page.dom.next ≤ n) : page.extra style n = [] := by
  unfold Page.extra
  rw [if_neg]
  rintro rfl
  exact absurd page.body_lt (Nat.not_lt_of_le hn)

theorem Page.mem_extra {style : Option NodeId} {n c : NodeId} (hc : c ∈ page.extra style n) :
    n = page.body ∧ style = some c := by
  unfold Page.extra at hc
  split at hc
  · next hn => exact ⟨hn, Option.mem_toList.1 hc⟩
  · cases hc

/-- A level more for the style. -/
def Page.enabledRank (page : Page) (n : NodeId) : Nat :=
  if n < page.dom.next then page.rank n + 1 else 0

theorem Page.enabledRank_lt (page : Page) {p c : NodeId}
    (hc : c ∈ page.dom.childNodes p ++ page.extra (some page.dom.next) p) :
    page.enabledRank c < page.enabledRank p := by
  unfold enabledRank
  rcases List.mem_append.1 hc with hc | hc
  · have hin := page.forest.allocated p c hc
    rw [if_pos hin.1, if_pos hin.2]
    exact Nat.succ_lt_succ (page.rank_lt c p ((page.forest.mem_childNodes p c).1 hc))
  · obtain ⟨rfl, hstyle⟩ := Page.mem_extra hc
    obtain rfl := Option.some.inj hstyle
    rw [if_pos page.body_lt, if_neg (Nat.lt_irrefl _)]
    exact Nat.succ_pos _

theorem Page.enabled_lt (page : Page) {p c : NodeId}
    (hc : c ∈ page.dom.childNodes p ++ page.extra (some page.dom.next) p) :
    c < page.dom.next + 1 := by
  rcases List.mem_append.1 hc with hc | hc
  · exact Nat.lt_succ_of_lt (page.forest.allocated p c hc).2
  · obtain ⟨-, hstyle⟩ := Page.mem_extra hc
    rw [← Option.some.inj hstyle]
    exact Nat.lt_succ_self _

/-- Highlighting does not change what `getElementById` finds: what is replaced
and what it is replaced by has no `id`. -/
theorem ScriptInv.getElementById_eq (h : ScriptInv page s)
    (hstyle : s.styleElement = some page.dom.next) (elementId : String) (hid : elementId ≠ "") :
    s.getElementById elementId = page.start.enable.getElementById elementId := by
  obtain ⟨⟨bound, hinv, -⟩, -⟩ := h
  obtain ⟨done, pending, hall, -, hex⟩ := hinv.exchanging
  have hnext := hinv.styleData _ hstyle
  have hdata : page.start.enable.dom.data page.dom.next = styleNode :=
    ((SearchInv.enable page).styleData page.dom.next rfl).2
  rw [hstyle] at hex
  -- A text node is not looked for, and has nothing below it.
  have hold : ∀ r ∈ done, Script.hasElementId s.dom elementId r.oldNode = false ∧
      page.dom.childNodes r.oldNode = [] ∧ page.extra (some page.dom.next) r.oldNode = [] := by
    intro r hr
    obtain ⟨i, part, hat, hnode, -⟩ := hinv.replaced r (hall ▸ List.mem_append_left _ hr)
    obtain ⟨htext, p, hp⟩ := hinv.sections part (List.mem_of_getElem? hat)
    rw [hnode] at htext hp
    have hlt := (page.forest.allocated p r.oldNode ((page.forest.mem_childNodes _ _).2 hp)).2
    refine ⟨?_, page.text_leaf _ htext, ?_⟩
    · unfold Script.hasElementId
      rw [hinv.data hlt, htext]
      rfl
    · unfold Page.extra
      rw [if_neg]
      intro hbody
      rw [hbody, page.body_element] at htext
      cases htext
  have hnew : ∀ r ∈ done, ∀ n ∈ r.newNodes, Script.hasElementId s.dom elementId n = false := by
    intro r hr n hn
    have hmem : n ∈ (done ++ pending).flatMap Replacement.newNodes :=
      List.mem_flatMap.2 ⟨r, List.mem_append_left _ hr, hn⟩
    have hge := hex.replaceable.fresh r (List.mem_append_left _ hr) n hn
    have hne : s.styleElement ≠ some n := by
      rw [hstyle]
      intro heq
      have hin : n ∈ page.extra (some page.dom.next) page.body := by
        unfold Page.extra
        rw [if_pos rfl]
        exact List.mem_singleton.2 (Option.some.inj heq).symm
      exact (hex.extra_new page.body n hin).2.2 hmem
    have hmade := hinv.made n hge (hex.used n hmem) hne
    unfold Script.hasElementId
    rw [hmade, Bool.and_eq_false_iff, decide_eq_false_iff_not, decide_eq_false_iff_not]
    exact .inr (Ne.symm hid)
  have hfilter := hex.filter_preorder page.forest (fun _ => page.extra_new) hold hnew s.dom.next
    page.documentElement page.documentElement_lt
  have hdepth : NodeTree.preorder
      (fun p => page.dom.childNodes p ++ page.extra (some page.dom.next) p) s.dom.next
        page.documentElement =
      NodeTree.preorder (fun p => page.dom.childNodes p ++ page.extra (some page.dom.next) p)
        (page.dom.next + 1) page.documentElement := by
    have hrank : page.enabledRank page.documentElement < page.dom.next + 1 := by
      unfold Page.enabledRank
      rw [if_pos page.documentElement_lt]
      exact Nat.succ_lt_succ (page.rank_lt_next _ page.documentElement_lt)
    exact NodeTree.preorder_stable (fun _ _ => page.enabledRank_lt) _ _ _
      (Nat.lt_of_lt_of_le hrank hnext.1) hrank
  have hchildren : page.start.enable.dom.childNodes = fun p =>
      page.dom.childNodes p ++ page.extra (some page.dom.next) p :=
    funext page.enable_childNodes
  -- The nodes looked through have the same data.
  have hkeep : ∀ n ∈ NodeTree.preorder
      (fun p => page.dom.childNodes p ++ page.extra (some page.dom.next) p) (page.dom.next + 1)
        page.documentElement,
      s.dom.data n = page.start.enable.dom.data n := by
    intro n hn
    have hlt := NodeTree.preorder_lt (fun _ _ => page.enabled_lt) _ _
      (Nat.lt_succ_of_lt page.documentElement_lt) n hn
    rcases Nat.lt_or_eq_of_le (Nat.le_of_lt_succ hlt) with hlt | rfl
    · rw [hinv.data hlt, (SearchInv.enable page).data hlt]
    · rw [hnext.2, hdata]
  have hsize : page.start.enable.dom.next = page.dom.next + 1 := by
    rw [page.enable_dom]
  unfold Script.getElementById
  rw [← List.head?_filter, ← List.head?_filter, hinv.documentElement, hfilter, hdepth, hchildren,
    hsize]
  congr 1
  apply List.filter_congr
  intro n hn
  unfold Script.hasElementId
  rw [hkeep n hn]

/-- The style is taken out, where `getElementById` finds it. -/
theorem ScriptInv.kept_stop (h : ScriptInv page s) (hstyle : s.styleElement = some page.dom.next)
    (hfound : s.getElementById cssStyleId = some page.dom.next) : TreeKept page s.stop.1 := by
  obtain ⟨⟨bound, hinv, -⟩, -⟩ := h
  obtain ⟨done, pending, hall, -, hex⟩ := hinv.exchanging
  rw [hstyle] at hex
  have hbody : page.extra (some page.dom.next) page.body = [page.dom.next] := if_pos rfl
  have hin : page.dom.next ∈ s.dom.childNodes s.body := by
    rw [hinv.body, hex.childNodes page.body page.body_lt, hbody]
    exact List.mem_append_right _ (List.mem_singleton_self _)
  have hremoved := hex.removeExtra page.body_lt hbody (fun p hp => if_neg hp) page.forest
  have hcleaned := hremoved.restoreAll page.forest
  have hstop : s.stop.1 =
      { ({ s with dom := s.dom.removeChild s.body page.dom.next, styleElement := none }
        : Script).cleanUp with hasInitialized := false } := by
    unfold Script.stop Script.removeStyle
    rw [if_pos (by rw [hstyle]; rfl), if_pos (by rw [hstyle]; rfl), hfound]
    simp only
    rw [if_pos hin]
  have hdom : s.stop.1.dom =
      (done ++ pending).foldl NodeTree.restore (s.dom.removeChild page.body page.dom.next) := by
    rw [hstop, ← hinv.body, ← hall]
    rw [Script.cleanUp_eq]
  have hnone : s.stop.1.styleElement = none := by
    rw [hstop, Script.cleanUp_eq]
  refine .of_exchanging pending ?_
  rw [hdom, hnone]
  have hextra : page.extra none = fun _ => [] := by
    funext p
    unfold Page.extra
    split
    · rfl
    · rfl
  rw [hextra]
  exact hcleaned

/-- Where a node of the page is found that is not a child of the body, or none,
`stop` throws before it changes anything. -/
theorem Script.stop_of_not_child (hstyle : s.styleElement.isSome = true)
    (hfound : ∀ e, s.getElementById cssStyleId = some e → e ∉ s.dom.childNodes s.body) :
    s.stop.1 = s := by
  have hremove : s.removeStyle = none := by
    unfold removeStyle
    rw [if_pos hstyle]
    cases hget : s.getElementById cssStyleId with
    | none => rfl
    | some e => exact if_neg (hfound e hget)
  unfold stop
  rw [if_pos hstyle, hremove]

/-- Where a child of the body is found that the page has, it is taken out. -/
theorem ScriptInv.parentNode_stop (h : ScriptInv page s) (hstyle : s.styleElement.isSome = true)
    {e : NodeId} (hfound : s.getElementById cssStyleId = some e) (he : e < page.dom.next)
    (hin : e ∈ s.dom.childNodes s.body) : s.stop.1.dom.parentNode e = none := by
  obtain ⟨⟨bound, hinv, -⟩, -⟩ := h
  obtain ⟨done, pending, hall, -, hex⟩ := hinv.exchanging
  have hstop : s.stop.1 =
      { ({ s with dom := s.dom.removeChild s.body e, styleElement := none } : Script).cleanUp with
        hasInitialized := false } := by
    unfold Script.stop Script.removeStyle
    rw [if_pos hstyle, if_pos hstyle, hfound]
    simp only
    rw [if_pos hin]
  have helement : (s.dom.data e).nodeType = 1 := by
    have hid := List.find?_some hfound
    unfold Script.hasElementId at hid
    rw [Bool.and_eq_true, decide_eq_true_eq] at hid
    exact hid.1
  rw [hinv.data he] at helement
  rw [hstop, Script.cleanUp_eq]
  dsimp only
  rw [NodeTree.foldl_restore_parentNode]
  · exact Function.update_self ..
  · intro r hr
    constructor
    · -- Text nodes are replaced.
      rintro rfl
      obtain ⟨i, part, hat, hnode, -⟩ := hinv.replaced r hr
      have htext := (hinv.sections part (List.mem_of_getElem? hat)).text
      rw [hnode, helement] at htext
      cases htext
    · intro hmem
      have hge := hex.replaceable.fresh r (hall ▸ hr) e hmem
      exact absurd he (Nat.not_lt_of_le hge)

/-- An element of the page is a child of the body if it was. -/
theorem SearchInv.mem_body_iff {bound : Nat} (h : SearchInv page bound s) {e : NodeId}
    (he : e < page.dom.next) (helement : (page.dom.data e).nodeType = 1) :
    e ∈ s.dom.childNodes s.body ↔ e ∈ page.dom.childNodes page.body := by
  obtain ⟨done, pending, hall, -, hex⟩ := h.exchanging
  rw [h.body, hex.childNodes page.body page.body_lt, List.mem_append, List.mem_flatMap]
  constructor
  · rintro (⟨c, hc, hexp⟩ | hextra)
    · rcases NodeTree.mem_expand hexp with rfl | ⟨r, hr, -, hmem⟩
      · exact hc
      · have hge := hex.replaceable.fresh r (List.mem_append_left _ hr) e hmem
        exact absurd he (Nat.not_lt_of_le hge)
    · exact absurd he (Nat.not_lt_of_le (hex.extra_new _ e hextra).1)
  · intro hin
    refine .inl ⟨e, hin, ?_⟩
    rw [NodeTree.expand_of_not_mem]
    · exact List.mem_singleton_self e
    · intro hmem
      obtain ⟨r, hr, hold⟩ := List.mem_map.1 hmem
      obtain ⟨i, part, hat, hnode, -⟩ := h.replaced r (hall ▸ List.mem_append_left _ hr)
      have htext := (h.sections part (List.mem_of_getElem? hat)).text
      rw [hnode, hold, helement] at htext
      cases htext

/-- What `stop` does to the tree, once the module is enabled. -/
theorem ScriptInv.kept_stop_iff (h : ScriptInv page s) (hinit : s.hasInitialized = true) :
    TreeKept page s.stop.1 ↔
      page.start.enable.getElementById cssStyleId = some page.dom.next ∨
        (∀ e, page.start.enable.getElementById cssStyleId = some e →
          e ∉ page.dom.childNodes page.body) ∧ TreeKept page s := by
  have hstyle : s.styleElement = some page.dom.next := by
    obtain ⟨⟨bound, hinv, -⟩, -⟩ := h
    rw [hinv.style, if_pos hinit]
  have hsome : s.styleElement.isSome = true := by
    rw [hstyle]
    rfl
  have hget := h.getElementById_eq hstyle cssStyleId (by decide)
  rw [← hget]
  obtain ⟨bound, hinv, -⟩ := h.inv
  cases hfound : s.getElementById cssStyleId with
  | none =>
    rw [Script.stop_of_not_child hsome (by rw [hfound]; exact nofun)]
    exact ⟨fun hkept => .inr ⟨nofun, hkept⟩, fun hor => (hor.resolve_left nofun).2⟩
  | some e =>
    by_cases he : e = page.dom.next
    · subst he
      exact ⟨fun _ => .inl rfl, fun _ => h.kept_stop hstyle hfound⟩
    · -- An element of the page comes first.
      have hlt : e < page.dom.next := by
        rw [hfound] at hget
        have hmem := List.mem_of_find?_eq_some hget.symm
        have hchildren : page.start.enable.dom.childNodes = fun p =>
            page.dom.childNodes p ++ page.extra (some page.dom.next) p :=
          funext page.enable_childNodes
        rw [hchildren] at hmem
        have hlt := NodeTree.preorder_lt (fun _ _ => page.enabled_lt) _ _
          (Nat.lt_succ_of_lt page.documentElement_lt) e hmem
        exact Nat.lt_of_le_of_ne (Nat.le_of_lt_succ hlt) he
      have helement : (page.dom.data e).nodeType = 1 := by
        have hid := List.find?_some hfound
        unfold Script.hasElementId at hid
        rw [Bool.and_eq_true, decide_eq_true_eq, hinv.data hlt] at hid
        exact hid.1
      by_cases hin : e ∈ s.dom.childNodes s.body
      · have hpage := (hinv.mem_body_iff hlt helement).1 hin
        constructor
        · intro hkept
          have hparent := hkept.parentNode e hlt
          rw [h.parentNode_stop hsome hfound hlt hin,
            (page.forest.mem_childNodes _ _).1 hpage] at hparent
          cases hparent
        · rintro (heq | ⟨hnot, -⟩)
          · exact absurd (Option.some.inj heq) he
          · exact absurd hpage (hnot e rfl)
      · have hpage := mt (hinv.mem_body_iff hlt helement).2 hin
        rw [Script.stop_of_not_child hsome (by rw [hfound]; rintro _ ⟨⟩; exact hin)]
        constructor
        · intro hkept
          exact .inr ⟨by rintro _ ⟨⟩; exact hpage, hkept⟩
        · rintro (heq | ⟨-, hkept⟩)
          · exact absurd (Option.some.inj heq) he
          · exact hkept

/-- **When a clean-up leaves the tree as it was.** `findString` always does;
`stop` does where the style is the first element of the document with its id.
Otherwise it takes an element of the page out of the body, or throws and takes
nothing back. -/
theorem treeKept_iff (page : Page) (mapping : CaseMapping) (calls : List ScriptCall)
    (final : CleanUpCall) :
    TreeKept page (((scriptMachine mapping page).exec page.start calls).finish mapping final) ↔
      (final = .stop → ((scriptMachine mapping page).exec page.start calls).hasInitialized = true →
        page.start.enable.getElementById cssStyleId = some page.dom.next ∨
          (∀ e, page.start.enable.getElementById cssStyleId = some e →
            e ∉ page.dom.childNodes page.body) ∧
          TreeKept page ((scriptMachine mapping page).exec page.start calls)) := by
  have h := ScriptInv.exec page mapping calls
  cases final with
  | findString timer visible =>
    exact ⟨fun _ => nofun, fun _ => h.kept_findString mapping visible timer⟩
  | stop =>
    cases hinit : ((scriptMachine mapping page).exec page.start calls).hasInitialized with
    | true =>
      have hiff := h.kept_stop_iff hinit
      exact ⟨fun hkept _ _ => hiff.1 hkept, fun hcond => hiff.2 (hcond rfl rfl)⟩
    | false =>
      refine ⟨fun _ _ => nofun, fun _ => ?_⟩
      rw [h.notInitialized hinit]
      exact TreeKept.of_exchanging (s := page.start) [] page.exchanging_start

private def unchangedCase : CaseMapping := ⟨id, id, fun _ => Nat.le_refl _⟩

/-- A page with an element that has the id of the style. -/
private def styleIdPage : Page :=
  .ofLeaves [⟨1, "DIV", cssStyleId, [], [], none⟩]

/-- It is taken out of the page. -/
theorem not_treeKept_styleIdPage :
    ¬ TreeKept styleIdPage
      (((scriptMachine unchangedCase styleIdPage).exec styleIdPage.start
        [.findString [unit 'x'] none fun _ => true]).finish unchangedCase .stop) := by
  intro hkept
  have hparent := hkept.parentNode 3 (by decide)
  revert hparent
  decide +kernel

end IosChrome.FindInPage

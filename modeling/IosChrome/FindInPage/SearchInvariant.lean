import IosChrome.FindInPage.FindInPageScript

/-!
# What a search keeps

The invariant of the script, and that the walk and the matching keep it, to
wherever they are interrupted. The tree is the page's with some of the
replacements made, the rest of them still to be made (`Exchanging`), and the
style element appended to the body. The sections are of different text nodes
of the page, none of which is below a node the walk still has to go to; and
only nodes of sections before `bound` are replaced. While matches are looked
for that is the current section, so that no text node is replaced twice.
-/

namespace IosChrome.FindInPage

open IosChrome.Lib

/-! ## Pages -/

namespace Page

variable (page : Page)

/-- The nodes the walk goes to from `n` on, in its order. -/
def walkOrder (n : NodeId) : List NodeId :=
  NodeTree.treeOrder (Script.reasonableChildren page.dom) page.rank n

/-- What the script appends to the children of a node. -/
def extra (style : Option NodeId) (n : NodeId) : List NodeId :=
  if n = page.body then style.toList else []

variable {page}

theorem reasonableChildren_parent {p c : NodeId}
    (h : c ∈ Script.reasonableChildren page.dom p) : page.dom.parentNode c = some p :=
  (page.forest.mem_childNodes p c).1 (List.mem_of_mem_filter h)

theorem reasonableChildren_lt {p c : NodeId} (h : c ∈ Script.reasonableChildren page.dom p) :
    c < page.dom.next :=
  (page.forest.allocated p c (List.mem_of_mem_filter h)).2

theorem walkOrder_eq (n : NodeId) :
    page.walkOrder n =
      n :: (Script.reasonableChildren page.dom n).flatMap page.walkOrder :=
  NodeTree.treeOrder_eq (fun _ _ hc => page.rank_lt _ _ (reasonableChildren_parent hc)) n

theorem walkOrder_nodup (n : NodeId) : (page.walkOrder n).Nodup :=
  NodeTree.preorder_nodup (fun _ _ hc => reasonableChildren_parent hc) page.rank_lt
    (fun p => (page.forest.nodup p).filter _) _ _

theorem body_lt : page.body < page.dom.next := by
  have hbelow := page.body_below
  generalize hbody : page.body = body at hbelow
  cases hbelow with
  | self => exact page.documentElement_lt
  | child _ hparent =>
    exact (page.forest.allocated _ _ ((page.forest.mem_childNodes _ _).2 hparent)).2

end Page

/-! ## The invariant -/

/-- A section of a text node of the page. -/
structure PageSection (page : Page) (part : Section) : Prop where
  text : (page.dom.data part.node).nodeType = 3
  parent : ∃ p, page.dom.parentNode part.node = some p

/-- Nothing is left of a search. -/
structure Script.Cleaned (s : Script) : Prop where
  allText : s.allText = []
  sections : s.sections = []
  sectionsIndex : s.sectionsIndex = 0
  foundMatches : s.foundMatches = []
  selectedMatchIndex : s.selectedMatchIndex = -1
  selectedVisibleMatchIndex : s.selectedVisibleMatchIndex = -1
  matchId : s.matchId = 0
  partialMatches : s.partialMatches = []
  replacements : s.replacements = []
  replacementsIndex : s.replacementsIndex = 0

/-- A search that goes on is not cleaned up. -/
theorem cleaned_of_false {s : Script} {clean : Bool} (hclean : clean = false) :
    clean = true → s.Cleaned := by
  intro h
  exact absurd (hclean.symm.trans h) Bool.false_ne_true

structure SearchInv (page : Page) (bound : Nat) (s : Script) : Prop where
  documentElement : s.documentElement = page.documentElement
  body : s.body = page.body
  /-- The style element is the first node the script makes. -/
  style : s.styleElement = if s.hasInitialized then some page.dom.next else none
  styleData : ∀ n, s.styleElement = some n →
    n < s.dom.next ∧ s.dom.data n = styleNode
  exchanging : ∃ done pending, s.replacements = done ++ pending ∧
    s.replacementsIndex ≤ done.length ∧
      NodeTree.Exchanging page.dom (page.extra s.styleElement) done pending s.dom
  /-- What the script has made has no `id` but for the style. -/
  made : ∀ n, page.dom.next ≤ n → n < s.dom.next → s.styleElement ≠ some n →
    (s.dom.data n).elementId = ""
  sections : ∀ part ∈ s.sections, PageSection page part
  stack : ∀ n ∈ s.stack, n < page.dom.next
  walked : (s.sections.map Section.node ++ s.stack.flatMap page.walkOrder).Nodup
  walking : s.stack ≠ [] → s.replacements = []
  replaced : ∀ r ∈ s.replacements, ∃ i part,
    s.sections[i]? = some part ∧ part.node = r.oldNode ∧ i < bound
  clean : s.searchStateIsClean = true → s.Cleaned
  matchNodes : ∀ m ∈ s.foundMatches, ∀ n ∈ m,
    page.dom.next ≤ n ∧ n < s.dom.next ∧ s.styleElement ≠ some n
  matches_nodup : s.foundMatches.flatten.Nodup

namespace SearchInv

variable {page : Page} {bound : Nat} {s : Script}

theorem mono {bound' : Nat} (h : SearchInv page bound s) (hle : bound ≤ bound') :
    SearchInv page bound' s :=
  { h with
    replaced := by
      intro r hr
      obtain ⟨i, part, hat, hnode, hlt⟩ := h.replaced r hr
      exact ⟨i, part, hat, hnode, Nat.lt_of_lt_of_le hlt hle⟩ }

theorem next_le (h : SearchInv page bound s) : page.dom.next ≤ s.dom.next := by
  obtain ⟨_, _, -, -, hex⟩ := h.exchanging
  exact hex.next_le

theorem data (h : SearchInv page bound s) {n : NodeId} (hn : n < page.dom.next) :
    s.dom.data n = page.dom.data n := by
  obtain ⟨_, _, -, -, hex⟩ := h.exchanging
  exact hex.data n hn

/-! ### The walk -/

/-- While nothing is replaced the tree is the page's and the style. -/
theorem childNodes_of_nil (h : SearchInv page bound s) (hnil : s.replacements = []) {n : NodeId}
    (hn : n < page.dom.next) :
    s.dom.childNodes n = page.dom.childNodes n ++ page.extra s.styleElement n := by
  obtain ⟨done, pending, hall, -, hex⟩ := h.exchanging
  rw [hnil] at hall
  obtain ⟨rfl, rfl⟩ := List.append_eq_nil_iff.1 hall.symm
  rw [hex.childNodes n hn]
  congr 1
  exact List.flatMap_singleton' _

theorem parentNode_of_nil (h : SearchInv page bound s) (hnil : s.replacements = []) {n : NodeId}
    (hn : n < page.dom.next) : s.dom.parentNode n = page.dom.parentNode n := by
  obtain ⟨done, pending, hall, -, hex⟩ := h.exchanging
  rw [hnil] at hall
  obtain ⟨rfl, rfl⟩ := List.append_eq_nil_iff.1 hall.symm
  rw [hex.parentNode n hn]
  rfl

/-- The walk ignores the style. -/
theorem reasonableChildren_eq (h : SearchInv page bound s) (hnil : s.replacements = [])
    {n : NodeId} (hn : n < page.dom.next) :
    Script.reasonableChildren s.dom n = Script.reasonableChildren page.dom n := by
  unfold Script.reasonableChildren
  rw [h.childNodes_of_nil hnil hn, List.filter_append]
  have hstyle : (page.extra s.styleElement n).filter (fun child =>
      ((s.dom.data child).nodeType = 1 || (s.dom.data child).nodeType = 3) &&
        !ignoreNodeNames.contains (s.dom.data child).nodeName) = [] := by
    rw [List.filter_eq_nil_iff]
    intro c hc
    unfold Page.extra at hc
    split at hc
    · rw [Option.mem_toList] at hc
      rw [(h.styleData c hc).2]
      decide
    · cases hc
  rw [hstyle, List.append_nil]
  apply List.filter_congr
  intro c hc
  rw [h.data (page.forest.allocated n c hc).2]

/-- A round of the walk. -/
theorem visit (h : SearchInv page bound s) (hclean : s.searchStateIsClean = false)
    (mapping : CaseMapping) {node : NodeId} {stack : List NodeId}
    (hstack : s.stack = node :: stack) :
    SearchInv page bound
      ({ s with stack := Script.reasonableChildren s.dom node ++ stack }.addSection mapping
        node) := by
  have hnil : s.replacements = [] := h.walking (by rw [hstack]; exact List.cons_ne_nil _ _)
  have hnode : node < page.dom.next := h.stack node (by rw [hstack]; exact List.mem_cons_self ..)
  have hwalked := h.walked
  rw [hstack, List.flatMap_cons, Page.walkOrder_eq] at hwalked
  have hnext : ∀ n ∈ Script.reasonableChildren s.dom node ++ stack, n < page.dom.next := by
    intro n hn
    rcases List.mem_append.1 hn with hn | hn
    · rw [h.reasonableChildren_eq hnil hnode] at hn
      exact Page.reasonableChildren_lt hn
    · exact h.stack n (by rw [hstack]; exact List.mem_cons_of_mem _ hn)
  have hreplaced : ∀ r ∈ s.replacements, False := by
    intro r hr
    rw [hnil] at hr
    cases hr
  unfold Script.addSection
  simp only
  split
  · next htext =>
    refine ⟨h.documentElement, h.body, h.style, h.styleData, h.exchanging, h.made, ?_, hnext, ?_,
      fun _ => hnil, fun r hr => (hreplaced r hr).elim, ?_, h.matchNodes, h.matches_nodup⟩
    · intro part hpart
      rcases List.mem_append.1 hpart with hpart | hpart
      · exact h.sections part hpart
      · obtain rfl := List.mem_singleton.1 hpart
        rw [h.data hnode, h.parentNode_of_nil hnil hnode] at htext
        exact ⟨htext.1, Option.isSome_iff_exists.1 htext.2⟩
    · rw [List.map_append, List.flatMap_append, h.reasonableChildren_eq hnil hnode]
      simpa using hwalked
    · exact cleaned_of_false hclean
  · refine ⟨h.documentElement, h.body, h.style, h.styleData, h.exchanging, h.made, h.sections,
      hnext, ?_, fun _ => hnil, fun r hr => (hreplaced r hr).elim, ?_, h.matchNodes,
      h.matches_nodup⟩
    swap
    · exact cleaned_of_false hclean
    show (s.sections.map Section.node ++
      (Script.reasonableChildren s.dom node ++ stack).flatMap page.walkOrder).Nodup
    rw [List.flatMap_append, h.reasonableChildren_eq hnil hnode]
    refine hwalked.sublist (List.Sublist.append (List.Sublist.refl _) ?_)
    exact List.sublist_cons_self _ _

end SearchInv

/-- The walk adds sections, and changes nothing else. -/
theorem Script.walk_frame (mapping : CaseMapping) : ∀ (rounds : Nat) (timer : Timer) (s : Script),
    ∃ stack sections allText, (walk mapping rounds timer s).1 =
      { s with stack := stack, sections := sections, allText := allText } := by
  intro rounds
  induction rounds with
  | zero =>
    intro timer s
    exact ⟨s.stack, s.sections, s.allText, rfl⟩
  | succ rounds ih =>
    intro timer s
    unfold walk
    split
    · exact ⟨s.stack, s.sections, s.allText, rfl⟩
    · next node stack _ =>
      have hvisit : ∃ stack' sections allText,
          { s with stack := reasonableChildren s.dom node ++ stack }.addSection mapping node =
            { s with stack := stack', sections := sections, allText := allText } := by
        unfold addSection
        simp only
        split
        · exact ⟨_, _, _, rfl⟩
        · exact ⟨_, _, _, rfl⟩
      obtain ⟨stack', sections, allText, hvisit⟩ := hvisit
      simp only [hvisit]
      split
      · exact ⟨_, _, _, rfl⟩
      · obtain ⟨stack'', sections', allText', hrest⟩ := ih _ _
        exact ⟨stack'', sections', allText', hrest⟩

theorem SearchInv.walk {page : Page} {bound : Nat} (mapping : CaseMapping) :
    ∀ (rounds : Nat) (timer : Timer) {s : Script}, SearchInv page bound s →
      s.searchStateIsClean = false →
      SearchInv page bound (Script.walk mapping rounds timer s).1 := by
  intro rounds
  induction rounds with
  | zero =>
    intro timer s h _
    exact h
  | succ rounds ih =>
    intro timer s h hclean
    unfold Script.walk
    split
    · exact h
    · next node stack hstack =>
      have hvisit := h.visit hclean mapping hstack
      simp only
      split
      · exact hvisit
      · refine ih _ hvisit ?_
        unfold Script.addSection
        simp only
        split
        · exact hclean
        · exact hclean

/-- A walk that is not stopped empties the stack. -/
theorem Script.walk_stack (mapping : CaseMapping) : ∀ (rounds : Nat) (timer : Timer) (s : Script),
    (walk mapping rounds timer s).2.2 = none → (walk mapping rounds timer s).1.stack = [] := by
  intro rounds
  induction rounds with
  | zero =>
    intro timer s h
    unfold walk at h ⊢
    simp only at h ⊢
    split at h
    · next hempty => exact List.isEmpty_iff.1 hempty
    · cases h
  | succ rounds ih =>
    intro timer s h
    unfold walk at h ⊢
    split at h
    · next hnil =>
      simp only [hnil]
    · next node stack hstack =>
      simp only at h ⊢
      split at h
      · cases h
      · exact ih _ _ h

/-! ## The matching -/

theorem flatten_modify_perm {α : Type} (n : α) : ∀ (list : List (List α)) (i : Nat),
    (list.modify i fun nodes => nodes ++ [n]).flatten.Perm
      (if i < list.length then n :: list.flatten else list.flatten) := by
  intro list
  induction list with
  | nil =>
    intro i
    rw [List.modify_nil, List.length_nil, if_neg (Nat.not_lt_zero i)]
  | cons nodes list ih =>
    intro i
    cases i with
    | zero =>
      rw [List.modify_zero_cons, List.length_cons, if_pos (Nat.succ_pos _), List.flatten_cons,
        List.flatten_cons, List.append_assoc]
      exact List.perm_middle
    | succ i =>
      rw [List.modify_succ_cons, List.flatten_cons, List.flatten_cons, List.length_cons]
      have hrest := (ih i).append_left nodes
      by_cases hi : i < list.length
      · rw [if_pos hi] at hrest
        rw [if_pos (Nat.succ_lt_succ hi)]
        exact hrest.trans List.perm_middle
      · rw [if_neg hi] at hrest
        rw [if_neg fun hlt => hi (Nat.lt_of_succ_lt_succ hlt)]
        exact hrest

/-- `s` is `s₀` with nodes made outside the tree, `newNodes` among them, and
some of those made recorded in matches. -/
structure Making (s₀ s : Script) (newNodes : List NodeId) : Prop where
  next_le : s₀.dom.next ≤ s.dom.next
  data : ∀ n, n < s₀.dom.next → s.dom.data n = s₀.dom.data n
  parentNode : s.dom.parentNode = s₀.dom.parentNode
  childNodes : s.dom.childNodes = s₀.dom.childNodes
  made : ∀ n, s₀.dom.next ≤ n → n < s.dom.next →
    (s.dom.data n).elementId = "" ∧ cssClassNameSelect ∉ (s.dom.data n).classList
  newNodes_new : ∀ n ∈ newNodes, s₀.dom.next ≤ n ∧ n < s.dom.next
  newNodes_nodup : newNodes.Nodup
  matchNodes : ∀ n ∈ s.foundMatches.flatten,
    n < s.dom.next ∧ (n ∈ s₀.foundMatches.flatten ∨ s₀.dom.next ≤ n)
  matches_nodup : s.foundMatches.flatten.Nodup

theorem not_selected : cssClassNameSelect ∉ [cssClassName] := by decide

namespace Making

variable {s₀ s : Script} {newNodes : List NodeId}

theorem refl (hlt : ∀ n ∈ s.foundMatches.flatten, n < s.dom.next)
    (hnodup : s.foundMatches.flatten.Nodup) : Making s s [] where
  next_le := Nat.le_refl _
  data _ _ := rfl
  parentNode := rfl
  childNodes := rfl
  made _ hge hlt := absurd hlt (Nat.not_lt_of_le hge)
  newNodes_new := nofun
  newNodes_nodup := List.nodup_nil
  matchNodes n hn := ⟨hlt n hn, .inl hn⟩
  matches_nodup := hnodup

theorem create (h : Making s₀ s newNodes) {d : NodeData}
    (hd : d.elementId = "" ∧ cssClassNameSelect ∉ d.classList) :
    Making s₀ { s with dom := s.dom.create d } (newNodes ++ [s.dom.next]) where
  next_le := Nat.le_succ_of_le h.next_le
  data n hn := by
    have hne : n ≠ s.dom.next := by
      have := h.next_le
      omega
    exact (Function.update_of_ne hne ..).trans (h.data n hn)
  parentNode := h.parentNode
  childNodes := h.childNodes
  made n hge hlt := by
    show (Function.update s.dom.data s.dom.next d n).elementId = "" ∧
      cssClassNameSelect ∉ (Function.update s.dom.data s.dom.next d n).classList
    by_cases hn : n = s.dom.next
    · rw [hn, Function.update_self]
      exact hd
    · rw [Function.update_of_ne hn]
      have hlt : n < s.dom.next + 1 := hlt
      exact h.made n hge (by omega)
  newNodes_new n hn := by
    show s₀.dom.next ≤ n ∧ n < s.dom.next + 1
    rcases List.mem_append.1 hn with hn | hn
    · exact ⟨(h.newNodes_new n hn).1, Nat.lt_succ_of_lt (h.newNodes_new n hn).2⟩
    · rw [List.mem_singleton.1 hn]
      exact ⟨h.next_le, Nat.lt_succ_self _⟩
  newNodes_nodup := by
    rw [List.nodup_append]
    refine ⟨h.newNodes_nodup, List.nodup_singleton _, ?_⟩
    rintro n hn _ hn' rfl
    rw [List.mem_singleton.1 hn'] at hn
    exact absurd (h.newNodes_new _ hn).2 (Nat.lt_irrefl _)
  matchNodes n hn := ⟨Nat.lt_succ_of_lt (h.matchNodes n hn).1, (h.matchNodes n hn).2⟩
  matches_nodup := h.matches_nodup

theorem recordNode (h : Making s₀ s newNodes) {n : NodeId} (matchId : Nat)
    (hn : s₀.dom.next ≤ n ∧ n < s.dom.next) (hnot : n ∉ s.foundMatches.flatten) :
    Making s₀ (s.recordNode matchId n) newNodes :=
  { h with
    matchNodes := by
      intro x hx
      have hperm := flatten_modify_perm n s.foundMatches matchId
      have hx := hperm.mem_iff.1 hx
      split at hx
      · rcases List.mem_cons.1 hx with rfl | hx
        · exact ⟨hn.2, .inr hn.1⟩
        · exact h.matchNodes x hx
      · exact h.matchNodes x hx
    matches_nodup := by
      have hperm := flatten_modify_perm n s.foundMatches matchId
      refine hperm.nodup_iff.2 ?_
      split
      · exact List.nodup_cons.2 ⟨hnot, h.matches_nodup⟩
      · exact h.matches_nodup }

theorem addPlainText (h : Making s₀ s newNodes) (part : Section) (i j : Nat) :
    Making s₀ (s.addPlainText part newNodes i j).1 (s.addPlainText part newNodes i j).2 := by
  unfold Script.addPlainText
  split
  · exact h.create ⟨rfl, List.not_mem_nil⟩
  · exact h

theorem highlightPartialMatches (part : Section) : ∀ (partialMatches : List PartialMatch)
    {s : Script} {newNodes : List NodeId} (previousEnd : Nat), Making s₀ s newNodes →
      Making s₀ (Script.highlightPartialMatches part partialMatches s newNodes previousEnd).1
        (Script.highlightPartialMatches part partialMatches s newNodes previousEnd).2.1 := by
  intro partialMatches
  induction partialMatches with
  | nil =>
    intro s newNodes previousEnd h
    exact h
  | cons partialMatch rest ih =>
    intro s newNodes previousEnd h
    unfold Script.highlightPartialMatches
    simp only
    have hplain := h.addPlainText part previousEnd partialMatch.start
    generalize s.addPlainText part newNodes previousEnd partialMatch.start = made at hplain ⊢
    apply ih
    refine (hplain.create ⟨rfl, not_selected⟩).recordNode _ ⟨hplain.next_le, Nat.lt_succ_self _⟩ ?_
    -- The node has just been made.
    intro hmem
    exact absurd (hplain.matchNodes _ hmem).1 (Nat.lt_irrefl _)

end Making

theorem Script.addPlainText_subset (s : Script) (part : Section) (newNodes : List NodeId)
    (i j : Nat) : newNodes ⊆ (s.addPlainText part newNodes i j).2 := by
  unfold addPlainText
  split
  · exact List.subset_append_left _ _
  · exact List.Subset.refl _

theorem Script.addPlainText_frame (s : Script) (part : Section) (newNodes : List NodeId)
    (i j : Nat) : ∃ dom, (s.addPlainText part newNodes i j).1 = { s with dom := dom } := by
  unfold addPlainText
  split
  · exact ⟨_, rfl⟩
  · exact ⟨_, rfl⟩

theorem Script.highlightPartialMatches_frame (part : Section) :
    ∀ (partialMatches : List PartialMatch) (s : Script) (newNodes : List NodeId)
      (previousEnd : Nat), ∃ dom foundMatches,
        (highlightPartialMatches part partialMatches s newNodes previousEnd).1 =
          { s with dom := dom, foundMatches := foundMatches } := by
  intro partialMatches
  induction partialMatches with
  | nil =>
    intro s newNodes previousEnd
    exact ⟨_, _, rfl⟩
  | cons partialMatch rest ih =>
    intro s newNodes previousEnd
    unfold highlightPartialMatches
    simp only
    obtain ⟨dom, hplain⟩ := s.addPlainText_frame part newNodes previousEnd partialMatch.start
    rw [hplain]
    obtain ⟨dom', foundMatches, hrest⟩ := ih _ _ _
    exact ⟨dom', foundMatches, hrest⟩

/-- Each partial match has a node. -/
theorem Script.highlightPartialMatches_ne_nil (part : Section) :
    ∀ (partialMatches : List PartialMatch) (s : Script) (newNodes : List NodeId)
      (previousEnd : Nat), newNodes ≠ [] ∨ partialMatches ≠ [] →
        (highlightPartialMatches part partialMatches s newNodes previousEnd).2.1 ≠ [] := by
  intro partialMatches
  induction partialMatches with
  | nil =>
    intro s newNodes previousEnd h
    exact h.resolve_right fun hne => hne rfl
  | cons partialMatch rest ih =>
    intro s newNodes previousEnd _
    unfold highlightPartialMatches
    simp only
    exact ih _ _ _ (.inl (List.append_ne_nil_of_right_ne_nil _ (List.cons_ne_nil _ _)))

/-- The nodes of a section's text are made, and a replacement of it added. -/
theorem Script.process_cases (s : Script) :
    s.processPartialMatchesInCurrentSection = s ∨
      ∃ part made newNodes, s.sections[s.sectionsIndex]? = some part ∧ newNodes ≠ [] ∧
        (∃ dom foundMatches, made = { s with dom := dom, foundMatches := foundMatches }) ∧
        s.processPartialMatchesInCurrentSection =
          { made with
            replacements := made.replacements ++ [⟨part.node, newNodes⟩], partialMatches := [] } ∧
        ((∀ n ∈ s.foundMatches.flatten, n < s.dom.next) → s.foundMatches.flatten.Nodup →
          Making s made newNodes) := by
  unfold processPartialMatchesInCurrentSection
  split
  · exact .inl rfl
  · next hsome =>
    split
    · next part hpart =>
      right
      simp only
      refine ⟨part, _, _, hpart, ?_, ?_, rfl, ?_⟩
      · have hne : (highlightPartialMatches part s.partialMatches s [] part.start).2.1 ≠ [] := by
          apply highlightPartialMatches_ne_nil
          exact .inr fun hnil => hsome (List.isEmpty_iff.2 hnil)
        intro hnil
        have hsub := addPlainText_subset
          (highlightPartialMatches part s.partialMatches s [] part.start).1 part
          (highlightPartialMatches part s.partialMatches s [] part.start).2.1
          (highlightPartialMatches part s.partialMatches s [] part.start).2.2 part.stop
        rw [hnil] at hsub
        exact hne (List.subset_nil.1 hsub)
      · obtain ⟨dom, foundMatches, hframe⟩ :=
          highlightPartialMatches_frame part s.partialMatches s [] part.start
        obtain ⟨dom', hplain⟩ := addPlainText_frame
          (highlightPartialMatches part s.partialMatches s [] part.start).1 part
          (highlightPartialMatches part s.partialMatches s [] part.start).2.1
          (highlightPartialMatches part s.partialMatches s [] part.start).2.2 part.stop
        refine ⟨dom', foundMatches, ?_⟩
        rw [hplain, hframe]
      · intro hlt hnodup
        have hmade := (Making.refl hlt hnodup).highlightPartialMatches part s.partialMatches
          part.start
        exact hmade.addPlainText part _ _
    · exact .inl rfl

theorem Script.process_frame (s : Script) :
    ∃ dom foundMatches replacements partialMatches, s.processPartialMatchesInCurrentSection =
      { s with
        dom := dom, foundMatches := foundMatches, replacements := replacements
        partialMatches := partialMatches } := by
  rcases s.process_cases with heq | ⟨part, made, newNodes, -, -, ⟨dom, foundMatches, rfl⟩, heq, -⟩
  · exact ⟨_, _, _, _, heq⟩
  · exact ⟨_, _, _, _, heq⟩

namespace SearchInv

variable {page : Page} {bound : Nat} {s : Script}

theorem matchNodes_lt (h : SearchInv page bound s) : ∀ n ∈ s.foundMatches.flatten,
    n < s.dom.next := by
  intro n hn
  obtain ⟨m, hm, hn⟩ := List.mem_flatten.1 hn
  exact (h.matchNodes m hm n hn).2.1

/-- **The replacement of the current section is added**: no section before it
is replaced again. -/
theorem process (h : SearchInv page bound s) (hbound : bound ≤ s.sectionsIndex)
    (hstack : s.stack = []) (hclean : s.searchStateIsClean = false) :
    SearchInv page (s.sectionsIndex + 1) s.processPartialMatchesInCurrentSection := by
  rcases s.process_cases with heq | ⟨part, made, newNodes, hpart, hne, hframe, heq, hmaking⟩
  · rw [heq]
    exact h.mono (Nat.le_succ_of_le hbound)
  · have hmaking := hmaking h.matchNodes_lt h.matches_nodup
    rw [heq]
    obtain ⟨dom, foundMatches, rfl⟩ := hframe
    have hlt := hmaking.next_le
    have hnext := h.next_le
    have hpage := h.sections part (List.mem_of_getElem? hpart)
    obtain ⟨done, pending, hall, hindex, hex⟩ := h.exchanging
    have hex' := hex.of_frame hmaking.next_le
      (fun n hn => hmaking.data n (Nat.lt_of_lt_of_le hn hnext)) hmaking.parentNode
      hmaking.childNodes
    -- Only sections before the current one are replaced.
    have hold : part.node ∉ (done ++ pending).map Replacement.oldNode := by
      intro hmem
      obtain ⟨r, hr, hnode⟩ := List.mem_map.1 hmem
      obtain ⟨i, part', hat, hnode', hi⟩ := h.replaced r (hall ▸ hr)
      have hnodup := (List.nodup_append.1 h.walked).1
      have hi' : (s.sections.map Section.node)[i]? = some part.node := by
        rw [List.getElem?_map, hat, Option.map_some, hnode', hnode]
      have hj' : (s.sections.map Section.node)[s.sectionsIndex]? = some part.node := by
        rw [List.getElem?_map, hpart, Option.map_some]
      obtain ⟨hin, -⟩ := List.getElem?_eq_some_iff.1 hi'
      have := (List.getElem?_inj hin hnodup).1 (hi'.trans hj'.symm)
      omega
    have hpending := hex.addPending (r := ⟨part.node, newNodes⟩) hex' hold hpage.parent
      hmaking.newNodes_new hmaking.newNodes_nodup hne hmaking.parentNode
    have hstyle : ∀ n, s.styleElement = some n → n < s.dom.next := fun n hn => (h.styleData n hn).1
    refine ⟨h.documentElement, h.body, h.style, ?_, ?_, ?_, h.sections, h.stack, h.walked, ?_, ?_,
      ?_, ?_, hmaking.matches_nodup⟩
    · intro n hn
      exact ⟨Nat.lt_of_lt_of_le (hstyle n hn) hlt,
        (hmaking.data n (hstyle n hn)).trans (h.styleData n hn).2⟩
    · refine ⟨done, pending ++ [⟨part.node, newNodes⟩], ?_, hindex, hpending⟩
      show s.replacements ++ _ = _
      rw [hall, List.append_assoc]
    · intro n hge hlt' hne'
      by_cases hn : n < s.dom.next
      · rw [hmaking.data n hn]
        exact h.made n hge hn hne'
      · exact (hmaking.made n (Nat.le_of_not_lt hn) hlt').1
    · intro hwalking
      exact absurd hstack hwalking
    · intro r hr
      rcases List.mem_append.1 hr with hr | hr
      · obtain ⟨i, part', hat, hnode, hi⟩ := h.replaced r hr
        exact ⟨i, part', hat, hnode, by omega⟩
      · obtain rfl := List.mem_singleton.1 hr
        exact ⟨s.sectionsIndex, part, hpart, rfl, Nat.lt_succ_self _⟩
    · exact cleaned_of_false hclean
    · intro m hm n hn
      obtain ⟨hlt', hor⟩ := hmaking.matchNodes n (List.mem_flatten.2 ⟨m, hm, hn⟩)
      rcases hor with hold | hnew
      · obtain ⟨m', hm', hn'⟩ := List.mem_flatten.1 hold
        obtain ⟨hge, -, hne'⟩ := h.matchNodes m' hm' n hn'
        exact ⟨hge, hlt', hne'⟩
      · refine ⟨Nat.le_trans hnext hnew, hlt', fun hstyle' => ?_⟩
        exact absurd (hstyle n hstyle') (Nat.not_lt_of_le hnew)

end SearchInv

/-- No match has the highlight of a selected one. -/
def Script.Bare (s : Script) : Prop :=
  ∀ n ∈ s.foundMatches.flatten, cssClassNameSelect ∉ (s.dom.data n).classList

theorem Script.Bare.process {s : Script} (h : s.Bare)
    (hlt : ∀ n ∈ s.foundMatches.flatten, n < s.dom.next) (hnodup : s.foundMatches.flatten.Nodup) :
    s.processPartialMatchesInCurrentSection.Bare := by
  rcases s.process_cases with heq | ⟨part, made, newNodes, -, -, -, heq, hmaking⟩
  · rw [heq]
    exact h
  · have hmaking := hmaking hlt hnodup
    rw [heq]
    intro n hn
    obtain ⟨hnext, hold | hnew⟩ := hmaking.matchNodes n hn
    · dsimp only
      rw [hmaking.data n (hlt n hold)]
      exact h n hold
    · exact (hmaking.made n hnew hnext).2

/-- The state of a search whose walk is over. -/
structure Matching (page : Page) (s : Script) : Prop where
  inv : SearchInv page s.sectionsIndex s
  stack : s.stack = []
  clean : s.searchStateIsClean = false
  bare : s.Bare

namespace Matching

variable {page : Page} {s : Script}

/-- On to a later section. -/
theorem advance (h : Matching page s) {i : Nat} (hi : s.sectionsIndex < i) :
    Matching page { s.processPartialMatchesInCurrentSection with sectionsIndex := i } := by
  have hprocess := (h.inv.process (Nat.le_refl _) h.stack h.clean).mono (Nat.succ_le_of_lt hi)
  have hbare := h.bare.process h.inv.matchNodes_lt h.inv.matches_nodup
  obtain ⟨dom, foundMatches, replacements, partialMatches, hframe⟩ := s.process_frame
  rw [hframe] at hprocess hbare ⊢
  exact ⟨{ hprocess with clean := cleaned_of_false h.clean }, h.stack, h.clean, hbare⟩

theorem addPartialMatches (start stop : Nat) : ∀ (sections : List Section) {s : Script},
    Matching page s → Matching page (Script.addPartialMatches start stop sections s).1 := by
  intro sections
  induction sections with
  | nil =>
    intro s h
    exact h
  | cons part rest ih =>
    intro s h
    unfold Script.addPartialMatches
    simp only
    have hadded : Matching page { s with
        partialMatches := s.partialMatches ++
          [⟨s.matchId, max part.start start, min part.stop stop⟩] } :=
      ⟨{ h.inv with clean := cleaned_of_false h.clean }, h.stack, h.clean, h.bare⟩
    split
    · apply ih
      have hadvanced := hadded.advance (Nat.lt_succ_self _)
      obtain ⟨dom, foundMatches, replacements, partialMatches, hframe⟩ :=
        Script.process_frame { s with
          partialMatches := s.partialMatches ++
            [⟨s.matchId, max part.start start, min part.stop stop⟩] }
      rw [hframe] at hadvanced ⊢
      exact hadvanced
    · exact hadded

theorem moveToSectionOf (h : Matching page s) (start : Nat) :
    Matching page (s.moveToSectionOf start) := by
  unfold Script.moveToSectionOf
  simp only
  split
  · next hlt => exact h.advance hlt
  · exact h

theorem addMatch (h : Matching page s) (start stop : Nat) :
    Matching page (s.addMatch start stop).1 := by
  have hpushed : Matching page { s with foundMatches := s.foundMatches ++ [[]] } := by
    have hflatten : (s.foundMatches ++ [[]]).flatten = s.foundMatches.flatten := by
      rw [List.flatten_append, List.flatten_singleton, List.append_nil]
    refine ⟨{ h.inv with clean := ?_, matchNodes := ?_, matches_nodup := ?_ }, h.stack, h.clean,
      ?_⟩
    · exact cleaned_of_false h.clean
    · intro m hm n hn
      rcases List.mem_append.1 hm with hm | hm
      · exact h.inv.matchNodes m hm n hn
      · rw [List.mem_singleton.1 hm] at hn
        cases hn
    · dsimp only
      rw [hflatten]
      exact h.inv.matches_nodup
    · unfold Script.Bare
      dsimp only
      rw [hflatten]
      exact h.bare
  have hmoved := hpushed.moveToSectionOf start
  unfold Script.addMatch
  simp only
  have hadded := hmoved.addPartialMatches start stop
    ((({ s with foundMatches := s.foundMatches ++ [[]] } : Script).moveToSectionOf start).sections.drop
      (({ s with foundMatches := s.foundMatches ++ [[]] } : Script).moveToSectionOf
        start).sectionsIndex)
  split
  · next s' hresult =>
    rw [hresult] at hadded
    exact ⟨{ hadded.inv with clean := cleaned_of_false hadded.clean }, hadded.stack, hadded.clean,
      hadded.bare⟩
  · next s' hresult =>
    rw [hresult] at hadded
    exact hadded

end Matching

/-! Matches change nothing but the tree, what is found and how far it is. -/

theorem Script.addPartialMatches_frame (start stop : Nat) :
    ∀ (sections : List Section) (s : Script),
      ∃ dom foundMatches replacements partialMatches sectionsIndex,
        (addPartialMatches start stop sections s).1 =
          { s with
            dom := dom, foundMatches := foundMatches, replacements := replacements
            partialMatches := partialMatches, sectionsIndex := sectionsIndex } := by
  intro sections
  induction sections with
  | nil =>
    intro s
    exact ⟨_, _, _, _, _, rfl⟩
  | cons part rest ih =>
    intro s
    unfold addPartialMatches
    simp only
    split
    · obtain ⟨dom, foundMatches, replacements, partialMatches, hframe⟩ :=
        process_frame { s with
          partialMatches := s.partialMatches ++
            [⟨s.matchId, max part.start start, min part.stop stop⟩] }
      rw [hframe]
      obtain ⟨dom', foundMatches', replacements', partialMatches', sectionsIndex, hrest⟩ := ih _
      exact ⟨_, _, _, _, _, hrest⟩
    · exact ⟨_, _, _, _, _, rfl⟩

theorem Script.moveToSectionOf_frame (s : Script) (start : Nat) :
    ∃ dom foundMatches replacements partialMatches sectionsIndex, s.moveToSectionOf start =
      { s with
        dom := dom, foundMatches := foundMatches, replacements := replacements
        partialMatches := partialMatches, sectionsIndex := sectionsIndex } := by
  unfold moveToSectionOf
  simp only
  split
  · obtain ⟨dom, foundMatches, replacements, partialMatches, hframe⟩ := s.process_frame
    rw [hframe]
    exact ⟨_, _, _, _, _, rfl⟩
  · exact ⟨_, _, _, _, _, rfl⟩

theorem Script.addMatch_frame (s : Script) (start stop : Nat) :
    ∃ dom foundMatches replacements partialMatches sectionsIndex matchId,
      (s.addMatch start stop).1 =
        { s with
          dom := dom, foundMatches := foundMatches, replacements := replacements
          partialMatches := partialMatches, sectionsIndex := sectionsIndex
          matchId := matchId } := by
  unfold addMatch
  simp only
  obtain ⟨dom, foundMatches, replacements, partialMatches, sectionsIndex, hmove⟩ :=
    moveToSectionOf_frame { s with foundMatches := s.foundMatches ++ [[]] } start
  rw [hmove]
  obtain ⟨dom', foundMatches', replacements', partialMatches', sectionsIndex', hadd⟩ :=
    addPartialMatches_frame start stop (s.sections.drop sectionsIndex)
      { s with
        dom := dom, foundMatches := foundMatches, replacements := replacements
        partialMatches := partialMatches, sectionsIndex := sectionsIndex }
  split
  · next s' hresult =>
    rw [hresult] at hadd
    obtain rfl : s' = _ := hadd
    exact ⟨_, _, _, _, _, _, rfl⟩
  · next s' hresult =>
    rw [hresult] at hadd
    obtain rfl : s' = _ := hadd
    exact ⟨_, _, _, _, _, _, rfl⟩

theorem Script.findMatches_frame (mapping : CaseMapping) :
    ∀ (rounds : Nat) (regex : Regex) (timer : Timer) (s : Script),
      ∃ dom foundMatches replacements partialMatches sectionsIndex matchId regex',
        (findMatches mapping rounds regex timer s).1 =
          { s with
            dom := dom, foundMatches := foundMatches, replacements := replacements
            partialMatches := partialMatches, sectionsIndex := sectionsIndex
            matchId := matchId, regex := regex' } := by
  intro rounds
  induction rounds with
  | zero =>
    intro regex timer s
    exact ⟨_, _, _, _, _, _, _, rfl⟩
  | succ rounds ih =>
    intro regex timer s
    unfold findMatches
    split
    · obtain ⟨dom, foundMatches, replacements, partialMatches, hframe⟩ := s.process_frame
      rw [hframe]
      exact ⟨_, _, _, _, _, _, _, rfl⟩
    · next start regex' _ =>
      obtain ⟨dom, foundMatches, replacements, partialMatches, sectionsIndex, matchId, hadd⟩ :=
        addMatch_frame { s with regex := some regex' } start (start + regex'.pattern.length)
      split
      · next s' hresult =>
        rw [hresult] at hadd
        obtain rfl : s' = _ := hadd
        exact ⟨_, _, _, _, _, _, _, rfl⟩
      · next s' hresult =>
        rw [hresult] at hadd
        obtain rfl : s' = _ := hadd
        split
        · exact ⟨_, _, _, _, _, _, _, rfl⟩
        · next timer' _ =>
          obtain ⟨dom', foundMatches', replacements', partialMatches', sectionsIndex', matchId',
            regex'', hrest⟩ := ih regex' timer' _
          exact ⟨_, _, _, _, _, _, _, hrest⟩

/-- The state of a search: the sections before the current one are those
replaced, until there are no matches to look for any longer. -/
structure Searching (page : Page) (s : Script) : Prop where
  inv : ∃ bound, SearchInv page bound s ∧ (s.regex ≠ none → bound ≤ s.sectionsIndex)
  bare : s.Bare

theorem Matching.searching {page : Page} {s : Script} (h : Matching page s) : Searching page s :=
  ⟨⟨_, h.inv, fun _ => Nat.le_refl _⟩, h.bare⟩

theorem Searching.matching {page : Page} {s : Script} (h : Searching page s) (hstack : s.stack = [])
    (hclean : s.searchStateIsClean = false) (hregex : s.regex ≠ none) : Matching page s := by
  obtain ⟨bound, hinv, hbound⟩ := h.inv
  exact ⟨hinv.mono (hbound hregex), hstack, hclean, h.bare⟩

/-- **Looking for matches**, to wherever it is interrupted. -/
theorem Matching.findMatches {page : Page} (mapping : CaseMapping) :
    ∀ (rounds : Nat) (regex : Regex) (timer : Timer) {s : Script}, Matching page s →
      Searching page (Script.findMatches mapping rounds regex timer s).1 := by
  intro rounds
  induction rounds with
  | zero =>
    intro regex timer s h
    exact h.searching
  | succ rounds ih =>
    intro regex timer s h
    unfold Script.findMatches
    split
    · -- The remaining partial matches are the last to be processed.
      have hprocess := h.inv.process (Nat.le_refl _) h.stack h.clean
      have hbare := h.bare.process h.inv.matchNodes_lt h.inv.matches_nodup
      obtain ⟨dom, foundMatches, replacements, partialMatches, hframe⟩ := s.process_frame
      rw [hframe] at hprocess hbare ⊢
      exact ⟨⟨_, { hprocess with clean := cleaned_of_false h.clean }, fun hne => absurd rfl hne⟩,
        hbare⟩
    · next start regex' _ =>
      have hset : Matching page { s with regex := some regex' } :=
        ⟨{ h.inv with clean := cleaned_of_false h.clean }, h.stack, h.clean, h.bare⟩
      have hadded := hset.addMatch start (start + regex'.pattern.length)
      split
      · next s' hresult =>
        rw [hresult] at hadded
        exact hadded.searching
      · next s' hresult =>
        rw [hresult] at hadded
        split
        · exact hadded.searching
        · exact ih _ _ hadded

end IosChrome.FindInPage

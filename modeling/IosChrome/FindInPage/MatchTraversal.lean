import IosChrome.FindInPage.FindInPageRequest

/-!
# The matches of a page as a circle

The matches of a page are numbered frame by frame, in the frames' order
(`GetCurrentSelectedMatchPageIndex`). `GoToNextMatch` and `GoToPreviousMatch` go
one number on or back, and from the last to the first, whatever frames without
matches are in between: the loop over the frames ends at the next frame that has
matches, at the latest where it started, so as many turns as there are frames
are enough.

A selected frame cuts the order in two, and the number of a match is the matches
before its frame and its place in the frame (`pageIndex_of_at`). What is said of
one step is said of this number (`goToNextMatch_at`, `goToPreviousMatch_at`), and
one number is one match (`at_unique`), which makes the steps inverse.
-/

namespace IosChrome.FindInPage.FindInPageRequest

open IosChrome.Lib

variable {r : FindInPageRequest}

/-! ## The numbers of the matches -/

/-- No frame has less than none, and what has matches is in the order. -/
structure CountsOrdered (r : FindInPageRequest) : Prop where
  nonneg : ∀ pair ∈ r.frameMatchCount, 0 ≤ pair.2
  ordered : ∀ pair ∈ r.frameMatchCount, pair.2 ≠ 0 → pair.1 ∈ r.frameOrder

/-- The matches of some frames. -/
def matchesOf (r : FindInPageRequest) (frames : List FrameId) : Int :=
  (frames.map r.matchCount).sum

theorem matchesOf_append (frames frames' : List FrameId) :
    r.matchesOf (frames ++ frames') = r.matchesOf frames + r.matchesOf frames' := by
  unfold matchesOf
  rw [List.map_append, List.sum_append]

theorem matchesOf_cons (id : FrameId) (frames : List FrameId) :
    r.matchesOf (id :: frames) = r.matchCount id + r.matchesOf frames :=
  rfl

theorem matchCount_of_mem {id : FrameId} {count : Int} (h : (id, count) ∈ r.frameMatchCount) :
    r.matchCount id = count := by
  unfold matchCount
  rw [(Keyed.lookup_eq_some r.unique).2 ⟨h, rfl⟩]
  rfl

theorem CountsOrdered.matchCount_nonneg (h : r.CountsOrdered) (id : FrameId) :
    0 ≤ r.matchCount id := by
  unfold matchCount
  cases hlookup : Keyed.lookup Prod.fst r.frameMatchCount id with
  | none => exact le_refl 0
  | some pair => exact h.nonneg pair (Keyed.mem_of_lookup hlookup)

theorem CountsOrdered.matchesOf_nonneg (h : r.CountsOrdered) (frames : List FrameId) :
    0 ≤ r.matchesOf frames := by
  induction frames with
  | nil => exact le_refl 0
  | cons id frames ih =>
    rw [matchesOf_cons]
    have := h.matchCount_nonneg id
    omega

theorem matchesOf_eq_zero {frames : List FrameId} (h : ∀ id ∈ frames, r.matchCount id = 0) :
    r.matchesOf frames = 0 := by
  induction frames with
  | nil => rfl
  | cons id frames ih =>
    rw [matchesOf_cons, h id List.mem_cons_self, ih fun id hid => h id (List.mem_cons_of_mem _ hid)]
    rfl

/-- **All matches are the matches of the frames in order.** -/
theorem CountsOrdered.getTotalMatchCount_eq (h : r.CountsOrdered) :
    r.getTotalMatchCount = r.matchesOf r.frameOrder := by
  have hkeys : r.frameMatchCount.map Prod.snd =
      (r.frameMatchCount.map Prod.fst).map r.matchCount := by
    rw [List.map_map]
    exact List.map_congr_left fun pair hpair => (matchCount_of_mem hpair).symm
  unfold getTotalMatchCount matchesOf
  rw [hkeys, ← List.sum_toFinset _ r.unique, ← List.sum_toFinset _ r.nodup]
  refine (Finset.sum_subset (fun id hid => ?_) fun id hid hnot => ?_).symm
  · exact List.mem_toFinset.2 (r.counted id (List.mem_toFinset.1 hid))
  · obtain ⟨pair, hpair, rfl⟩ := List.mem_map.1 (List.mem_toFinset.1 hid)
    by_contra hcount
    rw [matchCount_of_mem hpair] at hcount
    exact hnot (List.mem_toFinset.2 (h.ordered pair hpair hcount))

/-- The selected match is in the frame `id`, with `pre` before and `post` behind it. -/
structure At (r : FindInPageRequest) (pre : List FrameId) (id : FrameId) (post : List FrameId)
    (index : Int) : Prop where
  order : r.frameOrder = pre ++ id :: post
  selected : r.selectedFrameId = some id
  index_eq : r.selectedMatchIndexInSelectedFrame = index
  index_nonneg : 0 ≤ index
  index_lt : index < r.matchCount id

/-- No match is selected, or one of the selected frame's. -/
def SelectionConsistent (r : FindInPageRequest) : Prop :=
  (r.selectedFrameId = none ∧ r.selectedMatchIndexInSelectedFrame = -1) ∨
    ∃ id ∈ r.frameOrder, r.selectedFrameId = some id ∧
      0 ≤ r.selectedMatchIndexInSelectedFrame ∧
      r.selectedMatchIndexInSelectedFrame < r.matchCount id

theorem SelectionConsistent.at (h : r.SelectionConsistent) :
    (r.selectedFrameId = none ∧ r.selectedMatchIndexInSelectedFrame = -1) ∨
      ∃ pre id post index, r.At pre id post index := by
  rcases h with hnone | ⟨id, hid, hselected, hnonneg, hlt⟩
  · exact .inl hnone
  · obtain ⟨pre, post, horder⟩ := List.append_of_mem hid
    exact .inr ⟨pre, id, post, _, horder, hselected, rfl, hnonneg, hlt⟩

variable {pre post : List FrameId} {id : FrameId} {index : Int}

/-- **The number of the selected match.** -/
theorem pageIndex_of_at (h : r.At pre id post index) :
    r.getCurrentSelectedMatchPageIndex = r.matchesOf pre + index := by
  have hpre : id ∉ pre := fun hmem =>
    List.disjoint_of_nodup_append (h.order ▸ r.nodup) hmem List.mem_cons_self
  have hbefore : (r.frameOrder.takeWhile fun frameId => some frameId ≠ r.selectedFrameId) = pre := by
    rw [h.order, h.selected, List.takeWhile_append_of_pos]
    · simp
    · intro frameId hframe
      have hne : frameId ≠ id := fun heq => hpre (heq ▸ hframe)
      simpa using hne
  unfold getCurrentSelectedMatchPageIndex
  have hnonneg := h.index_nonneg
  rw [hbefore, h.index_eq, if_neg (by omega)]
  unfold matchesOf
  omega

/-- **One number is one match.** -/
theorem at_unique (hcounts : r.CountsOrdered) {pre' post' : List FrameId} {id' : FrameId}
    {index' : Int} (horder : pre ++ id :: post = pre' ++ id' :: post')
    (h : 0 ≤ index ∧ index < r.matchCount id) (h' : 0 ≤ index' ∧ index' < r.matchCount id')
    (heq : r.matchesOf pre + index = r.matchesOf pre' + index') : id = id' ∧ index = index' := by
  rcases List.append_eq_append_iff.1 horder with ⟨mid, rfl, htail⟩ | ⟨mid, rfl, htail⟩
  · cases mid with
    | nil =>
      obtain ⟨rfl, -⟩ := List.cons.inj htail
      rw [List.append_nil] at heq
      exact ⟨rfl, by omega⟩
    | cons first mid =>
      -- the second match would be behind all those of the first frame
      obtain ⟨rfl, -⟩ := List.cons.inj htail
      rw [matchesOf_append, matchesOf_cons] at heq
      have hmid := hcounts.matchesOf_nonneg mid
      omega
  · cases mid with
    | nil =>
      obtain ⟨rfl, -⟩ := List.cons.inj htail
      rw [List.append_nil] at heq
      exact ⟨rfl, by omega⟩
    | cons first mid =>
      obtain ⟨rfl, -⟩ := List.cons.inj htail
      rw [matchesOf_append, matchesOf_cons] at heq
      have hmid := hcounts.matchesOf_nonneg mid
      omega

/-! ## The loops -/

/-- What the loops look for. -/
def hasMatches (r : FindInPageRequest) (frameId : FrameId) : Bool := r.matchCount frameId ≠ 0

theorem CountsOrdered.exists_matches (hcounts : r.CountsOrdered)
    (htotal : 0 < r.getTotalMatchCount) : ∃ id ∈ r.frameOrder, r.hasMatches id = true := by
  by_contra hnone
  have hzero : r.matchesOf r.frameOrder = 0 :=
    matchesOf_eq_zero fun id hid =>
      not_not.1 fun hcount => hnone ⟨id, hid, decide_eq_true hcount⟩
  rw [hcounts.getTotalMatchCount_eq, hzero] at htotal
  exact lt_irrefl 0 htotal

/-- Where a search behind a frame ends: with the next match, or, past the last
one, with the first. -/
theorem searchFrame_next (hcounts : r.CountsOrdered) (htotal : 0 < r.getTotalMatchCount)
    (horder : r.frameOrder = pre ++ id :: post) {turns : Nat}
    (hturns : r.frameOrder.length ≤ turns) :
    ∃ pre' id' post', r.searchFrame (CyclicOrder.next r.frameOrder) turns id = some id' ∧
      r.frameOrder = pre' ++ id' :: post' ∧ 0 < r.matchCount id' ∧
      r.matchesOf pre' = (r.matchesOf pre + r.matchCount id) % r.getTotalMatchCount := by
  have hmatches := hcounts.exists_matches htotal
  have hsum := hcounts.getTotalMatchCount_eq
  have hnodup := r.nodup
  rw [horder] at hturns hmatches hsum hnodup ⊢
  obtain ⟨zs, id', mid, hsearch, hfound, hzs, hwhere⟩ := CyclicOrder.search_next
    hnodup hmatches hturns
  have hpositive : 0 < r.matchCount id' := by
    have hne : r.matchCount id' ≠ 0 := of_decide_eq_true hfound
    have := hcounts.matchCount_nonneg id'
    omega
  have hbefore : r.matchesOf zs = 0 := matchesOf_eq_zero fun z hz =>
    not_not.1 (of_decide_eq_false (hzs z hz))
  have hpre := hcounts.matchesOf_nonneg pre
  have hid := hcounts.matchCount_nonneg id
  rcases hwhere with hpost | ⟨hlist, hpost⟩
  · refine ⟨pre ++ id :: zs, id', mid, hsearch, by rw [hpost]; simp, hpositive, ?_⟩
    have hmid := hcounts.matchesOf_nonneg mid
    rw [hpost, matchesOf_append, matchesOf_cons, matchesOf_append, matchesOf_cons] at hsum
    rw [matchesOf_append, matchesOf_cons, Int.emod_eq_of_lt] <;> omega
  · refine ⟨zs, id', mid, hsearch, hlist, hpositive, ?_⟩
    have hnone : r.matchesOf post = 0 := matchesOf_eq_zero fun z hz =>
      not_not.1 (of_decide_eq_false (hpost z hz))
    rw [matchesOf_append, matchesOf_cons, hnone] at hsum
    rw [hbefore, hsum, Int.add_zero, Int.emod_self]

/-- Where a search before a frame ends: with the match before, or, before the first
one, with the last. -/
theorem searchFrame_previous (hcounts : r.CountsOrdered) (htotal : 0 < r.getTotalMatchCount)
    (horder : r.frameOrder = pre ++ id :: post) {turns : Nat}
    (hturns : r.frameOrder.length ≤ turns) :
    ∃ pre' id' post', r.searchFrame (CyclicOrder.previous r.frameOrder) turns id = some id' ∧
      r.frameOrder = pre' ++ id' :: post' ∧ 0 < r.matchCount id' ∧
      r.matchesOf pre' + (r.matchCount id' - 1) =
        (r.matchesOf pre - 1) % r.getTotalMatchCount := by
  have hmatches := hcounts.exists_matches htotal
  have hsum := hcounts.getTotalMatchCount_eq
  have hnodup := r.nodup
  rw [horder] at hturns hmatches hsum hnodup ⊢
  obtain ⟨mid, id', zs, hsearch, hfound, hzs, hwhere⟩ := CyclicOrder.search_previous
    hnodup hmatches hturns
  have hpositive : 0 < r.matchCount id' := by
    have hne : r.matchCount id' ≠ 0 := of_decide_eq_true hfound
    have := hcounts.matchCount_nonneg id'
    omega
  have hbehind : r.matchesOf zs = 0 := matchesOf_eq_zero fun z hz =>
    not_not.1 (of_decide_eq_false (hzs z hz))
  have hmid := hcounts.matchesOf_nonneg mid
  rcases hwhere with hpre | ⟨hlist, hpre⟩
  · refine ⟨mid, id', zs ++ id :: post, hsearch, by rw [hpre]; simp, hpositive, ?_⟩
    have hid := hcounts.matchCount_nonneg id
    have hpost := hcounts.matchesOf_nonneg post
    rw [hpre, matchesOf_append, matchesOf_cons, matchesOf_append, matchesOf_cons] at hsum
    rw [hpre, matchesOf_append, matchesOf_cons, Int.emod_eq_of_lt] <;> omega
  · refine ⟨mid, id', zs, hsearch, hlist, hpositive, ?_⟩
    have hnone : r.matchesOf pre = 0 := matchesOf_eq_zero fun z hz =>
      not_not.1 (of_decide_eq_false (hpre z hz))
    rw [hlist, matchesOf_append, matchesOf_cons] at hsum
    have hlast : (0 - 1 : Int) % r.getTotalMatchCount = r.getTotalMatchCount - 1 := by
      rw [← Int.add_emod_right, Int.emod_eq_of_lt] <;> omega
    rw [hnone, hlast]
    omega

/-! ## One step -/

/-- The request with a match selected. -/
def select (r : FindInPageRequest) (id : FrameId) (index : Int) : FindInPageRequest :=
  { r with selectedFrameId := some id, selectedMatchIndexInSelectedFrame := index }

theorem at_select (horder : r.frameOrder = pre ++ id :: post) (hnonneg : 0 ≤ index)
    (hlt : index < r.matchCount id) : (r.select id index).At pre id post index :=
  ⟨horder, rfl, rfl, hnonneg, hlt⟩

theorem CountsOrdered.select (h : r.CountsOrdered) (id : FrameId) (index : Int) :
    (r.select id index).CountsOrdered :=
  ⟨h.nonneg, h.ordered⟩

/-- Where the steps start from: the selected match, or before the first frame's. -/
theorem goToNextMatch_from (hcounts : r.CountsOrdered) (htotal : 0 < r.getTotalMatchCount)
    (hfrom : r.selectedFrameId.or r.frameOrder.head? = some id)
    (horder : r.frameOrder = pre ++ id :: post) (hindex : -1 ≤ r.selectedMatchIndexInSelectedFrame)
    (hlt : r.selectedMatchIndexInSelectedFrame < r.matchCount id) {turns : Nat}
    (hturns : r.frameOrder.length ≤ turns) :
    ∃ pre' id' post' index', r.goToNextMatch turns = some (true, r.select id' index') ∧
      (r.select id' index').At pre' id' post' index' ∧
      r.matchesOf pre' + index' =
        (r.matchesOf pre + (r.selectedMatchIndexInSelectedFrame + 1)) % r.getTotalMatchCount := by
  have hsum := hcounts.getTotalMatchCount_eq
  have hpre := hcounts.matchesOf_nonneg pre
  have hpost := hcounts.matchesOf_nonneg post
  rw [horder, matchesOf_append, matchesOf_cons] at hsum
  unfold goToNextMatch
  rw [if_neg (ne_of_gt htotal), hfrom]
  by_cases hsame : r.selectedMatchIndexInSelectedFrame + 1 < r.matchCount id
  · refine ⟨pre, id, post, r.selectedMatchIndexInSelectedFrame + 1, if_pos hsame,
      at_select horder (by omega) hsame, ?_⟩
    rw [Int.emod_eq_of_lt] <;> omega
  · obtain ⟨pre', id', post', hfound, horder', hpositive, hnumber⟩ :=
      searchFrame_next hcounts htotal horder hturns
    refine ⟨pre', id', post', 0, ?_, at_select horder' (le_refl 0) hpositive, ?_⟩
    · show (if _ then _ else _) = _
      rw [if_neg hsame, hfound]
      rfl
    · have hlast : r.selectedMatchIndexInSelectedFrame + 1 = r.matchCount id := by omega
      rw [hnumber, hlast, Int.add_zero]

theorem goToPreviousMatch_from (hcounts : r.CountsOrdered) (htotal : 0 < r.getTotalMatchCount)
    (hfrom : r.selectedFrameId.or r.frameOrder.head? = some id)
    (horder : r.frameOrder = pre ++ id :: post)
    (hlt : r.selectedMatchIndexInSelectedFrame < r.matchCount id) {turns : Nat}
    (hturns : r.frameOrder.length ≤ turns) :
    ∃ pre' id' post' index', r.goToPreviousMatch turns = some (true, r.select id' index') ∧
      (r.select id' index').At pre' id' post' index' ∧
      r.matchesOf pre' + index' =
        (r.matchesOf pre + max r.selectedMatchIndexInSelectedFrame 0 - 1) %
          r.getTotalMatchCount := by
  have hsum := hcounts.getTotalMatchCount_eq
  have hpre := hcounts.matchesOf_nonneg pre
  have hpost := hcounts.matchesOf_nonneg post
  rw [horder, matchesOf_append, matchesOf_cons] at hsum
  unfold goToPreviousMatch
  rw [if_neg (ne_of_gt htotal), hfrom]
  by_cases hsame : 0 ≤ r.selectedMatchIndexInSelectedFrame - 1
  · refine ⟨pre, id, post, r.selectedMatchIndexInSelectedFrame - 1, if_pos hsame,
      at_select horder hsame (by omega), ?_⟩
    rw [max_eq_left (by omega), Int.emod_eq_of_lt] <;> omega
  · obtain ⟨pre', id', post', hfound, horder', hpositive, hnumber⟩ :=
      searchFrame_previous hcounts htotal horder hturns
    refine ⟨pre', id', post', r.matchCount id' - 1, ?_,
      at_select horder' (by omega) (by omega), ?_⟩
    · show (if _ then _ else _) = _
      rw [if_neg hsame, hfound]
      rfl
    · rw [hnumber, max_eq_right (by omega), Int.add_zero]

theorem goToNextMatch_at (hcounts : r.CountsOrdered) (htotal : 0 < r.getTotalMatchCount)
    (h : r.At pre id post index) {turns : Nat} (hturns : r.frameOrder.length ≤ turns) :
    ∃ pre' id' post' index', r.goToNextMatch turns = some (true, r.select id' index') ∧
      (r.select id' index').At pre' id' post' index' ∧
      r.matchesOf pre' + index' = (r.matchesOf pre + index + 1) % r.getTotalMatchCount := by
  have hfrom : r.selectedFrameId.or r.frameOrder.head? = some id := by
    rw [h.selected]
    rfl
  have hindex := h.index_eq
  have hnonneg := h.index_nonneg
  have hlt := h.index_lt
  obtain ⟨pre', id', post', index', hstep, hat, hnumber⟩ := goToNextMatch_from hcounts htotal hfrom
    h.order (by omega) (by omega) hturns
  refine ⟨pre', id', post', index', hstep, hat, ?_⟩
  rw [hnumber, hindex, Int.add_assoc]

theorem goToPreviousMatch_at (hcounts : r.CountsOrdered) (htotal : 0 < r.getTotalMatchCount)
    (h : r.At pre id post index) {turns : Nat} (hturns : r.frameOrder.length ≤ turns) :
    ∃ pre' id' post' index', r.goToPreviousMatch turns = some (true, r.select id' index') ∧
      (r.select id' index').At pre' id' post' index' ∧
      r.matchesOf pre' + index' = (r.matchesOf pre + index - 1) % r.getTotalMatchCount := by
  have hfrom : r.selectedFrameId.or r.frameOrder.head? = some id := by
    rw [h.selected]
    rfl
  have hindex := h.index_eq
  have hlt := h.index_lt
  obtain ⟨pre', id', post', index', hstep, hat, hnumber⟩ := goToPreviousMatch_from hcounts htotal
    hfrom h.order (by omega) hturns
  refine ⟨pre', id', post', index', hstep, hat, ?_⟩
  rw [hnumber, hindex, max_eq_left h.index_nonneg]

/-- A match with the number of the selected one is the selected one. -/
theorem select_eq_of_number (hcounts : r.CountsOrdered) (h : r.At pre id post index)
    {pre' post' : List FrameId} {id' : FrameId} {index' : Int}
    (h' : (r.select id' index').At pre' id' post' index')
    (hnumber : r.matchesOf pre' + index' = r.matchesOf pre + index) : r.select id' index' = r := by
  obtain ⟨rfl, rfl⟩ := at_unique hcounts (h'.order.symm.trans h.order)
    ⟨h'.index_nonneg, h'.index_lt⟩ ⟨h.index_nonneg, h.index_lt⟩ hnumber
  unfold select
  rw [← h.selected, ← h.index_eq]

theorem number_bounds (hcounts : r.CountsOrdered) (h : r.At pre id post index) :
    0 ≤ r.matchesOf pre + index ∧ r.matchesOf pre + index < r.getTotalMatchCount := by
  have hsum := hcounts.getTotalMatchCount_eq
  rw [h.order, matchesOf_append, matchesOf_cons] at hsum
  have hpre := hcounts.matchesOf_nonneg pre
  have hpost := hcounts.matchesOf_nonneg post
  have hnonneg := h.index_nonneg
  have hlt := h.index_lt
  omega

/-! ## The circle -/

/-- **The selected match goes round the page**: both steps end, they change its number
by one, round the number of matches, and undo each other; with no match selected they
select the first one and the last one. -/
theorem goToMatch_cyclic (hcounts : r.CountsOrdered) (htotal : 0 < r.getTotalMatchCount)
    (hselection : r.SelectionConsistent) {turns : Nat} (hturns : r.frameOrder.length ≤ turns) :
    ∃ onward back, r.goToNextMatch turns = some (true, onward) ∧
      r.goToPreviousMatch turns = some (true, back) ∧
      (r.selectedFrameId = none →
        onward.getCurrentSelectedMatchPageIndex = 0 ∧
        back.getCurrentSelectedMatchPageIndex = r.getTotalMatchCount - 1) ∧
      (r.selectedFrameId ≠ none →
        onward.getCurrentSelectedMatchPageIndex =
          (r.getCurrentSelectedMatchPageIndex + 1) % r.getTotalMatchCount ∧
        back.getCurrentSelectedMatchPageIndex =
          (r.getCurrentSelectedMatchPageIndex - 1) % r.getTotalMatchCount ∧
        onward.goToPreviousMatch turns = some (true, r) ∧
        back.goToNextMatch turns = some (true, r)) := by
  rcases hselection.at with ⟨hnone, hindex⟩ | ⟨pre, id, post, index, hat⟩
  · -- both start at the first frame
    obtain ⟨first, rest, horder⟩ : ∃ first rest, r.frameOrder = first :: rest := by
      obtain ⟨id, hid, -⟩ := hcounts.exists_matches htotal
      exact List.exists_cons_of_ne_nil (List.ne_nil_of_mem hid)
    have hfrom : r.selectedFrameId.or r.frameOrder.head? = some first := by
      rw [hnone, horder]
      rfl
    have hfirst := hcounts.matchCount_nonneg first
    have horder' : r.frameOrder = [] ++ first :: rest := horder
    obtain ⟨preN, idN, postN, indexN, honward, hatN, hnumberN⟩ := goToNextMatch_from hcounts htotal
      hfrom horder' (by omega) (by omega) hturns
    obtain ⟨preB, idB, postB, indexB, hback, hatB, hnumberB⟩ := goToPreviousMatch_from hcounts htotal
      hfrom horder' (by omega) hturns
    refine ⟨_, _, honward, hback, fun _ => ⟨?_, ?_⟩, fun hsome => absurd hnone hsome⟩
    · rw [pageIndex_of_at hatN]
      refine hnumberN.trans ?_
      rw [hindex]
      exact Int.zero_emod _
    · rw [pageIndex_of_at hatB]
      refine hnumberB.trans ?_
      have hempty : r.matchesOf [] = 0 := rfl
      rw [hindex, hempty, max_eq_right (by omega), ← Int.add_emod_right, Int.emod_eq_of_lt] <;> omega
  · obtain ⟨preN, idN, postN, indexN, honward, hatN, hnumberN⟩ :=
      goToNextMatch_at hcounts htotal hat hturns
    obtain ⟨preB, idB, postB, indexB, hback, hatB, hnumberB⟩ :=
      goToPreviousMatch_at hcounts htotal hat hturns
    obtain ⟨hnonneg, hbound⟩ := number_bounds hcounts hat
    refine ⟨_, _, honward, hback, fun hnone => ?_, fun _ => ⟨?_, ?_, ?_, ?_⟩⟩
    · rw [hat.selected] at hnone
      cases hnone
    · rw [pageIndex_of_at hatN, pageIndex_of_at hat]
      exact hnumberN
    · rw [pageIndex_of_at hatB, pageIndex_of_at hat]
      exact hnumberB
    · obtain ⟨pre', id', post', index', hreturn, hat', hnumber'⟩ := goToPreviousMatch_at
        (hcounts.select idN indexN) htotal hatN hturns
      have hsame : r.matchesOf pre' + index' = r.matchesOf pre + index := by
        refine hnumber'.trans ?_
        show (r.matchesOf preN + indexN - 1) % r.getTotalMatchCount = _
        rw [hnumberN, Int.sub_eq_add_neg, Int.emod_add_emod, Int.add_assoc]
        exact (congrArg (· % _) (Int.add_zero _)).trans (Int.emod_eq_of_lt hnonneg hbound)
      have hselected : (r.select id' index').At pre' id' post' index' := hat'
      exact hreturn.trans (congrArg (fun r => some (true, r))
        (select_eq_of_number hcounts hat hselected hsame))
    · obtain ⟨pre', id', post', index', hreturn, hat', hnumber'⟩ := goToNextMatch_at
        (hcounts.select idB indexB) htotal hatB hturns
      have hsame : r.matchesOf pre' + index' = r.matchesOf pre + index := by
        refine hnumber'.trans ?_
        show (r.matchesOf preB + indexB + 1) % r.getTotalMatchCount = _
        rw [hnumberB, Int.emod_add_emod, Int.sub_add_cancel]
        exact Int.emod_eq_of_lt hnonneg hbound
      have hselected : (r.select id' index').At pre' id' post' index' := hat'
      exact hreturn.trans (congrArg (fun r => some (true, r))
        (select_eq_of_number hcounts hat hselected hsame))

/-- Two frames with one and two matches, and one without between them. -/
private def threeFrames : FindInPageRequest where
  uniqueId := 1
  query := some "foo"
  pendingFrameCallCount := 0
  frameMatchCount := [("main", 1), ("advert", 0), ("child", 2)]
  frameOrder := ["main", "advert", "child"]
  selectedFrameId := some "child"
  selectedMatchIndexInSelectedFrame := 1
  unique := (by decide : ["main", "advert", "child"].Nodup)
  nodup := by decide
  counted := by decide

/-- From the last match of the page on and back. -/
theorem goToMatch_cyclic_threeFrames :
    ∃ onward back, threeFrames.goToNextMatch 3 = some (true, onward) ∧
      threeFrames.goToPreviousMatch 3 = some (true, back) ∧
      onward.getCurrentSelectedMatchPageIndex = 0 ∧
      back.getCurrentSelectedMatchPageIndex = 1 := by
  have hturns : threeFrames.frameOrder.length ≤ 3 := by decide
  obtain ⟨onward, back, honward, hback, -, hnumbers⟩ := goToMatch_cyclic (r := threeFrames)
    ⟨by decide, by decide⟩ (by decide) (.inr ⟨"child", by decide, rfl, by decide, by decide⟩)
    hturns
  obtain ⟨hn, hb, -⟩ := hnumbers (by decide)
  exact ⟨onward, back, honward, hback, hn, hb⟩

end IosChrome.FindInPage.FindInPageRequest

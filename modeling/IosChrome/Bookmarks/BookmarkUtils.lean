import IosChrome.Lib.TreeOrder
import Mathlib.Data.Finset.Basic
import Mathlib.Data.List.Sort
import Mathlib.Order.Basic

/-!
# The folders a bookmark can be moved to

`VisibleNonDescendantNodes` builds the list in one vector. It starts with the primary permanent
nodes. `UpdateFoldersFromNode` looks its folder up in the vector, puts the sorted subfolders right
behind it, and then does the same for each of them, in a vector that keeps growing.

While that runs, what stands before a folder that is not expanded yet has nothing from below it, so
that the look-up finds the folder itself and everything goes to its place
(`updateFoldersFromNode_eq`). The lookup's `DCHECK` and the depth of the recursion are in the model,
as a result of none, which never comes.
-/

namespace IosChrome.Bookmarks

open Lib Lib.NodeTree

/-- A bookmark model that is loaded. The levels say that it is a tree of some depth. -/
structure BookmarkModel (T : Type) where
  isFolder : Nat → Bool
  isVisible : Nat → Bool
  title : Nat → T
  parent : Nat → Option Nat
  children : Nat → List Nat
  rootNode : Nat
  mobileNode : Nat
  bookmarkBarNode : Nat
  otherNode : Nat
  level : Nat → Nat
  depth : Nat
  mem_children : ∀ p c, c ∈ children p ↔ parent c = some p
  nodup_children : ∀ p, (children p).Nodup
  level_lt : ∀ c p, parent c = some p → level p < level c
  level_le : ∀ n, level n ≤ depth
  permanent_nodup : [mobileNode, bookmarkBarNode, otherNode].Nodup
  parent_permanent : ∀ n ∈ [mobileNode, bookmarkBarNode, otherNode], parent n = some rootNode

/-- `SortFolders`: `std::sort` with `FolderNodeComparator`. It says nothing about the order of
folders with equivalent titles. -/
structure SortFolders {T : Type} [LT T] (title : Nat → T) where
  sort : List Nat → List Nat
  perm : ∀ vector, (sort vector).Perm vector
  sorted : ∀ vector, (sort vector).Pairwise fun n₁ n₂ => ¬title n₂ < title n₁

/-- There is one for any total preorder. -/
def SortFolders.insertion {T : Type} [Preorder T] [Std.Total (α := T) (· ≤ ·)]
    [DecidableRel (α := T) (· ≤ ·)] (title : Nat → T) : SortFolders title where
  sort vector := vector.insertionSort fun n₁ n₂ => title n₁ ≤ title n₂
  perm vector := List.perm_insertionSort _ _
  sorted vector := by
    have htotal : Std.Total fun n₁ n₂ => title n₁ ≤ title n₂ := ⟨fun _ _ => total_of (· ≤ ·) _ _⟩
    have htrans : IsTrans Nat fun n₁ n₂ => title n₁ ≤ title n₂ := ⟨fun _ _ _ => le_trans⟩
    exact (List.pairwise_insertionSort _ vector).imp not_lt_of_ge

namespace BookmarkModel

variable {T : Type}

def primaryPermanentNodes (model : BookmarkModel T) : List Nat :=
  [model.mobileNode, model.bookmarkBarNode, model.otherNode]

/-- Whether `ancestor` is among `node` and the next parents. -/
def hasAncestorFrom (model : BookmarkModel T) (ancestor : Nat) : Nat → Nat → Bool
  | 0, node => node == ancestor
  | steps + 1, node =>
    node == ancestor || match model.parent node with
      | none => false
      | some parent => model.hasAncestorFrom ancestor steps parent

/-- `HasAncestor`, true of the node itself too. -/
def hasAncestor (model : BookmarkModel T) (node ancestor : Nat) : Bool :=
  model.hasAncestorFrom ancestor (model.level node) node

def folderHasAncestorInBookmarkNodes (model : BookmarkModel T) (folder : Nat)
    (bookmarkNodes : Finset Nat) : Bool :=
  decide (∃ node ∈ bookmarkNodes, model.hasAncestor folder node)

def isObstructed (model : BookmarkModel T) (node : Nat) (obstructions : Finset Nat) : Bool :=
  if !model.isFolder node then true
  else if !model.isVisible node then true
  else if model.folderHasAncestorInBookmarkNodes node obstructions then true
  else false

/-- `results->insert` at the place after `folder`, which has to be there. -/
def insertAfter (folder : Nat) (nodes : List Nat) : List Nat → Option (List Nat)
  | [] => none
  | node :: results =>
    if node = folder then some (node :: (nodes ++ results))
    else (insertAfter folder nodes results).map (node :: ·)

def directDescendants [LT T] (model : BookmarkModel T)
    (sortFolders : SortFolders model.title) (obstructions : Finset Nat) (folder : Nat) : List Nat :=
  sortFolders.sort
    ((model.children folder).filter fun subfolder => !model.isObstructed subfolder obstructions)

/-- `UpdateFoldersFromNode`, to a depth of the recursion. -/
def updateFoldersFromNode [LT T] (model : BookmarkModel T)
    (sortFolders : SortFolders model.title) (obstructions : Finset Nat) :
    Nat → List Nat → Nat → Option (List Nat)
  | 0, _, _ => none
  | depth + 1, results, folder => do
    let nodes := model.directDescendants sortFolders obstructions folder
    -- The `DCHECK` is that `folder` is found.
    let results ← insertAfter folder nodes results
    nodes.foldlM (model.updateFoldersFromNode sortFolders obstructions depth) results

def visibleNonDescendantNodes [LT T] (model : BookmarkModel T)
    (sortFolders : SortFolders model.title) (obstructions : Finset Nat) : Option (List Nat) :=
  let filteredPrimaryNodes :=
    model.primaryPermanentNodes.filter fun node => !model.isObstructed node obstructions
  filteredPrimaryNodes.foldlM
    (model.updateFoldersFromNode sortFolders obstructions (model.depth + 1)) filteredPrimaryNodes

/-! ## What is asked for -/

/-- Reachable from a primary permanent node through visible folders. -/
inductive Reachable (model : BookmarkModel T) : Nat → Prop where
  | primary {node : Nat} : node ∈ model.primaryPermanentNodes → model.isFolder node →
      model.isVisible node → model.Reachable node
  | child {node parent : Nat} : model.Reachable parent → model.parent node = some parent →
      model.isFolder node → model.isVisible node → model.Reachable node

/-- The node and its ancestors are no obstructions. -/
def Unobstructed (model : BookmarkModel T) (obstructions : Finset Nat) (node : Nat) : Prop :=
  ∀ obstruction ∈ obstructions, ¬Descends model.parent obstruction node

/-! ## The tree -/

section

variable {model : BookmarkModel T}

/-- Levels to go, at most. -/
def height (model : BookmarkModel T) (node : Nat) : Nat :=
  model.depth - model.level node

theorem height_lt {c p : Nat} (h : model.parent c = some p) : model.height c < model.height p := by
  have hlt := model.level_lt c p h
  have hle := model.level_le c
  unfold height
  omega

theorem hasAncestorFrom_iff {ancestor : Nat} : ∀ {steps node : Nat}, model.level node ≤ steps →
    (model.hasAncestorFrom ancestor steps node = true ↔
      Descends model.parent ancestor node) := by
  intro steps
  induction steps with
  | zero =>
    -- At level 0 there is no parent.
    intro node hlevel
    unfold hasAncestorFrom
    rw [beq_iff_eq]
    constructor
    · rintro rfl
      exact .self
    · intro h
      cases h with
      | self => rfl
      | child _ hparent =>
        have hlt := model.level_lt _ _ hparent
        omega
  | succ steps ih =>
    intro node hlevel
    unfold hasAncestorFrom
    rw [Bool.or_eq_true, beq_iff_eq]
    constructor
    · rintro (rfl | h)
      · exact .self
      · cases hparent : model.parent node with
        | none =>
          rw [hparent] at h
          cases h
        | some parent =>
          rw [hparent] at h
          have hlt := model.level_lt _ _ hparent
          exact ((ih (by omega)).1 h).child hparent
    · intro h
      cases h with
      | self => exact .inl rfl
      | child h hparent =>
        have hlt := model.level_lt _ _ hparent
        rw [hparent]
        exact .inr ((ih (by omega)).2 h)

theorem isObstructed_eq_false_iff {node : Nat} {obstructions : Finset Nat} :
    model.isObstructed node obstructions = false ↔
      model.isFolder node ∧ model.isVisible node ∧ model.Unobstructed obstructions node := by
  have hancestor : model.folderHasAncestorInBookmarkNodes node obstructions = false ↔
      model.Unobstructed obstructions node := by
    unfold folderHasAncestorInBookmarkNodes hasAncestor Unobstructed
    rw [decide_eq_false_iff_not, not_exists]
    refine forall_congr' fun obstruction => ?_
    rw [not_and, hasAncestorFrom_iff le_rfl]
  rw [← hancestor]
  unfold isObstructed
  cases model.isFolder node <;> cases model.isVisible node <;>
    cases model.folderHasAncestorInBookmarkNodes node obstructions <;> decide

/-- Nothing is below both. -/
def Apart (model : BookmarkModel T) (a b : Nat) : Prop :=
  ∀ x, Descends model.parent a x → ¬Descends model.parent b x

theorem apart_of_nodup {p : Nat} {nodes : List Nat} (hnodup : nodes.Nodup)
    (hparent : ∀ c ∈ nodes, model.parent c = some p) : nodes.Pairwise model.Apart :=
  hnodup.imp_of_mem fun ha hb hne _ hxa hxb =>
    hne (hxa.unique (fun _ _ => height_lt) hxb (hparent _ ha) (hparent _ hb))

/-- The primary permanent nodes that are listed. -/
theorem mem_filteredPrimaryNodes {obstructions : Finset Nat} {node : Nat} :
    node ∈ model.primaryPermanentNodes.filter
        (fun node => !model.isObstructed node obstructions) ↔
      node ∈ model.primaryPermanentNodes ∧ model.isFolder node ∧ model.isVisible node ∧
        model.Unobstructed obstructions node := by
  rw [List.mem_filter, Bool.not_eq_true', isObstructed_eq_false_iff]

theorem apart_primaryPermanentNodes : model.primaryPermanentNodes.Pairwise model.Apart :=
  apart_of_nodup model.permanent_nodup model.parent_permanent

theorem mem_directDescendants [LT T] {sortFolders : SortFolders model.title}
    {obstructions : Finset Nat} {c p : Nat} :
    c ∈ model.directDescendants sortFolders obstructions p ↔
      model.parent c = some p ∧ model.isFolder c ∧ model.isVisible c ∧
        model.Unobstructed obstructions c := by
  unfold directDescendants
  rw [(sortFolders.perm _).mem_iff, List.mem_filter, model.mem_children, Bool.not_eq_true',
    isObstructed_eq_false_iff]

theorem nodup_directDescendants [LT T] (sortFolders : SortFolders model.title)
    (obstructions : Finset Nat) (p : Nat) :
    (model.directDescendants sortFolders obstructions p).Nodup :=
  (sortFolders.perm _).nodup_iff.2 ((model.nodup_children p).filter _)

end

/-! ## The vector -/

theorem insertAfter_append {folder : Nat} (nodes rest : List Nat) : ∀ {before : List Nat},
    folder ∉ before → insertAfter folder nodes (before ++ folder :: rest) =
      some (before ++ folder :: (nodes ++ rest)) := by
  intro before
  induction before with
  | nil =>
    intro _
    exact if_pos rfl
  | cons node before ih =>
    intro h
    have hne : node ≠ folder := fun heq => h (heq ▸ List.mem_cons_self ..)
    show (if node = folder then _ else (insertAfter folder nodes (before ++ folder :: rest)).map
      (node :: ·)) = _
    rw [if_neg hne, ih fun hmem => h (List.mem_cons_of_mem _ hmem)]
    rfl

/-- The folders below one, in the order of the results. -/
def foldersBelow [LT T] (model : BookmarkModel T) (sortFolders : SortFolders model.title)
    (obstructions : Finset Nat) : Nat → List Nat :=
  treeOrder (model.directDescendants sortFolders obstructions) model.height

section

variable [LT T] {model : BookmarkModel T} {sortFolders : SortFolders model.title}
  {obstructions : Finset Nat}

theorem height_directDescendants (sortFolders : SortFolders model.title)
    (obstructions : Finset Nat) :
    ∀ p, ∀ c ∈ model.directDescendants sortFolders obstructions p,
      model.height c < model.height p :=
  fun _ _ hc => height_lt (mem_directDescendants.1 hc).1

theorem descends_of_mem_foldersBelow {n x : Nat}
    (h : x ∈ model.foldersBelow sortFolders obstructions n) : Descends model.parent n x :=
  mem_preorder (fun _ _ hc => (mem_directDescendants.1 hc).1) h

/-- Folders that stand side by side are expanded one after the other. -/
theorem foldlM_update {depth : Nat}
    (hupdate : ∀ (folder : Nat) (before rest : List Nat), model.height folder < depth →
      (∀ x ∈ before, ¬Descends model.parent folder x) →
      model.updateFoldersFromNode sortFolders obstructions depth (before ++ folder :: rest) folder =
        some (before ++ (model.foldersBelow sortFolders obstructions folder ++ rest)))
    (rest : List Nat) : ∀ nodes before : List Nat,
      nodes.Pairwise model.Apart →
      (∀ c ∈ nodes, model.height c < depth) →
      (∀ c ∈ nodes, ∀ x ∈ before, ¬Descends model.parent c x) →
      nodes.foldlM (model.updateFoldersFromNode sortFolders obstructions depth)
          (before ++ (nodes ++ rest)) =
        some (before ++ (nodes.flatMap (model.foldersBelow sortFolders obstructions) ++ rest)) := by
  intro nodes
  induction nodes with
  | nil =>
    intro before _ _ _
    rfl
  | cons c nodes ih =>
    intro before hapart hheight hbefore
    obtain ⟨hc, hapart⟩ := List.pairwise_cons.1 hapart
    have hfirst := hupdate c before (nodes ++ rest) (hheight c (List.mem_cons_self ..))
      (hbefore c (List.mem_cons_self ..))
    -- The first of them is found, since none of what stands before is below it.
    rw [List.foldlM_cons, List.cons_append, hfirst, List.flatMap_cons, Option.bind_eq_bind,
      Option.bind_some, List.append_assoc]
    -- What has been put in is below `c`, so it is below none of the others.
    have hnext : ∀ d ∈ nodes, ∀ x ∈ before ++ model.foldersBelow sortFolders obstructions c,
        ¬Descends model.parent d x := by
      intro d hd x hx
      rcases List.mem_append.1 hx with hx | hx
      · exact hbefore d (List.mem_cons_of_mem _ hd) x hx
      · exact hc d hd x (descends_of_mem_foldersBelow hx)
    have hall := ih _ hapart (fun d hd => hheight d (List.mem_cons_of_mem _ hd)) hnext
    rw [List.append_assoc, List.append_assoc] at hall
    exact hall

/-- A folder is replaced by all that comes from it, in its place. -/
theorem updateFoldersFromNode_eq : ∀ (depth folder : Nat) (before rest : List Nat),
    model.height folder < depth → (∀ x ∈ before, ¬Descends model.parent folder x) →
    model.updateFoldersFromNode sortFolders obstructions depth (before ++ folder :: rest) folder =
      some (before ++ (model.foldersBelow sortFolders obstructions folder ++ rest)) := by
  intro depth
  induction depth with
  | zero =>
    intro folder before rest h
    exact absurd h (Nat.not_lt_zero _)
  | succ depth ih =>
    intro folder before rest hheight hbefore
    have hinsert := insertAfter_append (model.directDescendants sortFolders obstructions folder)
      rest (fun hmem => hbefore folder hmem .self)
    have hparent : ∀ c ∈ model.directDescendants sortFolders obstructions folder,
        model.parent c = some folder := fun c hc => (mem_directDescendants.1 hc).1
    have hapart := apart_of_nodup (nodup_directDescendants sortFolders obstructions folder) hparent
    have hlt : ∀ c ∈ model.directDescendants sortFolders obstructions folder,
        model.height c < depth := by
      intro c hc
      have hc := height_lt (hparent c hc)
      omega
    -- Neither the folder nor what stands before it is below a subfolder.
    have hnone : ∀ c ∈ model.directDescendants sortFolders obstructions folder,
        ∀ x ∈ before ++ [folder], ¬Descends model.parent c x := by
      intro c hc x hx hdescends
      rcases List.mem_append.1 hx with hx | hx
      · exact hbefore x hx (hdescends.head (hparent c hc))
      · obtain rfl := List.mem_singleton.1 hx
        have hle := hdescends.rank_le fun _ _ => height_lt
        have hlt := height_lt (hparent c hc)
        omega
    have hall := foldlM_update ih rest _ _ hapart hlt hnone
    rw [List.append_assoc, List.append_assoc] at hall
    show (insertAfter folder _ _).bind _ = _
    rw [hinsert]
    have horder := treeOrder_eq (height_directDescendants sortFolders obstructions) folder
    refine hall.trans ?_
    show some (before ++ (folder :: _)) = _
    rw [foldersBelow, horder]
    rfl

theorem visibleNonDescendantNodes_eq :
    model.visibleNonDescendantNodes sortFolders obstructions =
      some ((model.primaryPermanentNodes.filter
        fun node => !model.isObstructed node obstructions).flatMap
          (model.foldersBelow sortFolders obstructions)) := by
  have hheight : ∀ n, model.height n < model.depth + 1 :=
    fun n => Nat.lt_succ_of_le (Nat.sub_le ..)
  have hupdate := @updateFoldersFromNode_eq _ _ model sortFolders obstructions (model.depth + 1)
  have hall := foldlM_update hupdate [] _ []
    (apart_primaryPermanentNodes.filter fun node => !model.isObstructed node obstructions)
    (fun c _ => hheight c) nofun
  simp only [List.append_nil, List.nil_append] at hall
  exact hall

/-- What is listed, is listed once. -/
theorem nodup_flatMap_foldersBelow {nodes : List Nat} (hapart : nodes.Pairwise model.Apart) :
    (nodes.flatMap (model.foldersBelow sortFolders obstructions)).Nodup := by
  refine List.nodup_flatMap.2 ⟨fun n _ => ?_, hapart.imp fun h x ha hb => ?_⟩
  · exact preorder_nodup (fun _ _ hc => (mem_directDescendants.1 hc).1)
      (fun _ _ => height_lt) (nodup_directDescendants sortFolders obstructions) _ _
  · exact h x (descends_of_mem_foldersBelow ha) (descends_of_mem_foldersBelow hb)

theorem mem_flatMap_foldersBelow {node : Nat} :
    node ∈ (model.primaryPermanentNodes.filter
        fun node => !model.isObstructed node obstructions).flatMap
          (model.foldersBelow sortFolders obstructions) ↔
      model.Reachable node ∧ model.Unobstructed obstructions node := by
  rw [List.mem_flatMap]
  constructor
  · rintro ⟨primary, hprimary, hmem⟩
    obtain ⟨hprimary, hfolder, hvisible, hun⟩ := mem_filteredPrimaryNodes.1 hprimary
    refine preorder_induction (P := fun n => model.Reachable n ∧
      model.Unobstructed obstructions n) ?_ ⟨.primary hprimary hfolder hvisible, hun⟩ hmem
    rintro p ⟨hp, -⟩ c hc
    obtain ⟨hparent, hfolder, hvisible, hun⟩ := mem_directDescendants.1 hc
    exact ⟨hp.child hparent hfolder hvisible, hun⟩
  · rintro ⟨hreach, hun⟩
    induction hreach with
    | primary hprimary hfolder hvisible =>
      exact ⟨_, mem_filteredPrimaryNodes.2 ⟨hprimary, hfolder, hvisible, hun⟩,
        List.mem_cons_self ..⟩
    | child _ hparent hfolder hvisible ih =>
      -- What obstructs the parent obstructs its children.
      obtain ⟨primary, hprimary, hmem⟩ := ih fun o ho h => hun o ho (h.child hparent)
      exact ⟨primary, hprimary, mem_preorder_child (height_directDescendants _ _)
        (mem_directDescendants.2 ⟨hparent, hfolder, hvisible, hun⟩) (Nat.lt_succ_self _) hmem⟩

end

/-- **The folders listed.** For any tree, obstructions and total preorder of the titles, and
wherever the sort puts folders with equivalent titles: each visible folder that is reachable from
the primary permanent nodes and not obstructed comes once, in preorder, the subfolders of each
folder ordered by title. -/
theorem visibleNonDescendantNodes_preorder {T : Type} [Preorder T] [Std.Total (α := T) (· ≤ ·)]
    (model : BookmarkModel T) (sortFolders : SortFolders model.title)
    (obstructions : Finset Nat) :
    ∃ (results : List Nat) (subfolders order : Nat → List Nat),
      model.visibleNonDescendantNodes sortFolders obstructions = some results ∧
      results.Nodup ∧
      (∀ node, node ∈ results ↔ model.Reachable node ∧ model.Unobstructed obstructions node) ∧
      results = (model.primaryPermanentNodes.filter (· ∈ results)).flatMap order ∧
      (∀ folder, order folder = folder :: (subfolders folder).flatMap order) ∧
      ∀ folder, (subfolders folder).Pairwise (fun n₁ n₂ => model.title n₁ ≤ model.title n₂) ∧
        (subfolders folder).Nodup ∧ ∀ node, node ∈ subfolders folder ↔
          model.parent node = some folder ∧ model.isFolder node ∧ model.isVisible node ∧
            model.Unobstructed obstructions node := by
  refine ⟨_, model.directDescendants sortFolders obstructions,
    model.foldersBelow sortFolders obstructions, visibleNonDescendantNodes_eq,
    nodup_flatMap_foldersBelow (apart_primaryPermanentNodes.filter _),
    fun _ => mem_flatMap_foldersBelow, ?_, treeOrder_eq (height_directDescendants _ _),
    fun folder => ⟨?_, nodup_directDescendants .., fun _ => mem_directDescendants⟩⟩
  · -- A primary permanent node is listed when it has passed the filter.
    congr 1
    refine List.filter_congr fun node hnode => ?_
    rw [Bool.eq_iff_iff, decide_eq_true_iff, mem_flatMap_foldersBelow, Bool.not_eq_true',
      isObstructed_eq_false_iff]
    constructor
    · rintro ⟨hfolder, hvisible, hun⟩
      exact ⟨.primary hnode hfolder hvisible, hun⟩
    · rintro ⟨hreach, hun⟩
      cases hreach with
      | primary _ hfolder hvisible => exact ⟨hfolder, hvisible, hun⟩
      | child _ _ hfolder hvisible => exact ⟨hfolder, hvisible, hun⟩
  · refine (sortFolders.sorted _).imp fun {n₁ n₂} h => ?_
    rcases total_of (· ≤ ·) (model.title n₁) (model.title n₂) with hle | hge
    · exact hle
    · exact not_lt_iff_le_imp_ge.1 h hge

/-! ### A tree -/

private def parents : List (Option Nat) :=
  [none, some 0, some 0, some 0, some 1, some 4, some 5, some 5, some 5, some 8, some 8, some 4,
    some 11, some 11, some 11, some 1, some 15, some 15, some 17, some 3]

private def levels : List Nat :=
  [0, 1, 1, 1, 2, 3, 4, 4, 4, 5, 5, 3, 4, 4, 4, 2, 3, 3, 4, 2]

private theorem lt_of_parents {c p : Nat} (h : (parents[c]?).join = some p) :
    c < parents.length := by
  by_contra hge
  rw [List.getElem?_eq_none (Nat.le_of_not_lt hge)] at h
  cases h

/-- Music and animals under the mobile bookmarks (node 1), buildings under the others (3); the
bookmark bar (2) is empty. -/
def musicAndAnimals : BookmarkModel Nat where
  isFolder node := !decide (node ∈ [6, 7, 9])
  isVisible node := node != 2
  title node := [16, 16, 16, 16, 13, 15, 11, 9, 10, 8, 7, 12, 14, 5, 6, 1, 4, 3, 0, 2].getD node 0
  parent node := (parents[node]?).join
  children p := (List.range parents.length).filter fun c => (parents[c]?).join = some p
  rootNode := 0
  mobileNode := 1
  bookmarkBarNode := 2
  otherNode := 3
  level node := levels.getD node 0
  depth := 5
  mem_children p c := by
    rw [List.mem_filter, List.mem_range, decide_eq_true_iff]
    exact and_iff_right_of_imp lt_of_parents
  nodup_children p := List.nodup_range.filter _
  level_lt c p h := by
    have hall : ∀ c < parents.length, ∀ p ∈ (parents[c]?).join,
        levels.getD p 0 < levels.getD c 0 := by decide
    exact hall c (lt_of_parents h) p h
  level_le node := by
    have hall : ∀ level ∈ levels, level ≤ 5 := by decide
    rw [List.getD_eq_getElem?_getD]
    cases hlevel : levels[node]? with
    | none => exact Nat.zero_le _
    | some level => exact hall level (List.mem_of_getElem? hlevel)
  permanent_nodup := by decide
  parent_permanent := by decide

/-- A folder (8) and a bookmark (6) are edited. -/
theorem visibleNonDescendantNodes_preorder_edited :
    musicAndAnimals.visibleNonDescendantNodes (.insertion _) {8, 6} =
        some [1, 15, 17, 18, 16, 4, 11, 13, 14, 12, 5, 3, 19] ∧
      ∀ node, node ∈ [1, 15, 17, 18, 16, 4, 11, 13, 14, 12, 5, 3, 19] ↔
        musicAndAnimals.Reachable node ∧ musicAndAnimals.Unobstructed {8, 6} node := by
  have hlist : musicAndAnimals.visibleNonDescendantNodes (.insertion _) {8, 6} =
      some [1, 15, 17, 18, 16, 4, 11, 13, 14, 12, 5, 3, 19] := by decide +kernel
  obtain ⟨results, _, _, heq, _, hmem, _⟩ :=
    visibleNonDescendantNodes_preorder musicAndAnimals (.insertion _) {8, 6}
  obtain rfl := Option.some.inj (heq.symm.trans hlist)
  exact ⟨hlist, hmem⟩

end BookmarkModel

end IosChrome.Bookmarks

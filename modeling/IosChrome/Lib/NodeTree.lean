import Mathlib.Data.List.Nodup
import Mathlib.Logic.Function.Basic

/-!
# Ordered trees of nodes, and nodes exchanged for others

A tree as its nodes see it: each has a parent and a list of children, and the
operations on it move one node at a time. Nodes are numbers, given out in
order; those from `next` on are not in use yet.

`exchange` puts nodes in the place of one, `restore` puts it back. What they
do together is said by `Exchanging base extra done pending t`: the tree is
`base` with the exchanges of `done` made, those of `pending` still to be made,
and the nodes of `extra` appended. Exchanges may share a parent, so each lemma
is about all children of all nodes at once, as `base` has them.
-/

namespace IosChrome.Lib

universe u

/-- Nodes with their parents and children; `D` is what else a node has. -/
structure NodeTree (D : Type u) where
  data : Nat → D
  parentNode : Nat → Option Nat
  childNodes : Nat → List Nat
  next : Nat

namespace NodeTree

variable {D : Type u}

/-! ## Operations -/

/-- Makes the node `t.next`, outside the tree. -/
def create (t : NodeTree D) (d : D) : NodeTree D :=
  { t with data := Function.update t.data t.next d, next := t.next + 1 }

def modifyData (t : NodeTree D) (node : Nat) (f : D → D) : NodeTree D :=
  { t with data := Function.update t.data node (f (t.data node)) }

def removeChild (t : NodeTree D) (parent child : Nat) : NodeTree D :=
  { t with
    childNodes := Function.update t.childNodes parent ((t.childNodes parent).erase child)
    parentNode := Function.update t.parentNode child none }

/-- Takes the node out of the tree, if it is in it. -/
def detach (t : NodeTree D) (node : Nat) : NodeTree D :=
  match t.parentNode node with
  | some parent => t.removeChild parent node
  | none => t

/-- `list` with `node` before `reference`. -/
def insertBeforeIn (node reference : Nat) : List Nat → List Nat
  | [] => [node]
  | c :: list => if c = reference then node :: c :: list else c :: insertBeforeIn node reference list

def insertBefore (t : NodeTree D) (parent node reference : Nat) : NodeTree D :=
  let t := t.detach node
  { t with
    childNodes :=
      Function.update t.childNodes parent (insertBeforeIn node reference (t.childNodes parent))
    parentNode := Function.update t.parentNode node (some parent) }

def appendChild (t : NodeTree D) (parent node : Nat) : NodeTree D :=
  let t := t.detach node
  { t with
    childNodes := Function.update t.childNodes parent (t.childNodes parent ++ [node])
    parentNode := Function.update t.parentNode node (some parent) }

/-- Appending a node just made. -/
theorem appendChild_create {t : NodeTree D} (d : D) (parent : Nat)
    (h : t.parentNode t.next = none) :
    (t.create d).appendChild parent t.next =
      { data := Function.update t.data t.next d
        parentNode := Function.update t.parentNode t.next (some parent)
        childNodes := Function.update t.childNodes parent (t.childNodes parent ++ [t.next])
        next := t.next + 1 } := by
  have hdetached : (t.create d).detach t.next = t.create d := by
    unfold detach
    have hparent : (t.create d).parentNode t.next = none := h
    rw [hparent]
  unfold appendChild
  rw [hdetached]
  rfl

theorem insertBeforeIn_append {node reference : Nat} {before after : List Nat}
    (h : reference ∉ before) :
    insertBeforeIn node reference (before ++ reference :: after) =
      before ++ node :: reference :: after := by
  induction before with
  | nil => exact if_pos rfl
  | cons c before ih =>
    rw [List.mem_cons, not_or] at h
    show (if c = reference then _ else _) = _
    rw [if_neg (Ne.symm h.1)]
    exact congrArg (c :: ·) (ih h.2)

/-- Inserting nodes from outside the tree, one after the other. -/
theorem foldl_insertBefore {parent reference : Nat} {before after : List Nat}
    (href : reference ∉ before) (nodes : List Nat) :
    ∀ {t : NodeTree D} {done : List Nat},
      t.childNodes parent = before ++ done ++ reference :: after → reference ∉ done →
      reference ∉ nodes → nodes.Nodup → (∀ n ∈ nodes, t.parentNode n = none) →
      nodes.foldl (fun t n => t.insertBefore parent n reference) t =
        { t with
          childNodes :=
            Function.update t.childNodes parent (before ++ (done ++ nodes) ++ reference :: after)
          parentNode := fun n => if n ∈ nodes then some parent else t.parentNode n } := by
  induction nodes with
  | nil =>
    intro t done hchildren _ _ _ _
    rw [List.append_nil, ← hchildren, Function.update_eq_self]
    simp
  | cons n nodes ih =>
    intro t done hchildren hdone hnodes hnodup hout
    rw [List.nodup_cons] at hnodup
    rw [List.mem_cons, not_or] at hnodes
    have hdetached : t.detach n = t := by
      unfold detach
      rw [hout n (List.mem_cons_self ..)]
    have hinserted : t.insertBefore parent n reference =
        { t with
          childNodes :=
            Function.update t.childNodes parent (before ++ (done ++ [n]) ++ reference :: after)
          parentNode := Function.update t.parentNode n (some parent) } := by
      unfold insertBefore
      rw [hdetached]
      simp only
      rw [hchildren, insertBeforeIn_append (by simp [href, hdone])]
      simp
    rw [List.foldl_cons, hinserted, @ih _ (done ++ [n])]
    · simp only [Function.update_idem, List.append_assoc, List.singleton_append]
      congr 1
      funext c
      by_cases hc : c = n
      · simp [hc]
      · simp [hc, Function.update_of_ne]
    · simp
    · simp [hdone, hnodes.1]
    · exact hnodes.2
    · exact hnodup.2
    · intro c hc
      have hne : c ≠ n := by
        rintro rfl
        exact hnodup.1 hc
      simp only [Function.update_of_ne hne]
      exact hout c (List.mem_cons_of_mem _ hc)

/-- Removing children that follow each other. -/
theorem foldl_removeChild {parent : Nat} {before after : List Nat} (nodes : List Nat) :
    ∀ {t : NodeTree D}, t.childNodes parent = before ++ nodes ++ after → nodes.Nodup →
      (∀ n ∈ nodes, n ∉ before) →
      nodes.foldl (fun t n => t.removeChild parent n) t =
        { t with
          childNodes := Function.update t.childNodes parent (before ++ after)
          parentNode := fun n => if n ∈ nodes then none else t.parentNode n } := by
  induction nodes with
  | nil =>
    intro t hchildren _ _
    rw [List.append_nil] at hchildren
    rw [← hchildren, Function.update_eq_self]
    simp
  | cons n nodes ih =>
    intro t hchildren hnodup hbefore
    rw [List.nodup_cons] at hnodup
    have hremoved : t.removeChild parent n =
        { t with
          childNodes := Function.update t.childNodes parent (before ++ nodes ++ after)
          parentNode := Function.update t.parentNode n none } := by
      unfold removeChild
      rw [hchildren, List.append_assoc,
        List.erase_append_right _ (hbefore n (List.mem_cons_self ..))]
      simp
    rw [List.foldl_cons, hremoved, ih]
    · simp only [Function.update_idem]
      congr 1
      funext c
      by_cases hc : c = n
      · simp [hc]
      · simp [hc, Function.update_of_ne]
    · simp
    · exact hnodup.2
    · intro c hc
      exact hbefore c (List.mem_cons_of_mem _ hc)

end NodeTree

/-! ## Nodes exchanged for others -/

/-- `newNodes` take the place of `oldNode`. -/
structure Replacement where
  oldNode : Nat
  newNodes : List Nat
  deriving DecidableEq, Repr

namespace NodeTree

variable {D : Type u}

/-- Does nothing where the node is not in the tree. -/
def exchange (t : NodeTree D) (r : Replacement) : NodeTree D :=
  match t.parentNode r.oldNode with
  | some parent =>
    (r.newNodes.foldl (fun t n => t.insertBefore parent n r.oldNode) t).removeChild parent r.oldNode
  | none => t

/-- Does nothing where the first new node is not in the tree. -/
def restore (t : NodeTree D) (r : Replacement) : NodeTree D :=
  match r.newNodes with
  | first :: _ =>
    match t.parentNode first with
    | some parent =>
      r.newNodes.foldl (fun t n => t.removeChild parent n) (t.insertBefore parent r.oldNode first)
    | none => t
  | [] => t

/-! Nodes are only moved: they keep their data, and none is made. -/

theorem foldl_frame {f : NodeTree D → Nat → NodeTree D}
    (hf : ∀ t n, (f t n).data = t.data ∧ (f t n).next = t.next) (nodes : List Nat) :
    ∀ t : NodeTree D, (nodes.foldl f t).data = t.data ∧ (nodes.foldl f t).next = t.next := by
  induction nodes with
  | nil =>
    intro t
    exact ⟨rfl, rfl⟩
  | cons n nodes ih =>
    intro t
    rw [List.foldl_cons]
    exact ⟨(ih _).1.trans (hf t n).1, (ih _).2.trans (hf t n).2⟩

theorem insertBefore_frame (parent reference : Nat) (t : NodeTree D) (node : Nat) :
    (t.insertBefore parent node reference).data = t.data ∧
      (t.insertBefore parent node reference).next = t.next := by
  unfold insertBefore detach
  split
  · exact ⟨rfl, rfl⟩
  · exact ⟨rfl, rfl⟩

theorem exchange_frame (t : NodeTree D) (r : Replacement) :
    (t.exchange r).data = t.data ∧ (t.exchange r).next = t.next := by
  unfold exchange
  split
  · next parent _ => exact foldl_frame (insertBefore_frame parent r.oldNode) r.newNodes t
  · exact ⟨rfl, rfl⟩

theorem restore_frame (t : NodeTree D) (r : Replacement) :
    (t.restore r).data = t.data ∧ (t.restore r).next = t.next := by
  unfold restore
  split
  · next first rest _ =>
    split
    · next parent _ =>
      have hinsert := insertBefore_frame parent first t r.oldNode
      have hremove := foldl_frame (f := fun t n => t.removeChild parent n)
        (fun _ _ => ⟨rfl, rfl⟩) r.newNodes (t.insertBefore parent r.oldNode first)
      exact ⟨hremove.1.trans hinsert.1, hremove.2.trans hinsert.2⟩
    · exact ⟨rfl, rfl⟩
  · exact ⟨rfl, rfl⟩

theorem foldl_restore_frame (rs : List Replacement) : ∀ t : NodeTree D,
    (rs.foldl NodeTree.restore t).data = t.data ∧ (rs.foldl NodeTree.restore t).next = t.next := by
  induction rs with
  | nil =>
    intro t
    exact ⟨rfl, rfl⟩
  | cons r rs ih =>
    intro t
    rw [List.foldl_cons]
    exact ⟨(ih _).1.trans (restore_frame t r).1, (ih _).2.trans (restore_frame t r).2⟩

/-- Parents and children agree, and all of them are in use. -/
structure IsForest (t : NodeTree D) : Prop where
  mem_childNodes : ∀ p c, c ∈ t.childNodes p ↔ t.parentNode c = some p
  nodup : ∀ p, (t.childNodes p).Nodup
  allocated : ∀ p c, c ∈ t.childNodes p → p < t.next ∧ c < t.next

theorem IsForest.unused {t : NodeTree D} (h : IsForest t) {n : Nat} (hn : t.next ≤ n) :
    t.parentNode n = none := by
  cases hparent : t.parentNode n with
  | none => rfl
  | some p => exact absurd (h.allocated p n ((h.mem_childNodes p n).2 hparent)).2 (by omega)

theorem IsForest.leaf {t : NodeTree D} (h : IsForest t) {n : Nat} (hn : t.next ≤ n) :
    t.childNodes n = [] := by
  rw [List.eq_nil_iff_forall_not_mem]
  intro c hc
  exact absurd (h.allocated n c hc).1 (by omega)

/-- What stands in the place of `c` after the exchanges. -/
def expand (done : List Replacement) (c : Nat) : List Nat :=
  match done.find? fun r => r.oldNode = c with
  | some r => r.newNodes
  | none => [c]

/-- The replacements are of different nodes of the tree, by different nodes
that are not of the tree. -/
structure Replaceable (base : NodeTree D) (rs : List Replacement) : Prop where
  oldNodes_nodup : (rs.map Replacement.oldNode).Nodup
  parent : ∀ r ∈ rs, ∃ p, base.parentNode r.oldNode = some p
  fresh : ∀ r ∈ rs, ∀ n ∈ r.newNodes, base.next ≤ n
  newNodes_nodup : (rs.flatMap Replacement.newNodes).Nodup
  nonempty : ∀ r ∈ rs, r.newNodes ≠ []

/-- `t` is `base` with the replacements of `done` made, and `extra` appended to
the children; those of `pending` are made of nodes outside the tree. -/
structure Exchanging (base : NodeTree D) (extra : Nat → List Nat)
    (done pending : List Replacement) (t : NodeTree D) : Prop where
  replaceable : Replaceable base (done ++ pending)
  extra_new : ∀ p, ∀ n ∈ extra p,
    base.next ≤ n ∧ n < t.next ∧ n ∉ (done ++ pending).flatMap Replacement.newNodes
  data : ∀ n, n < base.next → t.data n = base.data n
  next_le : base.next ≤ t.next
  used : ∀ n ∈ (done ++ pending).flatMap Replacement.newNodes, n < t.next
  unused : ∀ n, t.next ≤ n → t.parentNode n = none
  childNodes : ∀ p, p < base.next →
    t.childNodes p = (base.childNodes p).flatMap (expand done) ++ extra p
  parentNode : ∀ c, c < base.next →
    t.parentNode c = if c ∈ done.map Replacement.oldNode then none else base.parentNode c
  newParent : ∀ r ∈ done, ∀ n ∈ r.newNodes, t.parentNode n = base.parentNode r.oldNode
  outside : ∀ r ∈ pending, ∀ n ∈ r.newNodes, t.parentNode n = none
  leaf : ∀ n, base.next ≤ n → t.childNodes n = []

section

variable {base t : NodeTree D} {extra : Nat → List Nat} {done pending : List Replacement}
  {r : Replacement}

theorem expand_of_not_mem {c : Nat} (h : c ∉ done.map Replacement.oldNode) :
    expand done c = [c] := by
  unfold expand
  have hnone : done.find? (fun r => r.oldNode = c) = none := by
    rw [List.find?_eq_none]
    intro x hx heq
    exact h (List.mem_map.2 ⟨x, hx, of_decide_eq_true heq⟩)
  rw [hnone]

theorem expand_cons_self : expand (r :: done) r.oldNode = r.newNodes := by
  simp only [expand, List.find?_cons, decide_true]

theorem expand_cons_of_ne {c : Nat} (h : c ≠ r.oldNode) :
    expand (r :: done) c = expand done c := by
  unfold expand
  rw [List.find?_cons_of_neg (by simpa using Ne.symm h)]

theorem expand_append_self (h : r.oldNode ∉ done.map Replacement.oldNode) :
    expand (done ++ [r]) r.oldNode = r.newNodes := by
  induction done with
  | nil => exact expand_cons_self
  | cons x done ih =>
    rw [List.map_cons, List.mem_cons, not_or] at h
    rw [List.cons_append, expand_cons_of_ne h.1, ih h.2]

theorem expand_append_of_ne {c : Nat} (h : c ≠ r.oldNode) :
    expand (done ++ [r]) c = expand done c := by
  induction done with
  | nil => exact expand_cons_of_ne h
  | cons x done ih =>
    rw [List.cons_append]
    by_cases hx : c = x.oldNode
    · subst hx
      rw [expand_cons_self, expand_cons_self]
    · rw [expand_cons_of_ne hx, expand_cons_of_ne hx, ih]

/-- A node that stands somewhere is of the tree, or one of the new ones. -/
theorem mem_expand {c n : Nat} (h : n ∈ expand done c) :
    n = c ∨ ∃ x ∈ done, x.oldNode = c ∧ n ∈ x.newNodes := by
  unfold expand at h
  split at h
  · next x hfound =>
    have hold := List.find?_some hfound
    exact .inr ⟨x, List.mem_of_find?_eq_some hfound, of_decide_eq_true hold, h⟩
  · exact .inl (List.mem_singleton.1 h)

/-- The children around one of them. -/
theorem IsForest.split (hbase : IsForest base) {p c : Nat} (h : base.parentNode c = some p) :
    ∃ before after, base.childNodes p = before ++ c :: after ∧ c ∉ before ∧ c ∉ after := by
  obtain ⟨before, after, hsplit⟩ := List.append_of_mem ((hbase.mem_childNodes p c).2 h)
  have hnodup := hbase.nodup p
  rw [hsplit, List.nodup_append] at hnodup
  obtain ⟨-, hafter, hdisjoint⟩ := hnodup
  exact ⟨before, after, hsplit, fun hmem => hdisjoint c hmem c (List.mem_cons_self ..) rfl,
    (List.nodup_cons.1 hafter).1⟩

theorem flatMap_expand_congr (done done' : List Replacement) {list : List Nat}
    (h : ∀ c ∈ list, expand done c = expand done' c) :
    list.flatMap (expand done) = list.flatMap (expand done') := by
  induction list with
  | nil => rfl
  | cons c list ih =>
    rw [List.flatMap_cons, List.flatMap_cons, h c (List.mem_cons_self ..),
      ih fun c' hc' => h c' (List.mem_cons_of_mem _ hc')]

/-- **The next exchange.** -/
theorem Exchanging.exchange (hbase : IsForest base)
    (h : Exchanging base extra done (r :: pending) t) :
    Exchanging base extra (done ++ [r]) pending (t.exchange r) := by
  have hall : done ++ [r] ++ pending = done ++ r :: pending := by
    rw [List.append_assoc, List.singleton_append]
  have hmem : r ∈ done ++ r :: pending := by simp
  obtain ⟨p, hp⟩ := h.replaceable.parent r hmem
  obtain ⟨before, after, hsplit, hbefore, hafter⟩ := hbase.split hp
  have hin := hbase.allocated p r.oldNode ((hbase.mem_childNodes p _).2 hp)
  -- The node is still in its place.
  have hnot : r.oldNode ∉ done.map Replacement.oldNode := by
    have hnodup := h.replaceable.oldNodes_nodup
    rw [List.map_append, List.map_cons, List.nodup_append] at hnodup
    intro hmem
    exact hnodup.2.2 _ hmem _ (List.mem_cons_self ..) rfl
  have hparent : t.parentNode r.oldNode = some p := by
    rw [h.parentNode _ hin.2, if_neg hnot, hp]
  have hchildren : t.childNodes p =
      before.flatMap (expand done) ++ [] ++ r.oldNode ::
        (after.flatMap (expand done) ++ extra p) := by
    rw [h.childNodes p hin.1, hsplit, List.flatMap_append, List.flatMap_cons,
      expand_of_not_mem hnot]
    simp
  have hfresh := h.replaceable.fresh r hmem
  have hnew : r.oldNode ∉ r.newNodes := by
    intro hmem'
    exact absurd (hfresh _ hmem') (by omega)
  have hbefore' : r.oldNode ∉ before.flatMap (expand done) := by
    rw [List.mem_flatMap]
    rintro ⟨c, hc, hexp⟩
    rcases mem_expand hexp with rfl | ⟨x, hx, -, hx'⟩
    · exact hbefore hc
    · exact absurd (h.replaceable.fresh x (List.mem_append_left _ hx) _ hx') (by omega)
  have hnodup : r.newNodes.Nodup := by
    have hnodup := h.replaceable.newNodes_nodup
    rw [List.flatMap_append, List.flatMap_cons, List.nodup_append] at hnodup
    exact (List.nodup_append.1 hnodup.2.1).1
  have hexchanged : t.exchange r =
      { t with
        childNodes := Function.update t.childNodes p
          (before.flatMap (expand done) ++ r.newNodes ++
            (after.flatMap (expand done) ++ extra p))
        parentNode := Function.update
          (fun n => if n ∈ r.newNodes then some p else t.parentNode n) r.oldNode none } := by
    unfold NodeTree.exchange
    rw [hparent]
    simp only
    rw [foldl_insertBefore hbefore' r.newNodes hchildren (List.not_mem_nil) hnew hnodup
      (h.outside r (List.mem_cons_self ..))]
    unfold removeChild
    simp only [Function.update_self, Function.update_idem, List.nil_append]
    rw [List.erase_append_right _ (by simp [hbefore', hnew])]
    simp
  have hexpand : ∀ list : List Nat, r.oldNode ∉ list →
      list.flatMap (expand (done ++ [r])) = list.flatMap (expand done) := by
    intro list hlist
    apply flatMap_expand_congr (done ++ [r]) done
    intro c hc
    exact expand_append_of_ne fun heq => hlist (heq ▸ hc)
  rw [hexchanged]
  have hold : ∀ n, base.next ≤ n → n ≠ r.oldNode := by
    rintro n hn rfl
    omega
  constructor
  · rw [hall]
    exact h.replaceable
  · rw [hall]
    exact h.extra_new
  · exact h.data
  · exact h.next_le
  · rw [hall]
    exact h.used
  · intro n hn
    have hnext : t.next ≤ n := hn
    have hle := h.next_le
    dsimp only
    rw [Function.update_of_ne (hold n (by omega)), if_neg]
    · exact h.unused n hnext
    · intro hmem'
      have := h.used n (List.mem_flatMap.2 ⟨r, hmem, hmem'⟩)
      omega
  · intro q hq
    dsimp only
    by_cases hqp : q = p
    · subst hqp
      rw [Function.update_self, hsplit, List.flatMap_append, List.flatMap_cons,
        expand_append_self hnot,
        hexpand before hbefore, hexpand after hafter]
      simp
    · rw [Function.update_of_ne hqp, h.childNodes q hq,
        flatMap_expand_congr (done ++ [r]) done]
      intro c hc
      apply expand_append_of_ne
      rintro rfl
      rw [(hbase.mem_childNodes q _).1 hc] at hp
      exact hqp (Option.some.inj hp)
  · intro c hc
    dsimp only
    by_cases hcr : c = r.oldNode
    · subst hcr
      rw [Function.update_self, if_pos (by simp)]
    · rw [Function.update_of_ne hcr, if_neg, h.parentNode c hc]
      · simp [hcr]
      · intro hmem'
        exact absurd (hfresh c hmem') (by omega)
  · intro x hx n hn
    dsimp only
    rw [Function.update_of_ne]
    · rcases List.mem_append.1 hx with hx | hx
      · rw [if_neg]
        · exact h.newParent x hx n hn
        · intro hmem'
          have hnodup := h.replaceable.newNodes_nodup
          rw [List.flatMap_append, List.nodup_append] at hnodup
          exact hnodup.2.2 n (List.mem_flatMap.2 ⟨x, hx, hn⟩) n
            (List.mem_flatMap.2 ⟨r, List.mem_cons_self .., hmem'⟩) rfl
      · obtain rfl := List.mem_singleton.1 hx
        rw [if_pos hn, hp]
    · apply hold
      have hx' : x ∈ done ++ r :: pending := by
        rw [← hall]
        exact List.mem_append_left _ hx
      exact h.replaceable.fresh x hx' n hn
  · intro x hx n hn
    dsimp only
    rw [Function.update_of_ne, if_neg]
    · exact h.outside x (List.mem_cons_of_mem _ hx) n hn
    · intro hmem'
      have hnodup := h.replaceable.newNodes_nodup
      rw [List.flatMap_append, List.flatMap_cons, List.nodup_append] at hnodup
      exact (List.nodup_append.1 hnodup.2.1).2.2 n hmem' n (List.mem_flatMap.2 ⟨x, hx, hn⟩) rfl
    · exact hold n (h.replaceable.fresh x (by simp [hx]) n hn)
  · intro n hn
    dsimp only
    rw [Function.update_of_ne (by omega)]
    exact h.leaf n hn

/-- A made exchange is not made again. -/
theorem Exchanging.exchange_done (hbase : IsForest base)
    (h : Exchanging base extra done pending t) (hr : r ∈ done) : t.exchange r = t := by
  obtain ⟨p, hp⟩ := h.replaceable.parent r (List.mem_append_left _ hr)
  have hin := hbase.allocated p r.oldNode ((hbase.mem_childNodes p _).2 hp)
  unfold NodeTree.exchange
  rw [h.parentNode _ hin.2, if_pos (List.mem_map.2 ⟨r, hr, rfl⟩)]

/-- An exchange not made is not taken back. -/
theorem Exchanging.restore_pending (h : Exchanging base extra done pending t)
    (hr : r ∈ pending) : t.restore r = t := by
  unfold NodeTree.restore
  split
  · next first rest hnew =>
    rw [h.outside r hr first (by rw [hnew]; exact List.mem_cons_self ..)]
  · rfl

/-- The replacements without the first. -/
theorem Replaceable.tail {rs : List Replacement} (h : Replaceable base (r :: rs)) :
    Replaceable base rs where
  oldNodes_nodup := (List.nodup_cons.1 h.oldNodes_nodup).2
  parent x hx := h.parent x (List.mem_cons_of_mem _ hx)
  fresh x hx := h.fresh x (List.mem_cons_of_mem _ hx)
  newNodes_nodup := by
    have hnodup := h.newNodes_nodup
    rw [List.flatMap_cons, List.nodup_append] at hnodup
    exact hnodup.2.1
  nonempty x hx := h.nonempty x (List.mem_cons_of_mem _ hx)

/-- **An exchange taken back.** -/
theorem Exchanging.restore (hbase : IsForest base)
    (h : Exchanging base extra (r :: done) pending t) :
    Exchanging base extra done pending (t.restore r) := by
  have hmem : r ∈ r :: done ++ pending := List.mem_cons_self ..
  obtain ⟨p, hp⟩ := h.replaceable.parent r hmem
  obtain ⟨before, after, hsplit, hbefore, hafter⟩ := hbase.split hp
  have hin := hbase.allocated p r.oldNode ((hbase.mem_childNodes p _).2 hp)
  have hfresh := h.replaceable.fresh r hmem
  have hnot : r.oldNode ∉ done.map Replacement.oldNode := by
    have hnodup := h.replaceable.oldNodes_nodup
    rw [List.cons_append, List.map_cons, List.map_append, List.nodup_cons] at hnodup
    exact fun hmem' => hnodup.1 (List.mem_append_left _ hmem')
  have hnewNodup := h.replaceable.newNodes_nodup
  rw [List.cons_append, List.flatMap_cons, List.nodup_append] at hnewNodup
  -- The new nodes of the others are other nodes.
  have hothers : ∀ x ∈ done ++ pending, ∀ n ∈ x.newNodes, n ∉ r.newNodes := by
    intro x hx n hn hn'
    exact hnewNodup.2.2 n hn' n (List.mem_flatMap.2 ⟨x, hx, hn⟩) rfl
  have hexpand : ∀ list : List Nat, r.oldNode ∉ list →
      list.flatMap (expand (r :: done)) = list.flatMap (expand done) := by
    intro list hlist
    apply flatMap_expand_congr (r :: done) done
    intro c hc
    exact expand_cons_of_ne fun heq => hlist (heq ▸ hc)
  have hchildren : t.childNodes p =
      before.flatMap (expand done) ++ r.newNodes ++
        (after.flatMap (expand done) ++ extra p) := by
    rw [h.childNodes p hin.1, hsplit, List.flatMap_append, List.flatMap_cons, expand_cons_self,
      hexpand before hbefore, hexpand after hafter]
    simp
  have hbeforeOld : ∀ n ∈ r.newNodes, n ∉ before.flatMap (expand done) ++ [r.oldNode] := by
    intro n hn hmem'
    rcases List.mem_append.1 hmem' with hmem' | hmem'
    · obtain ⟨c, hc, hexp⟩ := List.mem_flatMap.1 hmem'
      rcases mem_expand hexp with rfl | ⟨x, hx, -, hx'⟩
      · have hlt := (hbase.allocated p n (by rw [hsplit]; simp [hc])).2
        exact absurd (hfresh n hn) (by omega)
      · exact hothers x (List.mem_append_left _ hx) n hx' hn
    · rw [List.mem_singleton.1 hmem'] at hn
      exact absurd (hfresh _ hn) (by omega)
  obtain ⟨first, rest, hnew⟩ := List.exists_cons_of_ne_nil (h.replaceable.nonempty r hmem)
  have hfirst : first ∈ r.newNodes := by
    rw [hnew]
    exact List.mem_cons_self ..
  have hrestored : t.restore r =
      { t with
        childNodes := Function.update t.childNodes p
          (before.flatMap (expand done) ++ [r.oldNode] ++ (after.flatMap (expand done) ++ extra p))
        parentNode := fun n =>
          if n ∈ r.newNodes then none else Function.update t.parentNode r.oldNode (some p) n } := by
    have hdetached : t.detach r.oldNode = t := by
      unfold detach
      rw [h.parentNode _ hin.2, if_pos (by simp)]
    have hinserted : t.insertBefore p r.oldNode first =
        { t with
          childNodes := Function.update t.childNodes p
            (before.flatMap (expand done) ++ [r.oldNode] ++ r.newNodes ++
              (after.flatMap (expand done) ++ extra p))
          parentNode := Function.update t.parentNode r.oldNode (some p) } := by
      unfold insertBefore
      rw [hdetached]
      simp only
      rw [hchildren, hnew, List.append_assoc, List.cons_append, insertBeforeIn_append]
      · simp
      · intro hmem'
        exact hbeforeOld first hfirst (List.mem_append_left _ hmem')
    have hdef : t.restore r = r.newNodes.foldl (fun t n => t.removeChild p n)
        (t.insertBefore p r.oldNode first) := by
      unfold NodeTree.restore
      rw [hnew]
      simp only
      rw [h.newParent r (List.mem_cons_self ..) first hfirst, hp]
    rw [hdef, hinserted, foldl_removeChild r.newNodes (Function.update_self ..) hnewNodup.1
      hbeforeOld]
    simp only [Function.update_idem]
  rw [hrestored]
  have hold : ∀ n, base.next ≤ n → n ≠ r.oldNode := by
    rintro n hn rfl
    omega
  constructor
  · exact h.replaceable.tail
  · intro q n hn
    obtain ⟨hge, hlt, hnotin⟩ := h.extra_new q n hn
    refine ⟨hge, hlt, ?_⟩
    rw [List.cons_append, List.flatMap_cons] at hnotin
    exact fun hmem' => hnotin (List.mem_append_right _ hmem')
  · exact h.data
  · exact h.next_le
  · intro n hn
    apply h.used
    rw [List.cons_append, List.flatMap_cons]
    exact List.mem_append_right _ hn
  · intro n hn
    have hle := h.next_le
    dsimp only at hn ⊢
    split
    · rfl
    · rw [Function.update_of_ne (hold n (by omega))]
      exact h.unused n hn
  · intro q hq
    dsimp only
    by_cases hqp : q = p
    · subst hqp
      rw [Function.update_self, hsplit, List.flatMap_append, List.flatMap_cons,
        expand_of_not_mem hnot]
      simp
    · rw [Function.update_of_ne hqp, h.childNodes q hq, hexpand]
      intro hmem'
      rw [(hbase.mem_childNodes q _).1 hmem'] at hp
      exact hqp (Option.some.inj hp)
  · intro c hc
    dsimp only
    rw [if_neg fun hmem' => absurd (hfresh c hmem') (by omega)]
    by_cases hcr : c = r.oldNode
    · subst hcr
      rw [Function.update_self, if_neg hnot, hp]
    · rw [Function.update_of_ne hcr, h.parentNode c hc]
      simp [hcr]
  · intro x hx n hn
    dsimp only
    rw [if_neg (hothers x (List.mem_append_left _ hx) n hn), Function.update_of_ne]
    · exact h.newParent x (List.mem_cons_of_mem _ hx) n hn
    · exact hold n (h.replaceable.fresh x (by simp [hx]) n hn)
  · intro x hx n hn
    dsimp only
    rw [if_neg (hothers x (List.mem_append_right _ hx) n hn), Function.update_of_ne]
    · exact h.outside x hx n hn
    · exact hold n (h.replaceable.fresh x (by simp [hx]) n hn)
  · intro n hn
    dsimp only
    rw [Function.update_of_ne (by omega)]
    exact h.leaf n hn

theorem Exchanging.foldl_restore_pending (h : Exchanging base extra done pending t) :
    ∀ rs : List Replacement, (∀ x ∈ rs, x ∈ pending) → rs.foldl NodeTree.restore t = t := by
  intro rs
  induction rs with
  | nil =>
    intro _
    rfl
  | cons x rs ih =>
    intro hrs
    rw [List.foldl_cons, h.restore_pending (hrs x (List.mem_cons_self ..))]
    exact ih fun y hy => hrs y (List.mem_cons_of_mem _ hy)

/-- **All exchanges taken back, in the order they were made in.** -/
theorem Exchanging.restoreAll (hbase : IsForest base) (done : List Replacement) :
    ∀ {t : NodeTree D}, Exchanging base extra done pending t →
      Exchanging base extra [] pending ((done ++ pending).foldl NodeTree.restore t) := by
  induction done with
  | nil =>
    intro t h
    rw [List.nil_append, h.foldl_restore_pending pending fun _ hx => hx]
    exact h
  | cons x done ih =>
    intro t h
    exact ih (h.restore hbase)

/-- The exchanges still to be made are given up. -/
theorem Exchanging.dropPending (h : Exchanging base extra [] pending t) :
    Exchanging base extra [] [] t where
  replaceable := ⟨List.nodup_nil, nofun, nofun, List.nodup_nil, nofun⟩
  extra_new p n hn := ⟨(h.extra_new p n hn).1, (h.extra_new p n hn).2.1, List.not_mem_nil⟩
  data := h.data
  next_le := h.next_le
  used := nofun
  unused := h.unused
  childNodes := h.childNodes
  parentNode := h.parentNode
  newParent := nofun
  outside := nofun
  leaf := h.leaf

/-- Nodes made outside the tree, and changes of nodes that are not of `base`. -/
theorem Exchanging.of_frame {t' : NodeTree D} (h : Exchanging base extra done pending t)
    (hnext : t.next ≤ t'.next) (hdata : ∀ n, n < base.next → t'.data n = t.data n)
    (hparent : t'.parentNode = t.parentNode) (hchildren : t'.childNodes = t.childNodes) :
    Exchanging base extra done pending t' where
  replaceable := h.replaceable
  extra_new p n hn := by
    obtain ⟨hge, hlt, hnot⟩ := h.extra_new p n hn
    exact ⟨hge, by omega, hnot⟩
  data n hn := (hdata n hn).trans (h.data n hn)
  next_le := Nat.le_trans h.next_le hnext
  used n hn := Nat.lt_of_lt_of_le (h.used n hn) hnext
  unused n hn := by
    rw [hparent]
    exact h.unused n (Nat.le_trans hnext hn)
  childNodes p hp := by
    rw [hchildren]
    exact h.childNodes p hp
  parentNode c hc := by
    rw [hparent]
    exact h.parentNode c hc
  newParent x hx n hn := by
    rw [hparent]
    exact h.newParent x hx n hn
  outside x hx n hn := by
    rw [hparent]
    exact h.outside x hx n hn
  leaf n hn := by
    rw [hchildren]
    exact h.leaf n hn

/-- A node appended is taken out again. -/
theorem Exchanging.removeExtra {q x : Nat} (hq : q < base.next) (hx : extra q = [x])
    (hextra : ∀ p, p ≠ q → extra p = []) (h : Exchanging base extra done pending t)
    (hbase : IsForest base) : Exchanging base (fun _ => []) done pending (t.removeChild q x) := by
  obtain ⟨hge, hlt, hnot⟩ := h.extra_new q x (by rw [hx]; exact List.mem_singleton_self x)
  have hother : ∀ r ∈ done ++ pending, ∀ n ∈ r.newNodes, n ≠ x := by
    rintro r hr n hn rfl
    exact hnot (List.mem_flatMap.2 ⟨r, hr, hn⟩)
  constructor
  · exact h.replaceable
  · exact nofun
  · exact h.data
  · exact h.next_le
  · exact h.used
  · intro n hn
    have hnext : t.next ≤ n := hn
    show Function.update t.parentNode x none n = none
    rw [Function.update_of_ne (by omega)]
    exact h.unused n hnext
  · intro p hp
    rw [List.append_nil]
    show Function.update t.childNodes q ((t.childNodes q).erase x) p = _
    by_cases hpq : p = q
    · subst hpq
      rw [Function.update_self, h.childNodes p hp, hx, List.erase_append_right, List.erase_cons_head,
        List.append_nil]
      intro hmem
      obtain ⟨c, hc, hexp⟩ := List.mem_flatMap.1 hmem
      rcases mem_expand hexp with rfl | ⟨r, hr, -, hr'⟩
      · exact absurd (hbase.allocated p x hc).2 (by omega)
      · exact hother r (List.mem_append_left _ hr) x hr' rfl
    · rw [Function.update_of_ne hpq, h.childNodes p hp, hextra p hpq, List.append_nil]
  · intro c hc
    show Function.update t.parentNode x none c = _
    rw [Function.update_of_ne (by omega)]
    exact h.parentNode c hc
  · intro r hr n hn
    show Function.update t.parentNode x none n = _
    rw [Function.update_of_ne (hother r (List.mem_append_left _ hr) n hn)]
    exact h.newParent r hr n hn
  · intro r hr n hn
    show Function.update t.parentNode x none n = _
    rw [Function.update_of_ne (hother r (List.mem_append_right _ hr) n hn)]
    exact h.outside r hr n hn
  · intro n hn
    show Function.update t.childNodes q _ n = _
    rw [Function.update_of_ne (by omega)]
    exact h.leaf n hn

/-- **Another exchange to be made**, of a node by nodes just made. -/
theorem Exchanging.addPending {t' : NodeTree D} (h : Exchanging base extra done pending t)
    (h' : Exchanging base extra done pending t')
    (hold : r.oldNode ∉ (done ++ pending).map Replacement.oldNode)
    (hin : ∃ p, base.parentNode r.oldNode = some p)
    (hnew : ∀ n ∈ r.newNodes, t.next ≤ n ∧ n < t'.next) (hnodup : r.newNodes.Nodup)
    (hnonempty : r.newNodes ≠ []) (hparent : t'.parentNode = t.parentNode) :
    Exchanging base extra done (pending ++ [r]) t' where
  replaceable := by
    rw [← List.append_assoc]
    refine ⟨?_, ?_, ?_, ?_, ?_⟩
    · rw [List.map_append, List.nodup_append]
      refine ⟨h.replaceable.oldNodes_nodup, List.nodup_singleton _, ?_⟩
      rintro _ ha _ hb rfl
      rw [List.map_singleton, List.mem_singleton] at hb
      exact hold (hb ▸ ha)
    · intro x hx
      rcases List.mem_append.1 hx with hx | hx
      · exact h.replaceable.parent x hx
      · rw [List.mem_singleton.1 hx]
        exact hin
    · intro x hx n hn
      rcases List.mem_append.1 hx with hx | hx
      · exact h.replaceable.fresh x hx n hn
      · rw [List.mem_singleton.1 hx] at hn
        exact Nat.le_trans h.next_le (hnew n hn).1
    · rw [List.flatMap_append, List.nodup_append]
      refine ⟨h.replaceable.newNodes_nodup, by simpa using hnodup, ?_⟩
      rintro n hn _ hn' rfl
      rw [List.flatMap_singleton] at hn'
      exact absurd (h.used n hn) (by have := (hnew n hn').1; omega)
    · intro x hx
      rcases List.mem_append.1 hx with hx | hx
      · exact h.replaceable.nonempty x hx
      · rw [List.mem_singleton.1 hx]
        exact hnonempty
  extra_new p n hn := by
    obtain ⟨hge, hlt, hnot⟩ := h.extra_new p n hn
    refine ⟨hge, (h'.extra_new p n hn).2.1, ?_⟩
    rw [← List.append_assoc, List.flatMap_append, List.flatMap_singleton]
    intro hmem
    rcases List.mem_append.1 hmem with hmem | hmem
    · exact hnot hmem
    · exact absurd hlt (by have := (hnew n hmem).1; omega)
  data := h'.data
  next_le := h'.next_le
  used n hn := by
    rw [← List.append_assoc, List.flatMap_append, List.flatMap_singleton] at hn
    rcases List.mem_append.1 hn with hn | hn
    · exact h'.used n hn
    · exact (hnew n hn).2
  unused := h'.unused
  childNodes := h'.childNodes
  parentNode := h'.parentNode
  newParent := h'.newParent
  outside x hx n hn := by
    rcases List.mem_append.1 hx with hx | hx
    · exact h'.outside x hx n hn
    · rw [List.mem_singleton.1 hx] at hn
      rw [hparent]
      exact h.unused n (hnew n hn).1
  leaf := h'.leaf

/-- Where nothing is exchanged, the children are those of `base`. -/
theorem Exchanging.childNodes_nil {p : Nat} (h : Exchanging base extra [] pending t)
    (hp : p < base.next) : t.childNodes p = base.childNodes p ++ extra p := by
  rw [h.childNodes p hp]
  congr 1
  exact List.flatMap_singleton' _

/-- Taking exchanges back moves their nodes only. -/
theorem foldl_restore_parentNode {c : Nat} : ∀ (rs : List Replacement) (t : NodeTree D),
    (∀ x ∈ rs, c ≠ x.oldNode ∧ c ∉ x.newNodes) →
      (rs.foldl NodeTree.restore t).parentNode c = t.parentNode c := by
  have hremove : ∀ (p : Nat) (nodes : List Nat) (t : NodeTree D), c ∉ nodes →
      (nodes.foldl (fun t n => t.removeChild p n) t).parentNode c = t.parentNode c := by
    intro p nodes
    induction nodes with
    | nil =>
      intro t _
      rfl
    | cons n nodes ih =>
      intro t hc
      rw [List.mem_cons, not_or] at hc
      rw [List.foldl_cons, ih _ hc.2]
      exact Function.update_of_ne hc.1 ..
  have hinsert : ∀ (t : NodeTree D) (p n reference : Nat), c ≠ n →
      (t.insertBefore p n reference).parentNode c = t.parentNode c := by
    intro t p n reference hc
    unfold insertBefore detach
    simp only
    rw [Function.update_of_ne hc]
    split
    · exact Function.update_of_ne hc ..
    · rfl
  intro rs
  induction rs with
  | nil =>
    intro t _
    rfl
  | cons x rs ih =>
    intro t hrs
    have hx := hrs x (List.mem_cons_self ..)
    rw [List.foldl_cons, ih _ fun y hy => hrs y (List.mem_cons_of_mem _ hy)]
    unfold NodeTree.restore
    split
    · split
      · rw [hremove _ _ _ hx.2, hinsert _ _ _ _ hx.1]
      · rfl
    · rfl

end

end NodeTree

end IosChrome.Lib

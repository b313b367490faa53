import IosChrome.Lib.NodeTree

/-!
# Tree order

The nodes below a node, in the order a document has them (`preorder`), to a
depth. Where a rank falls from parent to child it does not matter which depth
that is, so all of them have an order (`treeOrder`). Nothing comes twice in it,
and exchanging leaves for others changes nothing else in it
(`Exchanging.filter_preorder`).
-/

namespace IosChrome.Lib

universe u

namespace NodeTree

variable {D : Type u}

/-- `n` and what is below it, at most `depth` levels of them, in tree order. -/
def preorder (children : Nat → List Nat) : Nat → Nat → List Nat
  | 0, _ => []
  | depth + 1, n => n :: (children n).flatMap (preorder children depth)

section

variable {children : Nat → List Nat} {rank : Nat → Nat}

/-- Where each node ranks above its children, as many levels as its rank are
enough. -/
theorem preorder_stable (hrank : ∀ p, ∀ c ∈ children p, rank c < rank p) :
    ∀ (depth depth' n : Nat), rank n < depth → rank n < depth' →
      preorder children depth n = preorder children depth' n := by
  intro depth
  induction depth with
  | zero =>
    intro depth' n h
    exact absurd h (Nat.not_lt_zero _)
  | succ depth ih =>
    intro depth' n h h'
    cases depth' with
    | zero => exact absurd h' (Nat.not_lt_zero _)
    | succ depth' =>
      show n :: _ = n :: _
      congr 1
      apply List.flatMap_congr
      intro c hc
      have hlt := hrank n c hc
      exact ih depth' c (by omega) (by omega)

theorem preorder_lt {bound : Nat} (hchildren : ∀ p, ∀ c ∈ children p, c < bound) :
    ∀ (depth n : Nat), n < bound → ∀ x ∈ preorder children depth n, x < bound := by
  intro depth
  induction depth with
  | zero => exact nofun
  | succ depth ih =>
    intro n hn x hx
    rcases List.mem_cons.1 hx with rfl | hx
    · exact hn
    · obtain ⟨c, hc, hx⟩ := List.mem_flatMap.1 hx
      exact ih c (hchildren n c hc) x hx

/-- What passes from nodes to their children passes down the tree order. -/
theorem preorder_induction {P : Nat → Prop} (hstep : ∀ p, P p → ∀ c ∈ children p, P c) :
    ∀ {depth n x : Nat}, P n → x ∈ preorder children depth n → P x := by
  intro depth
  induction depth with
  | zero =>
    intro n x _ hx
    cases hx
  | succ depth ih =>
    intro n x hn hx
    rcases List.mem_cons.1 hx with rfl | hx
    · exact hn
    · obtain ⟨c, hc, hx⟩ := List.mem_flatMap.1 hx
      exact ih (hstep n hn c hc) hx

theorem mem_preorder_child (hrank : ∀ p, ∀ c ∈ children p, rank c < rank p) {p c : Nat}
    (hc : c ∈ children p) : ∀ {depth n : Nat}, rank n < depth → p ∈ preorder children depth n →
      c ∈ preorder children depth n := by
  intro depth
  induction depth with
  | zero =>
    intro n _ hp
    cases hp
  | succ depth ih =>
    intro n hn hp
    rcases List.mem_cons.1 hp with rfl | hp
    · have hlt := hrank p c hc
      obtain ⟨depth, rfl⟩ : ∃ d, depth = d + 1 := ⟨depth - 1, by omega⟩
      exact List.mem_cons_of_mem _ (List.mem_flatMap.2 ⟨c, hc, List.mem_cons_self ..⟩)
    · obtain ⟨c', hc', hp⟩ := List.mem_flatMap.1 hp
      have hlt := hrank n c' hc'
      exact List.mem_cons_of_mem _ (List.mem_flatMap.2 ⟨c', hc', ih (by omega) hp⟩)

/-- What exchanges of leaves leave of the tree order: all nodes but those
exchanged. -/
theorem Exchanging.filter_preorder {base t : NodeTree D} {extra : Nat → List Nat}
    {done pending : List Replacement} {keep : Nat → Bool} (hbase : IsForest base)
    (h : Exchanging base extra done pending t) (hextra : ∀ n, base.next ≤ n → extra n = [])
    (hold : ∀ r ∈ done,
      keep r.oldNode = false ∧ base.childNodes r.oldNode = [] ∧ extra r.oldNode = [])
    (hnew : ∀ r ∈ done, ∀ n ∈ r.newNodes, keep n = false) :
    ∀ depth n : Nat, n < base.next →
      (preorder t.childNodes depth n).filter keep =
        (preorder (fun p => base.childNodes p ++ extra p) depth n).filter keep := by
  intro depth
  induction depth with
  | zero =>
    intro n _
    rfl
  | succ depth ih =>
    intro n hn
    have hleaf : ∀ x, base.next ≤ x → preorder t.childNodes depth x =
        preorder (fun p => base.childNodes p ++ extra p) depth x := by
      intro x hx
      cases depth with
      | zero => rfl
      | succ depth =>
        show x :: (t.childNodes x).flatMap _ = x :: (base.childNodes x ++ extra x).flatMap _
        rw [h.leaf x hx, hbase.leaf hx, hextra x hx]
        rfl
    have hbelow : ((t.childNodes n).flatMap (preorder t.childNodes depth)).filter keep =
        ((base.childNodes n ++ extra n).flatMap
          (preorder (fun p => base.childNodes p ++ extra p) depth)).filter keep := by
      rw [h.childNodes n hn, List.filter_flatMap, List.filter_flatMap, List.flatMap_append,
        List.flatMap_append, List.flatMap_assoc]
      congr 1
      · apply List.flatMap_congr
        intro c hc
        have hlt := (hbase.allocated n c hc).2
        unfold expand
        cases hfound : done.find? fun r => r.oldNode = c with
        | none =>
          simp only
          rw [List.flatMap_singleton]
          exact ih c hlt
        | some r =>
          -- Neither the node exchanged nor those in its place are kept.
          have hr := List.mem_of_find?_eq_some hfound
          have heq := List.find?_some hfound
          obtain rfl : r.oldNode = c := of_decide_eq_true heq
          obtain ⟨hkeep, hnone, hnoextra⟩ := hold r hr
          have hright : (preorder (fun p => base.childNodes p ++ extra p) depth
              r.oldNode).filter keep = [] := by
            cases depth with
            | zero => rfl
            | succ depth =>
              show (r.oldNode :: (base.childNodes r.oldNode ++ extra r.oldNode).flatMap _).filter
                keep = []
              rw [hnone, hnoextra, List.append_nil, List.flatMap_nil,
                List.filter_cons_of_neg (by rw [hkeep]; exact nofun), List.filter_nil]
          rw [hright]
          simp only
          rw [List.flatMap_eq_nil_iff]
          intro x hx
          have hge := h.replaceable.fresh r (List.mem_append_left _ hr) x hx
          cases depth with
          | zero => rfl
          | succ depth =>
            show (x :: (t.childNodes x).flatMap _).filter keep = []
            rw [h.leaf x hge, List.flatMap_nil,
              List.filter_cons_of_neg (by rw [hnew r hr x hx]; exact nofun), List.filter_nil]
      · apply List.flatMap_congr
        intro x hx
        rw [hleaf x (h.extra_new n x hx).1]
    show (n :: _).filter keep = (n :: _).filter keep
    rw [List.filter_cons, List.filter_cons, hbelow]

/-- All of the nodes from `n` down, in tree order. -/
def treeOrder (children : Nat → List Nat) (rank : Nat → Nat) (n : Nat) : List Nat :=
  preorder children (rank n + 1) n

theorem treeOrder_eq (hrank : ∀ p, ∀ c ∈ children p, rank c < rank p) (n : Nat) :
    treeOrder children rank n = n :: (children n).flatMap (treeOrder children rank) := by
  show n :: _ = n :: _
  congr 1
  apply List.flatMap_congr
  intro c hc
  exact preorder_stable hrank _ _ c (hrank n c hc) (Nat.lt_succ_self _)

/-- `x` is `a`, or below it. -/
inductive Descends (parent : Nat → Option Nat) (a : Nat) : Nat → Prop where
  | self : Descends parent a a
  | child {x y : Nat} : Descends parent a y → parent x = some y → Descends parent a x

variable {parent : Nat → Option Nat}

theorem Descends.head {n c x : Nat} (h : Descends parent c x) (hc : parent c = some n) :
    Descends parent n x := by
  induction h with
  | self => exact .child .self hc
  | child _ hx ih => exact .child ih hx

theorem Descends.rank_le (hrank : ∀ c p, parent c = some p → rank c < rank p) {a x : Nat}
    (h : Descends parent a x) : rank x ≤ rank a := by
  induction h with
  | self => exact Nat.le_refl _
  | child _ hx ih => exact Nat.le_of_lt (Nat.lt_of_lt_of_le (hrank _ _ hx) ih)

/-- What is below two children of one node is below one of them only. -/
theorem Descends.unique (hrank : ∀ c p, parent c = some p → rank c < rank p) {n a b x : Nat}
    (ha : Descends parent a x) (hb : Descends parent b x) (hna : parent a = some n)
    (hnb : parent b = some n) : a = b := by
  induction ha with
  | self =>
    cases hb with
    | self => rfl
    | child hb hx =>
      rw [hna] at hx
      cases hx
      exact absurd (hb.rank_le hrank) (Nat.not_le_of_lt (hrank _ _ hnb))
  | child ha hx ih =>
    cases hb with
    | self =>
      rw [hnb] at hx
      cases hx
      exact absurd (ha.rank_le hrank) (Nat.not_le_of_lt (hrank _ _ hna))
    | child hb hx' =>
      rw [hx] at hx'
      cases hx'
      exact ih hb

theorem mem_preorder (hparent : ∀ p, ∀ c ∈ children p, parent c = some p) {x : Nat} :
    ∀ {depth n : Nat}, x ∈ preorder children depth n → Descends parent n x := by
  intro depth
  induction depth with
  | zero =>
    intro n h
    cases h
  | succ depth ih =>
    intro n h
    rcases List.mem_cons.1 h with rfl | h
    · exact .self
    · obtain ⟨c, hc, hx⟩ := List.mem_flatMap.1 h
      exact (ih hx).head (hparent n c hc)

/-- In a tree no node comes twice. -/
theorem preorder_nodup (hparent : ∀ p, ∀ c ∈ children p, parent c = some p)
    (hrank : ∀ c p, parent c = some p → rank c < rank p) (hnodup : ∀ p, (children p).Nodup) :
    ∀ depth n : Nat, (preorder children depth n).Nodup := by
  intro depth
  induction depth with
  | zero =>
    intro n
    exact List.nodup_nil
  | succ depth ih =>
    intro n
    refine List.nodup_cons.2 ⟨?_, ?_⟩
    · intro hmem
      obtain ⟨c, hc, hn⟩ := List.mem_flatMap.1 hmem
      have hle := (mem_preorder hparent hn).rank_le hrank
      exact absurd hle (Nat.not_le_of_lt (hrank _ _ (hparent n c hc)))
    · rw [List.nodup_flatMap]
      refine ⟨fun c _ => ih c, ?_⟩
      refine List.Pairwise.imp_of_mem ?_ (hnodup n)
      intro a b ha hb hne x hxa hxb
      exact hne ((mem_preorder hparent hxa).unique hrank (mem_preorder hparent hxb)
        (hparent n a ha) (hparent n b hb))

end

end NodeTree

end IosChrome.Lib

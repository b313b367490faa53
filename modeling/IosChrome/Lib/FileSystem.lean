import Mathlib.Data.List.Infix

/-!
# Directories and files

A file system over names `ν` and file contents `γ`: what there is at each path, with the
invariant that whatever exists is in a directory. The operations are those a file manager
offers; they return `none` where they are not possible, and nothing has changed then.

* `entry_of_createDirectory`, `entry_of_removeItem`, `entry_of_moveItem`: what is at a path
  after an operation that succeeded; `removeFiles` takes the files away that satisfy a predicate;
* `SameTree`: one path holds what another one held, with everything below it. It is what "the
  directory has been moved" means, and the operations keep it for paths they do not touch.
-/

namespace IosChrome.Lib

variable {ν γ : Type}

inductive Node (γ : Type) where
  | directory
  | file (contents : γ)
  deriving DecidableEq

def Node.isFile : Node γ → Bool
  | .directory => false
  | .file _ => true

/-- A file whose contents satisfy `p`. -/
def Node.holds (p : γ → Bool) : Node γ → Bool
  | .directory => false
  | .file contents => p contents

structure FileSystem (ν γ : Type) where
  entry : List ν → Option (Node γ)
  root : entry [] = some .directory
  parent : ∀ p n, entry (p ++ [n]) ≠ none → entry p = some .directory

namespace FileSystem

variable (fs : FileSystem ν γ)

def fileExists (p : List ν) : Bool := (fs.entry p).isSome

def directoryExists (p : List ν) : Bool := (fs.entry p).any fun e => !e.isFile

def empty : FileSystem ν γ where
  entry p := if p.isEmpty then some .directory else none
  root := rfl
  parent := by
    intro p n h
    rw [if_neg (by simp)] at h
    exact absurd rfl h

variable {fs}

/-- What is below nothing is nothing. -/
theorem entry_append_eq_none {p : List ν} (h : fs.entry p = none) (q : List ν) :
    fs.entry (p ++ q) = none := by
  induction q using List.reverseRecOn with
  | nil => rwa [List.append_nil]
  | append_singleton q n ih =>
    by_contra hne
    rw [← List.append_assoc] at hne
    have hdirectory := fs.parent _ _ hne
    rw [ih] at hdirectory
    cases hdirectory

theorem directoryExists_iff {p : List ν} :
    fs.directoryExists p = true ↔ fs.entry p = some .directory := by
  unfold directoryExists
  cases fs.entry p with
  | none => simp
  | some e => cases e <;> simp [Node.isFile]

/-- Files, wherever they are. -/
def removeFiles (fs : FileSystem ν γ) (purged : List ν → γ → Bool) : FileSystem ν γ where
  entry q := (fs.entry q).filter fun e => !e.holds (purged q)
  root := by
    rw [fs.root]
    rfl
  parent := by
    intro q n h
    have hdirectory := fs.parent q n fun hnone => h (by rw [hnone]; rfl)
    rw [hdirectory]
    rfl

theorem directoryExists_removeFiles (purged : List ν → γ → Bool) (q : List ν) :
    (fs.removeFiles purged).directoryExists q = fs.directoryExists q := by
  show ((fs.entry q).filter _).any _ = (fs.entry q).any _
  cases fs.entry q with
  | none => rfl
  | some e =>
    cases e with
    | directory => rfl
    | file contents =>
      unfold Option.filter
      dsimp only
      split <;> rfl

variable [DecidableEq ν]

/-- A directory and those it is in; a file in the way is an error. -/
def createDirectory (fs : FileSystem ν γ) (p : List ν) : Option (FileSystem ν γ) :=
  if p.inits.any fun q => (fs.entry q).any Node.isFile then none
  else some
    { entry := fun q => if q <+: p then some .directory else fs.entry q
      root := if_pos (List.nil_prefix)
      parent := by
        intro q n h
        by_cases hq : q <+: p
        · exact if_pos hq
        · rw [if_neg hq]
          rw [if_neg fun hn => hq ((List.prefix_append q [n]).trans hn)] at h
          exact fs.parent q n h }

/-- An item with everything below it. -/
def removeItem (fs : FileSystem ν γ) (p : List ν) : Option (FileSystem ν γ) :=
  if h : p = [] ∨ fs.fileExists p = false then none
  else some
    { entry := fun q => if p <+: q then none else fs.entry q
      root := by
        rw [if_neg fun hp => h (.inl (List.prefix_nil.1 hp))]
        exact fs.root
      parent := by
        intro q n hne
        have hn : ¬ p <+: q ++ [n] := fun hp => hne (if_pos hp)
        rw [if_neg hn] at hne
        rw [if_neg fun hp => hn (hp.trans (List.prefix_append q [n]))]
        exact fs.parent q n hne }

/-- What is where after a move. -/
def movedEntry (fs : FileSystem ν γ) (p d q : List ν) : Option (Node γ) :=
  if d <+: q then fs.entry (p ++ q.drop d.length)
  else if p <+: q then none
  else fs.entry q

/-- Below the destination is what was below the item. -/
theorem movedEntry_append (fs : FileSystem ν γ) (p d q : List ν) :
    movedEntry fs p d (d ++ q) = fs.entry (p ++ q) := by
  unfold movedEntry
  rw [if_pos (List.prefix_append d q), List.drop_left]

/-- An item with everything below it, to where there is nothing yet. -/
def moveItem (fs : FileSystem ν γ) (p d : List ν) : Option (FileSystem ν γ) :=
  if h : fs.fileExists p = true ∧ fs.fileExists d = false ∧
      (fs.entry d.dropLast).any (fun e => !e.isFile) = true ∧ ¬ p <+: d then
    some
      { entry := movedEntry fs p d
        root := by
          have hd : ¬ d <+: [] := by
            intro hnil
            have hroot := h.2.1
            rw [List.prefix_nil.1 hnil, fileExists, fs.root] at hroot
            cases hroot
          have hp : ¬ p <+: [] := fun hnil => h.2.2.2 (hnil.trans List.nil_prefix)
          unfold movedEntry
          rw [if_neg hd, if_neg hp]
          exact fs.root
        parent := by
          intro q n hne
          by_cases hq : d <+: q
          · obtain ⟨rest, rfl⟩ := hq
            rw [List.append_assoc, movedEntry_append, ← List.append_assoc] at hne
            rw [movedEntry_append]
            exact fs.parent _ n hne
          · by_cases hd : d <+: q ++ [n]
            · -- the directory of the destination
              obtain rfl : d = q ++ [n] := (List.prefix_concat_iff.1 hd).resolve_right hq
              have hdirectory := h.2.2.1
              rw [List.dropLast_concat] at hdirectory
              have hp : ¬ p <+: q := fun hp => h.2.2.2 (hp.trans (List.prefix_append q [n]))
              unfold movedEntry
              rw [if_neg hq, if_neg hp]
              cases hentry : fs.entry q with
              | none =>
                rw [hentry] at hdirectory
                cases hdirectory
              | some e =>
                cases e with
                | directory => rfl
                | file contents =>
                  rw [hentry] at hdirectory
                  cases hdirectory
            · unfold movedEntry at hne ⊢
              rw [if_neg hd] at hne
              have hn : ¬ p <+: q ++ [n] := fun hp => hne (if_pos hp)
              rw [if_neg hn] at hne
              rw [if_neg hq, if_neg fun hp => hn (hp.trans (List.prefix_append q [n]))]
              exact fs.parent q n hne }
  else none

/-! ## What is where after an operation -/

variable {fs' : FileSystem ν γ} {p d : List ν}

theorem entry_of_createDirectory (h : fs.createDirectory p = some fs') (q : List ν) :
    fs'.entry q = if q <+: p then some .directory else fs.entry q := by
  unfold createDirectory at h
  split at h
  · cases h
  · obtain rfl := Option.some.inj h
    rfl

theorem entry_of_removeItem (h : fs.removeItem p = some fs') (q : List ν) :
    fs'.entry q = if p <+: q then none else fs.entry q := by
  unfold removeItem at h
  split at h
  · cases h
  · obtain rfl := Option.some.inj h
    rfl

theorem entry_of_moveItem (h : fs.moveItem p d = some fs') (q : List ν) :
    fs'.entry q = movedEntry fs p d q := by
  unfold moveItem at h
  split at h
  · obtain rfl := Option.some.inj h
    rfl
  · cases h

theorem removeItem_isSome (hne : p ≠ []) (hp : fs.fileExists p = true) :
    ∃ fs', fs.removeItem p = some fs' := by
  unfold removeItem
  rw [dif_neg (by simp [hne, hp])]
  exact ⟨_, rfl⟩

/-- A move is possible from something to nothing in a directory, not into itself. -/
theorem moveItem_isSome (hp : fs.fileExists p = true) (hd : fs.entry d = none)
    (hparent : fs.entry d.dropLast = some .directory) (hinto : ¬ p <+: d) :
    ∃ fs', fs.moveItem p d = some fs' := by
  unfold moveItem
  rw [dif_pos ⟨hp, by rw [fileExists, hd]; rfl, by rw [hparent]; rfl, hinto⟩]
  exact ⟨_, rfl⟩

/-! ## Trees -/

/-- `d` holds in `fs'` what `p` holds in `fs`. -/
def SameTree (fs fs' : FileSystem ν γ) (p d : List ν) : Prop :=
  ∀ q, fs'.entry (d ++ q) = fs.entry (p ++ q)

omit [DecidableEq ν] in
theorem SameTree.refl (fs : FileSystem ν γ) (p : List ν) : SameTree fs fs p p :=
  fun _ => rfl

omit [DecidableEq ν] in
theorem SameTree.trans {fs₁ fs₂ fs₃ : FileSystem ν γ} {p q d : List ν}
    (h₁ : SameTree fs₁ fs₂ p q) (h₂ : SameTree fs₂ fs₃ q d) : SameTree fs₁ fs₃ p d :=
  fun r => (h₂ r).trans (h₁ r)

omit [DecidableEq ν] in
theorem SameTree.entry (h : SameTree fs fs' p d) : fs'.entry d = fs.entry p := by
  have hentry := h []
  rwa [List.append_nil, List.append_nil] at hentry

omit [DecidableEq ν] in
theorem SameTree.fileExists (h : SameTree fs fs' p d) : fs'.fileExists d = fs.fileExists p := by
  unfold FileSystem.fileExists
  rw [h.entry]

/-- A new directory leaves what is not above it. -/
theorem SameTree.createDirectory (h : fs.createDirectory p = some fs') {q : List ν}
    (hq : ¬ q <+: p) : SameTree fs fs' q q := by
  intro r
  rw [entry_of_createDirectory h, if_neg fun hp => hq ((List.prefix_append q r).trans hp)]

theorem SameTree.moveItem (h : fs.moveItem p d = some fs') : SameTree fs fs' p d := by
  intro q
  rw [entry_of_moveItem h, movedEntry_append]

/-- Paths of which neither is above the other. -/
def Apart (p q : List ν) : Prop := ¬ p <+: q ∧ ¬ q <+: p

omit [DecidableEq ν] in
theorem Apart.symm {q : List ν} (h : Apart p q) : Apart q p := And.symm h

omit [DecidableEq ν] in
theorem Apart.append {q : List ν} (h : Apart p q) (r : List ν) : ¬ p <+: q ++ r := by
  intro hp
  obtain hpq | hqp := List.prefix_or_prefix_of_prefix hp (List.prefix_append q r)
  · exact h.1 hpq
  · exact h.2 hqp

theorem SameTree.removeItem (h : fs.removeItem p = some fs') {q : List ν} (hq : Apart p q) :
    SameTree fs fs' q q := by
  intro r
  rw [entry_of_removeItem h, if_neg (hq.append r)]

theorem SameTree.moveItem_apart (h : fs.moveItem p d = some fs') {q : List ν} (hp : Apart p q)
    (hd : Apart d q) : SameTree fs fs' q q := by
  intro r
  rw [entry_of_moveItem h]
  unfold movedEntry
  rw [if_neg (hd.append r), if_neg (hp.append r)]

end FileSystem

end IosChrome.Lib

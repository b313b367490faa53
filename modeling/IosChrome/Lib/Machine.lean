import Mathlib.Data.List.Basic

/-!
# State machines and their runs

The components of this development are objects driven from outside: a call
arrives, the object moves to its next state, and what is claimed about it is
claimed of every order in which the calls may arrive. `Machine` is that shape
and nothing more: initial states, the precondition its callers keep (`pre`),
and a total step function.

A run is the list of calls it consists of. `Always P s as` says that `P` holds
of every step of the run `as` from `s`, so "a legal run" is `Always pre`, and
"a run none of whose steps does X" is `Always` of a condition on the state
before the step. The rules are the usual ones:

* `Run.invariant` / `Reachable.invariant`: what one legal step keeps, a whole
  run keeps;
* `Guarded.invariant`: the same for runs whose steps also meet a condition,
  for properties that only hold along such runs;
* `always_of_invariant`: an invariant that implies a property of each step;
* `always_iff_of_invariant`, `Guarded.always_iff`: two step properties that agree
  wherever the invariant holds, and an invariant that survives the steps with
  the property, agree along every legal run. It turns an exact condition on one
  step into an exact condition on runs.
-/

namespace IosChrome.Lib

universe u v

/-- A machine driven by calls `α` on states `σ`. -/
structure Machine (σ : Type u) (α : Type v) where
  init : σ → Prop
  pre : σ → α → Prop
  step : σ → α → σ

namespace Machine

variable {σ : Type u} {α : Type v} (M : Machine σ α)

/-- The state a run ends in. -/
def exec : σ → List α → σ
  | s, [] => s
  | s, a :: as => exec (M.step s a) as

/-- `P` holds of every step of the run. -/
def Always (P : σ → α → Prop) : σ → List α → Prop
  | _, [] => True
  | s, a :: as => P s a ∧ Always P (M.step s a) as

/-- The legal runs: every call is made where its precondition holds. -/
def Run (s : σ) (as : List α) : Prop := M.Always M.pre s as

/-- The states legal runs reach. -/
def Reachable (s : σ) : Prop :=
  ∃ s₀ as, M.init s₀ ∧ M.Run s₀ as ∧ M.exec s₀ as = s

@[simp] theorem exec_nil (s : σ) : M.exec s [] = s := rfl

@[simp] theorem exec_cons (s : σ) (a : α) (as : List α) :
    M.exec s (a :: as) = M.exec (M.step s a) as := rfl

@[simp] theorem always_nil (P : σ → α → Prop) (s : σ) : M.Always P s [] := trivial

@[simp] theorem always_cons (P : σ → α → Prop) (s : σ) (a : α) (as : List α) :
    M.Always P s (a :: as) ↔ P s a ∧ M.Always P (M.step s a) as := Iff.rfl

instance decidableAlways (P : σ → α → Prop) [∀ s a, Decidable (P s a)] :
    ∀ (s : σ) (as : List α), Decidable (M.Always P s as)
  | _, [] => isTrue trivial
  | s, a :: as => @instDecidableAnd _ _ _ (decidableAlways P (M.step s a) as)

instance [∀ s a, Decidable (M.pre s a)] (s : σ) (as : List α) : Decidable (M.Run s as) :=
  decidableAlways M M.pre s as

theorem exec_append : ∀ (s : σ) (as bs : List α),
    M.exec s (as ++ bs) = M.exec (M.exec s as) bs
  | _, [], _ => rfl
  | s, a :: as, bs => exec_append (M.step s a) as bs

theorem always_append {P : σ → α → Prop} : ∀ (s : σ) (as bs : List α),
    M.Always P s (as ++ bs) ↔ M.Always P s as ∧ M.Always P (M.exec s as) bs
  | _, [], _ => by simp only [List.nil_append, always_nil, exec_nil, true_and]
  | s, a :: as, bs => by
    rw [List.cons_append, always_cons, always_cons, exec_cons,
      always_append (M.step s a) as bs, and_assoc]

/-- What holds of every step holds of the steps of a run. -/
theorem always_of_forall {P : σ → α → Prop} (h : ∀ s a, P s a) : ∀ (s : σ) (as : List α),
    M.Always P s as
  | _, [] => trivial
  | s, a :: as => ⟨h s a, always_of_forall h (M.step s a) as⟩

variable {M}

theorem Always.and {P Q : σ → α → Prop} : ∀ {s : σ} {as : List α},
    M.Always P s as → M.Always Q s as → M.Always (fun s a => P s a ∧ Q s a) s as
  | _, [], _, _ => trivial
  | _, _ :: _, hp, hq => ⟨⟨hp.1, hq.1⟩, hp.2.and hq.2⟩

theorem Always.mono {P Q : σ → α → Prop} (h : ∀ s a, P s a → Q s a) :
    ∀ {s : σ} {as : List α}, M.Always P s as → M.Always Q s as
  | _, [], _ => trivial
  | s, a :: _, hp => ⟨h s a hp.1, hp.2.mono h⟩

/-- **Runs whose steps meet a condition keep what such steps keep.** -/
theorem Guarded.invariant {I : σ → Prop} {P : σ → α → Prop}
    (hstep : ∀ s a, I s → M.pre s a → P s a → I (M.step s a)) :
    ∀ {s : σ} {as : List α}, I s → M.Run s as → M.Always P s as → I (M.exec s as)
  | _, [], hI, _, _ => hI
  | s, a :: _, hI, hr, hp =>
    Guarded.invariant (s := M.step s a) hstep (hstep s a hI hr.1 hp.1) hr.2 hp.2

/-- **What one legal step keeps, a legal run keeps.** -/
theorem Run.invariant {I : σ → Prop}
    (hstep : ∀ s a, I s → M.pre s a → I (M.step s a))
    {s : σ} {as : List α} (hI : I s) (hr : M.Run s as) : I (M.exec s as) :=
  Guarded.invariant (P := M.pre) (fun s a hI hpre _ => hstep s a hI hpre) hI hr hr

/-- **An invariant holds in every reachable state.** -/
theorem Reachable.invariant {I : σ → Prop} (hinit : ∀ s, M.init s → I s)
    (hstep : ∀ s a, I s → M.pre s a → I (M.step s a))
    {s : σ} (h : M.Reachable s) : I s := by
  obtain ⟨s₀, as, h₀, hr, rfl⟩ := h
  exact Run.invariant hstep (hinit s₀ h₀) hr

/-- A legal run from a reachable state stays in the reachable states. -/
theorem Reachable.exec {s : σ} {as : List α} (h : M.Reachable s)
    (hr : M.Run s as) : M.Reachable (M.exec s as) := by
  obtain ⟨s₀, bs, h₀, hr₀, rfl⟩ := h
  exact ⟨s₀, bs ++ as, h₀, (always_append M s₀ bs as).2 ⟨hr₀, hr⟩,
    exec_append M s₀ bs as⟩

/-- An invariant that gives a property of each step gives it of every run. -/
theorem always_of_invariant {I : σ → Prop} {Q : σ → α → Prop}
    (hstep : ∀ s a, I s → M.pre s a → I (M.step s a))
    (hq : ∀ s a, I s → M.pre s a → Q s a) :
    ∀ {s : σ} {as : List α}, I s → M.Run s as → M.Always Q s as
  | _, [], _, _ => trivial
  | s, a :: _, hI, hr =>
    ⟨hq s a hI hr.1, always_of_invariant hstep hq (hstep s a hI hr.1) hr.2⟩

/-- The same for properties that only steps meeting a condition have. -/
theorem Guarded.always_of_invariant {I : σ → Prop} {P Q : σ → α → Prop}
    (hstep : ∀ s a, I s → M.pre s a → P s a → I (M.step s a))
    (hq : ∀ s a, I s → M.pre s a → P s a → Q s a) :
    ∀ {s : σ} {as : List α}, I s → M.Run s as → M.Always P s as → M.Always Q s as
  | _, [], _, _, _ => trivial
  | s, a :: _, hI, hr, hp =>
    ⟨hq s a hI hr.1 hp.1,
      Guarded.always_of_invariant hstep hq (hstep s a hI hr.1 hp.1) hr.2 hp.2⟩

/-- **An exact condition on one step is an exact condition on runs** along runs
whose steps also meet a condition `R`, as soon as the invariant under which the
two agree survives the good steps. -/
theorem Guarded.always_iff {I : σ → Prop} {P Q R : σ → α → Prop}
    (hiff : ∀ s a, I s → M.pre s a → R s a → (P s a ↔ Q s a))
    (hstep : ∀ s a, I s → M.pre s a → R s a → P s a → I (M.step s a)) :
    ∀ {s : σ} {as : List α}, I s → M.Run s as → M.Always R s as →
      (M.Always P s as ↔ M.Always Q s as)
  | _, [], _, _, _ => Iff.rfl
  | s, a :: as, hI, hr, hR => by
    have hhead := hiff s a hI hr.1 hR.1
    constructor
    · intro h
      exact ⟨hhead.1 h.1, (Guarded.always_iff hiff hstep
        (hstep s a hI hr.1 hR.1 h.1) hr.2 hR.2).1 h.2⟩
    · intro h
      have hp : P s a := hhead.2 h.1
      exact ⟨hp, (Guarded.always_iff hiff hstep
        (hstep s a hI hr.1 hR.1 hp) hr.2 hR.2).2 h.2⟩

/-- The same along every legal run. -/
theorem always_iff_of_invariant {I : σ → Prop} {P Q : σ → α → Prop}
    (hiff : ∀ s a, I s → M.pre s a → (P s a ↔ Q s a))
    (hstep : ∀ s a, I s → M.pre s a → P s a → I (M.step s a))
    {s : σ} {as : List α} (hI : I s) (hr : M.Run s as) : M.Always P s as ↔ M.Always Q s as :=
  Guarded.always_iff (R := M.pre) (fun s a hI hpre _ => hiff s a hI hpre)
    (fun s a hI hpre _ hp => hstep s a hI hpre hp) hI hr hr

end Machine

end IosChrome.Lib

import Mathlib.Data.List.Induction

/-!
# Logs of events

A log is the list of what has happened, and grows at its end. `WhenLogged log e P`
says that each time `e` happened, `P` held of what had happened before: a log that
has the property keeps it when something else is appended, and when `e` itself is,
if `P` holds of the log.
-/

namespace IosChrome.Lib

variable {α : Type}

/-- A split of a longer log is a split of the shorter one, or right before its last
event. -/
theorem concat_split {history pre post : List α} {last entry : α}
    (h : history ++ [last] = pre ++ entry :: post) :
    (post = [] ∧ history = pre ∧ last = entry) ∨
    ∃ post', post = post' ++ [last] ∧ history = pre ++ entry :: post' := by
  rcases List.eq_nil_or_concat post with rfl | ⟨post', last', rfl⟩
  · obtain ⟨hpre, hlast⟩ := List.append_inj' h rfl
    exact .inl ⟨rfl, hpre, (List.cons.inj hlast).1⟩
  · rw [List.concat_eq_append] at h ⊢
    rw [← List.cons_append, ← List.append_assoc] at h
    obtain ⟨hpre, hlast⟩ := List.append_inj' h rfl
    obtain rfl := (List.cons.inj hlast).1
    exact .inr ⟨post', rfl, hpre⟩

/-- Whenever the event happened, `P` held of the log before it. -/
def WhenLogged (log : List α) (event : α) (P : List α → Prop) : Prop :=
  ∀ before after, log = before ++ event :: after → P before

theorem WhenLogged.of_notMem {log : List α} {event : α} {P : List α → Prop} (h : event ∉ log) :
    WhenLogged log event P := by
  intro before after hlog
  exact absurd (hlog ▸ List.mem_append_right before List.mem_cons_self) h

theorem WhenLogged.concat_of_ne {log : List α} {event last : α} {P : List α → Prop}
    (h : WhenLogged log event P) (hne : last ≠ event) : WhenLogged (log ++ [last]) event P := by
  intro before after hlog
  rcases concat_split hlog with ⟨-, -, hlast⟩ | ⟨after', -, hlog'⟩
  · exact absurd hlast hne
  · exact h before after' hlog'

/-- Whatever is appended while `P` holds of the log. -/
theorem WhenLogged.concat {log : List α} {event last : α} {P : List α → Prop}
    (h : WhenLogged log event P) (hlast : P log) : WhenLogged (log ++ [last]) event P := by
  intro before after hlog
  rcases concat_split hlog with ⟨-, rfl, -⟩ | ⟨after', -, hlog'⟩
  · exact hlast
  · exact h before after' hlog'

end IosChrome.Lib

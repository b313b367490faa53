import Mathlib.Data.List.Basic

/-!
# Smoothed timestamps

`GetSmoothedTime` keeps a window of times it may already have returned. A time that falls into the
window is replaced by the microsecond behind the window, which grows by it, and a time outside
starts a new window. While the clock does not go back, the last time returned is the upper end of
the window, and the window grew by at most one microsecond for each call after the one that
started it (`Window`). Times are microseconds since the null time.
-/

namespace IosChrome.Navigation

/-- The water marks, which are null times at first. -/
structure TimeSmoother where
  lowWaterMark : Int := 0
  highWaterMark : Int := 0
  deriving DecidableEq

namespace TimeSmoother

/-- `GetSmoothedTime`. -/
def getSmoothedTime (s : TimeSmoother) (t : Int) : TimeSmoother × Int :=
  if s.lowWaterMark ≤ t ∧ t ≤ s.highWaterMark then
    -- In a run of duplicates, or just getting out of it.
    ({ s with highWaterMark := s.highWaterMark + 1 }, s.highWaterMark + 1)
  else
    ({ lowWaterMark := t, highWaterMark := t }, t)

/-- What the calls return, one after the other. -/
def smoothedTimes : TimeSmoother → List Int → List Int
  | _, [] => []
  | s, t :: times => (s.getSmoothedTime t).2 :: (s.getSmoothedTime t).1.smoothedTimes times

/-- After some calls, the last of them with the time `last`. -/
structure Window (s : TimeSmoother) (calls : Nat) (last : Int) : Prop where
  low_le : s.lowWaterMark ≤ last
  le_high : last ≤ s.highWaterMark
  span_lt : s.highWaterMark - s.lowWaterMark < calls

/-- A time behind the window starts a new one. -/
theorem getSmoothedTime_of_lt {s : TimeSmoother} {t : Int} (h : s.highWaterMark < t) :
    s.getSmoothedTime t = ({ lowWaterMark := t, highWaterMark := t }, t) := by
  rw [getSmoothedTime, if_neg]
  omega

/-- The first call, with a time after the null time. -/
theorem Window.first {t : Int} (h : 0 < t) :
    Window (getSmoothedTime {} t).1 1 t := by
  rw [getSmoothedTime_of_lt h]
  exact ⟨Int.le_refl t, Int.le_refl t, by dsimp only; omega⟩

/-- One more call, with a time that is not before the last one. -/
theorem Window.getSmoothedTime {s : TimeSmoother} {calls : Nat} {last t : Int}
    (hs : Window s calls last) (ht : last ≤ t) :
    Window (s.getSmoothedTime t).1 (calls + 1) t ∧
      (s.getSmoothedTime t).1.highWaterMark = (s.getSmoothedTime t).2 ∧
      s.highWaterMark < (s.getSmoothedTime t).2 ∧ t ≤ (s.getSmoothedTime t).2 ∧
      (s.getSmoothedTime t).2 - t < calls + 1 := by
  obtain ⟨hlow, hhigh, hspan⟩ := hs
  rcases Int.lt_or_le s.highWaterMark t with hlt | hle
  · rw [getSmoothedTime_of_lt hlt]
    exact ⟨⟨Int.le_refl t, Int.le_refl t, by dsimp only; omega⟩, rfl, hlt, Int.le_refl t, by dsimp only; omega⟩
  · have hwindow : s.lowWaterMark ≤ t ∧ t ≤ s.highWaterMark := ⟨by omega, hle⟩
    rw [TimeSmoother.getSmoothedTime, if_pos hwindow]
    -- What is returned exceeds `t` by no more than the length of the window it is behind.
    refine ⟨⟨hwindow.1, ?_, ?_⟩, rfl, ?_, ?_, ?_⟩ <;> dsimp only <;> omega

/-- All further calls return times behind the window, in order, and close to what they were given.
The induction is on the times, with the window after each of them. -/
theorem Window.smoothedTimes : ∀ {times : List Int} {s : TimeSmoother} {calls : Nat} {last : Int},
    Window s calls last → (last :: times).Pairwise (· ≤ ·) →
    (s.highWaterMark :: s.smoothedTimes times).Pairwise (· < ·) ∧
      ∀ (k : Nat) (t u : Int), times[k]? = some t → (s.smoothedTimes times)[k]? = some u →
        t ≤ u ∧ u - t < calls + k + 1
  | [], s, _, _, _, _ => ⟨List.pairwise_singleton _ _, fun _ _ _ ht _ => by cases ht⟩
  | t :: times, s, calls, last, hs, hmono => by
    have hsorted := List.pairwise_cons.1 hmono
    obtain ⟨hs', hhigh, hlt, hle, hdrift⟩ :=
      hs.getSmoothedTime (hsorted.1 t List.mem_cons_self)
    obtain ⟨hpairwise, hclose⟩ := Window.smoothedTimes hs' hsorted.2
    rw [hhigh] at hpairwise
    refine ⟨List.pairwise_cons.2 ⟨?_, hpairwise⟩, ?_⟩
    · intro u hu
      rcases List.mem_cons.1 hu with rfl | hu
      · exact hlt
      · exact Int.lt_trans hlt ((List.pairwise_cons.1 hpairwise).1 u hu)
    · intro k t' u ht' hu
      cases k with
      | zero =>
        cases ht'
        cases hu
        exact ⟨hle, by omega⟩
      | succ k =>
        have hrest := hclose k t' u ht' hu
        exact ⟨hrest.1, by omega⟩

@[simp] theorem length_smoothedTimes : ∀ (s : TimeSmoother) (times : List Int),
    (s.smoothedTimes times).length = times.length
  | _, [] => rfl
  | s, t :: times => congrArg (· + 1) (length_smoothedTimes (s.getSmoothedTime t).1 times)

/-- **While the clock does not go back, the times returned are distinct and in order**, none is
before the time it was returned for, and with the `n`th call it is less than `n` microseconds
after it. -/
theorem smoothedTimes_increase_and_stay_close (times : List Int)
    (hafter : ∀ t ∈ times, 0 < t) (hmono : times.Pairwise (· ≤ ·)) :
    (smoothedTimes {} times).length = times.length ∧
      (smoothedTimes {} times).Pairwise (· < ·) ∧
      ∀ (k : Nat) (t u : Int), times[k]? = some t → (smoothedTimes {} times)[k]? = some u →
        t ≤ u ∧ u - t < (k + 1 : Nat) := by
  refine ⟨length_smoothedTimes {} times, ?_⟩
  cases times with
  | nil => exact ⟨List.Pairwise.nil, fun _ _ _ ht => by cases ht⟩
  | cons t times =>
    -- The first call starts a window; the null time is before it.
    have hfirst : 0 < t := hafter t List.mem_cons_self
    obtain ⟨hpairwise, hclose⟩ := (Window.first hfirst).smoothedTimes hmono
    rw [smoothedTimes]
    rw [getSmoothedTime_of_lt hfirst] at hpairwise hclose ⊢
    refine ⟨hpairwise, ?_⟩
    intro k t' u ht' hu
    cases k with
    | zero =>
      cases ht'
      cases hu
      exact ⟨Int.le_refl t, by omega⟩
    | succ k =>
      have hrest := hclose k t' u ht' hu
      exact ⟨hrest.1, by omega⟩

theorem smoothedTimes_increase_and_stay_close_duplicates :
    (smoothedTimes {} [5, 5, 5, 6, 9]).length = 5 ∧
      (smoothedTimes {} [5, 5, 5, 6, 9]).Pairwise (· < ·) ∧
      ∀ (k : Nat) (t u : Int), [5, 5, 5, 6, 9][k]? = some t →
        (smoothedTimes {} [5, 5, 5, 6, 9])[k]? = some u → t ≤ u ∧ u - t < (k + 1 : Nat) :=
  smoothedTimes_increase_and_stay_close [5, 5, 5, 6, 9] (by decide) (by decide)

end TimeSmoother

end IosChrome.Navigation

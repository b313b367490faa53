import Mathlib.Tactic.Linarith
import IosChrome.Lib.Machine
import IosChrome.Fullscreen.FullscreenModel

/-!
# A disabled fullscreen shows the toolbar

While fullscreen is disabled the toolbar is completely visible: the progress is
1. `Bounded` holds in every state: the progress and all that running animators
can make of it lie between 0 and 1. `Shown` is the rest of the contract, with
the fact that carries it: a disabled model has no animator of the mediator.

Two things break it, and `toolbar_visible_iff` says that nothing else does. An
animator that was stopped before it had moved is still running; if it hides the
toolbar and completes while the model is disabled, it hides the toolbar of a
disabled model (`forgottenAnimator_hides`). And a progress that is nearly 1
when the model is disabled stays what it is, as `SetProgress` takes it for 1.
-/

namespace IosChrome.Fullscreen

open IosChrome.Lib

/-! ## The events -/

/-- An animator that runs: the mediator's, or one it has forgotten. -/
inductive Running where
  | mediators
  | forgotten (index : Nat)
  deriving DecidableEq

inductive FullscreenEvent where
  | incrementDisabledCounter
  | decrementDisabledCounter
  | resetForNavigation
  | ignoreRemainderOfCurrentScroll
  | setCollapsedToolbarHeight (height : CGFloat)
  | setExpandedToolbarHeight (height : CGFloat)
  | setBottomToolbarHeight (height : CGFloat)
  | setScrollViewHeight (height : CGFloat)
  | setContentHeight (height : CGFloat)
  | setTopContentInset (inset : CGFloat)
  | setYContentOffset (offset : CGFloat)
  /-- A scroll made by an observer of the model during its callback. -/
  | setYContentOffsetInCallback (offset : CGFloat)
  | setScrollViewIsScrolling (scrolling : Bool)
  | setScrollViewIsZooming (zooming : Bool)
  | setScrollViewIsDragging (dragging : Bool)
  | setResizesScrollView (resizes : Bool)
  | setWebViewSafeAreaInsets (insets : UIEdgeInsets)
  | setFreezeToolbarHeight (freeze : Bool)
  | enterFullscreen
  | exitFullscreen
  | animatorAdvances (which : Running) (fraction : Fraction)
  | animatorCompletes (which : Running)
  deriving DecidableEq

namespace FullscreenState

def running (s : FullscreenState) : Running → Option FullscreenAnimator
  | .mediators => s.animator
  | .forgotten index => s.forgotten[index]?

def advance (s : FullscreenState) (fraction : Fraction) : Running → FullscreenState
  | .mediators =>
    { s with animator := s.animator.map fun a => { a with fractionComplete := fraction } }
  | .forgotten index =>
    { s with
      forgotten := s.forgotten.modify index fun a => { a with fractionComplete := fraction } }

/-- The completion block of a forgotten animator clears `animator_` as well, and
the animator that was there goes on without the mediator. -/
def complete (s : FullscreenState) (which : Running) : FullscreenState :=
  match s.running which with
  | none => s
  | some animator =>
    match which with
    | .mediators => s.animationCompleted animator.style
    | .forgotten index =>
      animationCompleted animator.style
        { s with forgotten := s.forgotten.eraseIdx index ++ s.animator.toList }

def step (solve : Fraction → Fraction) (s : FullscreenState) : FullscreenEvent → FullscreenState
  | .incrementDisabledCounter => s.incrementDisabledCounter solve
  | .decrementDisabledCounter => s.decrementDisabledCounter solve
  | .resetForNavigation => s.resetForNavigation solve
  | .ignoreRemainderOfCurrentScroll =>
    { s with model := s.model.ignoreRemainderOfCurrentScroll }
  | .setCollapsedToolbarHeight height => s.setCollapsedToolbarHeight height
  | .setExpandedToolbarHeight height => s.setExpandedToolbarHeight height
  | .setBottomToolbarHeight height => s.setBottomToolbarHeight height
  | .setScrollViewHeight height => s.setScrollViewHeight solve height
  | .setContentHeight height => s.setContentHeight solve height
  | .setTopContentInset inset => s.setTopContentInset inset
  | .setYContentOffset offset => s.setYContentOffset solve offset
  | .setYContentOffsetInCallback offset => s.duringCallback (setYContentOffset solve offset)
  | .setScrollViewIsScrolling scrolling => s.setScrollViewIsScrolling solve scrolling
  | .setScrollViewIsZooming zooming => s.setScrollViewIsZooming zooming
  | .setScrollViewIsDragging dragging => s.setScrollViewIsDragging solve dragging
  | .setResizesScrollView resizes => s.setResizesScrollView resizes
  | .setWebViewSafeAreaInsets insets => s.setWebViewSafeAreaInsets solve insets
  | .setFreezeToolbarHeight freeze => s.setFreezeToolbarHeight freeze
  | .enterFullscreen => s.enterFullscreen solve
  | .exitFullscreen => s.exitFullscreen solve
  | .animatorAdvances which fraction => s.advance fraction which
  | .animatorCompletes which => s.complete which

/-- A caller that decrements has incremented before, and the model itself holds
one count while the content is short. -/
def Pre (s : FullscreenState) : FullscreenEvent → Prop
  | .decrementDisabledCounter =>
    (if s.model.disabledForShortContent then 1 else 0) < s.model.disabledCounter
  | .animatorCompletes which => s.running which ≠ none
  | _ => True

def machine (solve : Fraction → Fraction) : Machine FullscreenState FullscreenEvent :=
  ⟨(· = start), Pre, step solve⟩

/-- **The toolbar's contract**: the progress is a fraction, and while the model
is disabled the toolbar is completely visible. -/
structure ToolbarVisible (s : FullscreenState) : Prop where
  nonneg : 0 ≤ s.model.progress
  le_one : s.model.progress ≤ 1
  disabled : s.model.enabled = false → s.model.progress = 1

end FullscreenState

/-! ## When an event disables the model -/

/-- The content height would disable the model. -/
def FullscreenModel.disabledByContent (model : FullscreenModel) : Bool :=
  !model.scrolling && model.enabled && !model.disabledForShortContent && model.contentIsShort

namespace FullscreenState

/-- The event takes the disabled counter from 0 to 1. -/
def disables (s : FullscreenState) : FullscreenEvent → Bool
  | .incrementDisabledCounter => s.model.enabled
  | .setScrollViewHeight height =>
    { s.model with scrollViewHeight := height }.disabledByContent
  | .setContentHeight height => { s.model with contentHeight := height }.disabledByContent
  | .setScrollViewIsDragging dragging =>
    !s.model.dragging && dragging && s.model.disabledByContent
  | .setWebViewSafeAreaInsets insets =>
    s.model.safeAreaInsets ≠ insets &&
      { s.model with safeAreaInsets := insets }.disabledByContent
  | _ => false

variable (solve : Fraction → Fraction)

/-- The progress with the mediator's animator stopped where it is. -/
def progressWhenStopped (s : FullscreenState) : CGFloat :=
  match s.animator with
  | none => s.model.progress
  | some animator => animator.currentProgress solve

/-- The progress is 1 or can be told from 1. -/
def NotNearlyOne (progress : CGFloat) : Prop :=
  progress = 1 ∨ epsilon < |progress - 1|

/-- No animator that hides the toolbar completes in a disabled model, and a
model that is disabled has not a progress that is nearly 1. -/
def KeepsToolbar (s : FullscreenState) : FullscreenEvent → Prop
  | .animatorCompletes which => s.model.enabled = true ∨
      ∀ animator, s.running which = some animator → animator.style = .exitFullscreen
  | event => s.disables event = true → NotNearlyOne (s.progressWhenStopped solve)

/-! ## What every state keeps -/

/-- An animation that starts at a fraction stays among the fractions. -/
def StartsInRange (animator : FullscreenAnimator) : Prop :=
  0 ≤ animator.startProgress ∧ animator.startProgress ≤ 1

structure InRange (s : FullscreenState) : Prop where
  nonneg : 0 ≤ s.model.progress
  le_one : s.model.progress ≤ 1
  animator : ∀ animator, s.animator = some animator → StartsInRange animator
  forgotten : ∀ animator ∈ s.forgotten, StartsInRange animator

/-- What holds in every state. -/
structure Bounded (s : FullscreenState) : Prop extends InRange s where
  counted : s.model.disabledForShortContent = true → 0 < s.model.disabledCounter

/-- The toolbar of a disabled model is visible, and no animator of the mediator
is about to change that. -/
def Shown (s : FullscreenState) : Prop :=
  s.model.enabled = false → s.model.progress = 1 ∧ s.animator = none

/-- The invariant of the runs that keep the contract. -/
structure Inv (s : FullscreenState) : Prop extends Bounded s where
  shown : Shown s

/-- The other fields of the model have no part in it. -/
theorem Inv.withModel {s : FullscreenState} (h : Inv s) (model : FullscreenModel)
    (hprogress : model.progress = s.model.progress)
    (hcounter : model.disabledCounter = s.model.disabledCounter)
    (hshort : model.disabledForShortContent = s.model.disabledForShortContent) :
    Inv { s with model := model } := by
  have henabled : model.enabled = s.model.enabled := by
    unfold FullscreenModel.enabled
    rw [hcounter]
  refine ⟨⟨⟨?_, ?_, h.animator, h.forgotten⟩, ?_⟩, ?_⟩
  · exact hprogress ▸ h.nonneg
  · exact hprogress ▸ h.le_one
  · show model.disabledForShortContent = true → 0 < model.disabledCounter
    rw [hshort, hcounter]
    exact h.counted
  · show model.enabled = false → model.progress = 1 ∧ s.animator = none
    rw [henabled, hprogress]
    exact h.shown

theorem currentProgress_mem {animator : FullscreenAnimator} (h : StartsInRange animator) :
    0 ≤ animator.currentProgress solve ∧ animator.currentProgress solve ≤ 1 := by
  obtain ⟨h0, h1⟩ := h
  obtain ⟨hf0, hf1⟩ := (solve animator.fractionComplete).2
  unfold FullscreenAnimator.currentProgress FullscreenAnimator.finalProgress
  generalize (solve animator.fractionComplete).1 = f at hf0 hf1
  cases animator.style with
  | enterFullscreen =>
    have hleft : 0 ≤ animator.startProgress * (1 - f) := mul_nonneg h0 (by linarith)
    have hright : animator.startProgress * (1 - f) ≤ 1 :=
      mul_le_one₀ h1 (by linarith) (by linarith)
    simp only [getFinalFullscreenProgressForAnimation]
    constructor <;> linarith
  | exitFullscreen =>
    have hleft : 0 ≤ f * (1 - animator.startProgress) := mul_nonneg hf0 (by linarith)
    have hright : f * (1 - animator.startProgress) ≤ 1 - animator.startProgress :=
      mul_le_of_le_one_left (by linarith) hf1
    simp only [getFinalFullscreenProgressForAnimation]
    constructor <;> linarith

variable {solve} {s : FullscreenState}

theorem Bounded.progressWhenStopped (h : Bounded s) :
    0 ≤ s.progressWhenStopped solve ∧ s.progressWhenStopped solve ≤ 1 := by
  unfold FullscreenState.progressWhenStopped
  cases ha : s.animator with
  | none => exact ⟨h.nonneg, h.le_one⟩
  | some animator => exact currentProgress_mem solve (h.animator animator ha)

/-! ## Stopping and starting animators -/

theorem stopAnimating_of_none (updateModel : Bool) (ha : s.animator = none) :
    s.stopAnimating solve updateModel = s := by
  unfold stopAnimating
  rw [ha]

@[simp] theorem stopAnimating_animator (updateModel : Bool) :
    (s.stopAnimating solve updateModel).animator = none := by
  unfold stopAnimating
  cases ha : s.animator with
  | none => exact ha
  | some animator => rfl

@[simp] theorem stopAnimating_progress :
    (s.stopAnimating solve true).model.progress = s.progressWhenStopped solve := by
  unfold stopAnimating FullscreenState.progressWhenStopped
  cases s.animator <;> rfl

@[simp] theorem stopAnimating_kept_progress :
    (s.stopAnimating solve false).model.progress = s.model.progress := by
  unfold stopAnimating
  cases s.animator <;> rfl

@[simp] theorem stopAnimating_counter (updateModel : Bool) :
    (s.stopAnimating solve updateModel).model.disabledCounter = s.model.disabledCounter := by
  unfold stopAnimating
  cases s.animator <;> cases updateModel <;> rfl

@[simp] theorem stopAnimating_short (updateModel : Bool) :
    (s.stopAnimating solve updateModel).model.disabledForShortContent =
      s.model.disabledForShortContent := by
  unfold stopAnimating
  cases s.animator <;> cases updateModel <;> rfl

theorem stopAnimating_forgotten (updateModel : Bool) {animator : FullscreenAnimator}
    (h : animator ∈ (s.stopAnimating solve updateModel).forgotten) :
    animator ∈ s.forgotten ∨ s.animator = some animator := by
  unfold stopAnimating at h
  cases ha : s.animator with
  | none =>
    rw [ha] at h
    exact Or.inl h
  | some held =>
    rw [ha] at h
    by_cases hstill : held.currentProgress solve = held.startProgress
    · simp only [if_pos hstill, List.mem_append, List.mem_singleton] at h
      rcases h with h | rfl
      · exact Or.inl h
      · exact Or.inr rfl
    · simp only [if_neg hstill] at h
      exact Or.inl h

theorem Bounded.stopAnimating (h : Bounded s) (updateModel : Bool) :
    Bounded (s.stopAnimating solve updateModel) := by
  have hprogress : 0 ≤ (s.stopAnimating solve updateModel).model.progress ∧
      (s.stopAnimating solve updateModel).model.progress ≤ 1 := by
    cases updateModel with
    | true =>
      rw [stopAnimating_progress]
      exact h.progressWhenStopped
    | false =>
      rw [stopAnimating_kept_progress]
      exact ⟨h.nonneg, h.le_one⟩
  refine ⟨⟨hprogress.1, hprogress.2, ?_, ?_⟩, ?_⟩
  · intro animator ha
    rw [stopAnimating_animator] at ha
    cases ha
  · intro animator hmem
    rcases stopAnimating_forgotten updateModel hmem with hmem | ha
    · exact h.forgotten animator hmem
    · exact h.animator animator ha
  · rw [stopAnimating_short, stopAnimating_counter]
    exact h.counted

theorem Inv.stopAnimating (h : Inv s) (updateModel : Bool) :
    Inv (s.stopAnimating solve updateModel) := by
  refine ⟨h.toBounded.stopAnimating updateModel, ?_⟩
  intro hdisabled
  have hdisabled' : s.model.enabled = false := by
    unfold FullscreenModel.enabled at hdisabled ⊢
    rwa [stopAnimating_counter] at hdisabled
  rw [stopAnimating_of_none updateModel (h.shown hdisabled').2]
  exact h.shown hdisabled'

/-- An animation may start unless it hides the toolbar of a disabled model. -/
theorem Inv.animateWithStyle (h : Inv s) {style : FullscreenAnimatorStyle}
    (hstyle : s.model.enabled = true ∨ style = .exitFullscreen) :
    Inv (s.animateWithStyle solve style) := by
  unfold FullscreenState.animateWithStyle
  by_cases hsame : s.animator.map FullscreenAnimator.style = some style
  · rw [if_pos hsame]
    exact h
  · rw [if_neg hsame]
    have hstopped : Inv (s.stopAnimating solve true) := h.stopAnimating true
    by_cases hthere : areCGFloatsEqual (s.stopAnimating solve true).model.progress
        (getFinalFullscreenProgressForAnimation style) = true
    · simp only [if_pos hthere]
      exact hstopped
    · simp only [if_neg hthere]
      refine ⟨⟨⟨hstopped.nonneg, hstopped.le_one, ?_, hstopped.forgotten⟩, hstopped.counted⟩, ?_⟩
      · intro animator ha
        obtain rfl := Option.some.inj ha
        exact ⟨hstopped.nonneg, hstopped.le_one⟩
      · -- a disabled model is where the animation would take it
        intro hdisabled
        have hone : (s.stopAnimating solve true).model.progress = 1 := (hstopped.shown hdisabled).1
        have hdisabled' : s.model.enabled = false := by
          unfold FullscreenModel.enabled at hdisabled ⊢
          simpa using hdisabled
        rcases hstyle with henabled | rfl
        · rw [hdisabled'] at henabled
          cases henabled
        · rw [hone] at hthere
          exact absurd (by decide +kernel) hthere

/-! ## The functions of the model -/

theorem Inv.duringCallback {callback : FullscreenState → FullscreenState}
    (hcallback : ∀ s, Inv s → Inv (callback s)) (h : Inv s) : Inv (s.duringCallback callback) := by
  have hcalled := hcallback
    { s with model :=
        { s.model with observerCallbackCount := s.model.observerCallbackCount + 1 } }
    (h.withModel _ rfl rfl rfl)
  exact hcalled.withModel _ rfl rfl rfl

theorem clamp_mem (progress : CGFloat) :
    0 ≤ max 0 (min 1 progress) ∧ max 0 (min 1 progress) ≤ 1 :=
  ⟨le_max_left _ _, max_le (by decide) (min_le_left _ _)⟩

theorem clamp_of_one_le {progress : CGFloat} (h : 1 ≤ progress) :
    max 0 (min 1 progress) = 1 := by
  rw [min_eq_left h]
  exact max_eq_right (by decide)

theorem areCGFloatsEqual_self (a : CGFloat) : areCGFloatsEqual a a = true := by
  have hself : |a - a| ≤ epsilon := by
    rw [sub_self, abs_zero]
    decide +kernel
  exact decide_eq_true hself

theorem Inv.setProgress (h : Inv s) {progress : CGFloat}
    (hto : s.model.enabled = true ∨ 1 ≤ progress) : Inv (s.setProgress solve progress) := by
  unfold FullscreenState.setProgress
  by_cases hsame : areCGFloatsEqual s.model.progress (max 0 (min 1 progress)) = true
  · simp only [if_pos hsame]
    exact h
  · simp only [if_neg hsame]
    obtain ⟨h0, h1⟩ := clamp_mem progress
    refine Inv.duringCallback (fun _ h => h.stopAnimating true)
      ⟨⟨⟨h0, h1, h.animator, h.forgotten⟩, h.counted⟩, ?_⟩
    intro hdisabled
    rcases hto with henabled | hone
    · rw [show s.model.enabled = false from hdisabled] at henabled
      cases henabled
    · -- a disabled model is at 1 already
      rw [clamp_of_one_le hone, (h.shown hdisabled).1] at hsame
      exact absurd (areCGFloatsEqual_self 1) hsame

theorem Inv.updateBaseOffset (h : Inv s) : Inv s.updateBaseOffset :=
  h.withModel _ rfl rfl rfl

theorem Inv.updateProgress (h : Inv s) (henabled : s.model.enabled = true) :
    Inv (s.updateProgress solve) := by
  unfold FullscreenState.updateProgress
  cases s.model.baseOffset with
  | none => exact h.setProgress (Or.inl henabled)
  | some baseOffset => exact h.setProgress (Or.inl henabled)

/-- A disabled model only records where the scroll begins. -/
theorem actionForScrollFromOffset_of_disabled {model : FullscreenModel}
    (hdisabled : model.enabled = false) (fromOffset : CGFloat) :
    model.actionForScrollFromOffset fromOffset = .kUpdateBaseOffset := by
  unfold FullscreenModel.actionForScrollFromOffset
  rw [hdisabled]
  rfl

theorem Inv.setYContentOffset (h : Inv s) (offset : CGFloat) :
    Inv (s.setYContentOffset solve offset) := by
  have hscrolled : Inv { s with model := { s.model with yContentOffset := offset } } :=
    h.withModel _ rfl rfl rfl
  unfold FullscreenState.setYContentOffset
  by_cases henabled : s.model.enabled = true
  · dsimp only
    cases FullscreenModel.actionForScrollFromOffset _ _ with
    | kIgnore => exact hscrolled
    | kUpdateBaseOffset => exact hscrolled.updateBaseOffset
    | kUpdateProgress => exact hscrolled.updateProgress henabled
    | kUpdateBaseOffsetAndProgress =>
      exact hscrolled.updateBaseOffset.updateProgress henabled
  · have hdisabled : { s.model with yContentOffset := offset }.enabled = false :=
      Bool.eq_false_iff.2 henabled
    simp only [actionForScrollFromOffset_of_disabled hdisabled]
    exact hscrolled.updateBaseOffset

theorem Inv.exitFullscreen (h : Inv s) : Inv (s.exitFullscreen solve) := by
  refine Inv.animateWithStyle ?_ (Or.inr rfl)
  unfold FullscreenModel.ignoreRemainderOfCurrentScroll
  by_cases hscrolling : s.model.scrolling = true
  · rw [hscrolling]
    exact h.withModel _ rfl rfl rfl
  · rw [Bool.eq_false_iff.2 hscrolling]
    exact h

theorem Inv.enterFullscreen (h : Inv s) : Inv (s.enterFullscreen solve) := by
  unfold FullscreenState.enterFullscreen
  by_cases henabled : s.model.enabled = true
  · rw [if_pos henabled]
    exact h.animateWithStyle (Or.inl henabled)
  · rw [if_neg henabled]
    exact h

theorem Inv.scrollEventStarted (h : Inv s) : Inv (s.fullscreenModelScrollEventStarted solve) := by
  have hstopped : Inv (s.stopAnimating solve true) := h.stopAnimating true
  unfold fullscreenModelScrollEventStarted
  by_cases hcollapsed : ((s.stopAnimating solve true).model.isScrolledToBottom &&
      areCGFloatsEqual (s.stopAnimating solve true).model.progress 0 &&
      (s.stopAnimating solve true).model.canCollapseToolbar) = true
  · simp only [if_pos hcollapsed]
    exact hstopped.exitFullscreen
  · simp only [if_neg hcollapsed]
    exact hstopped

/-- The end of a scroll hides the toolbar only where it is less than half
visible, so not of a disabled model. -/
theorem Inv.scrollEventEnded (h : Inv s) : Inv (s.fullscreenModelScrollEventEnded solve) := by
  unfold fullscreenModelScrollEventEnded
  by_cases hhalf : s.model.progress ≥ 1 / 2
  · rw [if_pos hhalf]
    exact h.animateWithStyle (Or.inr rfl)
  · rw [if_neg hhalf]
    refine h.animateWithStyle (Or.inl ?_)
    by_contra hdisabled
    have hone := (h.shown (Bool.eq_false_iff.2 hdisabled)).1
    rw [hone] at hhalf
    exact hhalf (by decide +kernel)

theorem Inv.setScrollViewIsScrolling (h : Inv s) (scrolling : Bool) :
    Inv (s.setScrollViewIsScrolling solve scrolling) := by
  unfold FullscreenState.setScrollViewIsScrolling
  by_cases hsame : s.model.scrolling = scrolling
  · rw [if_pos hsame]
    exact h
  · rw [if_neg hsame]
    cases scrolling with
    | true =>
      exact Inv.duringCallback (fun _ h => h.scrollEventStarted)
        (h.withModel _ rfl rfl rfl)
    | false =>
      exact Inv.duringCallback (fun _ h => h.scrollEventEnded)
        (h.withModel _ rfl rfl rfl)

theorem Inv.resetForNavigation (h : Inv s) : Inv (s.resetForNavigation solve) := by
  have hreset : Inv { s with model :=
      { s.model with progress := 1, scrolling := false, baseOffset := none } } :=
    ⟨⟨⟨by show (0 : ℚ) ≤ 1; decide, le_refl _, h.animator, h.forgotten⟩, h.counted⟩,
      fun hdisabled => ⟨rfl, (h.shown hdisabled).2⟩⟩
  exact hreset.duringCallback fun _ h => h.stopAnimating false

theorem Inv.heightsUpdated (h : Inv s) :
    Inv (FullscreenState.duringCallback fullscreenModelToolbarHeightsUpdated s) :=
  h.duringCallback fun _ h => h

theorem Inv.setCollapsedToolbarHeight (h : Inv s) (height : CGFloat) :
    Inv (s.setCollapsedToolbarHeight height) := by
  unfold FullscreenState.setCollapsedToolbarHeight
  by_cases hsame : areCGFloatsEqual s.model.getCollapsedToolbarHeight height = true
  · rw [if_pos hsame]
    exact h
  · rw [if_neg hsame]
    exact Inv.heightsUpdated (h.withModel _ rfl rfl rfl)

theorem Inv.setExpandedToolbarHeight (h : Inv s) (height : CGFloat) :
    Inv (s.setExpandedToolbarHeight height) := by
  unfold FullscreenState.setExpandedToolbarHeight
  by_cases hsame : areCGFloatsEqual s.model.getExpandedToolbarHeight height = true
  · rw [if_pos hsame]
    exact h
  · rw [if_neg hsame]
    exact Inv.heightsUpdated (h.withModel _ rfl rfl rfl)

theorem Inv.setBottomToolbarHeight (h : Inv s) (height : CGFloat) :
    Inv (s.setBottomToolbarHeight height) := by
  unfold FullscreenState.setBottomToolbarHeight
  by_cases hsame : areCGFloatsEqual s.model.bottomToolbarHeight height = true
  · rw [if_pos hsame]
    exact h
  · rw [if_neg hsame]
    exact Inv.heightsUpdated (h.withModel _ rfl rfl rfl)

theorem Inv.setFreezeToolbarHeight (h : Inv s) (freeze : Bool) :
    Inv (s.setFreezeToolbarHeight freeze) := by
  unfold FullscreenState.setFreezeToolbarHeight
  by_cases hsame : s.model.freezeToolbarHeight = freeze
  · rw [if_pos hsame]
    exact h
  · rw [if_neg hsame]
    exact Inv.heightsUpdated (h.withModel _ rfl rfl rfl)

/-! ## Disabling and enabling -/

/-- What disabling the model comes to: the toolbar is visible unless the
progress was nearly 1. -/
structure DisabledFrom (solve : Fraction → Fraction) (s s' : FullscreenState) : Prop where
  bounded : Bounded s'
  disabled : s'.model.enabled = false
  animator : s'.animator = none
  progress : s'.model.progress = 1 ↔ NotNearlyOne (s.progressWhenStopped solve)

theorem setProgress_one (ha : s.animator = none) :
    s.setProgress solve 1 =
      if areCGFloatsEqual s.model.progress 1 then s
      else { s with model := { s.model with progress := 1 } } := by
  unfold FullscreenState.setProgress
  rw [clamp_of_one_le (le_refl 1)]
  by_cases hsame : areCGFloatsEqual s.model.progress 1 = true
  · simp only [if_pos hsame]
  · simp only [if_neg hsame]
    unfold FullscreenState.duringCallback fullscreenModelProgressUpdated
    rw [stopAnimating_of_none true (by exact ha)]
    rfl

theorem incrementDisabledCounter_of_enabled (solve : Fraction → Fraction) (h : InRange s) (henabled : s.model.enabled = true) :
    DisabledFrom solve s (s.incrementDisabledCounter solve) := by
  have hzero : s.model.disabledCounter = 0 := of_decide_eq_true henabled
  -- the state in which the observers are called
  obtain ⟨called, hcalled⟩ : ∃ called : FullscreenState, called = { s with model :=
      { s.model with
        disabledCounter := s.model.disabledCounter + 1
        observerCallbackCount := s.model.observerCallbackCount + 1 } } := ⟨_, rfl⟩
  have hbounded : Bounded called := by
    rw [hcalled]
    exact ⟨⟨h.nonneg, h.le_one, h.animator, h.forgotten⟩, fun _ => Nat.succ_pos _⟩
  have hstopped : Bounded (called.stopAnimating solve true) := hbounded.stopAnimating true
  have hcounter : (called.stopAnimating solve true).model.disabledCounter = 1 := by
    rw [stopAnimating_counter, hcalled]
    show s.model.disabledCounter + 1 = 1
    rw [hzero]
  have hq : (called.stopAnimating solve true).model.progress = s.progressWhenStopped solve := by
    rw [stopAnimating_progress, hcalled]
    rfl
  have hidle : (called.stopAnimating solve true).animator = none := stopAnimating_animator true
  have hstep : s.incrementDisabledCounter solve =
      { (((called.stopAnimating solve true).setProgress solve 1).updateBaseOffset) with model :=
        { (((called.stopAnimating solve true).setProgress solve 1).updateBaseOffset).model with
          observerCallbackCount := (((called.stopAnimating solve true).setProgress solve
            1).updateBaseOffset).model.observerCallbackCount - 1 } } := by
    unfold incrementDisabledCounter
    rw [hcalled]
    simp only [hzero]
    rfl
  rw [hstep, setProgress_one hidle]
  by_cases hnear : areCGFloatsEqual (called.stopAnimating solve true).model.progress 1 = true
  · rw [if_pos hnear]
    refine ⟨⟨⟨hstopped.nonneg, hstopped.le_one, hstopped.animator, hstopped.forgotten⟩,
      hstopped.counted⟩, ?_, hidle, ?_⟩
    · show decide ((called.stopAnimating solve true).model.disabledCounter = 0) = false
      rw [hcounter]
      rfl
    · show (called.stopAnimating solve true).model.progress = 1 ↔ _
      rw [hq] at hnear ⊢
      have hle : |s.progressWhenStopped solve - 1| ≤ epsilon := of_decide_eq_true hnear
      constructor
      · exact Or.inl
      · rintro (hone | hlt)
        · exact hone
        · exact absurd hle (not_le.2 hlt)
  · rw [if_neg hnear]
    refine ⟨⟨⟨by show (0 : ℚ) ≤ 1; decide, le_refl (1 : ℚ), hstopped.animator,
      hstopped.forgotten⟩, hstopped.counted⟩, ?_, hidle, ?_⟩
    · show decide ((called.stopAnimating solve true).model.disabledCounter = 0) = false
      rw [hcounter]
      rfl
    · rw [hq] at hnear
      have hlt : epsilon < |s.progressWhenStopped solve - 1| :=
        not_le.1 fun hle => hnear (decide_eq_true hle)
      exact iff_of_true rfl (Or.inr hlt)

theorem Inv.incrementDisabledCounter (h : Inv s) (hdisabled : s.model.enabled = false) :
    Inv (s.incrementDisabledCounter solve) := by
  have hpos : s.model.disabledCounter ≠ 0 := of_decide_eq_false hdisabled
  unfold FullscreenState.incrementDisabledCounter
  have hne : ¬ s.model.disabledCounter + 1 = 1 := by omega
  simp only [if_neg hne]
  exact ⟨⟨⟨h.nonneg, h.le_one, h.animator, h.forgotten⟩, fun _ => Nat.succ_pos _⟩,
    fun _ => h.shown hdisabled⟩

theorem decrementDisabledCounter_inv (h : InRange s) (hshown : Shown s)
    (hpos : 0 < s.model.disabledCounter)
    (hshort : s.model.disabledForShortContent = true → 1 < s.model.disabledCounter) :
    Inv (s.decrementDisabledCounter solve) := by
  have hdisabled : s.model.enabled = false := decide_eq_false (by omega)
  have hdecremented : Inv { s with model :=
      { s.model with disabledCounter := s.model.disabledCounter - 1 } } := by
    refine ⟨⟨⟨h.nonneg, h.le_one, h.animator, h.forgotten⟩, ?_⟩, fun _ => hshown hdisabled⟩
    intro hs
    have := hshort hs
    show 0 < s.model.disabledCounter - 1
    omega
  unfold FullscreenState.decrementDisabledCounter
  by_cases hzero : s.model.disabledCounter - 1 = 0
  · simp only [if_pos hzero]
    exact hdecremented.duringCallback fun _ h => h.stopAnimating true
  · simp only [if_neg hzero]
    exact hdecremented

/-- The content height disables the model, or leaves the contract as it is. -/
theorem updateDisabledCounterForContentHeight_cases (solve : Fraction → Fraction) (h : Inv s) :
    (s.model.disabledByContent = true ∧
      DisabledFrom solve s (s.updateDisabledCounterForContentHeight solve)) ∨
    (s.model.disabledByContent = false ∧
      Inv (s.updateDisabledCounterForContentHeight solve)) := by
  unfold FullscreenState.updateDisabledCounterForContentHeight FullscreenModel.disabledByContent
  by_cases hscrolling : s.model.scrolling = true
  · right
    rw [if_pos hscrolling, hscrolling]
    exact ⟨rfl, h⟩
  · rw [if_neg hscrolling, Bool.eq_false_iff.2 hscrolling]
    by_cases hsame : s.model.disabledForShortContent = s.model.contentIsShort
    · right
      simp only [if_pos hsame]
      refine ⟨?_, h⟩
      rw [hsame]
      cases s.model.contentIsShort <;> simp
    · simp only [if_neg hsame]
      cases hshort : s.model.contentIsShort with
      | true =>
        have hwas : s.model.disabledForShortContent = false := by
          rw [hshort] at hsame
          exact Bool.eq_false_iff.2 hsame
        rw [hwas, if_pos rfl]
        by_cases henabled : s.model.enabled = true
        · left
          have hdisabled := incrementDisabledCounter_of_enabled solve
            (s := { s with model := { s.model with disabledForShortContent := true } })
            ⟨h.nonneg, h.le_one, h.animator, h.forgotten⟩ henabled
          rw [henabled]
          exact ⟨rfl, hdisabled.bounded, hdisabled.disabled, hdisabled.animator,
            hdisabled.progress⟩
        · right
          rw [Bool.eq_false_iff.2 henabled]
          refine ⟨rfl, Inv.incrementDisabledCounter ⟨⟨⟨h.nonneg, h.le_one, h.animator,
            h.forgotten⟩, fun _ => ?_⟩, h.shown⟩ (Bool.eq_false_iff.2 henabled)⟩
          exact Nat.pos_of_ne_zero fun hzero => henabled (decide_eq_true hzero)
      | false =>
        right
        have hwas : s.model.disabledForShortContent = true := by
          rw [hshort] at hsame
          exact Bool.ne_false_iff.1 hsame
        rw [hwas, if_neg (by decide)]
        refine ⟨by simp, decrementDisabledCounter_inv ⟨h.nonneg, h.le_one, h.animator,
          h.forgotten⟩ h.shown (h.counted hwas) fun hs => ?_⟩
        cases hs

/-! ## One event -/

theorem Inv.visible (h : Inv s) : ToolbarVisible s :=
  ⟨h.nonneg, h.le_one, fun hdisabled => (h.shown hdisabled).1⟩

/-- The contract holds after the event exactly under the condition, and then the
invariant does too. -/
def Outcome (after : FullscreenState) (condition : Prop) : Prop :=
  (ToolbarVisible after ↔ condition) ∧ (condition → Inv after)

theorem Outcome.of_inv {after : FullscreenState} {condition : Prop} (h : Inv after)
    (hcondition : condition) : Outcome after condition :=
  ⟨iff_of_true h.visible hcondition, fun _ => h⟩

theorem DisabledFrom.outcome {after : FullscreenState} (h : DisabledFrom solve s after) :
    Outcome after (true = true → NotNearlyOne (s.progressWhenStopped solve)) := by
  have hvisible : ToolbarVisible after ↔ after.model.progress = 1 := by
    constructor
    · intro hv
      exact hv.disabled h.disabled
    · intro hone
      exact ⟨h.bounded.nonneg, h.bounded.le_one, fun _ => hone⟩
  constructor
  · rw [hvisible, h.progress]
    exact ⟨fun hq _ => hq, fun hq => hq rfl⟩
  · intro hq
    exact ⟨h.bounded, fun _ => ⟨h.progress.2 (hq rfl), h.animator⟩⟩

theorem outcome_contentHeight (solve : Fraction → Fraction) (h : Inv s) :
    Outcome (s.updateDisabledCounterForContentHeight solve)
      (s.model.disabledByContent = true → NotNearlyOne (s.progressWhenStopped solve)) := by
  rcases updateDisabledCounterForContentHeight_cases solve h with
    ⟨hby, hdisabled⟩ | ⟨hby, hinv⟩
  · rw [hby]
    exact hdisabled.outcome
  · rw [hby]
    exact Outcome.of_inv hinv fun hfalse => by cases hfalse

theorem outcome_setScrollViewIsDragging (h : Inv s) (dragging : Bool) :
    Outcome (s.setScrollViewIsDragging solve dragging)
      ((!s.model.dragging && dragging && s.model.disabledByContent) = true →
        NotNearlyOne (s.progressWhenStopped solve)) := by
  unfold FullscreenState.setScrollViewIsDragging
  by_cases hsame : s.model.dragging = dragging
  · rw [if_pos hsame, hsame]
    exact Outcome.of_inv h fun hfalse => by cases dragging <;> cases hfalse
  · rw [if_neg hsame]
    cases dragging with
    | true =>
      rw [Bool.eq_false_iff.2 hsame]
      have hbased : Inv (FullscreenState.updateBaseOffset
          { s with model := { s.model with dragging := true } }) :=
        (h.withModel _ rfl rfl rfl : Inv { s with model := { s.model with dragging := true } })
          |>.updateBaseOffset
      exact outcome_contentHeight solve hbased
    | false =>
      refine Outcome.of_inv (h.withModel _ rfl rfl rfl) ?_
      rw [Bool.and_false, Bool.false_and]
      intro hfalse
      cases hfalse

theorem outcome_setWebViewSafeAreaInsets (h : Inv s) (insets : UIEdgeInsets) :
    Outcome (s.setWebViewSafeAreaInsets solve insets)
      ((decide (s.model.safeAreaInsets ≠ insets) &&
          { s.model with safeAreaInsets := insets }.disabledByContent) = true →
        NotNearlyOne (s.progressWhenStopped solve)) := by
  unfold FullscreenState.setWebViewSafeAreaInsets
  by_cases hsame : s.model.safeAreaInsets = insets
  · rw [if_pos hsame]
    exact Outcome.of_inv h fun hfalse => by simp [hsame] at hfalse
  · rw [if_neg hsame, decide_eq_true hsame, Bool.true_and]
    exact outcome_contentHeight solve
      (h.withModel { s.model with safeAreaInsets := insets } rfl rfl rfl)

/-- Time that passes moves an animator, not its ends. -/
theorem Inv.advance (h : Inv s) (fraction : Fraction) (which : Running) :
    Inv (s.advance fraction which) := by
  cases which with
  | mediators =>
    refine ⟨⟨⟨h.nonneg, h.le_one, ?_, h.forgotten⟩, h.counted⟩, ?_⟩
    · intro animator ha
      obtain ⟨held, hheld, rfl⟩ := Option.map_eq_some_iff.1 ha
      exact h.animator held hheld
    · intro hdisabled
      obtain ⟨hone, hnone⟩ := h.shown hdisabled
      refine ⟨hone, ?_⟩
      show s.animator.map _ = none
      rw [hnone]
      rfl
  | forgotten index =>
    refine ⟨⟨⟨h.nonneg, h.le_one, h.animator, ?_⟩, h.counted⟩, h.shown⟩
    intro animator hmem
    obtain ⟨i, hi⟩ := List.getElem?_of_mem hmem
    change (s.forgotten.modify index _)[i]? = some animator at hi
    rw [List.getElem?_modify] at hi
    obtain ⟨old, hold, hnew⟩ := Option.map_eq_some_iff.1 hi
    have hrange := h.forgotten old (List.mem_of_getElem? hold)
    by_cases hindex : index = i
    · rw [if_pos hindex] at hnew
      rw [← hnew]
      exact hrange
    · rw [if_neg hindex] at hnew
      rw [← hnew]
      exact hrange

/-- A completion leaves the model at the end of its animation. -/
theorem complete_eq {which : Running} {animator : FullscreenAnimator}
    (hrun : s.running which = some animator) : ∃ forgotten,
      (∀ a ∈ forgotten, a ∈ s.forgotten ∨ s.animator = some a) ∧
      s.complete which = animationCompleted animator.style { s with forgotten := forgotten } := by
  unfold FullscreenState.complete
  rw [hrun]
  cases which with
  | mediators => exact ⟨s.forgotten, fun a ha => Or.inl ha, rfl⟩
  | forgotten index =>
    refine ⟨s.forgotten.eraseIdx index ++ s.animator.toList, ?_, rfl⟩
    intro a ha
    rcases List.mem_append.1 ha with ha | ha
    · exact Or.inl (List.eraseIdx_subset ha)
    · exact Or.inr (Option.mem_toList.1 ha)

theorem outcome_complete (h : Inv s) {which : Running} (hruns : s.running which ≠ none) :
    Outcome (s.complete which) (s.model.enabled = true ∨
      ∀ animator, s.running which = some animator → animator.style = .exitFullscreen) := by
  obtain ⟨animator, hrun⟩ := Option.ne_none_iff_exists'.1 hruns
  obtain ⟨forgotten, hforgotten, heq⟩ := complete_eq hrun
  have hbounded : Bounded (s.complete which) := by
    rw [heq]
    refine ⟨⟨?_, ?_, fun _ ha => (by cases ha), ?_⟩, h.counted⟩
    · show 0 ≤ getFinalFullscreenProgressForAnimation animator.style
      cases animator.style <;> decide
    · show getFinalFullscreenProgressForAnimation animator.style ≤ 1
      cases animator.style <;> decide
    · intro a ha
      rcases hforgotten a ha with ha | ha
      · exact h.forgotten a ha
      · exact h.animator a ha
  have henabled : (s.complete which).model.enabled = s.model.enabled := by
    rw [heq]
    rfl
  have hprogress : (s.complete which).model.progress =
      getFinalFullscreenProgressForAnimation animator.style := by
    rw [heq]
    rfl
  have hidle : (s.complete which).animator = none := by
    rw [heq]
    rfl
  by_cases hon : s.model.enabled = true
  · refine Outcome.of_inv ⟨hbounded, fun hdisabled => ?_⟩ (Or.inl hon)
    rw [henabled, hon] at hdisabled
    cases hdisabled
  · have hoff : (s.complete which).model.enabled = false := by
      rw [henabled]
      exact Bool.eq_false_iff.2 hon
    cases hstyle : animator.style with
    | exitFullscreen =>
      have hone : (s.complete which).model.progress = 1 := by
        rw [hprogress, hstyle]
        rfl
      refine Outcome.of_inv ⟨hbounded, fun _ => ⟨hone, hidle⟩⟩ (Or.inr ?_)
      intro a ha
      obtain rfl := Option.some.inj (hrun.symm.trans ha)
      exact hstyle
    | enterFullscreen =>
      -- the toolbar of a disabled model is hidden
      have hbad : ¬ (s.model.enabled = true ∨
          ∀ a, s.running which = some a → a.style = .exitFullscreen) := by
        rintro (h | hexit)
        · exact hon h
        · have := hexit animator hrun
          rw [hstyle] at this
          cases this
      refine ⟨iff_of_false ?_ hbad, fun hgood => absurd hgood hbad⟩
      intro hvisible
      have hone := hvisible.disabled hoff
      rw [hprogress, hstyle] at hone
      exact absurd hone (by decide)

/-- **One event keeps the contract exactly under its condition.** -/
theorem step_outcome (h : Inv s) (event : FullscreenEvent) (hpre : s.Pre event) :
    Outcome (s.step solve event) (s.KeepsToolbar solve event) := by
  have hno {after : FullscreenState} (hinv : Inv after) :
      Outcome after (false = true → NotNearlyOne (s.progressWhenStopped solve)) :=
    Outcome.of_inv hinv fun hfalse => by cases hfalse
  cases event with
  | incrementDisabledCounter =>
    show Outcome (s.incrementDisabledCounter solve) (s.model.enabled = true → _)
    by_cases henabled : s.model.enabled = true
    · rw [henabled]
      exact (incrementDisabledCounter_of_enabled solve h.toInRange henabled).outcome
    · rw [Bool.eq_false_iff.2 henabled]
      exact hno (h.incrementDisabledCounter (Bool.eq_false_iff.2 henabled))
  | decrementDisabledCounter =>
    have hlt : (if s.model.disabledForShortContent then 1 else 0) < s.model.disabledCounter := hpre
    refine hno (decrementDisabledCounter_inv h.toInRange h.shown (by omega) fun hshort => ?_)
    rwa [hshort, if_pos rfl] at hlt
  | resetForNavigation => exact hno h.resetForNavigation
  | ignoreRemainderOfCurrentScroll =>
    refine hno ?_
    show Inv { s with model := s.model.ignoreRemainderOfCurrentScroll }
    unfold FullscreenModel.ignoreRemainderOfCurrentScroll
    by_cases hscrolling : s.model.scrolling = true
    · rw [hscrolling]
      exact h.withModel _ rfl rfl rfl
    · rw [Bool.eq_false_iff.2 hscrolling]
      exact h
  | setCollapsedToolbarHeight height => exact hno (h.setCollapsedToolbarHeight height)
  | setExpandedToolbarHeight height => exact hno (h.setExpandedToolbarHeight height)
  | setBottomToolbarHeight height => exact hno (h.setBottomToolbarHeight height)
  | setScrollViewHeight height =>
    exact outcome_contentHeight solve
      (h.withModel { s.model with scrollViewHeight := height } rfl rfl rfl)
  | setContentHeight height =>
    exact outcome_contentHeight solve
      (h.withModel { s.model with contentHeight := height } rfl rfl rfl)
  | setTopContentInset inset =>
    exact hno (h.withModel { s.model with topInset := inset } rfl rfl rfl)
  | setYContentOffset offset => exact hno (h.setYContentOffset offset)
  | setYContentOffsetInCallback offset =>
    exact hno (h.duringCallback fun _ h => h.setYContentOffset offset)
  | setScrollViewIsScrolling scrolling => exact hno (h.setScrollViewIsScrolling scrolling)
  | setScrollViewIsZooming zooming =>
    exact hno (h.withModel { s.model with zooming := zooming } rfl rfl rfl)
  | setScrollViewIsDragging dragging => exact outcome_setScrollViewIsDragging h dragging
  | setResizesScrollView resizes =>
    exact hno (h.withModel { s.model with resizesScrollView := resizes } rfl rfl rfl)
  | setWebViewSafeAreaInsets insets => exact outcome_setWebViewSafeAreaInsets h insets
  | setFreezeToolbarHeight freeze => exact hno (h.setFreezeToolbarHeight freeze)
  | enterFullscreen => exact hno h.enterFullscreen
  | exitFullscreen => exact hno h.exitFullscreen
  | animatorAdvances which fraction => exact hno (h.advance fraction which)
  | animatorCompletes which => exact outcome_complete h hpre

/-! ## Every run -/

theorem start_inv : Inv start :=
  ⟨⟨⟨le_refl _, by show (0 : ℚ) ≤ 1; decide, fun _ ha => (by cases ha),
    fun _ ha => absurd ha List.not_mem_nil⟩, fun hshort => (by cases hshort)⟩,
    fun hdisabled => (by cases hdisabled)⟩

variable (solve)

/-- **The toolbar is visible whenever fullscreen is disabled, in exactly the runs
whose events keep it so.** -/
theorem toolbar_visible_iff {events : List FullscreenEvent}
    (hrun : (machine solve).Run start events) :
    (machine solve).Always (fun s event => ToolbarVisible (s.step solve event)) start events ↔
      (machine solve).Always (KeepsToolbar solve) start events :=
  Machine.always_iff_of_invariant
    (fun _ event h hpre => (step_outcome h event hpre).1)
    (fun _ event h hpre hv =>
      (step_outcome h event hpre).2 ((step_outcome h event hpre).1.1 hv))
    start_inv hrun

/-- A timing curve that is a straight line. -/
private def linear : Fraction → Fraction := id

/-- Fullscreen is entered, and disabled when the animation is half done. -/
private def disabledMidway : List FullscreenEvent :=
  [.resetForNavigation, .enterFullscreen,
    .animatorAdvances .mediators ⟨1 / 2, by decide +kernel⟩, .incrementDisabledCounter]

instance (s : FullscreenState) (event : FullscreenEvent) : Decidable (s.Pre event) := by
  cases event <;> unfold Pre <;> infer_instance

theorem toolbar_visible_disabledMidway :
    (machine linear).Always (fun s event => ToolbarVisible (s.step linear event)) start
      disabledMidway ↔ (machine linear).Always (KeepsToolbar linear) start disabledMidway :=
  toolbar_visible_iff linear (show (machine linear).Always Pre start disabledMidway by
    decide +kernel)

/-- Fullscreen is entered and disabled at once; then the animation completes. -/
private def disabledAtOnce : List FullscreenEvent :=
  [.resetForNavigation, .enterFullscreen, .incrementDisabledCounter,
    .animatorCompletes (.forgotten 0)]

/-- **A forgotten animator hides the toolbar of a disabled model.** -/
theorem forgottenAnimator_hides : (machine linear).Run start disabledAtOnce ∧
    ((machine linear).exec start disabledAtOnce).model.enabled = false ∧
    ((machine linear).exec start disabledAtOnce).model.progress = 0 ∧
    ¬ ToolbarVisible ((machine linear).exec start disabledAtOnce) := by
  have hdisabled : ((machine linear).exec start disabledAtOnce).model.enabled = false := by
    decide +kernel
  have hhidden : ((machine linear).exec start disabledAtOnce).model.progress = 0 := by
    decide +kernel
  refine ⟨show (machine linear).Always Pre start disabledAtOnce by decide +kernel, hdisabled,
    hhidden, ?_⟩
  intro hvisible
  rw [hvisible.disabled hdisabled] at hhidden
  exact absurd hhidden (by decide)

end FullscreenState

end IosChrome.Fullscreen

import Mathlib.Algebra.Order.Field.Rat
import Mathlib.Data.Rat.Cast.Order

/-!
# Fullscreen: the model, its mediator and the animators

`FullscreenModel` computes how much of the toolbar is visible (`progress`) from
the broadcast scroll values. `FullscreenMediator` observes it and answers with
animations between the two ends of the progress; `FullscreenAnimator` is such
an animation. They call each other, so the functions below act on the three
together, and each has the name it has in its class.

An animator runs until it is stopped or complete, whether or not the mediator
still knows it: `animator` is the mediator's, `forgotten` are the others.
`stopAnimation` leaves an animator running that has made no progress yet, and
the mediator forgets it all the same.

Numbers are rational and arithmetic is exact; the timing curve is a parameter.
-/

namespace IosChrome.Fullscreen

abbrev CGFloat := ℚ

/-- `std::numeric_limits<CGFloat>::epsilon()`. -/
def epsilon : CGFloat := 1 / 4503599627370496

def areCGFloatsEqual (a b : CGFloat) : Bool := |a - b| ≤ epsilon

structure UIEdgeInsets where
  top : CGFloat
  left : CGFloat
  bottom : CGFloat
  right : CGFloat
  deriving DecidableEq

def UIEdgeInsets.zero : UIEdgeInsets := ⟨0, 0, 0, 0⟩

/-! ## Animators -/

inductive FullscreenAnimatorStyle where
  | enterFullscreen
  | exitFullscreen
  deriving DecidableEq

def getFinalFullscreenProgressForAnimation : FullscreenAnimatorStyle → CGFloat
  | .enterFullscreen => 0
  | .exitFullscreen => 1

/-- A fraction of an animation. -/
abbrev Fraction := { x : CGFloat // 0 ≤ x ∧ x ≤ 1 }

structure FullscreenAnimator where
  style : FullscreenAnimatorStyle
  startProgress : CGFloat
  fractionComplete : Fraction
  deriving DecidableEq

namespace FullscreenAnimator

def initWithStartProgress (startProgress : CGFloat) (style : FullscreenAnimatorStyle) :
    FullscreenAnimator :=
  ⟨style, startProgress, ⟨0, by decide⟩⟩

def finalProgress (animator : FullscreenAnimator) : CGFloat :=
  getFinalFullscreenProgressForAnimation animator.style

/-- Where a running animator is; `solve` is the bezier of its timing curve. -/
def currentProgress (solve : Fraction → Fraction) (animator : FullscreenAnimator) : CGFloat :=
  animator.startProgress +
    (solve animator.fractionComplete).1 * (animator.finalProgress - animator.startProgress)

end FullscreenAnimator

/-! ## The model -/

structure FullscreenModel where
  progress : CGFloat
  /-- `none` is NaN. -/
  baseOffset : Option CGFloat
  collapsedToolbarHeight : CGFloat
  expandedToolbarHeight : CGFloat
  bottomToolbarHeight : CGFloat
  yContentOffset : CGFloat
  scrollViewHeight : CGFloat
  contentHeight : CGFloat
  topInset : CGFloat
  disabledCounter : Nat
  disabledForShortContent : Bool
  scrolling : Bool
  zooming : Bool
  dragging : Bool
  ignoringCurrentScroll : Bool
  resizesScrollView : Bool
  safeAreaInsets : UIEdgeInsets
  observerCallbackCount : Nat
  freezeToolbarHeight : Bool
  deriving DecidableEq

inductive ScrollAction where
  | kIgnore
  | kUpdateBaseOffset
  | kUpdateProgress
  | kUpdateBaseOffsetAndProgress
  deriving DecidableEq

namespace FullscreenModel

def initial : FullscreenModel where
  progress := 0
  baseOffset := none
  collapsedToolbarHeight := 0
  expandedToolbarHeight := 0
  bottomToolbarHeight := 0
  yContentOffset := 0
  scrollViewHeight := 0
  contentHeight := 0
  topInset := 0
  disabledCounter := 0
  disabledForShortContent := false
  scrolling := false
  zooming := false
  dragging := false
  ignoringCurrentScroll := false
  resizesScrollView := false
  safeAreaInsets := .zero
  observerCallbackCount := 0
  freezeToolbarHeight := false

def enabled (model : FullscreenModel) : Bool := model.disabledCounter = 0

def hasBaseOffset (model : FullscreenModel) : Bool := model.baseOffset.isSome

def getCollapsedToolbarHeight (model : FullscreenModel) : CGFloat :=
  if model.freezeToolbarHeight then 0 else model.collapsedToolbarHeight

def getExpandedToolbarHeight (model : FullscreenModel) : CGFloat :=
  if model.freezeToolbarHeight then 0 else model.expandedToolbarHeight

def toolbarHeightDelta (model : FullscreenModel) : CGFloat :=
  model.getExpandedToolbarHeight - model.getCollapsedToolbarHeight

def canCollapseToolbar (model : FullscreenModel) : Bool :=
  model.contentHeight > model.scrollViewHeight + model.toolbarHeightDelta

def isScrolledToBottom (model : FullscreenModel) : Bool :=
  model.yContentOffset + model.scrollViewHeight ≥ model.contentHeight

def actionForScrollFromOffset (model : FullscreenModel) (fromOffset : CGFloat) : ScrollAction :=
  if !model.enabled || !model.scrolling || model.zooming || model.observerCallbackCount ≠ 0 ||
      areCGFloatsEqual model.toolbarHeightDelta 0 ||
      areCGFloatsEqual model.yContentOffset fromOffset then
    .kUpdateBaseOffset
  else
    let scrollingContentDown : Bool := model.yContentOffset - fromOffset < 0
    let scrollingPastTop : Bool := model.yContentOffset ≤ -model.topInset
    let contentFits : Bool := model.contentHeight ≤ model.scrollViewHeight - model.topInset
    let scrollingPastBottom : Bool :=
      model.yContentOffset + model.scrollViewHeight + model.topInset ≥ model.contentHeight
    if model.ignoringCurrentScroll || (scrollingPastTop && !scrollingContentDown) ||
        (contentFits && !scrollingContentDown) ||
        (model.resizesScrollView && scrollingPastBottom) then
      .kIgnore
    else if model.hasBaseOffset then .kUpdateProgress
    else .kUpdateBaseOffsetAndProgress

def updateBaseOffset (model : FullscreenModel) : FullscreenModel :=
  { model with
    baseOffset := some (model.yContentOffset - (1 - model.progress) * model.toolbarHeightDelta) }

def animationEndedWithProgress (model : FullscreenModel) (progress : CGFloat) :
    FullscreenModel :=
  { model with progress }

def ignoreRemainderOfCurrentScroll (model : FullscreenModel) : FullscreenModel :=
  if !model.scrolling then model else { model with ignoringCurrentScroll := true }

/-- `disable` of `UpdateDisabledCounterForContentHeight`. -/
def contentIsShort (model : FullscreenModel) : Bool :=
  let disablingThreshold :=
    if model.resizesScrollView then
      model.scrollViewHeight + (model.getExpandedToolbarHeight + model.bottomToolbarHeight)
    else model.scrollViewHeight + (model.safeAreaInsets.top + model.safeAreaInsets.bottom)
  let areBothHeightsSet :=
    !areCGFloatsEqual model.contentHeight 0 && !areCGFloatsEqual model.scrollViewHeight 0
  areBothHeightsSet && decide (model.contentHeight ≤ disablingThreshold)

end FullscreenModel

/-! ## The three together -/

structure FullscreenState where
  model : FullscreenModel
  /-- The mediator's `animator_`. -/
  animator : Option FullscreenAnimator
  /-- Animators that run without the mediator. -/
  forgotten : List FullscreenAnimator
  deriving DecidableEq

namespace FullscreenState

def start : FullscreenState := ⟨.initial, none, []⟩

/-- A `ScopedIncrementer` of `observer_callback_count_` around the callbacks. -/
def duringCallback (callback : FullscreenState → FullscreenState) (s : FullscreenState) :
    FullscreenState :=
  let called := callback
    { s with model :=
        { s.model with observerCallbackCount := s.model.observerCallbackCount + 1 } }
  { called with model :=
      { called.model with observerCallbackCount := called.model.observerCallbackCount - 1 } }

section

variable (solve : Fraction → Fraction)

/-! ### `FullscreenMediator` -/

/-- `StopAnimating`, with the early return of `-stopAnimation:`: an animator
whose progress is the one it started from goes on. -/
def stopAnimating (updateModel : Bool) (s : FullscreenState) : FullscreenState :=
  match s.animator with
  | none => s
  | some animator =>
    let progressUponStopping := animator.currentProgress solve
    { model :=
        if updateModel then s.model.animationEndedWithProgress progressUponStopping
        else s.model
      animator := none
      forgotten :=
        if progressUponStopping = animator.startProgress then s.forgotten ++ [animator]
        else s.forgotten }

def animateWithStyle (style : FullscreenAnimatorStyle) (s : FullscreenState) :
    FullscreenState :=
  if s.animator.map FullscreenAnimator.style = some style then s
  else
    let stopped := s.stopAnimating solve true
    if areCGFloatsEqual stopped.model.progress (getFinalFullscreenProgressForAnimation style) then
      stopped
    else
      { stopped with
        animator := some (.initWithStartProgress stopped.model.progress style) }

def enterFullscreen (s : FullscreenState) : FullscreenState :=
  if s.model.enabled then s.animateWithStyle solve .enterFullscreen else s

def exitFullscreen (s : FullscreenState) : FullscreenState :=
  animateWithStyle solve .exitFullscreen
    { s with model := s.model.ignoreRemainderOfCurrentScroll }

/-- The insets it announces change no state here. -/
def fullscreenModelToolbarHeightsUpdated (s : FullscreenState) : FullscreenState := s

def fullscreenModelProgressUpdated (s : FullscreenState) : FullscreenState :=
  s.stopAnimating solve true

def fullscreenModelEnabledStateChanged (s : FullscreenState) : FullscreenState :=
  s.stopAnimating solve true

def fullscreenModelScrollEventStarted (s : FullscreenState) : FullscreenState :=
  let stopped := s.stopAnimating solve true
  if stopped.model.isScrolledToBottom && areCGFloatsEqual stopped.model.progress 0 &&
      stopped.model.canCollapseToolbar then
    stopped.exitFullscreen solve
  else stopped

def fullscreenModelScrollEventEnded (s : FullscreenState) : FullscreenState :=
  s.animateWithStyle solve
    (if s.model.progress ≥ 1 / 2 then .exitFullscreen else .enterFullscreen)

def fullscreenModelWasReset (s : FullscreenState) : FullscreenState :=
  s.stopAnimating solve false

/-- The completion block of an animator of this style. -/
def animationCompleted (style : FullscreenAnimatorStyle) (s : FullscreenState) :
    FullscreenState :=
  { s with
    model := s.model.animationEndedWithProgress (getFinalFullscreenProgressForAnimation style)
    animator := none }

/-! ### `FullscreenModel` -/

def setProgress (progress : CGFloat) (s : FullscreenState) : FullscreenState :=
  let progress := max 0 (min 1 progress)
  if areCGFloatsEqual s.model.progress progress then s
  else
    duringCallback (fullscreenModelProgressUpdated solve)
      { s with model := { s.model with progress } }

def updateBaseOffset (s : FullscreenState) : FullscreenState :=
  { s with model := s.model.updateBaseOffset }

/-- A NaN base offset makes a NaN progress, of which `std::min` keeps the 1.0. -/
def updateProgress (s : FullscreenState) : FullscreenState :=
  match s.model.baseOffset with
  | none => s.setProgress solve 1
  | some baseOffset =>
    s.setProgress solve
      (1 + (baseOffset - s.model.yContentOffset) / s.model.toolbarHeightDelta)

def incrementDisabledCounter (s : FullscreenState) : FullscreenState :=
  let incremented := { s with
    model := { s.model with disabledCounter := s.model.disabledCounter + 1 } }
  if incremented.model.disabledCounter = 1 then
    duringCallback (fun s =>
      ((s.fullscreenModelEnabledStateChanged solve).setProgress solve 1).updateBaseOffset)
      incremented
  else incremented

def decrementDisabledCounter (s : FullscreenState) : FullscreenState :=
  let decremented := { s with
    model := { s.model with disabledCounter := s.model.disabledCounter - 1 } }
  if decremented.model.disabledCounter = 0 then
    duringCallback (fullscreenModelEnabledStateChanged solve) decremented
  else decremented

def updateDisabledCounterForContentHeight (s : FullscreenState) : FullscreenState :=
  if s.model.scrolling then s
  else
    let disable := s.model.contentIsShort
    if s.model.disabledForShortContent = disable then s
    else
      let recorded := { s with model := { s.model with disabledForShortContent := disable } }
      if disable then recorded.incrementDisabledCounter solve
      else recorded.decrementDisabledCounter solve

def resetForNavigation (s : FullscreenState) : FullscreenState :=
  duringCallback (fullscreenModelWasReset solve)
    { s with model := { s.model with progress := 1, scrolling := false, baseOffset := none } }

def setCollapsedToolbarHeight (height : CGFloat) (s : FullscreenState) : FullscreenState :=
  if areCGFloatsEqual s.model.getCollapsedToolbarHeight height then s
  else
    duringCallback fullscreenModelToolbarHeightsUpdated
      { s with model := { s.model with collapsedToolbarHeight := height, baseOffset := none } }

def setExpandedToolbarHeight (height : CGFloat) (s : FullscreenState) : FullscreenState :=
  if areCGFloatsEqual s.model.getExpandedToolbarHeight height then s
  else
    duringCallback fullscreenModelToolbarHeightsUpdated
      { s with model := { s.model with expandedToolbarHeight := height, baseOffset := none } }

def setBottomToolbarHeight (height : CGFloat) (s : FullscreenState) : FullscreenState :=
  if areCGFloatsEqual s.model.bottomToolbarHeight height then s
  else
    duringCallback fullscreenModelToolbarHeightsUpdated
      { s with model := { s.model with bottomToolbarHeight := height, baseOffset := none } }

def setScrollViewHeight (height : CGFloat) (s : FullscreenState) : FullscreenState :=
  updateDisabledCounterForContentHeight solve
    { s with model := { s.model with scrollViewHeight := height } }

def setContentHeight (height : CGFloat) (s : FullscreenState) : FullscreenState :=
  updateDisabledCounterForContentHeight solve
    { s with model := { s.model with contentHeight := height } }

def setTopContentInset (inset : CGFloat) (s : FullscreenState) : FullscreenState :=
  { s with model := { s.model with topInset := inset } }

def setYContentOffset (offset : CGFloat) (s : FullscreenState) : FullscreenState :=
  let scrolled := { s with model := { s.model with yContentOffset := offset } }
  match scrolled.model.actionForScrollFromOffset s.model.yContentOffset with
  | .kUpdateBaseOffset => scrolled.updateBaseOffset
  | .kUpdateProgress => scrolled.updateProgress solve
  | .kUpdateBaseOffsetAndProgress => scrolled.updateBaseOffset.updateProgress solve
  | .kIgnore => scrolled

def setScrollViewIsScrolling (scrolling : Bool) (s : FullscreenState) : FullscreenState :=
  if s.model.scrolling = scrolling then s
  else if scrolling then
    duringCallback (fullscreenModelScrollEventStarted solve)
      { s with model := { s.model with scrolling := true } }
  else
    duringCallback (fullscreenModelScrollEventEnded solve)
      { s with model := { s.model with scrolling := false, ignoringCurrentScroll := false } }

def setScrollViewIsZooming (zooming : Bool) (s : FullscreenState) : FullscreenState :=
  { s with model := { s.model with zooming } }

def setScrollViewIsDragging (dragging : Bool) (s : FullscreenState) : FullscreenState :=
  if s.model.dragging = dragging then s
  else
    let dragged := { s with model := { s.model with dragging } }
    if dragging then dragged.updateBaseOffset.updateDisabledCounterForContentHeight solve
    else dragged

def setResizesScrollView (resizes : Bool) (s : FullscreenState) : FullscreenState :=
  { s with model := { s.model with resizesScrollView := resizes } }

def setWebViewSafeAreaInsets (insets : UIEdgeInsets) (s : FullscreenState) : FullscreenState :=
  if s.model.safeAreaInsets = insets then s
  else
    updateDisabledCounterForContentHeight solve
      { s with model := { s.model with safeAreaInsets := insets } }

def setFreezeToolbarHeight (freeze : Bool) (s : FullscreenState) : FullscreenState :=
  if s.model.freezeToolbarHeight = freeze then s
  else
    duringCallback fullscreenModelToolbarHeightsUpdated
      { s with model := { s.model with freezeToolbarHeight := freeze, baseOffset := none } }

end

end FullscreenState

end IosChrome.Fullscreen

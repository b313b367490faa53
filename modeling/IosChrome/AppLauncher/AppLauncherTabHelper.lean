import IosChrome.Lib.Dictionary
import IosChrome.Lib.Machine

/-!
# `AppLauncherTabHelper`

A page that asks to launch an application is counted by the `AppLauncherAbuseDetector`, for each
source page and scheme: a request that comes soon after the last one is one more in a row, and from
the third in a row the user is prompted. While a prompt is up, the helper takes no requests
(`is_prompt_active_`).

The flag is set before the helper looks whether it has a delegate to show the prompt, and only the
answer takes it back. So it stays set for good when there is none, and when the callback is dropped
without an answer. `promptsKept_iff` says that these are the only ways to lose the later requests; a third
request in a row is launched after an accepted prompt only, whatever happens.

Times are numbers, and the two readings of the clock in one request are taken to be one.
-/

namespace IosChrome.AppLauncher

open Lib

/-- A URL by its parts that matter here. -/
structure GURL where
  content : String
  scheme : String
  deriving DecidableEq

inductive ExternalAppLaunchPolicy where
  | allow
  | prompt
  | block
  deriving DecidableEq

/-! ## `AppLaunchingState` and `AppLauncherAbuseDetector` -/

structure AppLaunchingState where
  lastAppLaunchTime : Option Int := none
  consecutiveLaunchesCount : Nat := 0
  appLaunchingBlocked : Bool := false

def AppLaunchingState.updateWithLaunchRequest (state : AppLaunchingState)
    (maxSecondsBetweenConsecutiveLaunches now : Int) : AppLaunchingState :=
  if state.appLaunchingBlocked then state
  else
    { state with
      consecutiveLaunchesCount :=
        match state.lastAppLaunchTime with
        | none => 1
        | some last =>
          if now - last > maxSecondsBetweenConsecutiveLaunches then 1
          else state.consecutiveLaunchesCount + 1
      lastAppLaunchTime := some now }

def kMaxAllowedConsecutiveExternalAppLaunches : Nat := 2

/-- The key of a request: the content of the source page and the scheme of the application. -/
abbrev StateKey := String × String

/-- `stateKeyForAppURL:sourceURL:`. A scheme has no space, so a pair is as good as the text. -/
def stateKey (appURL sourcePageURL : GURL) : StateKey := (sourcePageURL.content, appURL.scheme)

/-- `appLaunchingStates`. -/
abbrev AbuseDetector := StateKey → Option AppLaunchingState

namespace AbuseDetector

variable (detector : AbuseDetector)

def set (key : StateKey) (state : AppLaunchingState) : AbuseDetector :=
  fun key' => if key' = key then some state else detector key'

def didRequestLaunchExternalAppURL (maxSeconds now : Int) (key : StateKey) : AbuseDetector :=
  detector.set key (((detector key).getD {}).updateWithLaunchRequest maxSeconds now)

def launchPolicyForURL (key : StateKey) : ExternalAppLaunchPolicy :=
  match detector key with
  | none => .allow
  | some state =>
    if state.appLaunchingBlocked then .block
    else if state.consecutiveLaunchesCount > kMaxAllowedConsecutiveExternalAppLaunches then .prompt
    else .allow

def blockLaunchingAppURL (key : StateKey) : AbuseDetector :=
  match detector key with
  | none => detector
  | some state => detector.set key { state with appLaunchingBlocked := true }

end AbuseDetector

/-! ## `AppLauncherTabHelper` -/

/-- A request to launch an application. The source page and the scheme had requests at `times`,
newest first and this one included. -/
structure LaunchRequest where
  url : GURL
  sourcePageURL : GURL
  times : List Int

/-- What the delegate was asked for, and for a launch whether the user accepted a prompt for it. -/
inductive DelegateCall where
  | launchAppForTabHelper (request : LaunchRequest) (linkTransition accepted : Bool)
  | showRepeatedAppLaunchAlert (request : LaunchRequest)

/-- `prompts` are the callbacks of prompts that were neither run nor dropped. `counted` are the
requests the detector counted, newest first, with the source page, the scheme and the time; it is a
log, as `delegateCalls` is. -/
structure AppLauncherTabHelper where
  maxSeconds : Int
  abuseDetector : AbuseDetector
  isPromptActive : Bool
  hasDelegate : Bool
  prompts : List LaunchRequest
  now : Int
  counted : List (GURL × String × Int)
  delegateCalls : List DelegateCall

namespace AppLauncherTabHelper

variable (helper : AppLauncherTabHelper)

def times (sourcePageURL : GURL) (scheme : String) : List Int :=
  (helper.counted.filter fun entry => entry.1 = sourcePageURL ∧ entry.2.1 = scheme).map (·.2.2)

/-- `didRequestLaunchExternalAppURL`, and the log of what it counts. -/
def count (url sourcePageURL : GURL) (now : Int) : AppLauncherTabHelper :=
  let key := stateKey url sourcePageURL
  { helper with
    abuseDetector := helper.abuseDetector.didRequestLaunchExternalAppURL helper.maxSeconds now key
    now := now
    counted :=
      if ((helper.abuseDetector key).getD {}).appLaunchingBlocked then helper.counted
      else (sourcePageURL, url.scheme, now) :: helper.counted }

/-- The policy is asked for after the request is counted. -/
def launchPolicy (url sourcePageURL : GURL) (now : Int) : ExternalAppLaunchPolicy :=
  (helper.count url sourcePageURL now).abuseDetector.launchPolicyForURL
    (stateKey url sourcePageURL)

def requestToLaunchApp (applicationActive : Bool) (url sourcePageURL : GURL)
    (linkTransition : Bool) (now : Int) : AppLauncherTabHelper :=
  if ¬ applicationActive ∨ helper.isPromptActive then helper
  else
    let counted := helper.count url sourcePageURL now
    let request := ⟨url, sourcePageURL, counted.times sourcePageURL url.scheme⟩
    match helper.launchPolicy url sourcePageURL now with
    | .block => counted
    | .allow =>
      if helper.hasDelegate then
        { counted with
          delegateCalls := helper.delegateCalls ++
            [.launchAppForTabHelper request linkTransition false] }
      else counted
    | .prompt =>
      if helper.hasDelegate then
        { counted with
          isPromptActive := true
          prompts := helper.prompts ++ [request]
          delegateCalls := helper.delegateCalls ++ [.showRepeatedAppLaunchAlert request] }
      -- The flag is set first, and nobody will take it back.
      else { counted with isPromptActive := true }

/-- The callback of a prompt. -/
def answerPrompt (i : Nat) (userAllowed : Bool) : AppLauncherTabHelper :=
  match helper.prompts[i]? with
  | none => helper
  | some request =>
    { helper with
      isPromptActive := false
      prompts := helper.prompts.eraseIdx i
      delegateCalls :=
        if userAllowed ∧ helper.hasDelegate then
          helper.delegateCalls ++ [.launchAppForTabHelper request true true]
        else helper.delegateCalls }

inductive Call where
  | requestToLaunchApp (applicationActive : Bool) (url sourcePageURL : GURL)
      (linkTransition : Bool) (now : Int)
  | answerPrompt (i : Nat) (userAllowed : Bool)
  | dropPrompt (i : Nat)
  | setDelegate (hasDelegate : Bool)
  | blockLaunchingAppURL (url sourcePageURL : GURL)

def step : Call → AppLauncherTabHelper
  | .requestToLaunchApp applicationActive url sourcePageURL linkTransition now =>
    helper.requestToLaunchApp applicationActive url sourcePageURL linkTransition now
  | .answerPrompt i userAllowed => helper.answerPrompt i userAllowed
  | .dropPrompt i => { helper with prompts := helper.prompts.eraseIdx i }
  | .setDelegate hasDelegate => { helper with hasDelegate := hasDelegate }
  | .blockLaunchingAppURL url sourcePageURL =>
    { helper with
      abuseDetector := helper.abuseDetector.blockLaunchingAppURL (stateKey url sourcePageURL) }

/-- Times do not go back, and a callback runs or is dropped once. -/
def Pre : Call → Prop
  | .requestToLaunchApp _ _ _ _ now => helper.now ≤ now
  | .answerPrompt i _ => i < helper.prompts.length
  | .dropPrompt i => i < helper.prompts.length
  | _ => True

def start (maxSeconds now : Int) : AppLauncherTabHelper :=
  ⟨maxSeconds, fun _ => none, false, false, [], now, [], []⟩

def machine : Machine AppLauncherTabHelper Call where
  init helper := ∃ maxSeconds now, helper = start maxSeconds now
  pre helper call := helper.Pre call
  step helper call := helper.step call

/-! ## What is asked of the helper -/

/-- The flag is set exactly while a shown prompt waits for its answer. -/
def FlagRight : Prop := helper.isPromptActive = true ↔ helper.prompts ≠ []

/-- A request that finds Chrome active, a delegate and no prompt, and whose pair is not blocked,
leads to a launch or a prompt. -/
def Heard : Call → Prop
  | .requestToLaunchApp applicationActive url sourcePageURL linkTransition now =>
    applicationActive = true → helper.prompts = [] → helper.hasDelegate = true →
      helper.launchPolicy url sourcePageURL now ≠ .block →
        ∃ call, (helper.requestToLaunchApp applicationActive url sourcePageURL linkTransition
          now).delegateCalls = helper.delegateCalls ++ [call]
  | _ => True

/-- Two gaps in a row that do not exceed the maximum. -/
def ThirdInARow (maxSeconds : Int) : List Int → Prop
  | c :: b :: a :: _ => c - b ≤ maxSeconds ∧ b - a ≤ maxSeconds
  | _ => False

/-- A third request in a row, and one after it, is launched after an accepted prompt only. -/
def ThirdPrompted : Prop :=
  ∀ request linkTransition accepted,
    .launchAppForTabHelper request linkTransition accepted ∈ helper.delegateCalls →
      ThirdInARow helper.maxSeconds request.times → accepted = true

/-- The condition: a request that is to be prompted finds a delegate, and every prompt is
answered. -/
def PromptAnswered : Call → Prop
  | .requestToLaunchApp applicationActive url sourcePageURL _ now =>
    applicationActive = true → helper.isPromptActive = false →
      helper.launchPolicy url sourcePageURL now = .prompt → helper.hasDelegate = true
  | .dropPrompt _ => False
  | _ => True

variable {helper}

/-! ## The flag -/

/-- The invariant: the flag is right, and there is one prompt at most. -/
structure OnePrompt (helper : AppLauncherTabHelper) : Prop where
  flag : helper.FlagRight
  one : helper.prompts.length ≤ 1

theorem OnePrompt.inactive (h : helper.OnePrompt) :
    helper.isPromptActive = false ↔ helper.prompts = [] := by
  rw [← Bool.not_eq_true, show helper.isPromptActive = true ↔ _ from h.flag, not_not]

theorem OnePrompt.answered (h : helper.OnePrompt) {i : Nat} (hi : i < helper.prompts.length) :
    helper.prompts.eraseIdx i = [] := by
  refine List.eq_nil_of_length_eq_zero ?_
  rw [List.length_eraseIdx_of_lt hi]
  have hone := h.one
  omega

theorem OnePrompt.step {call : Call} (h : helper.OnePrompt) (hpre : helper.Pre call)
    (hanswered : helper.PromptAnswered call) : (helper.step call).OnePrompt := by
  cases call with
  | requestToLaunchApp applicationActive url sourcePageURL linkTransition now =>
    simp only [AppLauncherTabHelper.step, requestToLaunchApp]
    split
    · exact h
    · rename_i hgo
      obtain ⟨hactive, hflag⟩ : applicationActive = true ∧ helper.isPromptActive = false := by
        simpa using hgo
      have hnil := h.inactive.1 hflag
      cases hpolicy : helper.launchPolicy url sourcePageURL now with
      | block => exact ⟨h.flag, h.one⟩
      | allow =>
        dsimp only
        split
        · exact ⟨h.flag, h.one⟩
        · exact ⟨h.flag, h.one⟩
      | prompt =>
        have hdelegate := hanswered hactive hflag hpolicy
        simp only [hdelegate, if_true]
        exact ⟨by simp [FlagRight], by simp [hnil]⟩
  | answerPrompt i userAllowed =>
    have hi : i < helper.prompts.length := hpre
    have hempty := h.answered hi
    simp only [AppLauncherTabHelper.step, answerPrompt, List.getElem?_eq_getElem hi]
    exact ⟨by simp [FlagRight, hempty], by simp [hempty]⟩
  | dropPrompt i => exact absurd hanswered not_false
  | setDelegate hasDelegate => exact ⟨h.flag, h.one⟩
  | blockLaunchingAppURL url sourcePageURL => exact ⟨h.flag, h.one⟩

theorem OnePrompt.heard (h : helper.OnePrompt) (call : Call) : helper.Heard call := by
  cases call with
  | requestToLaunchApp applicationActive url sourcePageURL linkTransition now =>
    intro hactive hnil hdelegate hblock
    have hflag := h.inactive.2 hnil
    simp only [requestToLaunchApp, hactive, hflag]
    cases hpolicy : helper.launchPolicy url sourcePageURL now with
    | block => exact absurd hpolicy hblock
    | allow => simp [hdelegate]
    | prompt => simp [hdelegate]
  | _ => trivial

/-- The condition is exact: without it the flag stays set and no prompt is there. -/
theorem OnePrompt.promptAnswered (h : helper.OnePrompt) {call : Call} (hpre : helper.Pre call)
    (hright : (helper.step call).FlagRight) : helper.PromptAnswered call := by
  cases call with
  | requestToLaunchApp applicationActive url sourcePageURL linkTransition now =>
    intro hactive hflag hpolicy
    by_contra hdelegate
    simp only [AppLauncherTabHelper.step, requestToLaunchApp, hactive, hflag, hpolicy] at hright
    simp [FlagRight, hdelegate, h.inactive.1 hflag, count] at hright
  | dropPrompt i =>
    have hi : i < helper.prompts.length := hpre
    have hnone : helper.prompts.eraseIdx i = [] := h.answered hi
    have hset : helper.isPromptActive = true :=
      h.flag.2 (List.ne_nil_of_length_pos (Nat.lt_of_le_of_lt (Nat.zero_le i) hi))
    exact hright.1 hset hnone
  | answerPrompt i userAllowed => trivial
  | setDelegate hasDelegate => trivial
  | blockLaunchingAppURL url sourcePageURL => trivial

/-! ## Requests in a row -/

/-- How many of the newest requests are in a row, up to two. -/
def row (maxSeconds : Int) : List Int → Nat
  | b :: a :: _ => if b - a ≤ maxSeconds then 2 else 1
  | [_] => 1
  | [] => 0

/-- The invariant of the counts. Pages that differ in nothing but the scheme share a state, so the
last time of a state may be later than that of a page; while the gap is small, the state has
counted the requests of the page at least. -/
structure Counts (helper : AppLauncherTabHelper) : Prop where
  past : ∀ key state last, helper.abuseDetector key = some state →
    state.lastAppLaunchTime = some last → last ≤ helper.now
  rows : ∀ page scheme last rest, helper.times page scheme = last :: rest →
    ∃ state t, helper.abuseDetector (page.content, scheme) = some state ∧
      state.lastAppLaunchTime = some t ∧ last ≤ t ∧
      (t - last ≤ helper.maxSeconds →
        row helper.maxSeconds (last :: rest) ≤ state.consecutiveLaunchesCount)
  prompted : helper.ThirdPrompted

/-- The new state of a request that is not blocked. -/
theorem count_state {url page : GURL} {now : Int}
    (hblock : ((helper.abuseDetector (stateKey url page)).getD {}).appLaunchingBlocked = false) :
    ∃ state, (helper.count url page now).abuseDetector (stateKey url page) = some state ∧
      state.lastAppLaunchTime = some now ∧ state.appLaunchingBlocked = false ∧
      1 ≤ state.consecutiveLaunchesCount ∧
      ∀ old last, helper.abuseDetector (stateKey url page) = some old →
        old.lastAppLaunchTime = some last → now - last ≤ helper.maxSeconds →
          state.consecutiveLaunchesCount = old.consecutiveLaunchesCount + 1 := by
  refine ⟨_, if_pos rfl, ?_⟩
  simp only [AppLaunchingState.updateWithLaunchRequest, hblock, Bool.false_eq_true, if_false,
    true_and]
  constructor
  · split
    · omega
    · split <;> omega
  · intro old last hold hlast hgap
    simp [hold, hlast, Int.not_lt.2 hgap]

theorem count_other {url page : GURL} {now : Int} {key : StateKey}
    (hne : key ≠ stateKey url page) :
    (helper.count url page now).abuseDetector key = helper.abuseDetector key := if_neg hne

theorem times_count {url page : GURL} {now : Int}
    (hblock : ((helper.abuseDetector (stateKey url page)).getD {}).appLaunchingBlocked = false)
    (page' : GURL) (scheme : String) : (helper.count url page now).times page' scheme =
      if page = page' ∧ url.scheme = scheme then now :: helper.times page' scheme
      else helper.times page' scheme := by
  simp only [times, count, hblock, Bool.false_eq_true, if_false, List.filter_cons]
  by_cases h : page = page' ∧ url.scheme = scheme
  · simp [h]
  · simp [h]

/-- A blocked request changes nothing but the time. -/
theorem count_blocked {url page : GURL} {now : Int}
    (hblock : ((helper.abuseDetector (stateKey url page)).getD {}).appLaunchingBlocked = true) :
    helper.count url page now = { helper with now := now } := by
  cases hstate : helper.abuseDetector (stateKey url page) with
  | none =>
    rw [hstate] at hblock
    cases hblock
  | some state =>
    have hblocked : state.appLaunchingBlocked = true := by simpa [hstate] using hblock
    have hsame : helper.abuseDetector.didRequestLaunchExternalAppURL helper.maxSeconds now
        (stateKey url page) = helper.abuseDetector := by
      funext key
      simp only [AbuseDetector.didRequestLaunchExternalAppURL, AbuseDetector.set, hstate,
        Option.getD_some, AppLaunchingState.updateWithLaunchRequest, hblocked, if_true]
      split
      · rename_i heq
        rw [heq, hstate]
      · rfl
    simp [count, hsame, hstate, hblocked]

theorem Counts.count (h : helper.Counts) {url page : GURL} {now : Int} (hnow : helper.now ≤ now) :
    (helper.count url page now).Counts := by
  cases hblock : ((helper.abuseDetector (stateKey url page)).getD {}).appLaunchingBlocked with
  | true =>
    rw [count_blocked hblock]
    exact ⟨fun key state last hstate hlast => Int.le_trans (h.past key state last hstate hlast) hnow,
      h.rows, h.prompted⟩
  | false =>
    obtain ⟨state, hstate, hlast, -, hone, hnext⟩ := @count_state helper url page now hblock
    refine ⟨fun key state' last hstate' hlast' => ?_, fun page' scheme last rest htimes => ?_,
      h.prompted⟩
    · by_cases hkey : key = stateKey url page
      · rw [hkey, hstate] at hstate'
        cases hstate'
        rw [hlast] at hlast'
        cases hlast'
        exact Int.le_refl _
      · rw [count_other hkey] at hstate'
        exact Int.le_trans (h.past key state' last hstate' hlast') hnow
    · by_cases hkey : (page'.content, scheme) = stateKey url page
      · rw [hkey]
        refine ⟨state, now, hstate, hlast, ?_⟩
        rw [times_count hblock] at htimes
        split at htimes
        · -- The page itself: its newest request is this one.
          obtain ⟨rfl, holds⟩ := List.cons.inj htimes
          refine ⟨Int.le_refl _, fun _ => ?_⟩
          cases rest with
          | nil => exact hone
          | cons b rest =>
            obtain ⟨old, t, hold, ht, hle, hrow⟩ := h.rows page' scheme b rest holds
            rw [hkey] at hold
            have hpast := h.past _ old t hold ht
            have hrow' : 1 ≤ row helper.maxSeconds (b :: rest) := by
              cases rest with
              | nil => exact Nat.le_refl 1
              | cons a rest =>
                simp only [row]
                split <;> omega
            simp only [row]
            split
            · rename_i hgap
              have hgap' : now - b ≤ helper.maxSeconds := hgap
              rw [hnext old t hold ht (by omega)]
              have := hrow (by omega)
              omega
            · exact hone
        · obtain ⟨old, t, hold, ht, hle, hrow⟩ := h.rows page' scheme last rest htimes
          rw [hkey] at hold
          have hpast := h.past _ old t hold ht
          refine ⟨by omega, fun hgap => ?_⟩
          have hgap' : now - last ≤ helper.maxSeconds := hgap
          rw [hnext old t hold ht (by omega)]
          exact Nat.le_succ_of_le (hrow (by omega))
      · rw [count_other hkey]
        rw [times_count hblock] at htimes
        split at htimes
        · rename_i hsame
          exact absurd (by rw [stateKey, hsame.1, hsame.2]) hkey
        · exact h.rows page' scheme last rest htimes

/-- A third request in a row is not launched at once. -/
theorem Counts.launchPolicy_ne_allow (h : helper.Counts) {url page : GURL} {now : Int}
    (hthird : ThirdInARow helper.maxSeconds
      ((helper.count url page now).times page url.scheme))
    (hnow : helper.now ≤ now) : helper.launchPolicy url page now ≠ .allow := by
  intro hallow
  cases hblock : ((helper.abuseDetector (stateKey url page)).getD {}).appLaunchingBlocked with
  | true =>
    rw [launchPolicy, count_blocked hblock, AbuseDetector.launchPolicyForURL] at hallow
    cases hstate : helper.abuseDetector (stateKey url page) with
    | none => simp [hstate] at hblock
    | some state => simp_all
  | false =>
    obtain ⟨state, hstate, -, hfree, -, hnext⟩ := @count_state helper url page now hblock
    rw [times_count hblock, if_pos ⟨rfl, rfl⟩] at hthird
    have hfew : state.consecutiveLaunchesCount ≤ 2 := by
      rw [launchPolicy, AbuseDetector.launchPolicyForURL, hstate] at hallow
      simp only [hfree, Bool.false_eq_true, if_false] at hallow
      split at hallow
      · cases hallow
      · rename_i hle
        exact Nat.not_lt.1 hle
    match htimes : helper.times page url.scheme, hthird with
    | b :: a :: rest, hthird =>
      obtain ⟨old, t, hold, ht, hle, hrow⟩ := h.rows page url.scheme b (a :: rest) htimes
      have hpast := h.past _ old t hold ht
      obtain ⟨hgap, hgap'⟩ := hthird
      have hcount := hnext old t hold ht (by omega)
      have htwo := hrow (by omega)
      simp only [row, hgap', if_true] at htwo
      omega

theorem ThirdPrompted.append {calls : List DelegateCall} (h : helper.ThirdPrompted)
    {call : DelegateCall} (hcalls : calls = helper.delegateCalls ++ [call])
    (hcall : ∀ request linkTransition accepted,
      call = .launchAppForTabHelper request linkTransition accepted →
        ThirdInARow helper.maxSeconds request.times → accepted = true) :
    ∀ request linkTransition accepted,
      .launchAppForTabHelper request linkTransition accepted ∈ calls →
        ThirdInARow helper.maxSeconds request.times → accepted = true := by
  intro request linkTransition accepted hmem
  rw [hcalls] at hmem
  rcases List.mem_append.1 hmem with hmem | hmem
  · exact h request linkTransition accepted hmem
  · exact hcall request linkTransition accepted (List.mem_singleton.1 hmem).symm

theorem Counts.step {call : Call} (h : helper.Counts) (hpre : helper.Pre call) :
    (helper.step call).Counts := by
  cases call with
  | requestToLaunchApp applicationActive url page linkTransition now =>
    have hcount : (helper.count url page now).Counts := h.count hpre
    simp only [AppLauncherTabHelper.step, requestToLaunchApp]
    split
    · exact h
    · cases hpolicy : helper.launchPolicy url page now with
      | block => exact hcount
      | allow =>
        dsimp only
        split
        · refine ⟨hcount.past, hcount.rows, h.prompted.append rfl ?_⟩
          intro request linkTransition accepted heq hthird
          cases heq
          exact absurd hpolicy (h.launchPolicy_ne_allow hthird hpre)
        · exact hcount
      | prompt =>
        dsimp only
        split
        · refine ⟨hcount.past, hcount.rows, h.prompted.append rfl ?_⟩
          intro request linkTransition accepted heq
          cases heq
        · exact ⟨hcount.past, hcount.rows, h.prompted⟩
  | answerPrompt i userAllowed =>
    simp only [AppLauncherTabHelper.step, answerPrompt]
    split
    · exact h
    · refine ⟨h.past, h.rows, ?_⟩
      dsimp only [ThirdPrompted]
      split
      · refine h.prompted.append rfl ?_
        intro request linkTransition accepted heq _
        cases heq
        rfl
      · exact h.prompted
  | dropPrompt i => exact ⟨h.past, h.rows, h.prompted⟩
  | setDelegate hasDelegate => exact ⟨h.past, h.rows, h.prompted⟩
  | blockLaunchingAppURL url page =>
    cases hstate : helper.abuseDetector (stateKey url page) with
    | none =>
      have hsame : helper.step (.blockLaunchingAppURL url page) = helper := by
        simp [AppLauncherTabHelper.step, AbuseDetector.blockLaunchingAppURL, hstate]
      rwa [hsame]
    | some state =>
      -- Only the flag of one state changes.
      have hflag : ∀ key, (helper.step (.blockLaunchingAppURL url page)).abuseDetector key =
          if key = stateKey url page then some { state with appLaunchingBlocked := true }
          else helper.abuseDetector key := fun key => by
        simp [AppLauncherTabHelper.step, AbuseDetector.blockLaunchingAppURL, hstate,
          AbuseDetector.set]
      refine ⟨fun key state' last hstate' hlast => ?_, fun page' scheme last rest htimes => ?_,
        h.prompted⟩
      · rw [hflag] at hstate'
        split at hstate'
        · cases hstate'
          exact h.past _ state last hstate hlast
        · exact h.past key state' last hstate' hlast
      · obtain ⟨old, t, hold, ht, hle, hrow⟩ := h.rows page' scheme last rest htimes
        rw [hflag]
        split
        · rename_i heq
          rw [heq, hstate] at hold
          cases hold
          exact ⟨_, t, rfl, ht, hle, hrow⟩
        · exact ⟨old, t, hold, ht, hle, hrow⟩

/-- **The flag is right and requests are heard along a run if and only if every prompt finds a
delegate and an answer**; that a third launch in a row was prompted needs no condition. -/
theorem promptsKept_iff {calls : List Call} (hinit : machine.init helper)
    (hrun : machine.Run helper calls) :
    (machine.Always (fun s call => (machine.step s call).FlagRight ∧ s.Heard call) helper calls ∧
        (machine.exec helper calls).ThirdPrompted) ↔
      machine.Always PromptAnswered helper calls := by
  obtain ⟨maxSeconds, now, rfl⟩ := hinit
  have hflag : (start maxSeconds now).OnePrompt := ⟨by simp [start, FlagRight], by simp [start]⟩
  have hcounts : (start maxSeconds now).Counts :=
    ⟨fun _ _ _ h => by simp [start] at h, fun _ _ _ _ h => by simp [start, times] at h,
      fun _ _ _ h => by simp [start] at h⟩
  have hprompted := (Machine.Run.invariant (fun s call h hpre => h.step hpre) hcounts hrun).prompted
  have hiff : machine.Always PromptAnswered (start maxSeconds now) calls ↔
      machine.Always (fun s call => (machine.step s call).FlagRight ∧ s.Heard call)
        (start maxSeconds now) calls :=
    Machine.always_iff_of_invariant (I := OnePrompt)
      (fun s call h hpre => ⟨fun hanswered => ⟨(h.step hpre hanswered).flag, h.heard call⟩,
        fun hright => h.promptAnswered hpre hright.1⟩)
      (fun s call h hpre hanswered => h.step hpre hanswered) hflag hrun
  exact ⟨fun h => hiff.2 h.1, fun h => ⟨hiff.1 h, hprompted⟩⟩

/-- Three requests of one page, a second apart. -/
def repeated : List Call :=
  [.requestToLaunchApp true ⟨"", "app"⟩ ⟨"//page", "https"⟩ true 0,
    .requestToLaunchApp true ⟨"", "app"⟩ ⟨"//page", "https"⟩ true 1,
    .requestToLaunchApp true ⟨"", "app"⟩ ⟨"//page", "https"⟩ true 2]

theorem promptsKept_iff_repeated :
    (machine.Always (fun s call => (machine.step s call).FlagRight ∧ s.Heard call) (start 30 0)
        (.setDelegate true :: repeated ++ [.answerPrompt 0 true]) ∧
      (machine.exec (start 30 0)
        (.setDelegate true :: repeated ++ [.answerPrompt 0 true])).ThirdPrompted) ↔
      machine.Always PromptAnswered (start 30 0)
        (.setDelegate true :: repeated ++ [.answerPrompt 0 true]) := by
  refine promptsKept_iff ⟨30, 0, rfl⟩ ⟨trivial, ?_, ?_, ?_, ?_, trivial⟩
  · exact (by decide : (0 : Int) ≤ 0)
  · exact (by decide : (0 : Int) ≤ 1)
  · exact (by decide : (1 : Int) ≤ 2)
  · exact (by decide : 0 < 1)

/-- **A third request without a delegate sets the flag for good**: there is no prompt, and a later
request, with a delegate, is not heard. -/
theorem repeated_withoutDelegate :
    machine.Run (start 30 0) repeated ∧ ¬ (machine.exec (start 30 0) repeated).FlagRight ∧
      ¬ (machine.exec (start 30 0) (repeated ++ [.setDelegate true])).Heard
        (.requestToLaunchApp true ⟨"", "other"⟩ ⟨"//page", "https"⟩ true 3) := by
  refine ⟨⟨?_, ?_, ?_, trivial⟩, fun h => absurd (h.1 (by decide)) (by decide), fun h => ?_⟩
  · exact (by decide : (0 : Int) ≤ 0)
  · exact (by decide : (0 : Int) ≤ 1)
  · exact (by decide : (1 : Int) ≤ 2)
  · obtain ⟨call, hcall⟩ := h rfl rfl rfl (by decide)
    exact absurd (congrArg List.length hcall) (by
      rw [List.length_append, List.length_singleton]
      decide)

end AppLauncherTabHelper

end IosChrome.AppLauncher

import IosChrome.Lib.Dictionary
import IosChrome.Lib.Machine
import Mathlib.Data.Fintype.Basic
import Mathlib.Data.List.Perm.Subperm

/-!
# `CrashReporterURLObserver`

The URLs of the pages that are shown go into crash reports, one for each group of web states: the
preloaded ones are a group, and so is each list of tabs. There are three keys for all groups. A
group that has none takes the first of `breakpad_keys_`, whoever has it; a key is put at the back
when a URL is recorded under it, and at the front when its group is removed. So the free keys come
first (`Before`).

A parameter is modelled with the web state it was recorded for. Next to the keys, `recordedAt` and
`freedAt` remember when each was put there. The lists are regular ones, and what they contain is
`webStates`.
-/

namespace IosChrome.CrashReport

open Lib

/-- `"PreloadGroup"`, and `GroupForWebStateList`. -/
inductive Group (L : Type) where
  | preload
  | webStateList (list : L)
  deriving DecidableEq

/-- The URLs of a web state when it is asked. -/
structure ReportedURLs (U : Type) where
  pendingItem : Option U
  lastCommittedURL : U

structure CrashReporterURLObserver (L W U : Type) where
  breakpadKeyByGroup : Dictionary (Group L) Nat
  webStateToGroup : W → Option (Group L)
  currentWebStates : Group L → Option W
  breakpadKeys : List Nat
  reportParameter : Nat → Bool → Option (U × W)
  clock : Nat
  recordedAt : Nat → Nat
  freedAt : Nat → Nat
  webStates : Group L → List W
  observed : L → Bool

/-- A URL is none where its spec is empty. -/
inductive URLObserverCall (L W U : Type) where
  | didStartNavigation (webState : W) (url : Option U)
  | didFinishNavigation (webState : W) (url : Option U)
  | webStateInsertedAt (list : L) (webState : W) (urls : ReportedURLs U) (activating : Bool)
  | webStateActivatedAt (list : L) (newWebState : Option W) (urls : ReportedURLs U)
  | webStateReplacedAt (list : L) (oldWebState newWebState : W) (urls : ReportedURLs U)
      (active : Bool)
  | webStateDetachedAt (list : L) (webState : W)
  | observePreloadWebState (webState : W)
  | stopObservingPreloadWebState (webState : W)
  | observeWebStateList (list : L) (webStates : List W)
  | stopObservingWebStateList (list : L)
  | removeWebStateList (list : L)

namespace CrashReporterURLObserver

variable {L W U : Type}

section

variable [DecidableEq L] [DecidableEq W] (s : CrashReporterURLObserver L W U)

def removeGroup (group : Group L) : CrashReporterURLObserver L W U :=
  match s.breakpadKeyByGroup.objectForKey group with
  | none => s
  | some key =>
    { s with
      reportParameter := fun k pending => if k = key then none else s.reportParameter k pending
      breakpadKeyByGroup := s.breakpadKeyByGroup.removeObjectForKey group
      breakpadKeys := key :: s.breakpadKeys.filter (· ≠ key)
      currentWebStates := fun g => if g = group then none else s.currentWebStates g
      clock := s.clock + 1
      freedAt := fun k => if k = key then s.clock + 1 else s.freedAt k }

/-- The first of the keys goes to a group without one, and is taken from the groups that use it. -/
def takeFirstKey (group : Group L) (key : Nat) : CrashReporterURLObserver L W U :=
  let usedGroups := s.breakpadKeyByGroup.allKeysForObject key
  { s with
    currentWebStates := fun g => if g ∈ usedGroups then none else s.currentWebStates g
    breakpadKeyByGroup :=
      (usedGroups.foldl Dictionary.removeObjectForKey s.breakpadKeyByGroup).setObject group key }

/-- The rest of `RecordURL`, once the key is found. -/
def setReportParameter (group : Group L) (url : U) (webState : W) (pending : Bool)
    (breakpadKey : Nat) (reusingKey : Bool) : CrashReporterURLObserver L W U :=
  { s with
    breakpadKeys := s.breakpadKeys.filter (· ≠ breakpadKey) ++ [breakpadKey]
    currentWebStates := fun g => if g = group then some webState else s.currentWebStates g
    reportParameter := fun k isPending =>
      if k ≠ breakpadKey then s.reportParameter k isPending
      else if isPending = pending then some (url, webState)
      -- A pending URL leaves the committed one, unless that is of another group.
      else if pending && !reusingKey then s.reportParameter k isPending
      else none
    clock := s.clock + 1
    recordedAt := fun k => if k = breakpadKey then s.clock + 1 else s.recordedAt k }

/-- `RecordURL`. That there is a group is its `DCHECK`, and there is always a first key. -/
def recordURL (url : U) (webState : W) (pending : Bool) : CrashReporterURLObserver L W U :=
  match s.webStateToGroup webState with
  | none => s
  | some group =>
    match s.breakpadKeyByGroup.objectForKey group with
    | some breakpadKey => s.setReportParameter group url webState pending breakpadKey false
    | none =>
      match s.breakpadKeys with
      -- `objectAtIndex:` would raise an exception.
      | [] => s
      | breakpadKey :: _ =>
        -- The key that is taken may be in use.
        let reusingKey := !(s.breakpadKeyByGroup.allKeysForObject breakpadKey).isEmpty
        (s.takeFirstKey group breakpadKey).setReportParameter group url webState pending
          breakpadKey reusingKey

def recordURLForWebState (webState : W) (urls : ReportedURLs U) :
    CrashReporterURLObserver L W U :=
  s.recordURL (urls.pendingItem.getD urls.lastCommittedURL) webState urls.pendingItem.isSome

def setGroup (webState : W) (group : Option (Group L)) : CrashReporterURLObserver L W U :=
  { s with
    webStateToGroup := fun w => if w = webState then group else s.webStateToGroup w }

/-- What happens to a list or the preloaded web states, before the observer is told. -/
def setWebStates (group : Group L) (webStates : List W) : CrashReporterURLObserver L W U :=
  { s with webStates := fun g => if g = group then webStates else s.webStates g }

def setObserved (list : L) (isObserved : Bool) : CrashReporterURLObserver L W U :=
  { s with observed := fun l => if l = list then isObserved else s.observed l }

def step : URLObserverCall L W U → CrashReporterURLObserver L W U
  | .didStartNavigation webState url =>
    match url with
    | none => s
    | some url => s.recordURL url webState true
  | .didFinishNavigation webState url =>
    match url with
    | none => s
    | some url => s.recordURL url webState false
  | .webStateInsertedAt list webState urls activating =>
    let group := Group.webStateList list
    let s := (s.setWebStates group (webState :: s.webStates group)).setGroup webState (some group)
    if activating then s.recordURLForWebState webState urls else s
  | .webStateActivatedAt list newWebState urls =>
    match newWebState with
    | none => s
    | some newWebState =>
      (s.setGroup newWebState (some (.webStateList list))).recordURLForWebState newWebState urls
  | .webStateReplacedAt list oldWebState newWebState urls active =>
    let group := Group.webStateList list
    let s := s.setWebStates group
      (newWebState :: (s.webStates group).filter (· ≠ oldWebState))
    let s := (s.setGroup oldWebState none).setGroup newWebState (some group)
    if active then s.recordURLForWebState newWebState urls else s
  | .webStateDetachedAt list webState =>
    let group := Group.webStateList list
    let s := s.setWebStates group ((s.webStates group).filter (· ≠ webState))
    let s := s.setGroup webState none
    if s.currentWebStates group = some webState then s.removeGroup group else s
  | .observePreloadWebState webState =>
    (s.setWebStates .preload (webState :: s.webStates .preload)).setGroup webState (some .preload)
  | .stopObservingPreloadWebState webState =>
    let s := s.setWebStates .preload ((s.webStates .preload).filter (· ≠ webState))
    -- It may have come to a list in the meantime.
    let s := if s.webStateToGroup webState = some .preload then s.setGroup webState none else s
    if s.currentWebStates .preload = some webState then s.removeGroup .preload else s
  | .observeWebStateList list webStates =>
    let group := Group.webStateList list
    let s := (s.setObserved list true).setWebStates group webStates
    { s with
      webStateToGroup := fun w => if w ∈ webStates then some group else s.webStateToGroup w }
  | .stopObservingWebStateList list =>
    let group := Group.webStateList list
    let s := (s.setObserved list false).setWebStates group []
    let s := { s with
      webStateToGroup := fun w =>
        if s.webStateToGroup w = some group then none else s.webStateToGroup w
      currentWebStates := fun g => if g = group then none else s.currentWebStates g }
    s.removeGroup group
  | .removeWebStateList list => s.removeGroup (.webStateList list)

/-- Notifications come from observed lists, and only web states that are observed navigate. -/
def Pre : URLObserverCall L W U → Prop
  | .didStartNavigation webState _ => s.webStateToGroup webState ≠ none
  | .didFinishNavigation webState _ => s.webStateToGroup webState ≠ none
  | .webStateInsertedAt list webState _ _ =>
    s.observed list ∧ ∀ l, webState ∉ s.webStates (.webStateList l)
  | .webStateActivatedAt list newWebState _ =>
    s.observed list ∧ ∀ w ∈ newWebState, w ∈ s.webStates (.webStateList list)
  | .webStateReplacedAt list oldWebState newWebState _ _ =>
    s.observed list ∧ oldWebState ∈ s.webStates (.webStateList list) ∧
      ∀ l, newWebState ∉ s.webStates (.webStateList l)
  | .webStateDetachedAt list webState =>
    s.observed list ∧ webState ∈ s.webStates (.webStateList list)
  | .observePreloadWebState webState => webState ∉ s.webStates .preload
  | .stopObservingPreloadWebState webState => webState ∈ s.webStates .preload
  | .observeWebStateList list _ => s.observed list = false
  | .stopObservingWebStateList list => s.observed list
  | .removeWebStateList _ => True

instance [Fintype L] : (call : URLObserverCall L W U) → Decidable (s.Pre call)
  | .didStartNavigation webState _ =>
    inferInstanceAs (Decidable (s.webStateToGroup webState ≠ none))
  | .didFinishNavigation webState _ =>
    inferInstanceAs (Decidable (s.webStateToGroup webState ≠ none))
  | .webStateInsertedAt list webState _ _ =>
    inferInstanceAs (Decidable (s.observed list ∧ ∀ l, webState ∉ s.webStates (.webStateList l)))
  | .webStateActivatedAt list newWebState _ => inferInstanceAs
    (Decidable (s.observed list ∧ ∀ w ∈ newWebState, w ∈ s.webStates (.webStateList list)))
  | .webStateReplacedAt list oldWebState newWebState _ _ => inferInstanceAs
    (Decidable (s.observed list ∧ oldWebState ∈ s.webStates (.webStateList list) ∧
      ∀ l, newWebState ∉ s.webStates (.webStateList l)))
  | .webStateDetachedAt list webState =>
    inferInstanceAs (Decidable (s.observed list ∧ webState ∈ s.webStates (.webStateList list)))
  | .observePreloadWebState webState =>
    inferInstanceAs (Decidable (webState ∉ s.webStates .preload))
  | .stopObservingPreloadWebState webState =>
    inferInstanceAs (Decidable (webState ∈ s.webStates .preload))
  | .observeWebStateList list _ => inferInstanceAs (Decidable (s.observed list = false))
  | .stopObservingWebStateList list => inferInstanceAs (Decidable (s.observed list = true))
  | .removeWebStateList _ => isTrue trivial

def urlObserverMachine (L W U : Type) [DecidableEq L] [DecidableEq W] :
    Machine (CrashReporterURLObserver L W U) (URLObserverCall L W U) where
  init s := s.breakpadKeyByGroup = [] ∧ (∀ w, s.webStateToGroup w = none) ∧
    (∀ g, s.currentWebStates g = none) ∧ s.breakpadKeys = [0, 1, 2] ∧
    (∀ k pending, s.reportParameter k pending = none) ∧ s.clock = 0 ∧
    (∀ k, s.recordedAt k = 0 ∧ s.freedAt k = 0) ∧ (∀ g, s.webStates g = []) ∧
    ∀ l, s.observed l = false
  pre s call := s.Pre call
  step s call := s.step call

instance [Fintype L] (call : URLObserverCall L W U) :
    Decidable ((urlObserverMachine L W U).pre s call) :=
  inferInstanceAs (Decidable (s.Pre call))

end

/-! ## What is kept -/

/-- Some group has the key. -/
def Held (s : CrashReporterURLObserver L W U) (key : Nat) : Prop :=
  ∃ group, (group, key) ∈ s.breakpadKeyByGroup

/-- Three keys, one for a group. -/
structure KeysShared [DecidableEq L] (s : CrashReporterURLObserver L W U) : Prop where
  keys : s.breakpadKeys.Perm [0, 1, 2]
  groups : (s.breakpadKeyByGroup.map Prod.fst).Nodup ∧ s.breakpadKeyByGroup.length ≤ 3
  unshared : ∀ group group' key, s.breakpadKeyByGroup.objectForKey group = some key →
    s.breakpadKeyByGroup.objectForKey group' = some key → group = group'

/-- A group without a key takes a free one, the one that was freed last or the first that was never
used; when all are in use, the one least recently recorded. -/
def TakesKeys [DecidableEq L] (s s' : CrashReporterURLObserver L W U) : Prop :=
  ∀ group key, s.breakpadKeyByGroup.objectForKey group = none →
    s'.breakpadKeyByGroup.objectForKey group = some key →
    (s.Held key → ∀ k ∈ s.breakpadKeys, s.Held k ∧ s.recordedAt key ≤ s.recordedAt k) ∧
    (¬s.Held key → ∀ k ∈ s.breakpadKeys, ¬s.Held k →
      s.freedAt k < s.freedAt key ∨ (s.freedAt k = s.freedAt key ∧ key ≤ k))

/-- The parameters of a key are recorded for `webState`, but for a committed URL next to a pending
one. -/
def Reports (s : CrashReporterURLObserver L W U) (key : Nat) (webState : W) : Prop :=
  ∀ pending, ∀ parameter ∈ s.reportParameter key pending, parameter.2 = webState ∨
    (pending = false ∧ ∃ url, s.reportParameter key true = some (url, webState))

/-- What is reported under a key is of the web state its group has recorded last. -/
def ReportsCurrent [DecidableEq L] (s : CrashReporterURLObserver L W U) : Prop :=
  ∀ key pending, s.reportParameter key pending ≠ none → ∃ group webState,
    s.breakpadKeyByGroup.objectForKey group = some key ∧
      s.currentWebStates group = some webState ∧ s.Reports key webState

/-- What is reported of a group is of web states that it still has, but for a committed URL next to
a pending one, of a web state `left` behind. -/
def AttachedIn (left : Group L → W → Prop) (s : CrashReporterURLObserver L W U) (group : Group L) :
    Prop :=
  ∀ key, (group, key) ∈ s.breakpadKeyByGroup →
    ∀ pending, ∀ parameter ∈ s.reportParameter key pending, parameter.2 ∈ s.webStates group ∨
      (pending = false ∧ s.reportParameter key true ≠ none ∧ left group parameter.2)

/-- The committed URLs alone. -/
def CommittedIn (left : Group L → W → Prop) (s : CrashReporterURLObserver L W U)
    (group : Group L) : Prop :=
  ∀ key, (group, key) ∈ s.breakpadKeyByGroup → ∀ parameter ∈ s.reportParameter key false,
    parameter.2 ∈ s.webStates group ∨ left group parameter.2

def OnlyAttached (left : Group L → W → Prop) (s : CrashReporterURLObserver L W U) : Prop :=
  ∀ group, s.AttachedIn left group

/-- It was replaced, while it was active, by one that was loading. -/
def ReplacedByLoading (calls : List (URLObserverCall L W U)) (group : Group L) (webState : W) :
    Prop :=
  ∃ list newWebState urls, group = .webStateList list ∧ urls.pendingItem ≠ none ∧
    .webStateReplacedAt list webState newWebState urls true ∈ calls

/-- A URL of the web state is reported of the group. -/
def Reported (s : CrashReporterURLObserver L W U) (group : Group L) (webState : W) : Prop :=
  ∃ key, (group, key) ∈ s.breakpadKeyByGroup ∧
    ∃ pending, ∃ parameter ∈ s.reportParameter key pending, parameter.2 = webState

/-- The condition: a web state that is reported leaves its group only while it is the one recorded
last, or while it is active and replaced. -/
def LeavesLast (s : CrashReporterURLObserver L W U) : URLObserverCall L W U → Prop
  | .webStateDetachedAt list webState => s.Reported (.webStateList list) webState →
    s.currentWebStates (.webStateList list) = some webState
  | .stopObservingPreloadWebState webState => s.Reported .preload webState →
    s.currentWebStates .preload = some webState
  | .webStateReplacedAt list oldWebState _ _ false => ¬s.Reported (.webStateList list) oldWebState
  | _ => True

/-- The order of the keys. -/
def Before (s : CrashReporterURLObserver L W U) (key key' : Nat) : Prop :=
  (¬s.Held key ∧ s.Held key') ∨
    (s.Held key ∧ s.Held key' ∧ s.recordedAt key < s.recordedAt key') ∨
    (¬s.Held key ∧ ¬s.Held key' ∧
      (s.freedAt key' < s.freedAt key ∨ (s.freedAt key' = s.freedAt key ∧ key < key')))

/-- The keys, their groups and what is reported under them. -/
structure Inv (s : CrashReporterURLObserver L W U) : Prop where
  keys : s.breakpadKeys.Perm [0, 1, 2]
  groups : Keyed.Unique Prod.fst s.breakpadKeyByGroup
  unshared : ∀ g g' k, (g, k) ∈ s.breakpadKeyByGroup → (g', k) ∈ s.breakpadKeyByGroup → g = g'
  mem_keys : ∀ g k, (g, k) ∈ s.breakpadKeyByGroup → k ∈ s.breakpadKeys
  ordered : s.breakpadKeys.Pairwise s.Before
  recordedAt_le : ∀ k, s.recordedAt k ≤ s.clock
  freedAt_le : ∀ k, s.freedAt k ≤ s.clock
  clear : ∀ k pending, s.reportParameter k pending ≠ none → s.Held k
  current : ∀ g k, (g, k) ∈ s.breakpadKeyByGroup →
    ∃ w, s.currentWebStates g = some w ∧ s.Reports k w
  reported : ∀ g w, s.currentWebStates g = some w → ∃ k, (g, k) ∈ s.breakpadKeyByGroup

/-- The map of the groups agrees with what they contain. -/
structure Watches (s : CrashReporterURLObserver L W U) : Prop where
  grouped : ∀ w g, s.webStateToGroup w = some g → w ∈ s.webStates g
  unobserved : ∀ l, s.observed l = false → s.webStates (.webStateList l) = []

variable {s s' : CrashReporterURLObserver L W U}

/-- What does not touch the keys. -/
theorem Inv.env (h : s.Inv) (webStateToGroup : W → Option (Group L))
    (webStates : Group L → List W) (observed : L → Bool) :
    Inv { s with webStateToGroup, webStates, observed } :=
  ⟨h.keys, h.groups, h.unshared, h.mem_keys, h.ordered, h.recordedAt_le, h.freedAt_le, h.clear,
    h.current, h.reported⟩

theorem Inv.nodup_keys (h : s.Inv) : s.breakpadKeys.Nodup :=
  h.keys.nodup_iff.2 (by decide)

theorem Inv.keysShared [DecidableEq L] (h : s.Inv) : s.KeysShared := by
  refine ⟨h.keys, ⟨h.groups, ?_⟩, fun g g' k hg hg' => ?_⟩
  · have hnodup : (s.breakpadKeyByGroup.map Prod.snd).Nodup := by
      refine List.Nodup.map_on ?_ (List.Nodup.of_map _ h.groups)
      rintro ⟨g, k⟩ hmem ⟨g', k'⟩ hmem' rfl
      rw [h.unshared g g' k hmem hmem']
    have hsub : s.breakpadKeyByGroup.map Prod.snd ⊆ s.breakpadKeys := by
      intro k hk
      obtain ⟨⟨g, k⟩, hmem, rfl⟩ := List.mem_map.1 hk
      exact h.mem_keys g k hmem
    have hle := (List.Nodup.subperm hnodup hsub).length_le
    rw [List.length_map, h.keys.length_eq] at hle
    exact hle
  · rw [Dictionary.objectForKey_eq_some h.groups] at hg hg'
    exact h.unshared g g' k hg hg'

theorem Inv.reportsCurrent [DecidableEq L] (h : s.Inv) : s.ReportsCurrent := by
  intro key pending hset
  obtain ⟨g, hmem⟩ := h.clear key pending hset
  obtain ⟨w, hcurrent, hreports⟩ := h.current g key hmem
  exact ⟨g, w, (Dictionary.objectForKey_eq_some h.groups).2 hmem, hcurrent, hreports⟩

/-- What is reported under a key is a matter of its parameters. -/
theorem Reports.congr {k : Nat} {w : W} (h : s.Reports k w)
    (hsame : ∀ pending, s'.reportParameter k pending = s.reportParameter k pending) :
    s'.Reports k w := by
  intro pending parameter hmem
  rw [hsame] at hmem
  rw [hsame true]
  exact h pending parameter hmem

/-- The other keys stay in order when one is moved. -/
theorem Inv.ordered_filter (h : s.Inv) {key : Nat}
    (hheld : ∀ k ≠ key, s'.Held k ↔ s.Held k)
    (hrecordedAt : ∀ k ≠ key, s'.recordedAt k = s.recordedAt k)
    (hfreedAt : ∀ k ≠ key, s'.freedAt k = s.freedAt k) :
    (s.breakpadKeys.filter (· ≠ key)).Pairwise s'.Before := by
  refine (h.ordered.filter _).imp_of_mem fun {k k'} hk hk' hbefore => ?_
  have hne : k ≠ key := of_decide_eq_true (List.mem_filter.1 hk).2
  have hne' : k' ≠ key := of_decide_eq_true (List.mem_filter.1 hk').2
  unfold Before
  rw [hheld k hne, hheld k' hne', hrecordedAt k hne, hrecordedAt k' hne', hfreedAt k hne,
    hfreedAt k' hne']
  exact hbefore

/-- A key that is moved in the list. -/
theorem perm_filter_ne {keys : List Nat} (hnodup : keys.Nodup) {key : Nat} (hmem : key ∈ keys) :
    keys.Perm (key :: keys.filter (· ≠ key)) := by
  have hunique : Keyed.Unique id keys := by
    unfold Keyed.Unique
    rwa [List.map_id]
  exact Keyed.perm_remove hunique hmem

/-! ### Removing a group -/

section

variable [DecidableEq L]

theorem removeGroup_currentWebStates (h : s.Inv) (group g : Group L) :
    (s.removeGroup group).currentWebStates g =
      if g = group then none else s.currentWebStates g := by
  unfold removeGroup
  cases hkey : s.breakpadKeyByGroup.objectForKey group with
  | some key => rfl
  | none =>
    show s.currentWebStates g = _
    split
    · rename_i heq
      subst heq
      cases hcurrent : s.currentWebStates g with
      | none => rfl
      | some w =>
        obtain ⟨k, hmem⟩ := h.reported g w hcurrent
        exact absurd hmem (Dictionary.objectForKey_eq_none.1 hkey k)
    · rfl

variable {group : Group L}

theorem mem_removeGroup {entry : Group L × Nat} :
    entry ∈ (s.removeGroup group).breakpadKeyByGroup ↔
      entry ∈ s.breakpadKeyByGroup ∧ entry.1 ≠ group := by
  unfold removeGroup
  cases hkey : s.breakpadKeyByGroup.objectForKey group with
  | some key => exact Keyed.mem_remove
  | none =>
    refine ⟨fun hmem => ⟨hmem, fun heq => ?_⟩, And.left⟩
    exact Dictionary.objectForKey_eq_none.1 hkey entry.2 (heq ▸ hmem)

/-- The parameters of the other groups stay. -/
theorem removeGroup_reportParameter (h : s.Inv) {group g : Group L} (hne : g ≠ group) {key : Nat}
    (hkey : (g, key) ∈ s.breakpadKeyByGroup) (pending : Bool) :
    (s.removeGroup group).reportParameter key pending = s.reportParameter key pending := by
  unfold removeGroup
  cases hremoved : s.breakpadKeyByGroup.objectForKey group with
  | none => rfl
  | some removed =>
    refine if_neg fun heq => hne (h.unshared g group key hkey ?_)
    rw [heq]
    exact (Dictionary.objectForKey_eq_some h.groups).1 hremoved

/-- Neither map of the web states is concerned. -/
theorem removeGroup_env (group : Group L) :
    (s.removeGroup group).webStateToGroup = s.webStateToGroup ∧
      (s.removeGroup group).webStates = s.webStates ∧
      (s.removeGroup group).observed = s.observed := by
  unfold removeGroup
  cases s.breakpadKeyByGroup.objectForKey group <;> exact ⟨rfl, rfl, rfl⟩

/-- The key that is freed comes first, and with it nothing is reported. -/
theorem Inv.removeGroup (h : s.Inv) (group : Group L) : (s.removeGroup group).Inv := by
  cases hkey : s.breakpadKeyByGroup.objectForKey group with
  | none =>
    unfold CrashReporterURLObserver.removeGroup
    rwa [hkey]
  | some key =>
    have hentry := (Dictionary.objectForKey_eq_some h.groups).1 hkey
    have hmem := @mem_removeGroup L W U s _ group
    have hcurrent := removeGroup_currentWebStates h group
    have hheld : ∀ k, (s.removeGroup group).Held k ↔ s.Held k ∧ k ≠ key := by
      intro k
      constructor
      · rintro ⟨g, hg⟩
        obtain ⟨hg, hne⟩ := hmem.1 hg
        exact ⟨⟨g, hg⟩, fun heq => hne (h.unshared g group key (heq ▸ hg) hentry)⟩
      · rintro ⟨⟨g, hg⟩, hne⟩
        refine ⟨g, hmem.2 ⟨hg, fun heq => hne ?_⟩⟩
        have hsame := h.groups.eq_of_mem hg hentry heq
        exact congrArg Prod.snd hsame
    have hkeys : (s.removeGroup group).breakpadKeys =
        key :: s.breakpadKeys.filter (· ≠ key) := by
      unfold CrashReporterURLObserver.removeGroup
      rw [hkey]
    have hclock : (s.removeGroup group).clock = s.clock + 1 ∧
        (s.removeGroup group).recordedAt = s.recordedAt ∧
        ∀ k, (s.removeGroup group).freedAt k =
          if k = key then s.clock + 1 else s.freedAt k := by
      unfold CrashReporterURLObserver.removeGroup
      rw [hkey]
      exact ⟨rfl, rfl, fun _ => rfl⟩
    have hparameter : ∀ k pending, (s.removeGroup group).reportParameter k pending =
        if k = key then none else s.reportParameter k pending := by
      unfold CrashReporterURLObserver.removeGroup
      rw [hkey]
      exact fun _ _ => rfl
    have hperm := perm_filter_ne h.nodup_keys (h.mem_keys group key hentry)
    obtain ⟨hclock, hrecordedAt, hfreedAt⟩ := hclock
    refine ⟨?_, ?_, ?_, ?_, ?_, ?_, ?_, ?_, ?_, ?_⟩
    · rw [hkeys]
      exact hperm.symm.trans h.keys
    · unfold CrashReporterURLObserver.removeGroup
      rw [hkey]
      exact h.groups.remove group
    · exact fun g g' k hg hg' => h.unshared g g' k (hmem.1 hg).1 (hmem.1 hg').1
    · intro g k hg
      rw [hkeys]
      exact hperm.mem_iff.1 (h.mem_keys g k (hmem.1 hg).1)
    · rw [hkeys, List.pairwise_cons]
      constructor
      -- It is freed later than the other free keys.
      · intro k hk
        have hne : k ≠ key := of_decide_eq_true (List.mem_filter.1 hk).2
        have hnot : ¬(s.removeGroup group).Held key := fun hh => ((hheld key).1 hh).2 rfl
        by_cases hk' : (s.removeGroup group).Held k
        · exact .inl ⟨hnot, hk'⟩
        · refine .inr (.inr ⟨hnot, hk', .inl ?_⟩)
          rw [hfreedAt, hfreedAt, if_neg hne, if_pos rfl]
          exact Nat.lt_succ_of_le (h.freedAt_le k)
      · refine h.ordered_filter (fun k hne => ?_) (fun k _ => by rw [hrecordedAt]) fun k hne => ?_
        · rw [hheld, and_iff_left hne]
        · rw [hfreedAt, if_neg hne]
    · intro k
      rw [hrecordedAt, hclock]
      exact Nat.le_succ_of_le (h.recordedAt_le k)
    · intro k
      rw [hfreedAt, hclock]
      split
      · exact Nat.le_refl _
      · exact Nat.le_succ_of_le (h.freedAt_le k)
    · intro k pending hset
      rw [hparameter] at hset
      split at hset
      · exact absurd rfl hset
      · rename_i hne
        exact (hheld k).2 ⟨h.clear k pending hset, hne⟩
    · intro g k hg
      obtain ⟨hold, hne⟩ := hmem.1 hg
      obtain ⟨w, hw, hreports⟩ := h.current g k hold
      have hk : k ≠ key := ((hheld k).1 ⟨g, hg⟩).2
      refine ⟨w, ?_, hreports.congr fun pending => ?_⟩
      · rw [hcurrent, if_neg hne]
        exact hw
      · rw [hparameter, if_neg hk]
    · intro g w hw
      rw [hcurrent] at hw
      split at hw
      · cases hw
      · rename_i hne
        obtain ⟨k, hk⟩ := h.reported g w hw
        exact ⟨k, hmem.2 ⟨hk, hne⟩⟩

end

/-! ### Recording a URL -/

/-- What a recording under `key` leaves. -/
structure Recorded [DecidableEq L] (s s' : CrashReporterURLObserver L W U) (group : Group L)
    (webState : W) (pending : Bool) (key : Nat) : Prop where
  had_or_first : s.breakpadKeyByGroup.objectForKey group = some key ∨
    (s.breakpadKeyByGroup.objectForKey group = none ∧ ∃ rest, s.breakpadKeys = key :: rest)
  groups : Keyed.Unique Prod.fst s'.breakpadKeyByGroup
  mem : ∀ entry, entry ∈ s'.breakpadKeyByGroup ↔
    (entry ∈ s.breakpadKeyByGroup ∧ entry.2 ≠ key) ∨ entry = (group, key)
  keys : s'.breakpadKeys = s.breakpadKeys.filter (· ≠ key) ++ [key]
  current : s'.currentWebStates group = some webState
  current_of_ne : ∀ g ≠ group, ∀ w, s'.currentWebStates g = some w →
    s.currentWebStates g = some w ∧ (g, key) ∉ s.breakpadKeyByGroup
  current_kept : ∀ g ≠ group, (g, key) ∉ s.breakpadKeyByGroup →
    s'.currentWebStates g = s.currentWebStates g
  parameter : ∀ k ≠ key, ∀ pending, s'.reportParameter k pending = s.reportParameter k pending
  parameters : ∀ isPending, ∀ parameter ∈ s'.reportParameter key isPending,
    parameter.2 = webState ∨ (isPending = false ∧ pending = true ∧
      s'.reportParameter key true ≠ none ∧ (group, key) ∈ s.breakpadKeyByGroup ∧
      parameter ∈ s.reportParameter key false)
  clock : s'.clock = s.clock + 1
  recordedAt : ∀ k, s'.recordedAt k = if k = key then s.clock + 1 else s.recordedAt k
  freedAt : s'.freedAt = s.freedAt
  env : s'.webStateToGroup = s.webStateToGroup ∧ s'.webStates = s.webStates ∧
    s'.observed = s.observed

/-- A committed URL that was there stays next to a pending one. -/
theorem parameters_setReportParameter [DecidableEq L] {t : CrashReporterURLObserver L W U}
    (group : Group L) (url : U) (webState : W) (pending : Bool) (key : Nat) (reusingKey : Bool) :
    let t' := t.setReportParameter group url webState pending key reusingKey
    ∀ isPending, ∀ parameter ∈ t'.reportParameter key isPending, parameter.2 = webState ∨
      (isPending = false ∧ pending = true ∧ t'.reportParameter key true ≠ none ∧
        reusingKey = false ∧ parameter ∈ t.reportParameter key false) := by
  intro t' isPending parameter hmem
  simp only [t', setReportParameter, ne_eq, not_true_eq_false, if_false, Option.mem_def] at hmem ⊢
  by_cases hsame : isPending = pending
  · rw [if_pos hsame] at hmem
    obtain rfl := Option.some.inj hmem
    exact .inl rfl
  · rw [if_neg hsame] at hmem
    split at hmem
    · rename_i hkept
      obtain ⟨rfl, hreusing⟩ := Bool.and_eq_true_iff.1 hkept
      obtain rfl : isPending = false := Bool.eq_false_iff.2 hsame
      exact .inr ⟨rfl, rfl, Option.some_ne_none _, by simpa using hreusing, hmem⟩
    · cases hmem

variable {group : Group L}

/-- A key that its group has goes to the back. -/
theorem recorded_of_had [DecidableEq L] (h : s.Inv) {key : Nat}
    (hkey : s.breakpadKeyByGroup.objectForKey group = some key) (url : U) (webState : W)
    (pending : Bool) :
    Recorded s (s.setReportParameter group url webState pending key false) group webState pending
      key := by
  have hentry := (Dictionary.objectForKey_eq_some h.groups).1 hkey
  have hnot : ∀ g ≠ group, (g, key) ∉ s.breakpadKeyByGroup :=
    fun g hne hmem => hne (h.unshared g group key hmem hentry)
  refine ⟨.inl hkey, h.groups, fun entry => ?_, rfl, if_pos rfl, fun g hne w hw => ?_,
    fun g hne _ => if_neg hne, fun k hne isPending => if_pos hne, fun isPending parameter hmem => ?_,
    rfl, fun _ => rfl, rfl, rfl, rfl, rfl⟩
  · constructor
    · intro hmem
      by_cases heq : entry.2 = key
      · refine .inr (Prod.ext ?_ heq)
        by_contra hne
        exact hnot entry.1 hne (heq ▸ hmem)
      · exact .inl ⟨hmem, heq⟩
    · rintro (⟨hmem, -⟩ | rfl)
      · exact hmem
      · exact hentry
  · exact ⟨(if_neg hne).symm.trans hw, hnot g hne⟩
  · exact (parameters_setReportParameter group url webState pending key false isPending parameter
      hmem).imp_right fun hleft => ⟨hleft.1, hleft.2.1, hleft.2.2.1, hentry, hleft.2.2.2.2⟩

/-- The first key is taken from the groups that have it. -/
theorem recorded_of_first [DecidableEq L] (h : s.Inv) {key : Nat} {rest : List Nat}
    (hnone : s.breakpadKeyByGroup.objectForKey group = none) (hkeys : s.breakpadKeys = key :: rest)
    (url : U) (webState : W) (pending : Bool) {reusingKey : Bool}
    (hreusing : reusingKey = false → ¬s.Held key) :
    Recorded s ((s.takeFirstKey group key).setReportParameter group url webState pending key
      reusingKey) group webState pending key := by
  have hused : ∀ g, g ∈ s.breakpadKeyByGroup.allKeysForObject key ↔
      (g, key) ∈ s.breakpadKeyByGroup := fun g => Dictionary.mem_allKeysForObject
  refine ⟨.inr ⟨hnone, rest, hkeys⟩, ?_, fun entry => ?_, rfl, if_pos rfl, fun g hne w hw => ?_,
    fun g hne hnot => ?_, fun k hne isPending => if_pos hne, fun isPending parameter hmem => ?_,
    rfl, fun _ => rfl, rfl, rfl, rfl, rfl⟩
  · exact Keyed.Unique.put (Dictionary.unique_foldl_removeObjectForKey h.groups) _
  · show entry ∈ Dictionary.setObject _ group key ↔ _
    rw [Dictionary.setObject, Keyed.mem_put, Dictionary.mem_foldl_removeObjectForKey, hused]
    constructor
    · rintro (⟨⟨hmem, hnot⟩, -⟩ | rfl)
      · exact .inl ⟨hmem, fun heq => hnot (heq ▸ hmem)⟩
      · exact .inr rfl
    · rintro (⟨hmem, hne⟩ | rfl)
      · refine .inl ⟨⟨hmem, fun hmem' => ?_⟩, fun heq => ?_⟩
        · exact hne (congrArg Prod.snd (h.groups.eq_of_mem hmem hmem' rfl))
        · obtain ⟨g, k⟩ := entry
          obtain rfl : g = group := heq
          exact Dictionary.objectForKey_eq_none.1 hnone k hmem
      · exact .inr rfl
  · have hw' : (if g ∈ s.breakpadKeyByGroup.allKeysForObject key then none
        else s.currentWebStates g) = some w := (if_neg hne).symm.trans hw
    split at hw'
    · cases hw'
    · rename_i hnot
      exact ⟨hw', fun hin => hnot ((hused g).2 hin)⟩
  · show (if g = group then _ else if g ∈ s.breakpadKeyByGroup.allKeysForObject key then none
      else s.currentWebStates g) = _
    rw [if_neg hne, if_neg fun hin => hnot ((hused g).1 hin)]
  -- Nothing is reported under a free key.
  · refine (parameters_setReportParameter group url webState pending key reusingKey isPending
      parameter hmem).imp_right fun hleft => absurd (h.clear key false fun hnothing => ?_)
        (hreusing hleft.2.2.2.1)
    have hold : s.reportParameter key false = some parameter := hleft.2.2.2.2
    rw [hnothing] at hold
    cases hold

/-- **A recording**, of a web state that has a group. -/
theorem recordURL_recorded [DecidableEq L] [DecidableEq W] (h : s.Inv) {webState : W}
    (hgroup : s.webStateToGroup webState = some group) (url : U) (pending : Bool) :
    ∃ key, Recorded s (s.recordURL url webState pending) group webState pending key := by
  unfold recordURL
  rw [hgroup]
  dsimp only
  cases hkey : s.breakpadKeyByGroup.objectForKey group with
  | some key => exact ⟨key, recorded_of_had h hkey url webState pending⟩
  | none =>
    cases hkeys : s.breakpadKeys with
    | nil =>
      have hlength := h.keys.length_eq
      rw [hkeys] at hlength
      cases hlength
    | cons key rest =>
      refine ⟨key, recorded_of_first h hkey hkeys url webState pending fun hfree => ?_⟩
      rintro ⟨g, hg⟩
      have hmem : g ∈ s.breakpadKeyByGroup.allKeysForObject key :=
        Dictionary.mem_allKeysForObject.2 hg
      have hnone : s.breakpadKeyByGroup.allKeysForObject key = [] := by simpa using hfree
      rw [hnone] at hmem
      cases hmem

namespace Recorded

variable [DecidableEq L] {group : Group L} {webState : W} {pending : Bool} {key : Nat}

theorem held (r : Recorded s s' group webState pending key) (k : Nat) :
    s'.Held k ↔ s.Held k ∨ k = key := by
  constructor
  · rintro ⟨g, hg⟩
    rcases (r.mem _).1 hg with ⟨hg, -⟩ | heq
    · exact .inl ⟨g, hg⟩
    · exact .inr (congrArg Prod.snd heq)
  · intro hk
    by_cases heq : k = key
    · exact ⟨group, (r.mem _).2 (.inr (congrArg _ heq))⟩
    · obtain ⟨g, hg⟩ := hk.resolve_right heq
      exact ⟨g, (r.mem _).2 (.inl ⟨hg, heq⟩)⟩

/-- A committed URL of another web state is next to the pending one. -/
theorem reports (r : Recorded s s' group webState pending key) : s'.Reports key webState := by
  intro isPending parameter hmem
  refine (r.parameters isPending parameter hmem).imp_right fun hleft => ⟨hleft.1, ?_⟩
  obtain ⟨⟨url, w⟩, hset⟩ := Option.ne_none_iff_exists'.1 hleft.2.2.1
  rcases r.parameters true _ hset with rfl | ⟨hpending, _⟩
  · exact ⟨url, hset⟩
  · cases hpending

theorem mem_keys (h : s.Inv) (r : Recorded s s' group webState pending key) : key ∈ s.breakpadKeys := by
  rcases r.had_or_first with hhad | ⟨-, rest, hfirst⟩
  · exact h.mem_keys group key ((Dictionary.objectForKey_eq_some h.groups).1 hhad)
  · rw [hfirst]
    exact List.mem_cons_self ..

/-- The key that is recorded comes last. -/
theorem inv (h : s.Inv) (r : Recorded s s' group webState pending key) : s'.Inv := by
  have hperm := perm_filter_ne h.nodup_keys (r.mem_keys h)
  have hkeys : s'.breakpadKeys.Perm s.breakpadKeys := by
    rw [r.keys]
    exact (List.perm_append_singleton ..).trans hperm.symm
  have hother : ∀ g k, (g, k) ∈ s'.breakpadKeyByGroup → (g, k) ≠ (group, key) →
      (g, k) ∈ s.breakpadKeyByGroup ∧ k ≠ key :=
    fun g k hg hne => ((r.mem _).1 hg).resolve_right hne
  refine ⟨hkeys.trans h.keys, r.groups, fun g g' k hg hg' => ?_, fun g k hg => ?_, ?_,
    fun k => ?_, fun k => ?_, fun k pending hset => ?_, fun g k hg => ?_, fun g w hw => ?_⟩
  · rcases (r.mem _).1 hg with ⟨hg, hne⟩ | heq
    · rcases (r.mem _).1 hg' with ⟨hg', -⟩ | heq'
      · exact h.unshared g g' k hg hg'
      · exact absurd (congrArg Prod.snd heq') hne
    · rcases (r.mem _).1 hg' with ⟨-, hne⟩ | heq'
      · exact absurd (congrArg Prod.snd heq) hne
      · exact congrArg Prod.fst (heq.trans heq'.symm)
  · rw [hkeys.mem_iff]
    rcases (r.mem _).1 hg with ⟨hg, -⟩ | heq
    · exact h.mem_keys g k hg
    · obtain rfl : k = key := congrArg Prod.snd heq
      exact r.mem_keys h
  · rw [r.keys, List.pairwise_append]
    refine ⟨?_, List.pairwise_singleton .., fun k hk k' hk' => ?_⟩
    · refine h.ordered_filter (fun k hne => ?_) (fun k hne => ?_) fun k _ => by rw [r.freedAt]
      · rw [r.held, or_iff_left hne]
      · rw [r.recordedAt, if_neg hne]
    -- It is recorded later than the other keys in use.
    · obtain rfl := List.mem_singleton.1 hk'
      have hne : k ≠ k' := of_decide_eq_true (List.mem_filter.1 hk).2
      have hlast : s'.Held k' := (r.held k').2 (.inr rfl)
      by_cases hheld : s'.Held k
      · refine .inr (.inl ⟨hheld, hlast, ?_⟩)
        rw [r.recordedAt, r.recordedAt, if_neg hne, if_pos rfl]
        exact Nat.lt_succ_of_le (h.recordedAt_le k)
      · exact .inl ⟨hheld, hlast⟩
  · rw [r.recordedAt, r.clock]
    split
    · exact Nat.le_refl _
    · exact Nat.le_succ_of_le (h.recordedAt_le k)
  · rw [r.freedAt, r.clock]
    exact Nat.le_succ_of_le (h.freedAt_le k)
  · by_cases heq : k = key
    · exact (r.held k).2 (.inr heq)
    · rw [r.parameter k heq] at hset
      exact (r.held k).2 (.inl (h.clear k pending hset))
  · by_cases hpair : (g, k) = (group, key)
    · obtain ⟨rfl, rfl⟩ := Prod.mk.inj hpair
      exact ⟨webState, r.current, r.reports⟩
    -- Another group keeps its key, so it was not the one taken.
    · obtain ⟨hold, hne⟩ := hother g k hg hpair
      obtain ⟨w, hw, hreports⟩ := h.current g k hold
      have hnot : g ≠ group := by
        rintro rfl
        have hlast : (g, key) ∈ s'.breakpadKeyByGroup := (r.mem _).2 (.inr rfl)
        exact hne (congrArg Prod.snd (r.groups.eq_of_mem hg hlast rfl))
      have hkeep : (g, key) ∉ s.breakpadKeyByGroup := fun hin =>
        hne (congrArg Prod.snd (h.groups.eq_of_mem hold hin rfl))
      exact ⟨w, (r.current_kept g hnot hkeep).trans hw, hreports.congr (r.parameter k hne)⟩
  · by_cases heq : g = group
    · exact ⟨key, (r.mem _).2 (.inr (Prod.ext heq rfl))⟩
    · obtain ⟨hold, hnot⟩ := r.current_of_ne g heq w hw
      obtain ⟨k, hk⟩ := h.reported g w hold
      exact ⟨k, (r.mem _).2 (.inl ⟨hk, fun hkey => hnot (hkey ▸ hk)⟩)⟩

/-- The first of the keys is the one to take. -/
theorem takesKeys (h : s.Inv) (r : Recorded s s' group webState pending key) : s.TakesKeys s' := by
  intro g k hnone hsome
  have hnot := Dictionary.objectForKey_eq_none.1 hnone
  have hmem := (Dictionary.objectForKey_eq_some r.groups).1 hsome
  -- Only the group that is recorded can get a key.
  have hpair := ((r.mem _).1 hmem).resolve_left fun hold => hnot k hold.1
  obtain ⟨rfl, rfl⟩ := Prod.mk.inj hpair
  obtain ⟨-, rest, hkeys⟩ := r.had_or_first.resolve_left fun hhad => by
    rw [hnone] at hhad
    cases hhad
  have hfirst := h.ordered
  rw [hkeys, List.pairwise_cons] at hfirst
  refine ⟨fun hheld k' hk' => ?_, fun hfree k' hk' hfree' => ?_⟩
  · rw [hkeys] at hk'
    rcases List.mem_cons.1 hk' with rfl | hk'
    · exact ⟨hheld, Nat.le_refl _⟩
    · rcases hfirst.1 k' hk' with ⟨hno, -⟩ | ⟨-, hheld', hlt⟩ | ⟨hno, -⟩
      · exact absurd hheld hno
      · exact ⟨hheld', Nat.le_of_lt hlt⟩
      · exact absurd hheld hno
  · rw [hkeys] at hk'
    rcases List.mem_cons.1 hk' with rfl | hk'
    · exact .inr ⟨rfl, Nat.le_refl _⟩
    · rcases hfirst.1 k' hk' with ⟨-, hheld'⟩ | ⟨hheld, -⟩ | ⟨-, -, hlt | ⟨heq, hlt⟩⟩
      · exact absurd hheld' hfree'
      · exact absurd hheld hfree
      · exact .inl hlt
      · exact .inr ⟨heq, Nat.le_of_lt hlt⟩

/-- The web state that is recorded is in its group, and a committed URL stays only next to its
pending one. -/
theorem onlyAttached {left : Group L → W → Prop} (r : Recorded s s' group webState pending key)
    (hin : webState ∈ s.webStates group) (hothers : ∀ g ≠ group, s.AttachedIn left g)
    (hgroup : pending = true → s.CommittedIn left group) : s'.OnlyAttached left := by
  intro g k hk isPending parameter hparameter
  rw [r.env.2.1]
  by_cases heq : g = group
  · subst heq
    have hlast : (g, key) ∈ s'.breakpadKeyByGroup := (r.mem _).2 (.inr rfl)
    obtain rfl : k = key := congrArg Prod.snd (r.groups.eq_of_mem hk hlast rfl)
    rcases r.parameters isPending parameter hparameter with hsame | ⟨hf, hpending, hset, hhad, hold⟩
    · exact .inl (hsame ▸ hin)
    · exact (hgroup hpending k hhad parameter hold).imp_right fun hleft => ⟨hf, hset, hleft⟩
  · obtain ⟨hold, hne⟩ := ((r.mem _).1 hk).resolve_right fun hpair => heq (congrArg Prod.fst hpair)
    rw [r.parameter k hne] at hparameter ⊢
    exact hothers g heq k hold isPending parameter hparameter

end Recorded

/-! ### The notifications -/

/-- What a notification leaves; of what is reported of `group`, at most committed URLs are kept, and
those only if `keeps`. -/
structure Outcome [DecidableEq L] (s s' : CrashReporterURLObserver L W U) (group : Group L)
    (keeps : Prop) : Prop where
  inv : s'.Inv
  watches : s'.Watches
  takesKeys : s.TakesKeys s'
  onlyAttached : ∀ left, (∀ g ≠ group, s.AttachedIn left g) →
    (keeps → s.CommittedIn left group) → s'.OnlyAttached left

section

variable [DecidableEq L] [DecidableEq W] {left : Group L → W → Prop}

omit [DecidableEq L] [DecidableEq W] in
theorem Watches.congr (h : s.Watches) (henv : s'.webStateToGroup = s.webStateToGroup ∧
    s'.webStates = s.webStates ∧ s'.observed = s.observed) : s'.Watches := by
  obtain ⟨hgroup, hwebStates, hobserved⟩ := henv
  refine ⟨fun w g hg => ?_, fun l hl => ?_⟩
  · rw [hwebStates]
    exact h.grouped w g (hgroup ▸ hg)
  · rw [hwebStates]
    exact h.unobserved l (hobserved ▸ hl)

omit [DecidableEq W] in
/-- No group has a key that had none. -/
theorem takesKeys_of_subset (h' : s'.Inv)
    (hsub : ∀ entry ∈ s'.breakpadKeyByGroup, entry ∈ s.breakpadKeyByGroup) : s.TakesKeys s' := by
  intro g k hnone hsome
  have hmem := (Dictionary.objectForKey_eq_some h'.groups).1 hsome
  exact absurd (hsub _ hmem) (Dictionary.objectForKey_eq_none.1 hnone k)

theorem outcome_recordURL (h : s.Inv) (hw : s.Watches) (webState : W)
    (hgroup : s.webStateToGroup webState = some group) (url : U) (pending : Bool) :
    Outcome s (s.recordURL url webState pending) group (pending = true) := by
  obtain ⟨key, r⟩ := recordURL_recorded h hgroup url pending
  exact ⟨r.inv h, hw.congr r.env, r.takesKeys h,
    fun _ => r.onlyAttached (hw.grouped webState group hgroup)⟩

omit [DecidableEq W] in
theorem outcome_removeGroup (h : s.Inv) (hw : s.Watches) (group : Group L) :
    Outcome s (s.removeGroup group) group False := by
  refine ⟨h.removeGroup group, hw.congr (removeGroup_env group),
    takesKeys_of_subset (h.removeGroup group) fun entry hmem => (mem_removeGroup.1 hmem).1,
    fun left hothers _ g key hkey pending parameter hparameter => ?_⟩
  obtain ⟨hold, hne⟩ := mem_removeGroup.1 hkey
  rw [removeGroup_reportParameter h hne hold] at hparameter ⊢
  rw [(removeGroup_env group).2.1]
  exact hothers g hne key hold pending parameter hparameter

omit [DecidableEq W] in
/-- To forget the current web state of a group first changes nothing. -/
theorem removeGroup_cleared (h : s.Inv) (group : Group L) :
    ({ s with currentWebStates := fun g => if g = group then none else s.currentWebStates g } :
      CrashReporterURLObserver L W U).removeGroup group = s.removeGroup group := by
  have hcleared := removeGroup_currentWebStates h group
  unfold removeGroup at hcleared ⊢
  dsimp only at hcleared ⊢
  cases hkey : s.breakpadKeyByGroup.objectForKey group with
  | none =>
    rw [hkey] at hcleared
    have hsame : (fun g => if g = group then none else s.currentWebStates g) =
        s.currentWebStates := funext fun g => (hcleared g).symm
    simp only [hsame]
  | some key =>
    have hsame : (fun g => if g = group then none
        else if g = group then none else s.currentWebStates g) =
        fun g => if g = group then none else s.currentWebStates g := by
      funext g
      split <;> rfl
    simp only [hsame]

omit [DecidableEq L] in
/-- The map after one web state has been put into a group or out of its group. -/
theorem watches_setGroup {webState : W} {group : Option (Group L)}
    (hgrouped : ∀ w g, w ≠ webState → s.webStateToGroup w = some g → w ∈ s.webStates g)
    (hgroup : ∀ g ∈ group, webState ∈ s.webStates g)
    (hunobserved : ∀ l, s.observed l = false → s.webStates (.webStateList l) = []) :
    (s.setGroup webState group).Watches := by
  refine ⟨fun w g hg => ?_, hunobserved⟩
  have hg' : (if w = webState then group else s.webStateToGroup w) = some g := hg
  split at hg'
  · rename_i heq
    rw [heq]
    exact hgroup g hg'
  · rename_i hne
    exact hgrouped w g hne hg'

omit [DecidableEq W] in
@[simp] theorem setWebStates_same (group : Group L) (webStates : List W) :
    (s.setWebStates group webStates).webStates group = webStates := if_pos rfl

omit [DecidableEq W] in
theorem setWebStates_of_ne {group g : Group L} (webStates : List W) (hne : g ≠ group) :
    (s.setWebStates group webStates).webStates g = s.webStates g := if_neg hne

omit [DecidableEq W] in
/-- Lists that are not observed stay as they are. -/
theorem unobserved_setWebStates (hw : s.Watches) (webStates : List W)
    (hobserved : ∀ l, group = .webStateList l → s.observed l = true) :
    ∀ l, (s.setWebStates group webStates).observed l = false →
      (s.setWebStates group webStates).webStates (.webStateList l) = [] := by
  intro l hl
  have hne : Group.webStateList l ≠ group := by
    rintro rfl
    exact Bool.false_ne_true (hl.symm.trans (hobserved l rfl))
  rw [setWebStates_of_ne _ hne]
  exact hw.unobserved l hl

/-- A web state that comes to a group. -/
theorem watches_added (hw : s.Watches) (group : Group L) (webState : W)
    (hobserved : ∀ l, group = .webStateList l → s.observed l = true) :
    ((s.setWebStates group (webState :: s.webStates group)).setGroup webState
      (some group)).Watches := by
  refine watches_setGroup (fun w g _ hg => ?_) (fun g hg => ?_)
    (unobserved_setWebStates hw _ hobserved)
  · have hmem := hw.grouped w g hg
    by_cases heq : g = group
    · subst heq
      rw [setWebStates_same]
      exact List.mem_cons_of_mem _ hmem
    · rwa [setWebStates_of_ne _ heq]
  · obtain rfl := Option.some.inj hg
    rw [setWebStates_same]
    exact List.mem_cons_self ..

omit [DecidableEq W] in
/-- The other groups have what is reported of them. -/
theorem attached_elsewhere (ha : s.OnlyAttached left) (group : Group L) (webStates : List W) :
    ∀ g ≠ group, (s.setWebStates group webStates).AttachedIn left g := by
  intro g hne key hkey pending parameter hparameter
  rw [setWebStates_of_ne _ hne]
  exact ha g key hkey pending parameter hparameter

omit [DecidableEq W] in
/-- And the group has, if those that are reported are still there. -/
theorem attached_setWebStates (ha : s.OnlyAttached left) {webStates : List W}
    (hgroup : ∀ w ∈ s.webStates group, s.Reported group w → w ∈ webStates) :
    (s.setWebStates group webStates).OnlyAttached left := by
  intro g
  by_cases heq : g = group
  · subst heq
    intro key hkey pending parameter hparameter
    rw [setWebStates_same]
    exact (ha g key hkey pending parameter hparameter).imp_left fun hmem =>
      hgroup _ hmem ⟨key, hkey, pending, parameter, hparameter, rfl⟩
  · exact attached_elsewhere ha group webStates g heq

omit [DecidableEq L] [DecidableEq W] in
theorem AttachedIn.committedIn (ha : s.AttachedIn left group) :
    s.CommittedIn left group :=
  fun key hkey parameter hparameter =>
    (ha key hkey false parameter hparameter).imp_right fun hleft => hleft.2.2

omit [DecidableEq L] in
/-- A web state that is not reported leaves. -/
theorem mem_removed_of_not_reported {webState : W} (hnot : ¬s.Reported group webState) :
    ∀ w ∈ s.webStates group, s.Reported group w → w ∈ (s.webStates group).filter (· ≠ webState) :=
  fun _ hmem hw => List.mem_filter.2 ⟨hmem, decide_eq_true fun heq => hnot (heq ▸ hw)⟩

/-- A web state that leaves a group. -/
theorem watches_removed (hw : s.Watches) (group : Group L) (webState : W)
    (hobserved : ∀ l, group = .webStateList l → s.observed l = true) :
    ((s.setWebStates group ((s.webStates group).filter (· ≠ webState))).setGroup webState
      none).Watches := by
  refine watches_setGroup (fun w g hne hg => ?_) (fun g hg => by cases hg)
    (unobserved_setWebStates hw _ hobserved)
  have hmem := hw.grouped w g hg
  by_cases heq : g = group
  · subst heq
    rw [setWebStates_same]
    exact List.mem_filter.2 ⟨hmem, decide_eq_true hne⟩
  · rwa [setWebStates_of_ne _ heq]

/-- `t` is `s` with other groups and web states. -/
structure Prepared (s t : CrashReporterURLObserver L W U) : Prop where
  inv : t.Inv
  watches : t.Watches
  dictionary : t.breakpadKeyByGroup = s.breakpadKeyByGroup
  current : t.currentWebStates = s.currentWebStates
  takesKeys : t.TakesKeys = s.TakesKeys

/-- What a notification keeps. Where `A` holds, only web states that are attached, or `left`, are
reported. -/
structure Kept (left : Group L → W → Prop) (s s' : CrashReporterURLObserver L W U) (A : Prop) :
    Prop where
  inv : s'.Inv
  watches : s'.Watches
  takesKeys : s.TakesKeys s'
  onlyAttached : A → s'.OnlyAttached left

omit [DecidableEq W] in
theorem Kept.mono {A B : Prop} (h : Kept left s s' A) (hAB : B → A) : Kept left s s' B :=
  ⟨h.inv, h.watches, h.takesKeys, fun b => h.onlyAttached (hAB b)⟩

omit [DecidableEq W] in
theorem prepared_refl (h : s.Inv) (hw : s.Watches) : Prepared s s := ⟨h, hw, rfl, rfl, rfl⟩

omit [DecidableEq W] in
/-- Nothing more happens. -/
theorem Prepared.stays {t : CrashReporterURLObserver L W U} (p : Prepared s t) {A : Prop}
    (ha : A → t.OnlyAttached left) : Kept left s t A :=
  ⟨p.inv, p.watches, takesKeys_of_subset p.inv fun _ hmem => p.dictionary ▸ hmem, ha⟩

omit [DecidableEq W] in
/-- A group is recorded or removed. -/
theorem Prepared.kept {t : CrashReporterURLObserver L W U} (p : Prepared s t) {keeps : Prop}
    (o : Outcome t s' group keeps) {A : Prop} (ha : A → ∀ g ≠ group, t.AttachedIn left g)
    (hgroup : A → keeps → t.CommittedIn left group) :
    Kept left s s' A :=
  ⟨o.inv, o.watches, p.takesKeys ▸ o.takesKeys, fun a => o.onlyAttached left (ha a) (hgroup a)⟩

omit [DecidableEq W] in
/-- A group is recorded, and no web state has left. -/
theorem Prepared.kept_of_attached {t : CrashReporterURLObserver L W U} (p : Prepared s t)
    {keeps : Prop} (o : Outcome t s' group keeps) {A : Prop} (ha : A → t.OnlyAttached left) :
    Kept left s s' A :=
  p.kept o (fun a g _ => ha a g) fun a _ => (ha a group).committedIn

/-- A navigation, without a URL or with one. -/
theorem kept_navigation (h : s.Inv) (hw : s.Watches) {webState : W}
    (hpre : s.webStateToGroup webState ≠ none) (url : U) (pending : Bool) :
    Kept left s (s.recordURL url webState pending) (s.OnlyAttached left) := by
  obtain ⟨group, hgroup⟩ := Option.ne_none_iff_exists'.1 hpre
  exact (prepared_refl h hw).kept_of_attached
    (outcome_recordURL h hw webState hgroup url pending) id

theorem kept_inserted (h : s.Inv) (hw : s.Watches) {list : L} (hobserved : s.observed list = true)
    (webState : W) (urls : ReportedURLs U) (activating : Bool) :
    Kept left s (s.step (.webStateInsertedAt list webState urls activating))
      (s.OnlyAttached left) := by
  have p : Prepared s ((s.setWebStates (.webStateList list)
      (webState :: s.webStates (.webStateList list))).setGroup webState
        (some (.webStateList list))) :=
    ⟨h.env _ _ _, watches_added hw (.webStateList list) webState
      (fun l hl => (Group.webStateList.inj hl) ▸ hobserved), rfl, rfl, rfl⟩
  have ha : s.OnlyAttached left → (s.setWebStates (.webStateList list)
      (webState :: s.webStates (.webStateList list))).OnlyAttached left :=
    fun hs => attached_setWebStates hs fun _ hmem _ => List.mem_cons_of_mem _ hmem
  cases activating with
  | false => exact p.stays ha
  | true =>
    exact p.kept_of_attached (outcome_recordURL p.inv p.watches webState (if_pos rfl) _ _) ha

theorem kept_activated (h : s.Inv) (hw : s.Watches) {list : L} {newWebState : Option W}
    (hmem : ∀ w ∈ newWebState, w ∈ s.webStates (.webStateList list)) (urls : ReportedURLs U) :
    Kept left s (s.step (.webStateActivatedAt list newWebState urls)) (s.OnlyAttached left) := by
  cases newWebState with
  | none => exact (prepared_refl h hw).stays id
  | some webState =>
    have p : Prepared s (s.setGroup webState (some (.webStateList list))) :=
      ⟨h.env _ _ _, watches_setGroup (fun w g _ hg => hw.grouped w g hg)
        (fun g hg => (Option.some.inj hg) ▸ hmem webState rfl) hw.unobserved, rfl, rfl, rfl⟩
    exact p.kept_of_attached (outcome_recordURL p.inv p.watches webState (if_pos rfl) _ _) id

theorem kept_replaced (h : s.Inv) (hw : s.Watches) {list : L} (hobserved : s.observed list = true)
    (oldWebState newWebState : W) (urls : ReportedURLs U) (active : Bool) :
    Kept left s (s.step (.webStateReplacedAt list oldWebState newWebState urls active))
      (s.OnlyAttached left ∧
        s.LeavesLast (.webStateReplacedAt list oldWebState newWebState urls active) ∧
        (active = true → urls.pendingItem ≠ none → left (.webStateList list) oldWebState)) := by
  have hunobserved := unobserved_setWebStates hw
    (newWebState :: (s.webStates (.webStateList list)).filter (· ≠ oldWebState))
    fun l hl => (Group.webStateList.inj hl) ▸ hobserved
  have p : Prepared s (((s.setWebStates (.webStateList list) (newWebState ::
      (s.webStates (.webStateList list)).filter (· ≠ oldWebState))).setGroup oldWebState
        none).setGroup newWebState (some (.webStateList list))) := by
    refine ⟨h.env _ _ _, watches_setGroup (fun w g _ hg => ?_) (fun g hg => ?_) hunobserved,
      rfl, rfl, rfl⟩
    · have hg' : (if w = oldWebState then none else s.webStateToGroup w) = some g := hg
      split at hg'
      · cases hg'
      · rename_i hne
        have hmem := hw.grouped w g hg'
        show w ∈ (s.setWebStates _ _).webStates g
        by_cases heq : g = .webStateList list
        · subst heq
          rw [setWebStates_same]
          exact List.mem_cons_of_mem _ (List.mem_filter.2 ⟨hmem, decide_eq_true hne⟩)
        · rwa [setWebStates_of_ne _ heq]
    · obtain rfl := Option.some.inj hg
      show newWebState ∈ (s.setWebStates _ _).webStates _
      rw [setWebStates_same]
      exact List.mem_cons_self ..
  cases active with
  | true =>
    refine p.kept (outcome_recordURL p.inv p.watches newWebState (if_pos rfl) _ _)
      (fun hs => attached_elsewhere hs.1 _ _) fun hs hpending key hkey parameter hparameter => ?_
    show _ ∈ (s.setWebStates _ _).webStates _ ∨ _
    rw [setWebStates_same]
    rcases (hs.1 _).committedIn key hkey parameter hparameter with hmem | hleft
    · by_cases heq : parameter.2 = oldWebState
      · rw [heq]
        exact .inr (hs.2.2 rfl (Option.isSome_iff_ne_none.1 hpending))
      · exact .inl (List.mem_cons_of_mem _ (List.mem_filter.2 ⟨hmem, decide_eq_true heq⟩))
    · exact .inr hleft
  | false =>
    exact p.stays fun hs => attached_setWebStates hs.1 fun w hmem hw =>
      List.mem_cons_of_mem _ (mem_removed_of_not_reported hs.2.1 w hmem hw)

/-- What is reported goes with the current web state; another one has left nothing there. -/
theorem Prepared.left_behind {t : CrashReporterURLObserver L W U} (p : Prepared s t) {webState : W} (hsame : t.AttachedIn left =
      (s.setWebStates group ((s.webStates group).filter (· ≠ webState))).AttachedIn left) :
    Kept left s (if t.currentWebStates group = some webState then t.removeGroup group else t)
      (s.OnlyAttached left ∧
        (s.Reported group webState → s.currentWebStates group = some webState)) := by
  split
  · refine p.kept (outcome_removeGroup p.inv p.watches group) (fun hs => ?_) fun _ => False.elim
    rw [hsame]
    exact attached_elsewhere hs.1 _ _
  · rename_i hcurrent
    rw [p.current] at hcurrent
    refine p.stays fun hs g => ?_
    rw [hsame]
    exact attached_setWebStates hs.1
      (mem_removed_of_not_reported fun hreported => hcurrent (hs.2 hreported)) g

theorem kept_detached (h : s.Inv) (hw : s.Watches) {list : L} (hobserved : s.observed list = true)
    (webState : W) :
    Kept left s (s.step (.webStateDetachedAt list webState))
      (s.OnlyAttached left ∧ s.LeavesLast (.webStateDetachedAt list webState)) := by
  have p : Prepared s ((s.setWebStates (.webStateList list)
      ((s.webStates (.webStateList list)).filter (· ≠ webState))).setGroup webState none) :=
    ⟨h.env _ _ _, watches_removed hw (.webStateList list) webState
      (fun l hl => (Group.webStateList.inj hl) ▸ hobserved), rfl, rfl, rfl⟩
  exact p.left_behind rfl

theorem kept_preloadObserved (h : s.Inv) (hw : s.Watches) (webState : W) :
    Kept left s (s.step (.observePreloadWebState webState)) (s.OnlyAttached left) := by
  have p : Prepared s (s.step (.observePreloadWebState webState)) :=
    ⟨h.env _ _ _, watches_added hw .preload webState (fun l hl => by cases hl), rfl, rfl, rfl⟩
  exact p.stays fun hs => attached_setWebStates hs fun _ hmem _ => List.mem_cons_of_mem _ hmem

/-- The group of a web state that has come to a list stays. -/
theorem kept_preloadStopped (h : s.Inv) (hw : s.Watches) (webState : W) :
    Kept left s (s.step (.stopObservingPreloadWebState webState))
      (s.OnlyAttached left ∧ s.LeavesLast (.stopObservingPreloadWebState webState)) := by
  have hstep : s.step (.stopObservingPreloadWebState webState) =
      let t := s.setWebStates .preload ((s.webStates .preload).filter (· ≠ webState))
      let t := if s.webStateToGroup webState = some .preload then t.setGroup webState none else t
      if t.currentWebStates .preload = some webState then t.removeGroup .preload else t := rfl
  rw [hstep]
  dsimp only
  split
  · have p : Prepared s ((s.setWebStates .preload
        ((s.webStates .preload).filter (· ≠ webState))).setGroup webState none) :=
      ⟨h.env _ _ _, watches_removed hw .preload webState (fun l hl => by cases hl), rfl, rfl, rfl⟩
    exact p.left_behind rfl
  · rename_i hgroup
    have p : Prepared s (s.setWebStates .preload
        ((s.webStates .preload).filter (· ≠ webState))) := by
      refine ⟨h.env _ _ _, ⟨fun w g hg => ?_, unobserved_setWebStates hw _ fun l hl => by
        cases hl⟩, rfl, rfl, rfl⟩
      have hmem := hw.grouped w g hg
      by_cases heq : g = .preload
      · subst heq
        have hne : w ≠ webState := fun hsame => hgroup (hsame ▸ hg)
        rw [setWebStates_same]
        exact List.mem_filter.2 ⟨hmem, decide_eq_true hne⟩
      · rwa [setWebStates_of_ne _ heq]
    exact p.left_behind rfl

/-- Nothing is known of a list before it is observed. -/
theorem kept_listObserved (h : s.Inv) (hw : s.Watches) {list : L}
    (hpre : s.observed list = false) (webStates : List W) :
    Kept left s (s.step (.observeWebStateList list webStates)) (s.OnlyAttached left) := by
  have hempty := hw.unobserved list hpre
  have hothers : ∀ g ≠ Group.webStateList list,
      (s.step (.observeWebStateList list webStates)).webStates g = s.webStates g :=
    fun g hne => setWebStates_of_ne _ hne
  have hlist : (s.step (.observeWebStateList list webStates)).webStates (.webStateList list) =
      webStates := setWebStates_same _ _
  have hwt : (s.step (.observeWebStateList list webStates)).Watches := by
    refine ⟨fun w g hg => ?_, fun l hl => ?_⟩
    · have hg' : (if w ∈ webStates then some (.webStateList list) else s.webStateToGroup w) =
          some g := hg
      split at hg'
      · obtain rfl := Option.some.inj hg'
        rwa [hlist]
      · have hmem := hw.grouped w g hg'
        rw [hothers]
        · exact hmem
        · rintro rfl
          rw [hempty] at hmem
          cases hmem
    · have hl' : (if l = list then true else s.observed l) = false := hl
      split at hl'
      · cases hl'
      · rename_i hne
        rw [hothers _ fun heq => hne (Group.webStateList.inj heq)]
        exact hw.unobserved l hl'
  have p : Prepared s (s.step (.observeWebStateList list webStates)) :=
    ⟨h.env _ _ _, hwt, rfl, rfl, rfl⟩
  refine p.stays fun hs => attached_setWebStates (s := s.setObserved list true) hs fun w hmem _ => ?_
  rw [show (s.setObserved list true).webStates (.webStateList list) = [] from hempty] at hmem
  cases hmem

/-- The list is forgotten before its group is removed. -/
theorem kept_listStopped (h : s.Inv) (hw : s.Watches) (list : L) :
    Kept left s (s.step (.stopObservingWebStateList list)) (s.OnlyAttached left) := by
  obtain ⟨t, ht⟩ : ∃ t, t =
      { (s.setObserved list false).setWebStates (Group.webStateList list) [] with
        webStateToGroup := fun w =>
          if s.webStateToGroup w = some (Group.webStateList list) then none
          else s.webStateToGroup w } := ⟨_, rfl⟩
  have hothers : ∀ g ≠ Group.webStateList list, t.webStates g = s.webStates g := by
    intro g hne
    rw [ht]
    exact setWebStates_of_ne _ hne
  have hwt : t.Watches := by
    refine ⟨fun w g hg => ?_, fun l hl => ?_⟩
    · have hg' : (if s.webStateToGroup w = some (.webStateList list) then none
          else s.webStateToGroup w) = some g := by
        rw [ht] at hg
        exact hg
      split at hg'
      · cases hg'
      · rename_i hnot
        rw [hothers g fun heq => hnot (heq ▸ hg')]
        exact hw.grouped w g hg'
    · by_cases heq : l = list
      · rw [ht, heq]
        exact if_pos rfl
      · have hl' : (if l = list then false else s.observed l) = false := by
          rw [ht] at hl
          exact hl
        rw [if_neg heq] at hl'
        rw [hothers _ fun hg => heq (Group.webStateList.inj hg)]
        exact hw.unobserved l hl'
  have p : Prepared s t := by
    refine ⟨?_, hwt, ?_, ?_, ?_⟩
    · rw [ht]
      exact h.env _ _ _
    all_goals rw [ht]; rfl
  have hstep : s.step (.stopObservingWebStateList list) = t.removeGroup (.webStateList list) := by
    rw [← removeGroup_cleared p.inv, ht]
    rfl
  rw [hstep]
  refine p.kept (outcome_removeGroup p.inv hwt (.webStateList list)) (fun hs => ?_)
    fun _ => False.elim
  rw [ht]
  exact attached_elsewhere (s := s.setObserved list false) hs _ _

/-- A web state that is active may be left behind where one that is loading replaces it. -/
def MayLeave (left : Group L → W → Prop) : URLObserverCall L W U → Prop
  | .webStateReplacedAt list oldWebState _ urls active =>
    active = true → urls.pendingItem ≠ none → left (.webStateList list) oldWebState
  | _ => True

/-- **A notification.** -/
theorem Inv.step (h : s.Inv) (hw : s.Watches) {call : URLObserverCall L W U}
    (hpre : s.Pre call) :
    Kept left s (s.step call) (s.OnlyAttached left ∧ s.LeavesLast call ∧ MayLeave left call) := by
  cases call with
  | didStartNavigation webState url =>
    cases url with
    | none => exact (prepared_refl h hw).stays And.left
    | some url => exact (kept_navigation h hw hpre url true).mono And.left
  | didFinishNavigation webState url =>
    cases url with
    | none => exact (prepared_refl h hw).stays And.left
    | some url => exact (kept_navigation h hw hpre url false).mono And.left
  | webStateInsertedAt list webState urls activating =>
    exact (kept_inserted h hw hpre.1 webState urls activating).mono And.left
  | webStateActivatedAt list newWebState urls =>
    exact (kept_activated h hw hpre.2 urls).mono And.left
  | webStateReplacedAt list oldWebState newWebState urls active =>
    exact kept_replaced h hw hpre.1 oldWebState newWebState urls active
  | webStateDetachedAt list webState =>
    exact (kept_detached h hw hpre.1 webState).mono fun hs => ⟨hs.1, hs.2.1⟩
  | observePreloadWebState webState => exact (kept_preloadObserved h hw webState).mono And.left
  | stopObservingPreloadWebState webState =>
    exact (kept_preloadStopped h hw webState).mono fun hs => ⟨hs.1, hs.2.1⟩
  | observeWebStateList list webStates =>
    exact (kept_listObserved h hw hpre webStates).mono And.left
  | stopObservingWebStateList list => exact (kept_listStopped h hw list).mono And.left
  | removeWebStateList list =>
    exact (prepared_refl h hw).kept (outcome_removeGroup h hw (.webStateList list))
      (fun hs g _ => hs.1 g) fun _ => False.elim

/-- A run in which only web states leave that may. -/
theorem onlyAttached_exec {calls : List (URLObserverCall L W U)}
    (hmay : ∀ call ∈ calls, MayLeave left call) :
    ∀ {s : CrashReporterURLObserver L W U}, s.Inv → s.Watches → s.OnlyAttached left →
      (urlObserverMachine L W U).Run s calls →
      (urlObserverMachine L W U).Always LeavesLast s calls →
      ((urlObserverMachine L W U).exec s calls).OnlyAttached left := by
  induction calls with
  | nil => exact fun _ _ ha _ _ => ha
  | cons call rest ih =>
    intro s h hw ha hrun hleaves
    have hstep : Kept left s (s.step call) _ := h.step hw hrun.1
    exact ih (fun call' hrest => hmay call' (List.mem_cons_of_mem _ hrest)) hstep.inv hstep.watches
      (hstep.onlyAttached ⟨ha, hleaves.1, hmay call List.mem_cons_self⟩) hrun.2 hleaves.2

theorem init_inv (hinit : (urlObserverMachine L W U).init s) : s.Inv ∧ s.Watches := by
  obtain ⟨hdictionary, hgroup, hcurrent, hkeys, hparameter, hclock, hstamps, hwebStates, -⟩ := hinit
  have hnot : ∀ entry, entry ∉ s.breakpadKeyByGroup := fun entry hmem => by
    rw [hdictionary] at hmem
    cases hmem
  refine ⟨⟨hkeys ▸ List.Perm.refl _, ?_, fun g _ k hg => absurd hg (hnot _),
    fun g k hg => absurd hg (hnot _), ?_, fun k => ?_, fun k => ?_,
    fun k pending hset => absurd (hparameter k pending) hset, fun g k hg => absurd hg (hnot _),
    fun g w hw => ?_⟩, fun w g hg => ?_, fun l _ => hwebStates _⟩
  · rw [hdictionary]
    exact List.nodup_nil
  · have hlt : s.breakpadKeys.Pairwise (· < ·) := by
      rw [hkeys]
      decide
    refine hlt.imp fun {k k'} hlt => .inr (.inr ⟨fun hk => ?_, fun hk => ?_, .inr ⟨?_, hlt⟩⟩)
    · exact hnot _ hk.choose_spec
    · exact hnot _ hk.choose_spec
    · rw [(hstamps k).2, (hstamps k').2]
  · rw [(hstamps k).1]
    exact Nat.zero_le _
  · rw [(hstamps k).2]
    exact Nat.zero_le _
  · rw [hcurrent] at hw
    cases hw
  · rw [hgroup] at hg
    cases hg

/-- **What is reported along a run.** The three keys are shared, and a group that has none takes a
free one, or the one least recently recorded. A URL is one of the web state that its group has
recorded last, but for a committed URL next to a pending one. As long as no other web state leaves
its group while it is reported, none is reported that has been detached, replaced or released, but
for the committed URL of one that was active and replaced by one that was loading, next to a pending
URL. -/
theorem urls_reported {s : CrashReporterURLObserver L W U} {calls : List (URLObserverCall L W U)}
    (hinit : (urlObserverMachine L W U).init s) (hrun : (urlObserverMachine L W U).Run s calls) :
    (urlObserverMachine L W U).Always (fun s call =>
        ((urlObserverMachine L W U).step s call).KeysShared ∧
        s.TakesKeys ((urlObserverMachine L W U).step s call) ∧
        ((urlObserverMachine L W U).step s call).ReportsCurrent) s calls ∧
      ((urlObserverMachine L W U).Always LeavesLast s calls → ∀ done, done <+: calls →
        ((urlObserverMachine L W U).exec s done).OnlyAttached (ReplacedByLoading done)) := by
  have hinv := init_inv hinit
  constructor
  · refine Machine.always_of_invariant (I := fun s => s.Inv ∧ s.Watches)
      (fun s call h hpre => ?_) (fun s call h hpre => ?_) hinv hrun
    · have hstep := @Inv.step _ _ _ _ _ _ (fun _ _ => False) h.1 h.2 _ hpre
      exact ⟨hstep.inv, hstep.watches⟩
    · have hstep := @Inv.step _ _ _ _ _ _ (fun _ _ => False) h.1 h.2 _ hpre
      exact ⟨hstep.inv.keysShared, hstep.takesKeys, hstep.inv.reportsCurrent⟩
  · rintro hleaves done ⟨rest, rfl⟩
    refine onlyAttached_exec (fun call hmem => ?_) hinv.1 hinv.2 (fun g key hkey => ?_)
      ((Machine.always_append ..).1 hrun).1 ((Machine.always_append ..).1 hleaves).1
    · cases call with
      | webStateReplacedAt list oldWebState newWebState urls active =>
        rintro rfl hpending
        exact ⟨list, newWebState, urls, rfl, hpending, hmem⟩
      | _ => trivial
    · rw [hinit.1] at hkey
      cases hkey

/-- Nothing is observed. -/
def observer : CrashReporterURLObserver (Fin 4) Nat Nat where
  breakpadKeyByGroup := []
  webStateToGroup _ := none
  currentWebStates _ := none
  breakpadKeys := [0, 1, 2]
  reportParameter _ _ := none
  clock := 0
  recordedAt _ := 0
  freedAt _ := 0
  webStates _ := []
  observed _ := false

theorem observer_init : (urlObserverMachine (Fin 4) Nat Nat).init observer :=
  ⟨rfl, fun _ => rfl, fun _ => rfl, rfl, fun _ _ => rfl, rfl, fun _ => ⟨rfl, rfl⟩, fun _ => rfl,
    fun _ => rfl⟩

/-- A list with a tab. -/
private def opened (list : Fin 4) : List (URLObserverCall (Fin 4) Nat Nat) :=
  [.observeWebStateList list [], .webStateInsertedAt list list ⟨none, list⟩ true]

/-- A tab is replaced by one that is still loading, and that one is detached. -/
private def openedAndReplaced : List (URLObserverCall (Fin 4) Nat Nat) :=
  opened 0 ++ [.webStateReplacedAt 0 0 1 ⟨some 11, 0⟩ true, .webStateDetachedAt 0 1]

theorem urls_reported_opened :
    (urlObserverMachine (Fin 4) Nat Nat).Always (fun s call =>
        ((urlObserverMachine (Fin 4) Nat Nat).step s call).KeysShared ∧
        s.TakesKeys ((urlObserverMachine (Fin 4) Nat Nat).step s call) ∧
        ((urlObserverMachine (Fin 4) Nat Nat).step s call).ReportsCurrent)
          observer openedAndReplaced ∧
      ∀ done, done <+: openedAndReplaced → ((urlObserverMachine (Fin 4) Nat Nat).exec observer
        done).OnlyAttached (ReplacedByLoading done) := by
  obtain ⟨hkeys, hattached⟩ :=
    @urls_reported _ _ _ _ _ _ openedAndReplaced observer_init (by decide +kernel)
  exact ⟨hkeys, hattached ⟨trivial, trivial, trivial, fun _ => by decide +kernel, trivial⟩⟩

/-- **A free key comes first, and a replaced tab is still reported.** The fourth list takes the key
that was freed, although another one has not been recorded for longer; the URL of a tab that is
replaced by one that is still loading stays next to the pending one. -/
theorem freed_key_and_replaced_url :
    let M := urlObserverMachine (Fin 4) Nat Nat
    let freed := opened 0 ++ opened 1 ++ opened 2 ++ [.webStateDetachedAt 2 2]
    let replaced := opened 0 ++ [.webStateReplacedAt 0 0 1 ⟨some 11, 0⟩ true]
    (M.init observer ∧ M.Run observer (freed ++ opened 3) ∧ M.Run observer replaced) ∧
      ((M.exec observer (freed ++ opened 3)).breakpadKeyByGroup.objectForKey (.webStateList 3) =
          some 2 ∧
        (M.exec observer freed).recordedAt 0 < (M.exec observer freed).recordedAt 2) ∧
      (M.exec observer replaced).reportParameter 0 false = some (0, 0) ∧
      (M.exec observer replaced).webStates (.webStateList 0) = [1] := by
  intro M freed replaced
  exact ⟨⟨observer_init, by decide +kernel, by decide +kernel⟩, by decide +kernel,
    by decide +kernel, by decide +kernel⟩

end

end CrashReporterURLObserver

end IosChrome.CrashReport

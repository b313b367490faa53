import IosChrome.Sessions.SessionWindow
import IosChrome.Tabs.Invariant

/-!
# Saving and restoring a `WebStateList`

`SerializeWebStateList` writes each tab's opener into the tab's own user data,
as the index of the opener in the list and its navigation index, and collects
the tabs' session storages. `DeserializeWebStateList` appends the restored tabs
to a list that may already hold some, then reads the indices back, shifted by
the old count, in a second pass, and activates the selected tab.

The round trip is `deserialize_serialize`. Its pieces:

* `insertSessions_eq`: the first pass appends one tab per session, each with a
  null opener, and moves nothing else;
* `restoreOpeners_getElem?`: the second pass writes to each wrapper what
  `storedOpener` reads for its index, in whatever order;
* `storedOpener_serialized`: for a serialized list that is the opener it had,
  at the shifted index. The shift is 32-bit arithmetic, so the two lists
  together must have at most `INT_MAX` tabs, which `count()` assumes too.

A restored tab comes from the `WebStateFactory`, which is not part of the list.
`Restores` states what is asked of it: the tabs it makes are new, and carry the
user data of the session they were made from.
-/

namespace IosChrome.Tabs

open Sessions (SessionWindow Archive nsNotFound)

/-! ## User data -/

/-- An object that can be added to a tab's user data. -/
inductive SerializableValue where
  | number (intValue : Int32)
  | null
  | object (contents : String)
  deriving DecidableEq, Repr

/-- The values of a `SerializableUserDataManager`, by key. -/
abbrev UserData := String → Option SerializableValue

/-- `AddSerializableData`. -/
def UserData.addSerializableData (userData : UserData) (data : SerializableValue)
    (key : String) : UserData :=
  fun k => if k = key then some data else userData k

/-- `ObjCCast<NSNumber>(GetValueForSerializationKey(key))`. -/
def UserData.numberForKey (userData : UserData) (key : String) : Option Int32 :=
  match userData key with
  | some (.number intValue) => some intValue
  | _ => none

/-- `CRWSessionStorage`: the user data, and the rest of what
`BuildSessionStorage` collects. -/
structure SessionStorage (R : Type) where
  userData : UserData
  rest : R

/-- The factory of restored tabs: `run n session` is the tab its `n`-th call
returns, `userData` the user data of a tab. -/
structure WebStateFactory (W R : Type) where
  run : Nat → SessionStorage R → W
  userData : W → UserData

def kOpenerIndexKey : String := "OpenerIndex"
def kOpenerNavigationIndexKey : String := "OpenerNavigationIndex"

variable {W R : Type}

/-! ## The openers read back -/

/-- The opener the second loop reads for the tab at `index`, if it accepts what
it finds. -/
def storedOpener (factory : WebStateFactory W R) (oldCount : Int) (tabs : List W) (index : Nat) :
    Option (WebStateOpener W) :=
  match tabs[index]? with
  | none => none
  | some webState =>
    match (factory.userData webState).numberForKey kOpenerIndexKey,
        (factory.userData webState).numberForKey kOpenerNavigationIndexKey with
    | some boxedOpenerIndex, some boxedOpenerNavigationIndex =>
      let openerIndex := (boxedOpenerIndex + Int32.ofInt oldCount).toInt
      if openerIndex < oldCount ∨ openerIndex ≥ tabs.length then none
      else if openerIndex = index then none
      else match tabs[openerIndex.toNat]? with
        | none => none
        | some opener => some ⟨some opener, boxedOpenerNavigationIndex⟩
    | _, _ => none

/-- One round of the second loop of `DeserializeWebStateList`. -/
def restoreOpener (factory : WebStateFactory W R) (oldCount : Int) (l : WebStateList W)
    (index : Nat) : WebStateList W :=
  match storedOpener factory oldCount l.webStates index with
  | none => l
  | some opener => l.setOpenerOfWebStateAt index opener

/-- The second loop, over the indices of the restored tabs. -/
def restoreOpeners (factory : WebStateFactory W R) (oldCount : Int) (indices : List Nat)
    (l : WebStateList W) : WebStateList W :=
  indices.foldl (restoreOpener factory oldCount) l

/-- The write of the second loop to one wrapper. -/
def writeOpener (stored : Option (WebStateOpener W)) (wrapper : WebStateWrapper W) :
    WebStateWrapper W :=
  match stored with
  | none => wrapper
  | some opener => wrapper.setOpener opener

theorem restoreOpener_webStates (factory : WebStateFactory W R) (oldCount : Int)
    (l : WebStateList W) (index : Nat) :
    (restoreOpener factory oldCount l index).webStates = l.webStates := by
  unfold restoreOpener
  split
  · rfl
  · exact WebStateList.setOpenerOfWebStateAt_webStates l index _

theorem restoreOpener_activeIndex (factory : WebStateFactory W R) (oldCount : Int)
    (l : WebStateList W) (index : Nat) :
    (restoreOpener factory oldCount l index).activeIndex = l.activeIndex := by
  unfold restoreOpener
  split
  · rfl
  · exact WebStateList.setOpenerOfWebStateAt_activeIndex l index _

theorem restoreOpener_getElem? (factory : WebStateFactory W R) (oldCount : Int)
    (l : WebStateList W) (index p : Nat) :
    (restoreOpener factory oldCount l index).webStateWrappers[p]? =
      l.webStateWrappers[p]?.map fun wrapper =>
        if p = index then writeOpener (storedOpener factory oldCount l.webStates p) wrapper
        else wrapper := by
  unfold restoreOpener
  cases hstored : storedOpener factory oldCount l.webStates index with
  | none =>
    cases hw : l.webStateWrappers[p]? with
    | none => rfl
    | some wrapper =>
      by_cases hp : p = index
      · simp [hp, hstored, writeOpener]
      · simp [hp]
  | some opener =>
    simp only [WebStateList.setOpenerOfWebStateAt, WebStateList.modifyWrapperAt]
    rw [if_neg (by omega), Int.toNat_natCast, List.getElem?_modify]
    by_cases hp : p = index
    · subst hp
      rw [hstored]
      simp [writeOpener]
    · simp [hp, Ne.symm hp]

theorem restoreOpeners_webStates (factory : WebStateFactory W R) (oldCount : Int)
    (indices : List Nat) (l : WebStateList W) :
    (restoreOpeners factory oldCount indices l).webStates = l.webStates := by
  induction indices generalizing l with
  | nil => rfl
  | cons index indices ih =>
    show (restoreOpeners factory oldCount indices (restoreOpener factory oldCount l index)).webStates
      = _
    rw [ih, restoreOpener_webStates]

theorem restoreOpeners_activeIndex (factory : WebStateFactory W R) (oldCount : Int)
    (indices : List Nat) (l : WebStateList W) :
    (restoreOpeners factory oldCount indices l).activeIndex = l.activeIndex := by
  induction indices generalizing l with
  | nil => rfl
  | cons index indices ih =>
    show (restoreOpeners factory oldCount indices
      (restoreOpener factory oldCount l index)).activeIndex = _
    rw [ih, restoreOpener_activeIndex]

/-- **The second loop writes to each wrapper it visits what `storedOpener` reads
there.** Openers are no part of what is read, so the order does not matter. -/
theorem restoreOpeners_getElem? (factory : WebStateFactory W R) (oldCount : Int)
    (indices : List Nat) (l : WebStateList W) (p : Nat) :
    (restoreOpeners factory oldCount indices l).webStateWrappers[p]? =
      l.webStateWrappers[p]?.map fun wrapper =>
        if p ∈ indices then writeOpener (storedOpener factory oldCount l.webStates p) wrapper
        else wrapper := by
  induction indices generalizing l with
  | nil => simp [restoreOpeners]
  | cons index indices ih =>
    show (restoreOpeners factory oldCount indices
      (restoreOpener factory oldCount l index)).webStateWrappers[p]? = _
    rw [ih, restoreOpener_webStates, restoreOpener_getElem?, Option.map_map]
    congr 1
    funext wrapper
    show (if p ∈ indices then writeOpener _ (if p = index then _ else wrapper)
      else if p = index then _ else wrapper) = _
    by_cases hp : p = index
    · -- a second write of the same opener changes nothing
      rw [if_pos hp, if_pos (List.mem_cons.2 (.inl hp))]
      split
      · cases storedOpener factory oldCount l.webStates p <;> rfl
      · rfl
    · rw [if_neg hp]
      simp only [List.mem_cons, hp, false_or]

variable [DecidableEq W]

/-! ## `SerializeWebStateList` -/

/-- The session storage of one tab; `storageOf` is what `BuildSessionStorage`
would give before the opener is added. -/
def serializeWebState (l : WebStateList W) (storageOf : W → SessionStorage R)
    (wrapper : WebStateWrapper W) : SessionStorage R :=
  let storage := storageOf wrapper.webState
  let userData := match wrapper.opener.opener with
    | some opener =>
      (storage.userData.addSerializableData
        (.number (Int32.ofInt (l.getIndexOfWebState opener))) kOpenerIndexKey).addSerializableData
        (.number wrapper.opener.navigationIndex) kOpenerNavigationIndexKey
    | none =>
      (storage.userData.addSerializableData .null kOpenerIndexKey).addSerializableData
        .null kOpenerNavigationIndexKey
  { storage with userData := userData }

def serializeWebStateList (l : WebStateList W) (storageOf : W → SessionStorage R) :
    SessionWindow (SessionStorage R) where
  sessions := l.webStateWrappers.map (serializeWebState l storageOf)
  selectedIndex := if l.activeIndex ≠ kInvalidIndex then l.activeIndex.toNat else nsNotFound

/-! ## `DeserializeWebStateList` -/

/-- The first loop: every session becomes a tab at the end of the list. -/
def insertSessions (nav : W → Int32) (factory : WebStateFactory W R) :
    Nat → List (SessionStorage R) → Mutation W → Mutation W
  | _, [], m => m
  | n, session :: sessions, m =>
    insertSessions nav factory (n + 1) sessions
      (m.insertWebStateImpl nav m.webStateList.count (factory.run n session) insertForceIndex
        .null).2

def deserializeWebStateList (nav : W → Int32) (factory : WebStateFactory W R) (m : Mutation W)
    (window : SessionWindow (SessionStorage R)) : Mutation W :=
  let oldCount := m.webStateList.count
  let m := insertSessions nav factory 0 window.sessions m
  let indices := List.range' oldCount.toNat (m.webStateList.count - oldCount).toNat
  let m := m.update (restoreOpeners factory oldCount indices)
  if window.selectedIndex ≠ nsNotFound then
    m.activateWebStateAtImpl (Int32.ofInt oldCount + Int32.ofNat window.selectedIndex).toInt
      .activated
  else m

/-- What is asked of a factory that restores `sessions` next to the tabs of
`l`: each tab it makes is a new one and carries its session's user data. -/
structure WebStateFactory.Restores (factory : WebStateFactory W R) (l : WebStateList W)
    (sessions : List (SessionStorage R)) : Prop where
  userData : ∀ n session, sessions[n]? = some session →
    factory.userData (factory.run n session) = session.userData
  fresh : ∀ n session, sessions[n]? = some session → factory.run n session ∉ l.webStates
  distinct : ∀ n n' session session', sessions[n]? = some session → sessions[n']? = some session' →
    n ≠ n' → factory.run n session ≠ factory.run n' session'

/-! ## The first pass -/

/-- A forced insertion at the end, without an opener, appends a wrapper and
moves nothing. -/
theorem insertWebStateImpl_atEnd (m : Mutation W) (nav : W → Int32) (webState : W)
    (hactive : m.webStateList.activeIndex < m.webStateList.count) :
    (m.insertWebStateImpl nav m.webStateList.count webState insertForceIndex .null).2.webStateList =
      { webStateWrappers := m.webStateList.webStateWrappers ++ [{ webState := webState }]
        activeIndex := m.webStateList.activeIndex } := by
  have hforce : isInsertionFlagSet insertForceIndex insertForceIndex = true := by decide
  have hinherit : isInsertionFlagSet insertForceIndex insertInheritOpener = false := by decide
  have hactivate : isInsertionFlagSet insertForceIndex insertActivate = false := by decide
  have hbase : m.webStateList = m.webStateList.insertionBase insertForceIndex := by
    unfold WebStateList.insertionBase
    rw [hinherit]
    rfl
  have hopener : (.null : WebStateOpener W) =
      m.webStateList.insertionOpener nav insertForceIndex .null := by
    unfold WebStateList.insertionOpener
    rw [hinherit]
    rfl
  have hindex : m.webStateList.insertionIndex nav m.webStateList.count insertForceIndex .null =
      (m.webStateList.webStateWrappers.length : Nat) := by
    unfold WebStateList.insertionIndex
    rw [if_pos hforce]
    rfl
  rw [m.insertWebStateImpl_eq nav _ webState insertForceIndex .null hbase hopener hindex]
  simp only [hactivate]
  rw [if_neg Bool.false_ne_true]
  rw [WebStateList.insertWrapperAt_setInsertedOpener _ _ _ _ le_rfl, List.insertIdx_length_self]
  unfold WebStateList.count at hactive
  rw [if_neg (by omega), WebStateList.insertedWrapper, hinherit]
  rfl

theorem insertSessions_eq (nav : W → Int32) (factory : WebStateFactory W R)
    (sessions : List (SessionStorage R)) : ∀ (n : Nat) (m : Mutation W),
    m.webStateList.activeIndex < m.webStateList.count →
    (insertSessions nav factory n sessions m).webStateList =
      { webStateWrappers := m.webStateList.webStateWrappers ++
          sessions.mapIdx fun k session => { webState := factory.run (n + k) session }
        activeIndex := m.webStateList.activeIndex } := by
  induction sessions with
  | nil =>
    intro n m _
    rw [List.mapIdx_nil, List.append_nil]
    rfl
  | cons session sessions ih =>
    intro n m hactive
    have hstep := insertWebStateImpl_atEnd m nav (factory.run n session) hactive
    unfold insertSessions
    rw [ih (n + 1) _ (by
        rw [hstep]
        unfold WebStateList.count at hactive ⊢
        rw [List.length_append, List.length_singleton]
        show m.webStateList.activeIndex < _
        omega),
      hstep, List.mapIdx_cons, List.append_assoc, List.singleton_append]
    simp only [Nat.add_zero, Nat.add_assoc, Nat.add_comm 1]

/-! ## The openers of a serialized list -/

/-- `INT_MAX`, the most tabs `count()` can count. -/
def intMax : Int := 2147483647

/-- A 32-bit sum that stays in range is the sum. -/
theorem int32_toInt_add {a b : Int32} (ha : 0 ≤ a.toInt) (hb : 0 ≤ b.toInt)
    (hab : a.toInt + b.toInt ≤ intMax) : (a + b).toInt = a.toInt + b.toInt := by
  unfold intMax at hab
  rw [Int32.toInt_add]
  exact Int.bmod_eq_of_le (by omega) (by omega)

theorem int32_toInt_ofInt {n : Int} (h0 : 0 ≤ n) (hn : n ≤ intMax) : (Int32.ofInt n).toInt = n := by
  unfold intMax at hn
  exact Int32.toInt_ofInt_of_le (by omega) (by omega)

/-- The tabs after the first pass: those of `target`, then the restored ones. -/
def restoredTabs (target : WebStateList W) (factory : WebStateFactory W R)
    (sessions : List (SessionStorage R)) : List W :=
  target.webStates ++ sessions.mapIdx factory.run

omit [DecidableEq W] in
theorem restoredTabs_getElem? (target : WebStateList W) (factory : WebStateFactory W R)
    (sessions : List (SessionStorage R)) (i : Nat) :
    (restoredTabs target factory sessions)[target.webStateWrappers.length + i]? =
      sessions[i]?.map (factory.run i) := by
  unfold restoredTabs
  rw [← WebStateList.length_webStates, List.getElem?_append_right (Nat.le_add_right _ _),
    Nat.add_sub_cancel_left, List.getElem?_mapIdx]

theorem sessions_getElem? (l : WebStateList W) (storageOf : W → SessionStorage R) (k : Nat) :
    (serializeWebStateList l storageOf).sessions[k]? =
      l.webStateWrappers[k]?.map (serializeWebState l storageOf) :=
  List.getElem?_map

theorem length_sessions (l : WebStateList W) (storageOf : W → SessionStorage R) :
    (serializeWebStateList l storageOf).sessions.length = l.webStateWrappers.length :=
  List.length_map _

section RoundTrip

variable {l target : WebStateList W} {storageOf : W → SessionStorage R}
  {factory : WebStateFactory W R}

/-- A tab without an opener stores `NSNull`, which is not a number. -/
theorem storedOpener_null (hf : factory.Restores target (serializeWebStateList l storageOf).sessions) {i : Nat} {wrapper : WebStateWrapper W}
    (hi : l.webStateWrappers[i]? = some wrapper) (hnull : wrapper.opener.opener = none) :
    storedOpener factory target.count
      (restoredTabs target factory (serializeWebStateList l storageOf).sessions)
      (target.webStateWrappers.length + i) = none := by
  unfold storedOpener
  rw [restoredTabs_getElem?, sessions_getElem?, hi]
  simp only [Option.map_some]
  have hnumber : (factory.userData (factory.run i (serializeWebState l storageOf wrapper))).numberForKey
      kOpenerIndexKey = none := by
    rw [hf.userData i _ (by rw [sessions_getElem?, hi]; rfl)]
    unfold serializeWebState
    rw [hnull]
    rfl
  rw [hnumber]

/-- **A tab with an opener gets back the restored copy of its opener**, with its
navigation index. -/
theorem storedOpener_serialized (hinv : ListInv l) (hcount : target.count + l.count ≤ intMax)
    (hf : factory.Restores target (serializeWebStateList l storageOf).sessions) {i j : Nat} {wrapper : WebStateWrapper W} {o : W}
    (hi : l.webStateWrappers[i]? = some wrapper) (ho : wrapper.opener.opener = some o)
    (hj : l.webStates[j]? = some o) :
    storedOpener factory target.count
      (restoredTabs target factory (serializeWebStateList l storageOf).sessions)
      (target.webStateWrappers.length + i) =
      some ⟨(restoredTabs target factory (serializeWebStateList l storageOf).sessions)[
        target.webStateWrappers.length + j]?, wrapper.opener.navigationIndex⟩ := by
  have hjlt : j < l.webStateWrappers.length := by
    rw [← WebStateList.length_webStates]
    exact (List.getElem?_eq_some_iff.1 hj).1
  have hindex : l.getIndexOfWebState o = j :=
    WebStateList.getIndexOfWebState_of_getElem? hinv.nodup hj
  have hlength : (restoredTabs target factory (serializeWebStateList l storageOf).sessions).length =
      target.webStateWrappers.length + l.webStateWrappers.length := by
    rw [restoredTabs, List.length_append, List.length_mapIdx, WebStateList.length_webStates,
      length_sessions]
  -- what the two keys hold
  have hdata : factory.userData (factory.run i (serializeWebState l storageOf wrapper)) =
      (((storageOf wrapper.webState).userData.addSerializableData
        (.number (Int32.ofInt j)) kOpenerIndexKey).addSerializableData
        (.number wrapper.opener.navigationIndex) kOpenerNavigationIndexKey) := by
    rw [hf.userData i _ (by rw [sessions_getElem?, hi]; rfl)]
    unfold serializeWebState
    rw [ho]
    simp only [hindex]
  have hopenerIndex : (factory.userData (factory.run i (serializeWebState l storageOf
      wrapper))).numberForKey kOpenerIndexKey = some (Int32.ofInt j) := by
    rw [hdata]
    rfl
  have hnavigation : (factory.userData (factory.run i (serializeWebState l storageOf
      wrapper))).numberForKey kOpenerNavigationIndexKey = some wrapper.opener.navigationIndex := by
    rw [hdata]
    rfl
  -- the shifted index does not wrap
  have hshift : (Int32.ofInt j + Int32.ofInt target.count).toInt = target.count + j := by
    unfold WebStateList.count at hcount ⊢
    have hj32 := int32_toInt_ofInt (n := j) (by omega) (by omega)
    have hcount32 := int32_toInt_ofInt (n := target.webStateWrappers.length) (by omega) (by omega)
    rw [int32_toInt_add (by omega) (by omega) (by omega), hj32, hcount32]
    omega
  -- the opener is not the tab itself
  have hne : j ≠ i := by
    rintro rfl
    rw [WebStateList.webStates, List.getElem?_map, hi] at hj
    exact ((hinv.wrappers wrapper (List.mem_of_getElem? hi)).opener o ho).2
      (Option.some.inj hj).symm
  have hopener : (restoredTabs target factory (serializeWebStateList l storageOf).sessions)[
      target.webStateWrappers.length + j]? = some (factory.run j
        (serializeWebState l storageOf l.webStateWrappers[j])) := by
    rw [restoredTabs_getElem?, sessions_getElem?, List.getElem?_eq_getElem hjlt]
    rfl
  have htoNat : (target.count + j).toNat = target.webStateWrappers.length + j := by
    unfold WebStateList.count
    omega
  unfold storedOpener
  rw [restoredTabs_getElem?, sessions_getElem?, hi]
  simp only [Option.map_some, hopenerIndex, hnavigation, hshift, hlength]
  rw [if_neg (by unfold WebStateList.count; omega), if_neg (by unfold WebStateList.count; omega),
    htoNat, hopener]

/-! ## The round trip -/

/-- The window survives its coding. -/
theorem initWithCoder_serialized (hinv : ListInv l) (hcount : l.count ≤ intMax)
    (hactive : l.webStates = [] ∨ l.activeIndex ≠ kInvalidIndex)
    (coder : Archive (SessionStorage R)) :
    SessionWindow.initWithCoder ((serializeWebStateList l storageOf).encodeWithCoder coder) =
      serializeWebStateList l storageOf := by
  unfold WebStateList.count intMax at hcount
  have hselected : (serializeWebStateList l storageOf).selectedIndex =
    if l.activeIndex ≠ kInvalidIndex then l.activeIndex.toNat else nsNotFound := rfl
  by_cases hinvalid : l.activeIndex = kInvalidIndex
  · have hempty : l.webStateWrappers = [] :=
      List.map_eq_nil_iff.1 (hactive.resolve_right fun h => h hinvalid)
    rw [if_neg (by simpa using hinvalid)] at hselected
    refine SessionWindow.initWithCoder_encodeWithCoder _ coder ?_ (.inr hselected)
    rw [length_sessions, hempty, hselected]
    exact rfl
  · obtain ⟨h0, hlt⟩ := hinv.active.resolve_left hinvalid
    unfold WebStateList.count at hlt
    rw [if_pos hinvalid] at hselected
    refine SessionWindow.initWithCoder_encodeWithCoder _ coder ?_ (.inl (by omega))
    rw [length_sessions, hselected, SessionWindow.IsIndexValidForSessionCount,
      if_neg (by omega)]
    omega

/-- The list before its selected tab is activated. -/
def restoredList (target : WebStateList W) (nav : W → Int32) (factory : WebStateFactory W R)
    (window : SessionWindow (SessionStorage R)) : WebStateList W :=
  let inserted := (insertSessions nav factory 0 window.sessions
    { webStateList := target }).webStateList
  restoreOpeners factory target.count
    (List.range' target.count.toNat (inserted.count - target.count).toNat) inserted

theorem insertSessions_target (hinv : ListInv target) (nav : W → Int32)
    (factory : WebStateFactory W R) (sessions : List (SessionStorage R)) :
    (insertSessions nav factory 0 sessions { webStateList := target }).webStateList =
      { webStateWrappers := target.webStateWrappers ++
          sessions.mapIdx fun k session => { webState := factory.run k session }
        activeIndex := target.activeIndex } := by
  have hactive : target.activeIndex < target.count := by
    rcases hinv.active with ha | ⟨_, hlt⟩
    · rw [ha]
      unfold kInvalidIndex WebStateList.count
      omega
    · exact hlt
  rw [insertSessions_eq nav factory sessions 0 { webStateList := target } hactive]
  simp only [Nat.zero_add]

omit [DecidableEq W] in
theorem insertedTabs (target : WebStateList W) (factory : WebStateFactory W R)
    (sessions : List (SessionStorage R)) :
    (WebStateList.mk (target.webStateWrappers ++ sessions.mapIdx fun k session =>
      ({ webState := factory.run k session } : WebStateWrapper W)) target.activeIndex).webStates =
      restoredTabs target factory sessions := by
  rw [WebStateList.webStates, List.map_append, restoredTabs, WebStateList.webStates]
  congr 1
  refine List.ext_getElem? fun k => ?_
  rw [List.getElem?_map, List.getElem?_mapIdx, List.getElem?_mapIdx, Option.map_map]
  rfl

theorem restoredList_webStates (hinv : ListInv target) (nav : W → Int32)
    (factory : WebStateFactory W R) (window : SessionWindow (SessionStorage R)) :
    (restoredList target nav factory window).webStates =
      restoredTabs target factory window.sessions := by
  unfold restoredList
  simp only
  rw [restoreOpeners_webStates, insertSessions_target hinv, insertedTabs]

theorem restoredList_activeIndex (hinv : ListInv target) (nav : W → Int32)
    (factory : WebStateFactory W R) (window : SessionWindow (SessionStorage R)) :
    (restoredList target nav factory window).activeIndex = target.activeIndex := by
  unfold restoredList
  simp only
  rw [restoreOpeners_activeIndex, insertSessions_target hinv]

/-- The wrappers that were there are untouched. -/
theorem restoredList_getElem?_old (hinv : ListInv target) (nav : W → Int32)
    (factory : WebStateFactory W R) (window : SessionWindow (SessionStorage R)) {p : Nat}
    (hp : p < target.webStateWrappers.length) :
    (restoredList target nav factory window).webStateWrappers[p]? =
      target.webStateWrappers[p]? := by
  unfold restoredList
  simp only
  rw [restoreOpeners_getElem?, insertSessions_target hinv]
  simp only
  rw [List.getElem?_append_left hp]
  have hnot : p ∉ List.range' target.count.toNat
      ((WebStateList.mk (target.webStateWrappers ++ window.sessions.mapIdx fun k session =>
        ({ webState := factory.run k session } : WebStateWrapper W))
          target.activeIndex).count - target.count).toNat := by
    rw [List.mem_range'_1]
    unfold WebStateList.count
    omega
  simp only [hnot, if_false, Option.map_id']

/-- The new ones carry the opener that was read for them. -/
theorem restoredList_getElem?_new (hinv : ListInv target) (nav : W → Int32)
    (factory : WebStateFactory W R) (window : SessionWindow (SessionStorage R)) {i : Nat}
    {session : SessionStorage R} (hi : window.sessions[i]? = some session) :
    (restoredList target nav factory window).webStateWrappers[
        target.webStateWrappers.length + i]? =
      some (writeOpener (storedOpener factory target.count
        (restoredTabs target factory window.sessions) (target.webStateWrappers.length + i))
        { webState := factory.run i session }) := by
  have hilt : i < window.sessions.length := (List.getElem?_eq_some_iff.1 hi).1
  unfold restoredList
  simp only
  rw [restoreOpeners_getElem?, insertSessions_target hinv, insertedTabs]
  simp only
  rw [List.getElem?_append_right (Nat.le_add_right _ _), Nat.add_sub_cancel_left,
    List.getElem?_mapIdx, hi]
  have hmem : target.webStateWrappers.length + i ∈ List.range' target.count.toNat
      ((WebStateList.mk (target.webStateWrappers ++ window.sessions.mapIdx fun k session =>
        ({ webState := factory.run k session } : WebStateWrapper W))
          target.activeIndex).count - target.count).toNat := by
    rw [List.mem_range'_1]
    unfold WebStateList.count
    rw [List.length_append, List.length_mapIdx]
    omega
  simp only [Option.map_some, hmem, if_true]

/-- No restored wrapper waits for its opener to be reset. -/
theorem restoredList_reset (hinv : ListInv target) (nav : W → Int32)
    (factory : WebStateFactory W R) (window : SessionWindow (SessionStorage R)) :
    ∀ wrapper ∈ (restoredList target nav factory window).webStateWrappers,
      wrapper.shouldResetOpener = true → wrapper.opener = .null := by
  intro wrapper hmem hreset
  obtain ⟨p, hp⟩ := List.getElem?_of_mem hmem
  by_cases hlt : p < target.webStateWrappers.length
  · rw [restoredList_getElem?_old hinv nav factory window hlt] at hp
    exact (hinv.wrappers wrapper (List.mem_of_getElem? hp)).reset hreset
  · obtain ⟨i, rfl⟩ : ∃ i, p = target.webStateWrappers.length + i :=
      ⟨p - target.webStateWrappers.length, by omega⟩
    have htab : (restoredTabs target factory window.sessions)[
        target.webStateWrappers.length + i]? = some wrapper.webState := by
      rw [← restoredList_webStates hinv nav, WebStateList.webStates, List.getElem?_map, hp]
      rfl
    rw [restoredTabs_getElem?] at htab
    obtain ⟨session, hsession, _⟩ := Option.map_eq_some_iff.1 htab
    rw [restoredList_getElem?_new hinv nav factory window hsession] at hp
    rw [← Option.some.inj hp] at hreset
    unfold writeOpener at hreset
    split at hreset
    · exact absurd hreset (by simp)
    · exact absurd hreset (by simp)

theorem deserializeWebStateList_webStateList (nav : W → Int32) (factory : WebStateFactory W R)
    (window : SessionWindow (SessionStorage R)) :
    (deserializeWebStateList nav factory { webStateList := target } window).webStateList =
      if window.selectedIndex ≠ nsNotFound then
        (restoredList target nav factory window).setActiveIndex
          (Int32.ofInt target.count + Int32.ofNat window.selectedIndex).toInt
      else restoredList target nav factory window := by
  unfold deserializeWebStateList
  simp only
  split
  · exact Mutation.activateWebStateAtImpl_webStateList _ _ _
  · rfl

omit [DecidableEq W] in
/-- Activation leaves all openers alone when the flag stands on null ones. -/
theorem setActiveIndex_getOpener {l : WebStateList W}
    (hreset : ∀ wrapper ∈ l.webStateWrappers, wrapper.shouldResetOpener = true →
      wrapper.opener = .null) (index : Int) (p : Nat) :
    (l.setActiveIndex index).getOpenerOfWebStateAt p = l.getOpenerOfWebStateAt p := by
  suffices hwrappers : (l.setActiveIndex index).webStateWrappers[p]?.map (·.opener) =
      l.webStateWrappers[p]?.map (·.opener) by
    rw [WebStateList.getOpenerOfWebStateAt_natCast, WebStateList.getOpenerOfWebStateAt_natCast,
      hwrappers]
  unfold WebStateList.setActiveIndex
  simp only
  cases l.getActiveWebStateWrapper with
  | none => rfl
  | some active =>
    simp only [WebStateList.modifyWrapperAt]
    split
    next => rfl
    next =>
      rw [List.getElem?_modify]
      cases hw : l.webStateWrappers[p]? with
      | none => rfl
      | some wrapper =>
        show some (if _ then _ else wrapper : WebStateWrapper W).opener = some wrapper.opener
        split
        · split
          next hflag => rw [hreset wrapper (List.mem_of_getElem? hw) hflag]; rfl
          next => rfl
        · rfl

/-- What the restored list says about the tabs and their openers, by index. -/
theorem restoredList_getOpener_new (hinv : ListInv target) (nav : W → Int32) {i : Nat}
    {wrapper : WebStateWrapper W} (hi : l.webStateWrappers[i]? = some wrapper) :
    (restoredList target nav factory (serializeWebStateList l storageOf)).getOpenerOfWebStateAt
        (target.webStateWrappers.length + i : Nat) =
      (storedOpener factory target.count
        (restoredTabs target factory (serializeWebStateList l storageOf).sessions)
        (target.webStateWrappers.length + i)).getD .null := by
  have hsession : (serializeWebStateList l storageOf).sessions[i]? =
      some (serializeWebState l storageOf wrapper) := by
    rw [sessions_getElem?, hi]
    rfl
  rw [WebStateList.getOpenerOfWebStateAt_natCast,
    restoredList_getElem?_new hinv nav factory _ hsession]
  cases storedOpener factory target.count
    (restoredTabs target factory (serializeWebStateList l storageOf).sessions)
    (target.webStateWrappers.length + i) <;> rfl

/-- Restored tabs at different indices are different. -/
theorem restoredTabs_inj (hf : factory.Restores target (serializeWebStateList l storageOf).sessions) {j k : Nat}
    (hj : j < l.webStateWrappers.length)
    (h : (restoredTabs target factory (serializeWebStateList l storageOf).sessions)[
        target.webStateWrappers.length + k]? =
      (restoredTabs target factory (serializeWebStateList l storageOf).sessions)[
        target.webStateWrappers.length + j]?) : k = j := by
  have hsession : (serializeWebStateList l storageOf).sessions[j]? =
      some (serializeWebState l storageOf l.webStateWrappers[j]) := by
    rw [sessions_getElem?, List.getElem?_eq_getElem hj]
    rfl
  rw [restoredTabs_getElem?, restoredTabs_getElem?, hsession] at h
  obtain ⟨session, hk, hrun⟩ := Option.map_eq_some_iff.1 h
  by_contra hne
  exact hf.distinct k j session _ hk hsession hne hrun

/-- The openers of the restored tabs are those of the saved ones, link by
link. -/
theorem restoredList_opener_iff (hinv : ListInv target) (hinvl : ListInv l) (nav : W → Int32)
    (hcount : target.count + l.count ≤ intMax) (hf : factory.Restores target (serializeWebStateList l storageOf).sessions) {i j : Nat}
    (hi : i < l.webStateWrappers.length) (hj : j < l.webStateWrappers.length) (n : Int32) :
    (restoredList target nav factory (serializeWebStateList l storageOf)).getOpenerOfWebStateAt
        (target.webStateWrappers.length + i : Nat) =
      ⟨(restoredTabs target factory (serializeWebStateList l storageOf).sessions)[
        target.webStateWrappers.length + j]?, n⟩ ↔
    l.webStateWrappers[i].opener = ⟨l.webStates[j]?, n⟩ := by
  have hi' : l.webStateWrappers[i]? = some l.webStateWrappers[i] := List.getElem?_eq_getElem hi
  have hj' : j < l.webStates.length := by rw [WebStateList.length_webStates]; exact hj
  rw [restoredList_getOpener_new hinv nav hi']
  cases ho : l.webStateWrappers[i].opener.opener with
  | none =>
    -- both sides are links to a tab, and there is none
    have htab : (restoredTabs target factory (serializeWebStateList l storageOf).sessions)[
        target.webStateWrappers.length + j]? ≠ none := by
      rw [restoredTabs_getElem?, sessions_getElem?, List.getElem?_eq_getElem hj]
      simp
    rw [storedOpener_null hf hi' ho]
    constructor
    · intro h
      exact absurd (congrArg WebStateOpener.opener h).symm htab
    · intro h
      rw [h, List.getElem?_eq_getElem hj'] at ho
      exact absurd ho (by simp)
  | some o =>
    obtain ⟨hmem, _⟩ := (hinvl.wrappers _ (List.getElem_mem hi)).opener o ho
    obtain ⟨k, hk⟩ := List.getElem?_of_mem hmem
    rw [storedOpener_serialized hinvl hcount hf hi' ho hk]
    constructor
    · intro h
      obtain ⟨htab, hnav⟩ := WebStateOpener.mk.inj h
      rw [restoredTabs_inj hf hj htab] at hk
      show WebStateOpener.mk l.webStateWrappers[i].opener.opener _ = _
      rw [ho, hk, hnav]
    · intro h
      have hoj : l.webStates[j]? = some o := by
        rw [← ho, h]
      have hkj : k = j := by
        obtain ⟨hklt, hkw⟩ := List.getElem?_eq_some_iff.1 hk
        obtain ⟨hjlt, hjw⟩ := List.getElem?_eq_some_iff.1 hoj
        exact hinvl.nodup.getElem_inj_iff.1 (hkw.trans hjw.symm)
      rw [hkj, h]
      rfl

/-- **Saving a list and restoring it after another one.** The restored tabs
follow the target's, in order, one per saved session; the target's tabs keep
their openers; a restored tab has a restored tab as its opener, with the same
navigation index, exactly when the saved ones were so linked, and none when
there was none; the active tab is the saved active one, shifted. -/
theorem deserialize_serialize (hl : (webStateListMachine W).Reachable l)
    (ht : (webStateListMachine W).Reachable target)
    (hactive : l.empty = true ∨ l.activeIndex ≠ kInvalidIndex)
    (hcount : target.count + l.count ≤ intMax) (storageOf : W → SessionStorage R)
    (coder : Archive (SessionStorage R)) (nav : W → Int32) (factory : WebStateFactory W R)
    (hf : factory.Restores target (serializeWebStateList l storageOf).sessions) :
    let window := SessionWindow.initWithCoder
      ((serializeWebStateList l storageOf).encodeWithCoder coder)
    let result :=
      (deserializeWebStateList nav factory { webStateList := target } window).webStateList
    result.count = target.count + l.count ∧
    (∀ i : Nat, i < target.count → result.getWebStateAt i = target.getWebStateAt i ∧
      result.getOpenerOfWebStateAt i = target.getOpenerOfWebStateAt i) ∧
    (∀ i : Nat, i < l.count → result.getWebStateAt (target.count + i) =
      (serializeWebStateList l storageOf).sessions[i]?.map (factory.run i)) ∧
    (∀ i : Nat, i < l.count →
      ((l.getOpenerOfWebStateAt i).opener = none →
        (result.getOpenerOfWebStateAt (target.count + i)).opener = none) ∧
      ∀ j : Nat, j < l.count → ∀ n,
        (result.getOpenerOfWebStateAt (target.count + i) =
            ⟨result.getWebStateAt (target.count + j), n⟩ ↔
          l.getOpenerOfWebStateAt i = ⟨l.getWebStateAt j, n⟩)) ∧
    result.activeIndex =
      if l.empty then target.activeIndex else target.count + l.activeIndex := by
  have hinvl := reachable_inv hl
  have hinv := reachable_inv ht
  intro window result
  have hempty : l.webStates = [] ∨ l.activeIndex ≠ kInvalidIndex := by
    rcases hactive with he | ha
    · left
      rw [WebStateList.webStates, List.isEmpty_iff.1 he]
      rfl
    · exact .inr ha
  have hcount' : target.webStateWrappers.length + l.webStateWrappers.length ≤ intMax := hcount
  have hwindow : window = serializeWebStateList l storageOf :=
    initWithCoder_serialized hinvl (by unfold WebStateList.count; omega) hempty coder
  have hresult : result = if (serializeWebStateList l storageOf).selectedIndex ≠ nsNotFound then
      (restoredList target nav factory (serializeWebStateList l storageOf)).setActiveIndex
        (Int32.ofInt target.count +
          Int32.ofNat (serializeWebStateList l storageOf).selectedIndex).toInt
      else restoredList target nav factory (serializeWebStateList l storageOf) := by
    rw [← hwindow]
    exact deserializeWebStateList_webStateList nav factory window
  have htabs : result.webStates =
      restoredTabs target factory (serializeWebStateList l storageOf).sessions := by
    rw [hresult]
    split
    · rw [WebStateList.setActiveIndex_webStates, restoredList_webStates hinv]
    · exact restoredList_webStates hinv nav factory _
  have hopeners : ∀ p : Nat, result.getOpenerOfWebStateAt p =
      (restoredList target nav factory (serializeWebStateList l storageOf)).getOpenerOfWebStateAt
        p := by
    intro p
    rw [hresult]
    split
    · exact setActiveIndex_getOpener (restoredList_reset hinv nav factory _) _ p
    · rfl
  have hshift : ∀ i : Nat, target.count + (i : Int) =
      ((target.webStateWrappers.length + i : Nat) : Int) := fun i => by
    unfold WebStateList.count
    omega
  refine ⟨?_, ?_, ?_, ?_, ?_⟩
  · unfold WebStateList.count
    rw [← WebStateList.length_webStates, htabs, restoredTabs, List.length_append,
      List.length_mapIdx, length_sessions, WebStateList.length_webStates]
    omega
  · intro p hp
    have hp' : p < target.webStateWrappers.length := by
      unfold WebStateList.count at hp
      omega
    constructor
    · rw [WebStateList.getWebStateAt_natCast, WebStateList.getWebStateAt_natCast, htabs,
        restoredTabs, List.getElem?_append_left (by rwa [WebStateList.length_webStates])]
    · rw [hopeners, WebStateList.getOpenerOfWebStateAt_natCast,
        WebStateList.getOpenerOfWebStateAt_natCast,
        restoredList_getElem?_old hinv nav factory _ hp']
  · intro i _
    rw [hshift, WebStateList.getWebStateAt_natCast, htabs, restoredTabs_getElem?]
  · intro i hi
    have hi' : i < l.webStateWrappers.length := by
      unfold WebStateList.count at hi
      omega
    have hget : l.getOpenerOfWebStateAt i = l.webStateWrappers[i].opener := by
      rw [WebStateList.getOpenerOfWebStateAt_natCast, List.getElem?_eq_getElem hi']
      rfl
    rw [hget, hshift i, hopeners]
    constructor
    · intro hnull
      rw [restoredList_getOpener_new hinv nav (List.getElem?_eq_getElem hi'),
        storedOpener_null hf (List.getElem?_eq_getElem hi') hnull]
      rfl
    · intro j hj n
      have hj' : j < l.webStateWrappers.length := by
        unfold WebStateList.count at hj
        omega
      rw [hshift j, WebStateList.getWebStateAt_natCast, WebStateList.getWebStateAt_natCast, htabs]
      exact restoredList_opener_iff hinv hinvl nav hcount hf hi' hj' n
  · -- the selected index is the active one, and its shift does not wrap
    have hselected : (serializeWebStateList l storageOf).selectedIndex =
      if l.activeIndex ≠ kInvalidIndex then l.activeIndex.toNat else nsNotFound := rfl
    by_cases hinvalid : l.activeIndex = kInvalidIndex
    · have he : l.empty = true := hactive.resolve_right fun h => h hinvalid
      rw [if_neg (by simpa using hinvalid)] at hselected
      rw [if_pos he, hresult, if_neg (by rw [hselected]; simp), restoredList_activeIndex hinv]
    · obtain ⟨h0, hlt⟩ := hinvl.active.resolve_left hinvalid
      unfold WebStateList.count at hlt
      unfold intMax at hcount'
      rw [if_pos hinvalid] at hselected
      have he : ¬ l.empty = true := by
        intro he
        rw [List.isEmpty_iff.1 he] at hlt
        exact absurd hlt (by simpa using h0)
      have hne : (serializeWebStateList l storageOf).selectedIndex ≠ nsNotFound := by
        rw [hselected]
        unfold nsNotFound
        omega
      have hsum : (Int32.ofInt target.count + Int32.ofNat l.activeIndex.toNat).toInt =
          target.count + l.activeIndex := by
        have h₁ := int32_toInt_ofInt (n := target.count)
          (by unfold WebStateList.count; omega) (by unfold WebStateList.count intMax; omega)
        have h₂ : (Int32.ofNat l.activeIndex.toNat).toInt = l.activeIndex.toNat :=
          Int32.toInt_ofNat_of_lt (by omega)
        unfold WebStateList.count at h₁ ⊢
        rw [int32_toInt_add (by omega) (by omega) (by unfold intMax; omega), h₁, h₂]
        omega
      rw [if_neg he, hresult, if_pos hne, WebStateList.setActiveIndex_activeIndex, hselected, hsum]

end RoundTrip

section Example

/-- Tab 1, tab 2 opened by it at navigation index 3, tab 2 active. -/
private def savedList : WebStateList Nat :=
  (webStateListMachine Nat).exec {}
    [.insertWebState (fun _ => 0) 0 1 insertActivate .null,
      .insertWebState (fun _ => 0) 1 2 (insertForceIndex ||| insertActivate) ⟨some 1, 3⟩]

private def targetList : WebStateList Nat :=
  (webStateListMachine Nat).exec {} [.insertWebState (fun _ => 0) 0 9 insertActivate .null]

private def savedStorage (_ : Nat) : SessionStorage Unit := ⟨fun _ => none, ()⟩

/-- New tabs are numbered from 100, and know the session they come from. -/
private def numberingFactory : WebStateFactory Nat Unit where
  run n _ := 100 + n
  userData w := match (serializeWebStateList savedList savedStorage).sessions[w - 100]? with
    | none => fun _ => none
    | some session => session.userData

private theorem numberingFactory_restores : numberingFactory.Restores targetList
    (serializeWebStateList savedList savedStorage).sessions where
  userData n session hn := by
    show (match (serializeWebStateList savedList savedStorage).sessions[100 + n - 100]? with
      | none => _ | some session => _) = _
    rw [Nat.add_sub_cancel_left, hn]
  fresh n _ _ := by
    have htabs : targetList.webStates = [9] := by decide
    rw [htabs, List.mem_singleton]
    show 100 + n ≠ 9
    omega
  distinct n n' _ _ _ _ hne := by
    show 100 + n ≠ 100 + n'
    omega

/-- The round trip on two saved tabs, the second opened by the first, restored
after one tab. -/
theorem deserialize_serialize_two :
    let window := SessionWindow.initWithCoder
      ((serializeWebStateList savedList savedStorage).encodeWithCoder {})
    let result := (deserializeWebStateList (fun _ => 0) numberingFactory
      { webStateList := targetList } window).webStateList
    result.count = targetList.count + savedList.count ∧
    (∀ i : Nat, i < targetList.count → result.getWebStateAt i = targetList.getWebStateAt i ∧
      result.getOpenerOfWebStateAt i = targetList.getOpenerOfWebStateAt i) ∧
    (∀ i : Nat, i < savedList.count → result.getWebStateAt (targetList.count + i) =
      (serializeWebStateList savedList savedStorage).sessions[i]?.map (numberingFactory.run i)) ∧
    (∀ i : Nat, i < savedList.count →
      ((savedList.getOpenerOfWebStateAt i).opener = none →
        (result.getOpenerOfWebStateAt (targetList.count + i)).opener = none) ∧
      ∀ j : Nat, j < savedList.count → ∀ n,
        (result.getOpenerOfWebStateAt (targetList.count + i) =
            ⟨result.getWebStateAt (targetList.count + j), n⟩ ↔
          savedList.getOpenerOfWebStateAt i = ⟨savedList.getWebStateAt j, n⟩)) ∧
    result.activeIndex =
      if savedList.empty then targetList.activeIndex
      else targetList.count + savedList.activeIndex :=
  deserialize_serialize ⟨{}, _, rfl, by decide, rfl⟩ ⟨{}, _, rfl, by decide, rfl⟩
    (.inr (by decide)) (by decide) savedStorage {} (fun _ => 0) numberingFactory
    numberingFactory_restores

end Example

end IosChrome.Tabs

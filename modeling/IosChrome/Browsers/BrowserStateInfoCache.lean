import IosChrome.Lib.Dictionary
import IosChrome.Lib.Machine
import Mathlib.Data.Char
import Mathlib.Data.List.Lex
import Mathlib.Data.List.Sort
import Mathlib.Data.List.TakeWhile

/-!
# `BrowserStateInfoCache`

The infos of the browser states are a dictionary in a preference. So that a browser state has an
index, the cache keeps their keys in a sorted vector as well, and writes both at every change.
`Agrees` says that the two tables have the same keys, and hence that every index has an info and
that a cache made from the same preference is the same.

They drift apart in two ways: the vector takes a key once more when its browser state is added
again, and `DictionaryValue::Remove` takes a dot in a key for a path, so that the vector loses
the key and the dictionary does not. Along a run with neither they agree in every state, and
along no other run (`keysAgree_iff`).

Observers are left out. An info holds strings and booleans only.
-/

namespace IosChrome.Browsers

open Lib

abbrev CacheKey := List Char

structure FilePath where
  dirName : List Char
  baseName : List Char
  deriving DecidableEq

inductive InfoValue where
  | string (s : String)
  | boolean (b : Bool)

abbrev Info := Dictionary CacheKey InfoValue

def kGAIAIdKey : CacheKey := "gaia_id".toList

def kIsAuthErrorKey : CacheKey := "is_auth_error".toList

def kUserNameKey : CacheKey := "user_name".toList

namespace Info

/-- The empty string is left in the result when there is no string. -/
def getString (info : Info) (key : CacheKey) : String :=
  match Dictionary.objectForKey info key with
  | some (.string s) => s
  | _ => ""

def getBoolean (info : Info) (key : CacheKey) : Bool :=
  match Dictionary.objectForKey info key with
  | some (.boolean b) => b
  | _ => false

end Info

/-- `DictionaryValue::Remove`, which looks for the last part of the path in the dictionary that the
parts before it lead to. An info has no dictionary in it, so no longer path leads anywhere. -/
def removePath (cache : Dictionary CacheKey Info) (path : CacheKey) : Dictionary CacheKey Info :=
  match path.dropWhile (· ≠ '.') with
  | [] => cache.removeObjectForKey path
  | _ :: key =>
    if '.' ∈ key then cache
    else
      match cache.objectForKey (path.takeWhile (· ≠ '.')) with
      | none => cache
      | some info =>
        cache.setObject (path.takeWhile (· ≠ '.')) (Dictionary.removeObjectForKey info key)

structure BrowserStateInfoCache where
  prefs : Dictionary CacheKey Info
  userDataDir : List Char
  sortedKeys : List CacheKey

namespace BrowserStateInfoCache

/-- An insertion at `std::upper_bound`. -/
def addBrowserStateCacheKey (sortedKeys : List CacheKey) (key : CacheKey) : List CacheKey :=
  sortedKeys.orderedInsert (· < ·) key

/-- The constructor. -/
def new (prefs : Dictionary CacheKey Info) (userDataDir : List Char) : BrowserStateInfoCache where
  prefs := prefs
  userDataDir := userDataDir
  sortedKeys := (prefs.map Prod.fst).foldl addBrowserStateCacheKey []

/-- `MaybeAsASCII` is empty for a name that is not ASCII. -/
def cacheKeyFromBrowserStatePath (browserStatePath : FilePath) : CacheKey :=
  if browserStatePath.baseName.all (·.toNat < 128) then browserStatePath.baseName else []

variable (cache : BrowserStateInfoCache)

def addBrowserState (browserStatePath : FilePath) (gaiaId userName : String) :
    BrowserStateInfoCache :=
  let key := cacheKeyFromBrowserStatePath browserStatePath
  let info : Info := (Dictionary.setObject [] kGAIAIdKey (.string gaiaId)).setObject kUserNameKey
    (.string userName)
  { cache with
    prefs := cache.prefs.setObject key info
    sortedKeys := addBrowserStateCacheKey cache.sortedKeys key }

def getIndexOfBrowserStateWithPath (browserStatePath : FilePath) : Option Nat :=
  if browserStatePath.dirName ≠ cache.userDataDir then none
  else cache.sortedKeys.findIdx? (· = cacheKeyFromBrowserStatePath browserStatePath)

def removeBrowserState (browserStatePath : FilePath) : BrowserStateInfoCache :=
  match cache.getIndexOfBrowserStateWithPath browserStatePath with
  | none => cache
  | some _ =>
    let key := cacheKeyFromBrowserStatePath browserStatePath
    { cache with
      prefs := removePath cache.prefs key
      sortedKeys := cache.sortedKeys.erase key }

def getInfoForBrowserStateAtIndex (index : Nat) : Option Info :=
  cache.sortedKeys[index]?.bind cache.prefs.objectForKey

def setInfoForBrowserStateAtIndex (index : Nat) (info : Info) : BrowserStateInfoCache :=
  match cache.sortedKeys[index]? with
  | none => cache
  | some key => { cache with prefs := cache.prefs.setObject key info }

def setAuthInfoOfBrowserStateAtIndex (index : Nat) (gaiaId userName : String) :
    BrowserStateInfoCache :=
  match cache.getInfoForBrowserStateAtIndex index with
  -- The source dereferences a null info here.
  | none => cache
  | some info =>
    if gaiaId = info.getString kGAIAIdKey ∧ userName = info.getString kUserNameKey then cache
    else
      cache.setInfoForBrowserStateAtIndex index
        ((Dictionary.setObject info kGAIAIdKey (.string gaiaId)).setObject kUserNameKey
          (.string userName))

def setBrowserStateIsAuthErrorAtIndex (index : Nat) (value : Bool) : BrowserStateInfoCache :=
  match cache.getInfoForBrowserStateAtIndex index with
  | none => cache
  | some info =>
    if value = info.getBoolean kIsAuthErrorKey then cache
    else
      cache.setInfoForBrowserStateAtIndex index
        (Dictionary.setObject info kIsAuthErrorKey (.boolean value))

inductive InfoCacheCall where
  | addBrowserState (browserStatePath : FilePath) (gaiaId userName : String)
  | removeBrowserState (browserStatePath : FilePath)
  | setAuthInfoOfBrowserStateAtIndex (index : Nat) (gaiaId userName : String)
  | setBrowserStateIsAuthErrorAtIndex (index : Nat) (value : Bool)
  | recreate

def step : InfoCacheCall → BrowserStateInfoCache
  | .addBrowserState path gaiaId userName => cache.addBrowserState path gaiaId userName
  | .removeBrowserState path => cache.removeBrowserState path
  | .setAuthInfoOfBrowserStateAtIndex index gaiaId userName =>
    cache.setAuthInfoOfBrowserStateAtIndex index gaiaId userName
  | .setBrowserStateIsAuthErrorAtIndex index value =>
    cache.setBrowserStateIsAuthErrorAtIndex index value
  | .recreate => new cache.prefs cache.userDataDir

/-- A browser state is added in the user's directory, and an index is one of the cache's. -/
def Pre : InfoCacheCall → Prop
  | .addBrowserState path _ _ => path.dirName = cache.userDataDir
  | .setAuthInfoOfBrowserStateAtIndex index _ _ => index < cache.sortedKeys.length
  | .setBrowserStateIsAuthErrorAtIndex index _ => index < cache.sortedKeys.length
  | _ => True

def infoCacheMachine : Machine BrowserStateInfoCache InfoCacheCall where
  init cache := ∃ prefs userDataDir, Keyed.Unique Prod.fst prefs ∧ cache = new prefs userDataDir
  pre cache call := cache.Pre call
  step cache call := cache.step call

/-- **The preference and the sorted keys agree.** -/
structure Agrees : Prop where
  sorted : cache.sortedKeys.Pairwise (· < ·)
  keys : ∀ key, key ∈ cache.sortedKeys ↔ key ∈ cache.prefs.map Prod.fst
  infos : ∀ index < cache.sortedKeys.length,
    (cache.getInfoForBrowserStateAtIndex index).isSome = true
  recreated : new cache.prefs cache.userDataDir = cache

/-- The condition: no browser state is added under a key that is there, and none whose key has a
dot is removed. -/
def KeepsKeys : InfoCacheCall → Prop
  | .addBrowserState path _ _ => cacheKeyFromBrowserStatePath path ∉ cache.sortedKeys
  | .removeBrowserState path => path.dirName = cache.userDataDir →
    cacheKeyFromBrowserStatePath path ∈ cache.sortedKeys → '.' ∉ cacheKeyFromBrowserStatePath path
  | _ => True

/-! ## The sorted vector -/

theorem pairwise_addBrowserStateCacheKey {key : CacheKey} {keys : List CacheKey}
    (h : keys.Pairwise (· < ·)) (hnew : key ∉ keys) :
    (addBrowserStateCacheKey keys key).Pairwise (· < ·) := by
  unfold addBrowserStateCacheKey
  induction keys with
  | nil => simp
  | cons first rest ih =>
    obtain ⟨hfirst, hrest⟩ := List.pairwise_cons.1 h
    rw [List.mem_cons, not_or] at hnew
    rw [List.orderedInsert_cons]
    split
    · rename_i hlt
      refine List.pairwise_cons.2 ⟨fun k hk => ?_, h⟩
      rcases List.mem_cons.1 hk with rfl | hk
      · exact hlt
      · exact lt_trans hlt (hfirst k hk)
    · rename_i hlt
      have hgt : first < key := lt_of_le_of_ne (not_lt.1 hlt) (Ne.symm hnew.1)
      refine List.pairwise_cons.2 ⟨fun k hk => ?_, ih hrest hnew.2⟩
      rcases (List.mem_orderedInsert _).1 hk with rfl | hk
      · exact hgt
      · exact hfirst k hk

theorem mem_addBrowserStateCacheKey {key k : CacheKey} {keys : List CacheKey} :
    k ∈ addBrowserStateCacheKey keys key ↔ k = key ∨ k ∈ keys := List.mem_orderedInsert _

/-- What the constructor sorts: induction on the keys still to come. -/
theorem foldl_addBrowserStateCacheKey {entries : List CacheKey} : ∀ {keys : List CacheKey},
    entries.Nodup → keys.Pairwise (· < ·) → (∀ key ∈ entries, key ∉ keys) →
      (entries.foldl addBrowserStateCacheKey keys).Pairwise (· < ·) ∧
      ∀ k, k ∈ entries.foldl addBrowserStateCacheKey keys ↔ k ∈ entries ∨ k ∈ keys := by
  induction entries with
  | nil =>
    intro keys _ hsorted _
    exact ⟨hsorted, by simp⟩
  | cons key entries ih =>
    intro keys hnodup hsorted hnew
    obtain ⟨hkey, hentries⟩ := List.nodup_cons.1 hnodup
    have hsorted' := pairwise_addBrowserStateCacheKey hsorted (hnew key List.mem_cons_self)
    obtain ⟨h, hmem⟩ := ih hentries hsorted' fun k hk hk' => by
      rcases mem_addBrowserStateCacheKey.1 hk' with rfl | hk'
      · exact hkey hk
      · exact hnew k (List.mem_cons_of_mem key hk) hk'
    refine ⟨h, fun k => ?_⟩
    rw [List.foldl_cons, hmem, mem_addBrowserStateCacheKey, List.mem_cons]
    tauto

/-! ## The dictionary -/

theorem mem_keys {α : Type} {d : Dictionary CacheKey α} {key : CacheKey} :
    key ∈ d.map Prod.fst ↔ (d.objectForKey key).isSome = true := by
  unfold Dictionary.objectForKey
  rw [Option.isSome_map, Option.isSome_iff_ne_none, Ne, Keyed.lookup_eq_none]
  simp

theorem mem_keys_setObject {α : Type} {d : Dictionary CacheKey α} {key k : CacheKey} {a : α} :
    k ∈ (d.setObject key a).map Prod.fst ↔ k = key ∨ k ∈ d.map Prod.fst := by
  rw [mem_keys, mem_keys]
  by_cases h : k = key
  · simp [h]
  · simp [h, Dictionary.objectForKey_setObject_of_ne d a h]

theorem mem_keys_removePath {prefs : Dictionary CacheKey Info} {path k : CacheKey} :
    k ∈ (removePath prefs path).map Prod.fst ↔
      k ∈ prefs.map Prod.fst ∧ ('.' ∉ path → k ≠ path) := by
  have hdot : path.dropWhile (· ≠ '.') = [] ↔ '.' ∉ path := by
    rw [List.dropWhile_eq_nil_iff]
    constructor
    · intro h hmem
      simpa using h '.' hmem
    · intro h c hc
      simpa using fun heq : c = '.' => h (heq ▸ hc)
  unfold removePath
  split
  · rename_i hnil
    have hno := hdot.1 hnil
    rw [mem_keys, mem_keys]
    by_cases h : k = path
    · simp [h, hno]
    · simp [h, Dictionary.objectForKey_removeObjectForKey_of_ne prefs h]
  · rename_i key hcons
    -- The dictionary keeps its keys: a path leads into one of its infos at most.
    have hin : '.' ∈ path := by
      by_contra hno
      rw [hdot.2 hno] at hcons
      cases hcons
    split
    · simp [hin]
    · split
      · simp [hin]
      · rename_i info hinfo
        rw [mem_keys_setObject]
        have hfirst : path.takeWhile (· ≠ '.') ∈ prefs.map Prod.fst := by
          rw [mem_keys, hinfo]
          rfl
        constructor
        · rintro (rfl | h)
          · exact ⟨hfirst, fun hno => absurd hin hno⟩
          · exact ⟨h, fun hno => absurd hin hno⟩
        · exact fun h => Or.inr h.1

theorem unique_removePath {prefs : Dictionary CacheKey Info} (h : Keyed.Unique Prod.fst prefs)
    (path : CacheKey) : Keyed.Unique Prod.fst (removePath prefs path) := by
  unfold removePath
  split
  · exact h.remove path
  · split
    · exact h
    · split
      · exact h
      · exact h.put _

/-! ## Every state of a run -/

variable {cache}

/-- The invariant: both tables are well formed and have the same keys. -/
structure SameKeys (cache : BrowserStateInfoCache) : Prop where
  unique : Keyed.Unique Prod.fst cache.prefs
  sorted : cache.sortedKeys.Pairwise (· < ·)
  keys : ∀ key, key ∈ cache.sortedKeys ↔ key ∈ cache.prefs.map Prod.fst

theorem SameKeys.new {prefs : Dictionary CacheKey Info} (h : Keyed.Unique Prod.fst prefs)
    (userDataDir : List Char) : SameKeys (new prefs userDataDir) := by
  obtain ⟨hsorted, hmem⟩ := @foldl_addBrowserStateCacheKey (prefs.map Prod.fst) [] h
    List.Pairwise.nil (by simp)
  exact ⟨h, hsorted, fun key => (hmem key).trans (by simp [BrowserStateInfoCache.new])⟩

theorem SameKeys.agrees (h : SameKeys cache) : cache.Agrees where
  sorted := h.sorted
  keys := h.keys
  infos index hindex := by
    have hmem : cache.sortedKeys[index] ∈ cache.sortedKeys := List.getElem_mem hindex
    rw [getInfoForBrowserStateAtIndex, List.getElem?_eq_getElem hindex]
    exact mem_keys.1 ((h.keys _).1 hmem)
  recreated := by
    have hnew := SameKeys.new h.unique cache.userDataDir
    have hkeys : (BrowserStateInfoCache.new cache.prefs cache.userDataDir).sortedKeys =
        cache.sortedKeys :=
      hnew.sorted.eq_of_mem_iff h.sorted fun key => (hnew.keys key).trans (h.keys key).symm
    exact congrArg (fun keys => { cache with sortedKeys := keys }) hkeys

theorem SameKeys.addBrowserState (h : SameKeys cache) {path : FilePath}
    (hnew : cacheKeyFromBrowserStatePath path ∉ cache.sortedKeys) (gaiaId userName : String) :
    SameKeys (cache.addBrowserState path gaiaId userName) where
  unique := h.unique.put _
  sorted := pairwise_addBrowserStateCacheKey h.sorted hnew
  keys key := by
    refine mem_addBrowserStateCacheKey.trans ?_
    rw [h.keys key]
    exact mem_keys_setObject.symm

theorem getIndex_eq_none_iff {path : FilePath} :
    cache.getIndexOfBrowserStateWithPath path = none ↔
      ¬ (path.dirName = cache.userDataDir ∧ cacheKeyFromBrowserStatePath path ∈ cache.sortedKeys)
    := by
  unfold getIndexOfBrowserStateWithPath
  split
  · simp [*]
  · rename_i hdir
    rw [not_not] at hdir
    simp only [hdir, true_and, List.findIdx?_eq_none_iff, decide_eq_false_iff_not]
    exact ⟨fun h hmem => h _ hmem rfl, fun h key hkey heq => h (heq ▸ hkey)⟩

theorem SameKeys.removeBrowserState (h : SameKeys cache) {path : FilePath}
    (hkeeps : cache.KeepsKeys (.removeBrowserState path)) :
    SameKeys (cache.removeBrowserState path) := by
  unfold BrowserStateInfoCache.removeBrowserState
  split
  · exact h
  · rename_i index hindex
    have hfound : path.dirName = cache.userDataDir ∧
        cacheKeyFromBrowserStatePath path ∈ cache.sortedKeys := by
      by_contra hno
      rw [getIndex_eq_none_iff.2 hno] at hindex
      cases hindex
    have hdot := hkeeps hfound.1 hfound.2
    refine ⟨unique_removePath h.unique _, h.sorted.sublist List.erase_sublist, fun key => ?_⟩
    have hnodup : cache.sortedKeys.Nodup := h.sorted.imp fun hlt => ne_of_lt hlt
    rw [hnodup.mem_erase_iff, mem_keys_removePath, h.keys key]
    tauto

theorem SameKeys.setInfo (h : SameKeys cache) (index : Nat) (info : Info) :
    SameKeys (cache.setInfoForBrowserStateAtIndex index info) := by
  unfold setInfoForBrowserStateAtIndex
  split
  · exact h
  · rename_i key hkey
    refine ⟨h.unique.put _, h.sorted, fun k => ?_⟩
    have hmem : key ∈ cache.prefs.map Prod.fst := (h.keys key).1 (List.mem_of_getElem? hkey)
    rw [h.keys k, mem_keys_setObject]
    constructor
    · exact Or.inr
    · rintro (rfl | hk)
      · exact hmem
      · exact hk

theorem SameKeys.step {call : InfoCacheCall} (h : SameKeys cache)
    (hkeeps : cache.KeepsKeys call) : SameKeys (cache.step call) := by
  cases call with
  | addBrowserState path gaiaId userName => exact h.addBrowserState hkeeps gaiaId userName
  | removeBrowserState path => exact h.removeBrowserState hkeeps
  | setAuthInfoOfBrowserStateAtIndex index gaiaId userName =>
    simp only [BrowserStateInfoCache.step, setAuthInfoOfBrowserStateAtIndex]
    split
    · exact h
    · split
      · exact h
      · exact h.setInfo index _
  | setBrowserStateIsAuthErrorAtIndex index value =>
    simp only [BrowserStateInfoCache.step, setBrowserStateIsAuthErrorAtIndex]
    split
    · exact h
    · split
      · exact h
      · exact h.setInfo index _
  | recreate => exact SameKeys.new h.unique cache.userDataDir

/-- The condition is exact: a step without it leaves the tables apart. -/
theorem SameKeys.keepsKeys_of_agrees {call : InfoCacheCall} (h : SameKeys cache)
    (hagrees : (cache.step call).Agrees) : cache.KeepsKeys call := by
  cases call with
  | addBrowserState path gaiaId userName =>
    intro hmem
    have hnodup := hagrees.sorted.imp fun hlt => ne_of_lt hlt
    have hperm := (List.perm_orderedInsert (· < ·) (cacheKeyFromBrowserStatePath path)
      cache.sortedKeys).nodup_iff.1 hnodup
    exact (List.nodup_cons.1 hperm).1 hmem
  | removeBrowserState path =>
    intro hdir hmem hdot
    have hstep : cache.step (.removeBrowserState path) =
        { cache with
          prefs := removePath cache.prefs (cacheKeyFromBrowserStatePath path)
          sortedKeys := cache.sortedKeys.erase (cacheKeyFromBrowserStatePath path) } := by
      simp only [BrowserStateInfoCache.step, BrowserStateInfoCache.removeBrowserState]
      split
      · rename_i hnone
        exact absurd ⟨hdir, hmem⟩ (getIndex_eq_none_iff.1 hnone)
      · rfl
    rw [hstep] at hagrees
    -- The key is still in the dictionary, and no longer in the vector.
    have hstill := (hagrees.keys (cacheKeyFromBrowserStatePath path)).2
      (mem_keys_removePath.2 ⟨(h.keys _).1 hmem, fun hno => absurd hdot hno⟩)
    have hnodup : cache.sortedKeys.Nodup := h.sorted.imp fun hlt => ne_of_lt hlt
    exact (hnodup.mem_erase_iff.1 hstill).1 rfl
  | setAuthInfoOfBrowserStateAtIndex index gaiaId userName => trivial
  | setBrowserStateIsAuthErrorAtIndex index value => trivial
  | recreate => trivial

/-- **The preference and the sorted keys agree in every state of a run if and only if every step
of it keeps the keys.** -/
theorem keysAgree_iff {cache : BrowserStateInfoCache} {calls : List InfoCacheCall}
    (hinit : infoCacheMachine.init cache) (hrun : infoCacheMachine.Run cache calls) :
    infoCacheMachine.Always (fun s call => (infoCacheMachine.step s call).Agrees) cache calls ↔
      infoCacheMachine.Always KeepsKeys cache calls := by
  obtain ⟨prefs, userDataDir, hunique, rfl⟩ := hinit
  refine (Machine.always_iff_of_invariant (I := SameKeys) (fun s call h _ => ?_)
    (fun s call h _ hkeeps => h.step hkeeps) (SameKeys.new hunique userDataDir) hrun).symm
  exact ⟨fun hkeeps => (h.step hkeeps).agrees, h.keepsKeys_of_agrees⟩

/-- Two browser states are added, one is changed and removed, and the cache is made anew. -/
private def added : List InfoCacheCall :=
  [.addBrowserState ⟨[], ['b']⟩ "1" "user", .addBrowserState ⟨[], ['a', '.', 'b']⟩ "2" "",
    .setAuthInfoOfBrowserStateAtIndex 1 "3" "other", .removeBrowserState ⟨[], ['b']⟩,
    .setBrowserStateIsAuthErrorAtIndex 0 true, .recreate]

theorem keysAgree_iff_added :
    infoCacheMachine.Always (fun s call => (infoCacheMachine.step s call).Agrees) (new [] []) added ↔
      infoCacheMachine.Always KeepsKeys (new [] []) added :=
  keysAgree_iff ⟨[], [], List.nodup_nil, rfl⟩
    ⟨rfl, rfl, (by decide : 1 < 2), trivial, (by decide : 0 < 1), trivial, trivial⟩

/-- **A browser state added twice, and one removed whose name has a dot**: the vector has the key
twice, and the dictionary keeps it. -/
theorem addedTwice_dotRemoved :
    (∃ calls, infoCacheMachine.Run (new [] []) calls ∧
      calls = [.addBrowserState ⟨[], ['a']⟩ "1" "user", .addBrowserState ⟨[], ['a']⟩ "1" "user"] ∧
      (infoCacheMachine.exec (new [] []) calls).sortedKeys = [['a'], ['a']] ∧
      ¬ (infoCacheMachine.exec (new [] []) calls).Agrees) ∧
    ∃ calls, infoCacheMachine.Run (new [] []) calls ∧
      calls = [.addBrowserState ⟨[], ['a', '.', 'b']⟩ "1" "user",
        .removeBrowserState ⟨[], ['a', '.', 'b']⟩] ∧
      (infoCacheMachine.exec (new [] []) calls).sortedKeys = [] ∧
      (infoCacheMachine.exec (new [] []) calls).prefs.map Prod.fst = [['a', '.', 'b']] ∧
      ¬ (infoCacheMachine.exec (new [] []) calls).Agrees := by
  refine ⟨?_, ?_⟩
  · refine ⟨_, ?_, rfl, by decide, fun h => ?_⟩
    · exact ⟨rfl, rfl, trivial⟩
    · exact absurd h.sorted (by decide)
  · refine ⟨_, ?_, rfl, by decide, by decide, fun h => ?_⟩
    · exact ⟨rfl, trivial, trivial⟩
    · exact absurd (h.keys ['a', '.', 'b']) (by decide)

end BrowserStateInfoCache

end IosChrome.Browsers

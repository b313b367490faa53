import IosChrome.JsMessaging.ValueResult

/-!
# Which results keep their structure

A page chooses the keys of the objects it returns, and a key with a dot is taken for a path: the
dictionary that is built has other keys than the object. `valueResult_eq_iff` says that this is
all that happens to a result. Down to the maximal depth nothing else is changed or left out,
whatever the nesting and the order in which dictionaries are iterated.

The induction is on the result (`WKResult.induct`). For a dictionary it needs what the loop over
its entries does: `setEntries_plain` when no key has a dot, `setEntries_dotted` for the keys that
have one.
-/

namespace IosChrome.JsMessaging

variable {D : Type} {set : DictionaryValue D → String → BaseValue D → DictionaryValue D}

/-! ## What is too deep -/

theorem valueResult_of_neg (result : WKResult D) {depth : Int} (h : depth < 0) :
    valueResult set result depth = none := by
  cases result <;> simp [valueResult, h]

theorem structureTo_of_neg (result : WKResult D) {depth : Int} (h : depth < 0) :
    result.structureTo depth = none := by
  cases result <;> simp [WKResult.structureTo, h]

theorem exists_valueResult (result : WKResult D) {depth : Int} (h : 0 ≤ depth) :
    ∃ value, valueResult set result depth = some value := by
  have hnot : ¬ depth < 0 := by omega
  cases result <;> simp [valueResult, hnot]

theorem exists_structureTo (result : WKResult D) {depth : Int} (h : 0 ≤ depth) :
    ∃ value, result.structureTo depth = some value := by
  have hnot : ¬ depth < 0 := by omega
  cases result <;> simp [WKResult.structureTo, hnot]

theorem setEntries_of_neg {depth : Int} (h : depth < 0) (entries : List (String × WKResult D)) :
    ∀ dictionary, setEntries set entries depth dictionary = dictionary := by
  induction entries with
  | nil => simp [setEntries]
  | cons entry entries ih =>
    intro dictionary
    obtain ⟨path, item⟩ := entry
    simp only [setEntries, valueResult_of_neg item h]
    exact ih dictionary

theorem entryTo_of_neg {depth : Int} (h : depth < 0) (entries : List (String × WKResult D)) :
    entryTo entries depth = .empty := by
  induction entries with
  | nil => simp [entryTo]
  | cons entry entries ih =>
    obtain ⟨key, item⟩ := entry
    funext other
    simp only [entryTo, structureTo_of_neg item h, ih]
    split <;> rfl

theorem appendItems_of_neg {depth : Int} (h : depth < 0) (items : List (WKResult D)) :
    appendItems set items depth = [] := by
  induction items with
  | nil => simp [appendItems]
  | cons item items ih => simpa [appendItems, valueResult_of_neg item h] using ih

theorem itemsTo_of_neg {depth : Int} (h : depth < 0) (items : List (WKResult D)) :
    itemsTo items depth = [] := by
  induction items with
  | nil => simp [itemsTo]
  | cons item items ih => simpa [itemsTo, structureTo_of_neg item h] using ih

/-! ## Dictionaries -/

/-- A key with a dot is never written. -/
theorem setEntries_dotted (hset : ExpandsDots set) {key : String} (hkey : '.' ∈ key.toList)
    {depth : Int} (entries : List (String × WKResult D)) :
    ∀ dictionary : DictionaryValue D,
      setEntries set entries depth dictionary key = dictionary key := by
  induction entries with
  | nil => simp [setEntries]
  | cons entry entries ih =>
    intro dictionary
    obtain ⟨path, item⟩ := entry
    simp only [setEntries]
    cases valueResult set item depth with
    | none => exact ih dictionary
    | some value =>
      simp only [ih]
      by_cases hpath : '.' ∈ path.toList
      · exact hset.dotted dictionary path value hpath key hkey
      · have hne : key ≠ path := fun he => hpath (he ▸ hkey)
        rw [hset.plain dictionary path value hpath]
        simp [DictionaryValue.setKey, hne]

/-- Plain keys get the values of their entries, the others keep theirs. -/
theorem setEntries_plain (hset : ExpandsDots set) {depth : Int} (hdepth : 0 ≤ depth)
    (entries : List (String × WKResult D)) :
    ∀ dictionary : DictionaryValue D, (entries.map Prod.fst).Nodup →
      (∀ entry ∈ entries, '.' ∉ entry.1.toList) →
      (∀ entry ∈ entries, setEntries set entries depth dictionary entry.1 =
          valueResult set entry.2 depth) ∧
        ∀ key ∉ entries.map Prod.fst,
          setEntries set entries depth dictionary key = dictionary key := by
  induction entries with
  | nil => simp [setEntries]
  | cons entry entries ih =>
    intro dictionary hnodup hplain
    obtain ⟨path, item⟩ := entry
    obtain ⟨hnot, hnodup⟩ := List.nodup_cons.1 hnodup
    obtain ⟨value, hvalue⟩ := @exists_valueResult _ set item depth hdepth
    obtain ⟨hentries, hothers⟩ := ih (set dictionary path value) hnodup
      fun entry hmem => hplain entry (List.mem_cons_of_mem _ hmem)
    have hpath := hset.plain dictionary path value (hplain (path, item) List.mem_cons_self)
    simp only [setEntries, hvalue]
    constructor
    · rintro entry hmem
      rcases List.mem_cons.1 hmem with rfl | hmem
      · rw [hothers path hnot, hpath, hvalue]
        simp [DictionaryValue.setKey]
      · exact hentries entry hmem
    · intro key hkey
      rw [List.map_cons, List.mem_cons, not_or] at hkey
      rw [hothers key hkey.2, hpath]
      simp [DictionaryValue.setKey, hkey.1]

theorem entryTo_of_mem {depth : Int} {entries : List (String × WKResult D)} :
    (entries.map Prod.fst).Nodup →
      ∀ entry ∈ entries, entryTo entries depth entry.1 = entry.2.structureTo depth := by
  induction entries with
  | nil => simp
  | cons first entries ih =>
    obtain ⟨key, item⟩ := first
    intro hnodup entry hmem
    obtain ⟨hnot, hnodup⟩ := List.nodup_cons.1 hnodup
    rcases List.mem_cons.1 hmem with rfl | hmem
    · simp [entryTo]
    · have hmemKey : entry.1 ∈ entries.map Prod.fst := List.mem_map_of_mem hmem
      have hne : entry.1 ≠ key := fun he => hnot (he ▸ hmemKey)
      simp only [entryTo, hne, if_false]
      exact ih hnodup entry hmem

theorem entryTo_of_notMem {depth : Int} {entries : List (String × WKResult D)} {key : String}
    (h : key ∉ entries.map Prod.fst) : entryTo entries depth key = none := by
  induction entries with
  | nil => simp [entryTo, DictionaryValue.empty]
  | cons first entries ih =>
    obtain ⟨other, item⟩ := first
    rw [List.map_cons, List.mem_cons, not_or] at h
    simp only [entryTo, h.1, if_false]
    exact ih h.2

theorem entriesPlain_iff {depth : Int} {entries : List (String × WKResult D)} :
    EntriesPlain entries depth ↔
      ∀ entry ∈ entries, (0 ≤ depth → '.' ∉ entry.1.toList) ∧ entry.2.KeysPlain depth := by
  induction entries with
  | nil => simp [EntriesPlain]
  | cons entry entries ih =>
    obtain ⟨key, item⟩ := entry
    rw [EntriesPlain, ih, List.forall_mem_cons, and_assoc]

/-- The step for dictionaries, from what is known of the items. -/
theorem setEntries_eq_iff (hset : ExpandsDots set) {entries : List (String × WKResult D)}
    (hnodup : (entries.map Prod.fst).Nodup) {depth : Int} (hdepth : 0 ≤ depth)
    (hitems : ∀ entry ∈ entries, (valueResult set entry.2 depth = entry.2.structureTo depth ↔
      entry.2.KeysPlain depth)) :
    setEntries set entries depth .empty = entryTo entries depth ↔ EntriesPlain entries depth := by
  rw [entriesPlain_iff]
  constructor
  · intro h
    have hplain : ∀ entry ∈ entries, '.' ∉ entry.1.toList := by
      -- such a key is missing, although its value is not too deep
      intro entry hmem hdot
      obtain ⟨value, hvalue⟩ := exists_structureTo entry.2 hdepth
      have hfound := congrFun h entry.1
      rw [setEntries_dotted hset hdot, entryTo_of_mem hnodup entry hmem, hvalue] at hfound
      cases hfound
    intro entry hmem
    have hfound := congrFun h entry.1
    rw [(setEntries_plain hset hdepth entries _ hnodup hplain).1 entry hmem,
      entryTo_of_mem hnodup entry hmem] at hfound
    exact ⟨fun _ => hplain entry hmem, (hitems entry hmem).1 hfound⟩
  · intro h
    obtain ⟨hentries, hothers⟩ := setEntries_plain hset hdepth entries .empty hnodup
      fun entry hmem => (h entry hmem).1 hdepth
    funext key
    by_cases hkey : key ∈ entries.map Prod.fst
    · obtain ⟨entry, hmem, rfl⟩ := List.mem_map.1 hkey
      rw [hentries entry hmem, entryTo_of_mem hnodup entry hmem]
      exact (hitems entry hmem).2 (h entry hmem).2
    · rw [hothers key hkey, entryTo_of_notMem hkey]
      rfl

/-! ## Arrays -/

theorem itemsPlain_iff {depth : Int} {items : List (WKResult D)} :
    ItemsPlain items depth ↔ ∀ item ∈ items, item.KeysPlain depth := by
  induction items with
  | nil => simp [ItemsPlain]
  | cons item items ih => rw [ItemsPlain, ih, List.forall_mem_cons]

theorem appendItems_eq_iff {items : List (WKResult D)} {depth : Int} (hdepth : 0 ≤ depth)
    (hitems : ∀ item ∈ items, (valueResult set item depth = item.structureTo depth ↔
      item.KeysPlain depth)) :
    appendItems set items depth = itemsTo items depth ↔ ItemsPlain items depth := by
  induction items with
  | nil => simp [appendItems, itemsTo, ItemsPlain]
  | cons item items ih =>
    rw [List.forall_mem_cons] at hitems
    obtain ⟨value, hvalue⟩ := @exists_valueResult _ set item depth hdepth
    obtain ⟨value', hvalue'⟩ := exists_structureTo item hdepth
    rw [ItemsPlain, ← hitems.1, ← ih hitems.2]
    simp [appendItems, itemsTo, hvalue, hvalue']

/-! ## Results -/

/-- Induction on a result: a property of leaves that dictionaries and arrays have when their
values and items do. -/
theorem WKResult.induct {P : WKResult D → Prop} (string : ∀ value, P (.string value))
    (number : ∀ value, P (.number value)) (boolean : ∀ value, P (.boolean value))
    (null : P .null)
    (dictionary : ∀ entries, (∀ entry ∈ entries, P entry.2) → P (.dictionary entries))
    (array : ∀ items, (∀ item ∈ items, P item) → P (.array items)) (result : WKResult D) :
    P result :=
  @WKResult.rec D P (fun entries => ∀ entry ∈ entries, P entry.2)
    (fun items => ∀ item ∈ items, P item) (fun entry => P entry.2)
    string number boolean null dictionary array
    (fun _ hmem => absurd hmem List.not_mem_nil)
    (fun _ _ hentry hentries => List.forall_mem_cons.2 ⟨hentry, hentries⟩)
    (fun _ hmem => absurd hmem List.not_mem_nil)
    (fun _ _ hitem hitems => List.forall_mem_cons.2 ⟨hitem, hitems⟩)
    (fun _ _ hvalue => hvalue) result

theorem entriesDistinct_iff {entries : List (String × WKResult D)} :
    EntriesDistinct entries ↔ ∀ entry ∈ entries, entry.2.KeysDistinct := by
  induction entries with
  | nil => simp [EntriesDistinct]
  | cons entry entries ih =>
    obtain ⟨key, item⟩ := entry
    rw [EntriesDistinct, ih, List.forall_mem_cons]

theorem itemsDistinct_iff {items : List (WKResult D)} :
    ItemsDistinct items ↔ ∀ item ∈ items, item.KeysDistinct := by
  induction items with
  | nil => simp [ItemsDistinct]
  | cons item items ih => rw [ItemsDistinct, ih, List.forall_mem_cons]

theorem valueResult_eq_iff (hset : ExpandsDots set) (result : WKResult D) :
    result.KeysDistinct → ∀ depth : Int,
      (valueResult set result depth = result.structureTo depth ↔ result.KeysPlain depth) := by
  induction result using WKResult.induct with
  | string value => simp [valueResult, WKResult.structureTo, WKResult.KeysPlain]
  | number value => simp [valueResult, WKResult.structureTo, WKResult.KeysPlain]
  | boolean value => simp [valueResult, WKResult.structureTo, WKResult.KeysPlain]
  | null => simp [valueResult, WKResult.structureTo, WKResult.KeysPlain]
  | dictionary entries ih =>
    intro hdistinct depth
    rw [WKResult.KeysDistinct, entriesDistinct_iff] at hdistinct
    have hitems := fun entry hmem => ih entry hmem (hdistinct.2 entry hmem) (depth - 1)
    rw [WKResult.KeysPlain]
    by_cases hdeep : depth - 1 < 0
    · -- the items are too deep, and nothing is asked of them
      refine iff_of_true ?_ (entriesPlain_iff.2 fun entry hmem =>
        ⟨fun h => absurd h (by omega), (hitems entry hmem).1 ?_⟩)
      · simp only [valueResult, WKResult.structureTo, setEntries_of_neg hdeep,
          entryTo_of_neg hdeep]
      · rw [valueResult_of_neg entry.2 hdeep, structureTo_of_neg entry.2 hdeep]
    · have hnot : ¬ depth < 0 := by omega
      rw [← setEntries_eq_iff hset hdistinct.1 (by omega) hitems]
      simp [valueResult, WKResult.structureTo, hnot]
  | array items ih =>
    intro hdistinct depth
    rw [WKResult.KeysDistinct, itemsDistinct_iff] at hdistinct
    have hitems := fun item hmem => ih item hmem (hdistinct item hmem) (depth - 1)
    rw [WKResult.KeysPlain]
    by_cases hdeep : depth - 1 < 0
    · refine iff_of_true ?_ (itemsPlain_iff.2 fun item hmem => (hitems item hmem).1 ?_)
      · simp only [valueResult, WKResult.structureTo, appendItems_of_neg hdeep,
          itemsTo_of_neg hdeep]
      · rw [valueResult_of_neg item hdeep, structureTo_of_neg item hdeep]
    · have hnot : ¬ depth < 0 := by omega
      rw [← @appendItems_eq_iff _ set _ _ (by omega) hitems]
      simp [valueResult, WKResult.structureTo, hnot]

/-- **The result of a script keeps its structure, down to the maximal depth, exactly when no key
with a dot has a value in it.** -/
theorem valueResultFromWKResult_iff (hset : ExpandsDots set) {wkResult : Option (WKResult D)}
    (hdistinct : ∀ result ∈ wkResult, result.KeysDistinct) :
    (valueResultFromWKResult set wkResult =
        wkResult.bind fun result => result.structureTo kMaximumParsingRecursionDepth) ↔
      ∀ result ∈ wkResult, result.KeysPlain kMaximumParsingRecursionDepth := by
  cases wkResult with
  | none => simp [valueResultFromWKResult]
  | some result =>
    have hiff := valueResult_eq_iff hset result (hdistinct result rfl)
      kMaximumParsingRecursionDepth
    simpa [valueResultFromWKResult] using hiff

/-- An object with an object and an array in it. -/
def nestedResult : WKResult Nat :=
  .dictionary [("Key1", .string "Value1"),
    ("Key2", .dictionary [("Key3", .number 42), ("Key4", .array [.boolean true, .null])])]

theorem valueResultFromWKResult_iff_nestedResult :
    (valueResultFromWKResult DictionaryValue.set (some nestedResult) =
        (some nestedResult).bind fun result =>
          result.structureTo kMaximumParsingRecursionDepth) ↔
      ∀ result ∈ some nestedResult, result.KeysPlain kMaximumParsingRecursionDepth := by
  refine valueResultFromWKResult_iff DictionaryValue.set_expandsDots ?_
  rintro _ ⟨⟩
  simp [nestedResult, WKResult.KeysDistinct, EntriesDistinct, ItemsDistinct]

/-- An object whose one key has a dot. -/
def dottedResult : WKResult Nat := .dictionary [("a.b", .null)]

/-- It has no such key any more. -/
theorem dottedResult_expanded :
    dottedResult.KeysDistinct ∧
      valueResultFromWKResult DictionaryValue.set (some dottedResult) ≠
        (some dottedResult).bind fun result =>
          result.structureTo kMaximumParsingRecursionDepth := by
  have hdistinct : dottedResult.KeysDistinct := by
    simp [dottedResult, WKResult.KeysDistinct, EntriesDistinct]
  refine ⟨hdistinct, fun h => ?_⟩
  have hplain := (valueResult_eq_iff DictionaryValue.set_expandsDots dottedResult hdistinct
    kMaximumParsingRecursionDepth).1 h
  simp [dottedResult, WKResult.KeysPlain, EntriesPlain, kMaximumParsingRecursionDepth] at hplain

end IosChrome.JsMessaging

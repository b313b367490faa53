import Mathlib.Data.List.Basic

/-!
# ValueResultFromWKResult

What a script evaluates to arrives from WebKit as objects of Foundation, and is handed on as a
`base::Value`. The conversion goes down ten levels and leaves out what is deeper.

An `NSDictionary` is the list of its entries in the order it is iterated in, which may be any. A
dictionary of `base` is what it has for each key, so that two dictionaries are equal when they
have the same keys and the same values for them.

`DictionaryValue::Set` is not under this repository and is a parameter: `ExpandsDots` is what is
known of it. `DictionaryValue.set` is a function that does it as `base` describes it.

Numbers are the doubles that WebKit makes of them, of a type `D`, and texts are Unicode texts.
-/

namespace IosChrome.JsMessaging

/-- The result of a script. -/
inductive WKResult (D : Type) where
  | string (value : String)
  | number (doubleValue : D)
  | boolean (value : Bool)
  | null
  | dictionary (entries : List (String × WKResult D))
  | array (items : List (WKResult D))

/-- `base::Value`. -/
inductive BaseValue (D : Type) where
  | none
  | boolean (value : Bool)
  | double (value : D)
  | string (value : String)
  | dictionary (findKey : String → Option (BaseValue D))
  | list (items : List (BaseValue D))

/-- `base::DictionaryValue`. -/
abbrev DictionaryValue (D : Type) := String → Option (BaseValue D)

variable {D : Type}

namespace DictionaryValue

def empty : DictionaryValue D := fun _ => none

def setKey (dictionary : DictionaryValue D) (key : String) (value : BaseValue D) :
    DictionaryValue D :=
  fun other => if other = key then some value else dictionary other

end DictionaryValue

/-- `DictionaryValue::Set` takes its key for a path. Without a dot it is a key; otherwise its
components are the keys of nested dictionaries, and no key with a dot is written. -/
structure ExpandsDots
    (set : DictionaryValue D → String → BaseValue D → DictionaryValue D) : Prop where
  plain : ∀ dictionary path value, '.' ∉ path.toList →
    set dictionary path value = dictionary.setKey path value
  dotted : ∀ dictionary path value, '.' ∈ path.toList → ∀ key, '.' ∈ key.toList →
    set dictionary path value key = dictionary key

def kMaximumParsingRecursionDepth : Int := 10

section

variable (set : DictionaryValue D → String → BaseValue D → DictionaryValue D)

mutual

def valueResult : WKResult D → Int → Option (BaseValue D)
  | .string value, maxDepth => if maxDepth < 0 then none else some (.string value)
  | .number doubleValue, maxDepth => if maxDepth < 0 then none else some (.double doubleValue)
  | .boolean value, maxDepth => if maxDepth < 0 then none else some (.boolean value)
  | .null, maxDepth => if maxDepth < 0 then none else some .none
  | .dictionary entries, maxDepth =>
    if maxDepth < 0 then none
    else some (.dictionary (setEntries entries (maxDepth - 1) .empty))
  | .array items, maxDepth =>
    if maxDepth < 0 then none else some (.list (appendItems items (maxDepth - 1)))

/-- The loop over the keys of a dictionary. -/
def setEntries : List (String × WKResult D) → Int → DictionaryValue D → DictionaryValue D
  | [], _, dictionary => dictionary
  | (path, item) :: entries, maxDepth, dictionary =>
    match valueResult item maxDepth with
    | some value => setEntries entries maxDepth (set dictionary path value)
    | none => setEntries entries maxDepth dictionary

/-- The loop over the items of an array. -/
def appendItems : List (WKResult D) → Int → List (BaseValue D)
  | [], _ => []
  | item :: items, maxDepth =>
    match valueResult item maxDepth with
    | some value => value :: appendItems items maxDepth
    | none => appendItems items maxDepth

end

def valueResultFromWKResult (wkResult : Option (WKResult D)) : Option (BaseValue D) :=
  match wkResult with
  | none => none
  | some wkResult => valueResult set wkResult kMaximumParsingRecursionDepth

end

/-! ## The structure of a result -/

mutual

/-- The structure down to a depth: the same keys, the same items in the same order, and the same
leaves. What is deeper is left out. -/
def WKResult.structureTo : WKResult D → Int → Option (BaseValue D)
  | .string value, depth => if depth < 0 then none else some (.string value)
  | .number doubleValue, depth => if depth < 0 then none else some (.double doubleValue)
  | .boolean value, depth => if depth < 0 then none else some (.boolean value)
  | .null, depth => if depth < 0 then none else some .none
  | .dictionary entries, depth =>
    if depth < 0 then none else some (.dictionary (entryTo entries (depth - 1)))
  | .array items, depth =>
    if depth < 0 then none else some (.list (itemsTo items (depth - 1)))

/-- The entry for a key. -/
def entryTo : List (String × WKResult D) → Int → DictionaryValue D
  | [], _ => .empty
  | (key, item) :: entries, depth => fun other =>
    if other = key then item.structureTo depth else entryTo entries depth other

def itemsTo : List (WKResult D) → Int → List (BaseValue D)
  | [], _ => []
  | item :: items, depth => (item.structureTo depth).toList ++ itemsTo items depth

end

mutual

/-- No dictionary has a key twice. -/
def WKResult.KeysDistinct : WKResult D → Prop
  | .dictionary entries => (entries.map Prod.fst).Nodup ∧ EntriesDistinct entries
  | .array items => ItemsDistinct items
  | _ => True

def EntriesDistinct : List (String × WKResult D) → Prop
  | [] => True
  | (_, item) :: entries => item.KeysDistinct ∧ EntriesDistinct entries

def ItemsDistinct : List (WKResult D) → Prop
  | [] => True
  | item :: items => item.KeysDistinct ∧ ItemsDistinct items

end

mutual

/-- The condition: as far as the values of a dictionary are converted, its keys have no dots. -/
def WKResult.KeysPlain : WKResult D → Int → Prop
  | .dictionary entries, depth => EntriesPlain entries (depth - 1)
  | .array items, depth => ItemsPlain items (depth - 1)
  | _, _ => True

def EntriesPlain : List (String × WKResult D) → Int → Prop
  | [], _ => True
  | (key, item) :: entries, depth =>
    (0 ≤ depth → '.' ∉ key.toList) ∧ item.KeysPlain depth ∧ EntriesPlain entries depth

def ItemsPlain : List (WKResult D) → Int → Prop
  | [], _ => True
  | item :: items, depth => item.KeysPlain depth ∧ ItemsPlain items depth

end

/-! ## A dictionary as `base` describes it -/

namespace DictionaryValue

/-- The walk along the components of a path. What is in the way and is no dictionary is
replaced by one. -/
def setPath (dictionary : DictionaryValue D) : List String → BaseValue D → DictionaryValue D
  | [], _ => dictionary
  | [key], value => dictionary.setKey key value
  | key :: rest, value =>
    let child : DictionaryValue D := match dictionary key with
      | some (.dictionary child) => child
      | _ => empty
    dictionary.setKey key (.dictionary (child.setPath rest value))

def set (dictionary : DictionaryValue D) (path : String) (value : BaseValue D) :
    DictionaryValue D :=
  dictionary.setPath ((path.toList.splitOn '.').map String.ofList) value

theorem setPath_of_ne (dictionary : DictionaryValue D) (first : String) (rest : List String)
    (value : BaseValue D) {key : String} (hne : key ≠ first) :
    dictionary.setPath (first :: rest) value key = dictionary key := by
  cases rest <;> simp [setPath, setKey, hne]

theorem set_expandsDots : ExpandsDots (D := D) DictionaryValue.set where
  plain dictionary path value hplain := by
    have hsplit : path.toList.splitOn '.' = [path.toList] := by
      refine List.splitOnP_eq_singleton fun c hc => ?_
      have hne : c ≠ '.' := fun he => hplain (he ▸ hc)
      simpa using hne
    rw [DictionaryValue.set, hsplit, List.map_singleton, String.ofList_toList]
    rfl
  dotted dictionary path value hdot key hkey := by
    obtain ⟨before, after, hpath, hbefore⟩ := List.eq_append_cons_of_mem hdot
    have hsplit : path.toList.splitOn '.' = before :: after.splitOn '.' := by
      rw [hpath]
      refine List.splitOnP_append_cons_of_forall_mem (fun c hc => ?_) '.' (by simp) after
      have hne : c ≠ '.' := fun he => hbefore (he ▸ hc)
      simpa using hne
    rw [DictionaryValue.set, hsplit, List.map_cons]
    refine setPath_of_ne _ _ _ _ ?_
    rintro rfl
    rw [String.toList_ofList] at hkey
    exact hbefore hkey

end DictionaryValue

end IosChrome.JsMessaging

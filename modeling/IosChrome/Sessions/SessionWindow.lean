import Mathlib.Algebra.Group.Int.Defs
import Mathlib.Algebra.Group.Nat.Defs
import Mathlib.Data.Int.Basic

/-!
# `SessionWindowIOS` and its coding

A saved window is the list of its sessions and the index of the selected one,
`NSNotFound` when there is none. It is written to a keyed archive and read back
by the two `NSCoding` methods of `session_window_ios.mm`. The index travels as
a 32-bit value: `NSNotFound` is `NSIntegerMax` on a 64-bit build, so
`NSCoder+Compatibility.mm` writes `INT_MAX` in its place.

`initWithCoder_encodeWithCoder` is the round trip, for the windows that
`initWithSessions:selectedIndex:` accepts and whose index fits.

A session is a parameter here: the archive gives an object back as it was
encoded, whatever it is.
-/

namespace IosChrome.Sessions

/-- `NSNotFound` is `NSIntegerMax`, here on a 64-bit build. -/
def nsNotFound : Nat := 2 ^ 63 - 1

/-- `NSNotFound32`, which is `INT_MAX`. -/
def nsNotFound32 : Int32 := 2147483647

/-- `SessionWindowIOS`; `selectedIndex` is an `NSUInteger`. -/
structure SessionWindow (S : Type) where
  sessions : List S
  selectedIndex : Nat
  deriving DecidableEq, Repr

/-- What `decodeObjectForKey:` finds: an array of sessions, or an object of
another class. -/
inductive ArchivedObject (S : Type) where
  | array (sessions : List S)
  | other

/-- A keyed archive. A missing integer decodes as 0, a missing object as nil. -/
structure Archive (S : Type) where
  int32ForKey : String → Int32 := fun _ => 0
  objectForKey : String → Option (ArchivedObject S) := fun _ => none

variable {S : Type}

namespace Archive

def encodeInt32 (archive : Archive S) (value : Int32) (key : String) : Archive S :=
  { archive with int32ForKey := fun k => if k = key then value else archive.int32ForKey k }

def encodeObject (archive : Archive S) (object : ArchivedObject S) (key : String) : Archive S :=
  { archive with
    objectForKey := fun k => if k = key then some object else archive.objectForKey k }

/-- `cr_encodeIndex:forKey:`. -/
def encodeIndex (archive : Archive S) (index : Nat) (key : String) : Archive S :=
  let index32 := if index = nsNotFound then nsNotFound32 else Int32.ofNat index
  archive.encodeInt32 index32 key

/-- `cr_decodeIndexForKey:`, as the `NSUInteger` its caller makes of it. -/
def decodeIndex (archive : Archive S) (key : String) : Nat :=
  let index32 := archive.int32ForKey key
  if index32 = nsNotFound32 then nsNotFound else (index32.toInt % 2 ^ 64).toNat

end Archive

namespace SessionWindow

def kSessionsKey : String := "sessions"
def kSelectedIndexKey : String := "selectedIndex"

/-- `IsIndexValidForSessionCount`. -/
def IsIndexValidForSessionCount (index sessionCount : Nat) : Prop :=
  if sessionCount = 0 then index = nsNotFound else index < sessionCount

instance (index sessionCount : Nat) : Decidable (IsIndexValidForSessionCount index sessionCount) :=
  inferInstanceAs (Decidable (if sessionCount = 0 then index = nsNotFound else index < sessionCount))

/-- `encodeWithCoder:`. -/
def encodeWithCoder (window : SessionWindow S) (coder : Archive S) : Archive S :=
  (coder.encodeIndex window.selectedIndex kSelectedIndexKey).encodeObject
    (.array window.sessions) kSessionsKey

/-- `initWithCoder:`. An index that does not fit the sessions is replaced by the
first one. -/
def initWithCoder (decoder : Archive S) : SessionWindow S :=
  let selectedIndex := decoder.decodeIndex kSelectedIndexKey
  let sessions := match decoder.objectForKey kSessionsKey with
    | some (.array sessions) => sessions
    | some .other => []
    | none => []
  if IsIndexValidForSessionCount selectedIndex sessions.length then
    { sessions := sessions, selectedIndex := selectedIndex }
  else if sessions.length = 0 then
    { sessions := sessions, selectedIndex := nsNotFound }
  else
    { sessions := sessions, selectedIndex := 0 }

/-- An index that fits in 32 bits below `NSNotFound32`, or `NSNotFound`: what
`cr_encodeIndex:forKey:` checks. -/
def IsIndexEncodable (index : Nat) : Prop := index < 2147483647 ∨ index = nsNotFound

theorem decodeIndex_encodeIndex (archive : Archive S) {index : Nat}
    (h : IsIndexEncodable index) (key : String) :
    (archive.encodeIndex index key).decodeIndex key = index := by
  unfold Archive.decodeIndex Archive.encodeIndex Archive.encodeInt32
  simp only [if_true]
  rcases h with hlt | rfl
  · have hne : index ≠ nsNotFound := by unfold nsNotFound; omega
    have htoInt : (Int32.ofNat index).toInt = index :=
      Int32.toInt_ofNat_of_lt (by omega)
    have hne32 : Int32.ofNat index ≠ nsNotFound32 := by
      intro he
      have := congrArg Int32.toInt he
      rw [htoInt] at this
      have h32 : nsNotFound32.toInt = 2147483647 := by decide
      omega
    rw [if_neg hne, if_neg hne32, htoInt]
    omega
  · rw [if_pos rfl, if_pos rfl]

/-- **What `encodeWithCoder:` writes, `initWithCoder:` reads back**, for a
window with a valid, encodable index. -/
theorem initWithCoder_encodeWithCoder (window : SessionWindow S) (coder : Archive S)
    (hvalid : IsIndexValidForSessionCount window.selectedIndex window.sessions.length)
    (hindex : IsIndexEncodable window.selectedIndex) :
    initWithCoder (window.encodeWithCoder coder) = window := by
  have hselected : (window.encodeWithCoder coder).decodeIndex kSelectedIndexKey =
      window.selectedIndex :=
    decodeIndex_encodeIndex coder hindex kSelectedIndexKey
  have hsessions : (window.encodeWithCoder coder).objectForKey kSessionsKey =
      some (.array window.sessions) := by
    show (if kSessionsKey = kSessionsKey then some (.array window.sessions)
      else coder.objectForKey kSessionsKey) = _
    rw [if_pos rfl]
  unfold initWithCoder
  rw [hselected, hsessions]
  exact if_pos hvalid

end SessionWindow

end IosChrome.Sessions

import Mathlib.Data.String.Basic
import IosChrome.Lib.Keyed
import IosChrome.Lib.Machine
import IosChrome.Lib.SortedSet

/-!
# The frames of a web state

`WebFramesManagerImpl` learns of frames from messages that any frame of the page
can falsify. It keeps a map from frame ids to frames, and beside it a pointer to
the main frame.

Whatever the messages are, the pointer is null or a main frame of the map, and
every frame is reported available once and unavailable once before it is
destroyed (`tracked_step`). The rest of the contract is left to debug assertions:
an id without a character passes for a hexadecimal one, and a second main frame
takes the pointer from the first, so that its removal leaves the pointer null
while the first is still there. `frames_consistent_iff` says that these two
registrations are all that breaks it.
-/

namespace IosChrome.JsMessaging

open IosChrome.Lib

/-! ## Messages and frames -/

/-- The dictionary of a `FrameBecameAvailable` message: what it has under each
key, if that is a string (a number for the last). -/
structure Registration where
  crwFrameId : Option String
  crwFrameKey : Option String
  crwFrameLastReceivedMessageId : Option Int
  deriving DecidableEq

inductive MessageBody where
  | dictionary (registration : Registration)
  | string (text : String)
  | other
  deriving DecidableEq

/-- A `WKScriptMessage`, with what its `frameInfo` says. -/
structure WKScriptMessage (O : Type) where
  body : MessageBody
  mainFrame : Bool
  securityOrigin : O
  deriving DecidableEq

/-- A `WebFrameImpl`. `object` is its identity: no two frames share it. -/
structure WebFrame (O K : Type) where
  object : Nat
  frameId : String
  isMainFrame : Bool
  securityOrigin : O
  frameKey : Option K
  nextMessageId : Int
  deriving DecidableEq

/-- What the delegate hears of a frame, and its destruction. -/
inductive FrameEvent (O K : Type) where
  | available (frame : WebFrame O K)
  | unavailable (frame : WebFrame O K)
  | destroyed (frame : WebFrame O K)
  deriving DecidableEq

variable {O K : Type}

def FrameEvent.frame : FrameEvent O K → WebFrame O K
  | .available frame => frame
  | .unavailable frame => frame
  | .destroyed frame => frame

/-- `base::IsHexDigit`. -/
def isHexDigit (c : Char) : Bool :=
  ('0' ≤ c && c ≤ '9') || ('A' ≤ c && c ≤ 'F') || ('a' ≤ c && c ≤ 'f')

/-! ## The manager -/

/-- An entry of the `web_frames_` map. -/
abbrev FrameEntry (O K : Type) := String × WebFrame O K

/-- The order of the map. -/
def FrameEntry.before (entry other : FrameEntry O K) : Bool := decide (entry.1 < other.1)

/-- The members of `WebFramesManagerImpl`, the number of frames it has made and
what became of them. -/
structure WebFramesManager (O K : Type) where
  webFrames : List (FrameEntry O K)
  mainWebFrame : Option (WebFrame O K)
  created : Nat
  events : List (FrameEvent O K)
  deriving DecidableEq

namespace WebFramesManager

def getFrameWithId (m : WebFramesManager O K) (frameId : String) : Option (WebFrame O K) :=
  (Keyed.lookup Prod.fst m.webFrames frameId).map Prod.snd

/-- Only debug builds check that the map has no main frame but this one. -/
def addFrame (m : WebFramesManager O K) (frame : WebFrame O K) : WebFramesManager O K :=
  { webFrames :=
      SortedSet.insert FrameEntry.before (frame.frameId, frame)
        (Keyed.remove Prod.fst m.webFrames frame.frameId),
    mainWebFrame := if frame.isMainFrame then some frame else m.mainWebFrame,
    created := m.created + 1,
    events := m.events ++ [.available frame] }

def removeFrameWithId (m : WebFramesManager O K) (frameId : String) : WebFramesManager O K :=
  match m.getFrameWithId frameId with
  | none => m
  | some frame =>
    { m with
      webFrames := Keyed.remove Prod.fst m.webFrames frameId,
      mainWebFrame :=
        if m.mainWebFrame.any (fun main => main.frameId = frameId) then none else m.mainWebFrame,
      events := m.events ++ [.unavailable frame, .destroyed frame] }

/-- `while (web_frames_.size())`: each turn removes the entry the map begins with. -/
def removeAllLoop : Nat → WebFramesManager O K → WebFramesManager O K
  | 0, m => m
  | turns + 1, m =>
    match m.webFrames with
    | [] => m
    | entry :: _ => removeAllLoop turns (m.removeFrameWithId entry.1)

def removeAllWebFrames (m : WebFramesManager O K) : WebFramesManager O K :=
  removeAllLoop m.webFrames.length m

/-- The frame a registration asks for. `importKey` is `base::Base64Decode` followed
by `crypto::SymmetricKey::Import`. -/
def makeFrame (importKey : String → Option K) (m : WebFramesManager O K)
    (message : WKScriptMessage O) (registration : Registration) (frameId : String) :
    WebFrame O K :=
  { object := m.created,
    frameId := frameId,
    isMainFrame := message.mainFrame,
    securityOrigin := message.securityOrigin,
    frameKey := registration.crwFrameKey.bind fun key => if key = "" then none else importKey key,
    nextMessageId :=
      match registration.crwFrameLastReceivedMessageId with
      | none => 0
      | some lastSentMessageId => max 0 (lastSentMessageId + 1) }

def onFrameBecameAvailable (importKey : String → Option K) (m : WebFramesManager O K)
    (message : WKScriptMessage O) : WebFramesManager O K :=
  match message.body with
  | .dictionary registration =>
    match registration.crwFrameId with
    | none => m
    | some frameId =>
      if (m.getFrameWithId frameId).isSome then m
      else if frameId.toList.all isHexDigit then
        m.addFrame (m.makeFrame importKey message registration frameId)
      else m
  | .string _ => m
  | .other => m

def onFrameBecameUnavailable (m : WebFramesManager O K) (message : WKScriptMessage O) :
    WebFramesManager O K :=
  match message.body with
  | .string frameId => m.removeFrameWithId frameId
  | .dictionary _ => m
  | .other => m

end WebFramesManager

inductive FrameCall (O : Type) where
  | frameBecameAvailable (message : WKScriptMessage O)
  | frameBecameUnavailable (message : WKScriptMessage O)
  | removeAllWebFrames
  deriving DecidableEq

namespace WebFramesManager

def start : WebFramesManager O K := ⟨[], none, 0, []⟩

def step (importKey : String → Option K) (m : WebFramesManager O K) :
    FrameCall O → WebFramesManager O K
  | .frameBecameAvailable message => m.onFrameBecameAvailable importKey message
  | .frameBecameUnavailable message => m.onFrameBecameUnavailable message
  | .removeAllWebFrames => m.removeAllWebFrames

/-- Any frame can send any message at any time. -/
def framesMachine (importKey : String → Option K) : Machine (WebFramesManager O K) (FrameCall O) :=
  { init := fun m => m = start, pre := fun _ _ => True, step := step importKey }

/-! ## The contract -/

def reportsOf (m : WebFramesManager O K) (object : Nat) : List (FrameEvent O K) :=
  m.events.filter fun event => event.frame.object = object

/-- A frame of the map has been reported available, once; any other frame made has
been reported available once and unavailable once, and then destroyed. -/
def Reported (m : WebFramesManager O K) : Prop :=
  (∀ entry ∈ m.webFrames, m.reportsOf entry.2.object = [.available entry.2]) ∧
  ∀ object < m.created, (∀ entry ∈ m.webFrames, entry.2.object ≠ object) →
    ∃ frame : WebFrame O K, frame.object = object ∧
      m.reportsOf object = [.available frame, .unavailable frame, .destroyed frame]

/-- What a manager is meant to be between two messages. -/
structure Consistent (m : WebFramesManager O K) : Prop where
  ids : ∀ entry ∈ m.webFrames, entry.1 ≠ "" ∧ entry.1.toList.all isHexDigit = true ∧
    entry.2.frameId = entry.1
  oneMain : ∀ entry ∈ m.webFrames, ∀ other ∈ m.webFrames,
    entry.2.isMainFrame = true → other.2.isMainFrame = true → entry = other
  mainFrame : ∀ frame, m.mainWebFrame = some frame →
    frame.isMainFrame = true ∧ (frame.frameId, frame) ∈ m.webFrames
  mainKnown : m.mainWebFrame = none → ∀ entry ∈ m.webFrames, entry.2.isMainFrame = false
  reported : m.Reported

/-- A message that registers a new frame gives it an id with a character in it, and
comes from a main frame only while the map has none. -/
def RegistersProperly (m : WebFramesManager O K) : FrameCall O → Prop
  | .frameBecameAvailable message => ∀ registration frameId,
    message.body = .dictionary registration → registration.crwFrameId = some frameId →
    m.getFrameWithId frameId = none → frameId.toList.all isHexDigit = true →
    frameId ≠ "" ∧ (message.mainFrame = true →
      ∀ entry ∈ m.webFrames, entry.2.isMainFrame = false)
  | .frameBecameUnavailable _ => True
  | .removeAllWebFrames => True

/-! ## What holds whatever the messages are -/

structure Tracked (m : WebFramesManager O K) : Prop where
  unique : Keyed.Unique Prod.fst m.webFrames
  named : ∀ entry ∈ m.webFrames,
    entry.1.toList.all isHexDigit = true ∧ entry.2.frameId = entry.1
  objects : ∀ entry ∈ m.webFrames, ∀ other ∈ m.webFrames,
    entry.2.object = other.2.object → entry = other
  made : ∀ entry ∈ m.webFrames, entry.2.object < m.created
  mainFrame : ∀ frame, m.mainWebFrame = some frame →
    frame.isMainFrame = true ∧ (frame.frameId, frame) ∈ m.webFrames
  eventsMade : ∀ event ∈ m.events, event.frame.object < m.created
  reported : m.Reported

theorem start_tracked : (start : WebFramesManager O K).Tracked where
  unique := List.nodup_nil
  named := fun _ h => nomatch h
  objects := fun _ h => nomatch h
  made := fun _ h => nomatch h
  mainFrame := fun _ h => nomatch h
  eventsMade := fun _ h => nomatch h
  reported := ⟨fun _ h => (nomatch h), fun _ h => absurd h (Nat.not_lt_zero _)⟩

theorem compares_before : SortedSet.Compares (FrameEntry.before (O := O) (K := K)) Prod.fst :=
  fun _ _ => decide_eq_true_iff

theorem getFrameWithId_eq_none {m : WebFramesManager O K} {frameId : String} :
    m.getFrameWithId frameId = none ↔ ∀ entry ∈ m.webFrames, entry.1 ≠ frameId := by
  unfold getFrameWithId
  rw [Option.map_eq_none_iff, Keyed.lookup_eq_none]

theorem Tracked.getFrameWithId_eq_some {m : WebFramesManager O K} (h : m.Tracked)
    {frameId : String} {frame : WebFrame O K} :
    m.getFrameWithId frameId = some frame ↔ (frameId, frame) ∈ m.webFrames := by
  unfold getFrameWithId
  rw [Option.map_eq_some_iff]
  constructor
  · rintro ⟨entry, hlookup, rfl⟩
    obtain ⟨hmem, rfl⟩ := (Keyed.lookup_eq_some h.unique).1 hlookup
    exact hmem
  · intro hmem
    exact ⟨(frameId, frame), (Keyed.lookup_eq_some h.unique).2 ⟨hmem, rfl⟩, rfl⟩

section

variable {m : WebFramesManager O K} {frame : WebFrame O K}

theorem perm_addFrame (hnew : m.getFrameWithId frame.frameId = none) :
    (m.addFrame frame).webFrames.Perm ((frame.frameId, frame) :: m.webFrames) := by
  have hkeys : ∀ entry ∈ m.webFrames, entry.1 ≠ frame.frameId := getFrameWithId_eq_none.1 hnew
  have hsame : Keyed.remove Prod.fst m.webFrames frame.frameId = m.webFrames :=
    Keyed.remove_of_lookup_none (Keyed.lookup_eq_none.2 hkeys)
  unfold addFrame
  rw [hsame]
  exact SortedSet.perm_insert compares_before hkeys

theorem mem_addFrame (hnew : m.getFrameWithId frame.frameId = none) {entry : FrameEntry O K} :
    entry ∈ (m.addFrame frame).webFrames ↔
      entry = (frame.frameId, frame) ∨ entry ∈ m.webFrames :=
  (perm_addFrame hnew).mem_iff.trans List.mem_cons

theorem reportsOf_addFrame (object : Nat) :
    (m.addFrame frame).reportsOf object =
      m.reportsOf object ++ if frame.object = object then [.available frame] else [] := by
  unfold reportsOf addFrame
  rw [List.filter_append]
  by_cases hobject : frame.object = object <;> simp [FrameEvent.frame, hobject]

/-- Of a frame not made yet nothing has been reported. -/
theorem Tracked.reportsOf_created (h : m.Tracked) : m.reportsOf m.created = [] := by
  refine List.filter_eq_nil_iff.2 fun event hevent => ?_
  have hlt : event.frame.object < m.created := h.eventsMade event hevent
  simpa using Nat.ne_of_lt hlt

theorem Tracked.addFrame (h : m.Tracked) (hnew : m.getFrameWithId frame.frameId = none)
    (hhex : frame.frameId.toList.all isHexDigit = true) (hobject : frame.object = m.created) :
    (m.addFrame frame).Tracked where
  unique := by
    have hkeys : ∀ entry ∈ m.webFrames, entry.1 ≠ frame.frameId := getFrameWithId_eq_none.1 hnew
    refine Keyed.Unique.perm ?_ (perm_addFrame hnew)
    refine List.nodup_cons.2 ⟨fun hmem => ?_, h.unique⟩
    obtain ⟨entry, hentry, hid⟩ := List.mem_map.1 hmem
    exact hkeys entry hentry hid
  named := by
    intro entry hentry
    rcases (mem_addFrame hnew).1 hentry with rfl | hold
    · exact ⟨hhex, rfl⟩
    · exact h.named entry hold
  objects := by
    intro entry hentry other hother heq
    rcases (mem_addFrame hnew).1 hentry with rfl | hold
    · rcases (mem_addFrame hnew).1 hother with rfl | hold'
      · rfl
      · have hlt : other.2.object < m.created := h.made other hold'
        have heq' : frame.object = other.2.object := heq
        omega
    · rcases (mem_addFrame hnew).1 hother with rfl | hold'
      · have hlt : entry.2.object < m.created := h.made entry hold
        have heq' : entry.2.object = frame.object := heq
        omega
      · exact h.objects entry hold other hold' heq
  made := by
    intro entry hentry
    show entry.2.object < m.created + 1
    rcases (mem_addFrame hnew).1 hentry with rfl | hold
    · show frame.object < m.created + 1
      omega
    · have hlt : entry.2.object < m.created := h.made entry hold
      omega
  mainFrame := by
    intro main hmain
    by_cases hkind : frame.isMainFrame = true
    · have hsome : (m.addFrame frame).mainWebFrame = some frame := if_pos hkind
      obtain rfl : frame = main := Option.some.inj (hsome.symm.trans hmain)
      exact ⟨hkind, (mem_addFrame hnew).2 (Or.inl rfl)⟩
    · have hsame : (m.addFrame frame).mainWebFrame = m.mainWebFrame := if_neg hkind
      obtain ⟨hmainFrame, hmem⟩ := h.mainFrame main (hsame.symm.trans hmain)
      exact ⟨hmainFrame, (mem_addFrame hnew).2 (Or.inr hmem)⟩
  eventsMade := by
    intro event hevent
    show event.frame.object < m.created + 1
    rcases List.mem_append.1 hevent with hold | hlast
    · have hlt : event.frame.object < m.created := h.eventsMade event hold
      omega
    · rw [List.mem_singleton.1 hlast]
      show frame.object < m.created + 1
      omega
  reported := by
    obtain ⟨halive, hgone⟩ := h.reported
    constructor
    · intro entry hentry
      rw [reportsOf_addFrame]
      rcases (mem_addFrame hnew).1 hentry with rfl | hold
      · rw [if_pos rfl]
        show m.reportsOf frame.object ++ _ = _
        rw [hobject, h.reportsOf_created]
        rfl
      · have hlt : entry.2.object < m.created := h.made entry hold
        rw [if_neg (by omega), halive entry hold]
        rfl
    · intro object hlt habsent
      have hne : frame.object ≠ object :=
        habsent (frame.frameId, frame) ((mem_addFrame hnew).2 (Or.inl rfl))
      have hlt' : object < m.created + 1 := hlt
      obtain ⟨gone, hgoneObject, hreports⟩ := hgone object (by omega) fun entry hentry =>
        habsent entry ((mem_addFrame hnew).2 (Or.inr hentry))
      refine ⟨gone, hgoneObject, ?_⟩
      rw [reportsOf_addFrame, if_neg hne, hreports]
      rfl

theorem removeFrameWithId_of_none {frameId : String} (h : m.getFrameWithId frameId = none) :
    m.removeFrameWithId frameId = m := by
  unfold removeFrameWithId
  simp only [h]

theorem removeFrameWithId_of_some {frameId : String} (h : m.getFrameWithId frameId = some frame) :
    m.removeFrameWithId frameId =
      { m with
        webFrames := Keyed.remove Prod.fst m.webFrames frameId,
        mainWebFrame :=
          if m.mainWebFrame.any (fun main => main.frameId = frameId) then none
          else m.mainWebFrame,
        events := m.events ++ [.unavailable frame, .destroyed frame] } := by
  unfold removeFrameWithId
  simp only [h]

/-- The entries a removal leaves. -/
theorem mem_removeFrameWithId {frameId : String} {entry : FrameEntry O K} :
    entry ∈ (m.removeFrameWithId frameId).webFrames ↔
      entry ∈ m.webFrames ∧ entry.1 ≠ frameId := by
  cases hframe : m.getFrameWithId frameId with
  | none =>
    rw [removeFrameWithId_of_none hframe]
    exact ⟨fun h => ⟨h, getFrameWithId_eq_none.1 hframe entry h⟩, fun h => h.1⟩
  | some frame =>
    rw [removeFrameWithId_of_some hframe]
    exact Keyed.mem_remove

/-- The pointer to the main frame survives every removal but that of its frame. -/
theorem mainWebFrame_removeFrameWithId (h : m.Tracked) {frameId : String}
    {main : WebFrame O K} : (m.removeFrameWithId frameId).mainWebFrame = some main ↔
      m.mainWebFrame = some main ∧ main.frameId ≠ frameId := by
  cases hframe : m.getFrameWithId frameId with
  | none =>
    rw [removeFrameWithId_of_none hframe]
    refine ⟨fun hmain => ⟨hmain, ?_⟩, fun hmain => hmain.1⟩
    exact getFrameWithId_eq_none.1 hframe _ (h.mainFrame main hmain).2
  | some frame =>
    rw [removeFrameWithId_of_some hframe]
    show (if m.mainWebFrame.any _ then none else m.mainWebFrame) = some main ↔ _
    cases hmain : m.mainWebFrame with
    | none => simp
    | some current =>
      rw [Option.any_some]
      by_cases hid : current.frameId = frameId
      · rw [if_pos (decide_eq_true hid)]
        constructor
        · intro hnone
          exact nomatch hnone
        · rintro ⟨hsame, hne⟩
          exact absurd hid (Option.some.inj hsame ▸ hne)
      · rw [if_neg (by simpa using hid)]
        refine ⟨fun hsame => ⟨hsame, ?_⟩, fun hsame => hsame.1⟩
        exact Option.some.inj hsame ▸ hid

theorem reportsOf_removeFrameWithId {frameId : String}
    (hframe : m.getFrameWithId frameId = some frame) (object : Nat) :
    (m.removeFrameWithId frameId).reportsOf object = m.reportsOf object ++
      if frame.object = object then [.unavailable frame, .destroyed frame] else [] := by
  rw [removeFrameWithId_of_some hframe]
  unfold reportsOf
  rw [List.filter_append]
  by_cases hobject : frame.object = object <;> simp [FrameEvent.frame, hobject]

theorem created_removeFrameWithId (m : WebFramesManager O K) (frameId : String) :
    (m.removeFrameWithId frameId).created = m.created := by
  cases hframe : m.getFrameWithId frameId with
  | none => rw [removeFrameWithId_of_none hframe]
  | some frame => rw [removeFrameWithId_of_some hframe]

theorem Tracked.reported_removeFrameWithId (h : m.Tracked) (frameId : String) :
    (m.removeFrameWithId frameId).Reported := by
  obtain ⟨halive, hgone⟩ := h.reported
  cases hframe : m.getFrameWithId frameId with
  | none =>
    rw [removeFrameWithId_of_none hframe]
    exact ⟨halive, hgone⟩
  | some frame =>
    have hmem : (frameId, frame) ∈ m.webFrames := h.getFrameWithId_eq_some.1 hframe
    constructor
    · intro entry hentry
      obtain ⟨hold, hne⟩ := mem_removeFrameWithId.1 hentry
      have hobject : frame.object ≠ entry.2.object := fun heq =>
        hne (congrArg Prod.fst (h.objects _ hmem entry hold heq)).symm
      rw [reportsOf_removeFrameWithId hframe, if_neg hobject, halive entry hold]
      rfl
    · intro object hlt habsent
      rw [created_removeFrameWithId] at hlt
      by_cases hobject : frame.object = object
      · -- the frame that goes: its destruction follows the two reports
        refine ⟨frame, hobject, ?_⟩
        have hbefore : m.reportsOf object = [.available frame] :=
          hobject ▸ halive (frameId, frame) hmem
        rw [reportsOf_removeFrameWithId hframe, if_pos hobject, hbefore]
        rfl
      · obtain ⟨gone, hgoneObject, hreports⟩ := hgone object hlt fun entry hentry heq => by
          by_cases hid : entry.1 = frameId
          · have hsame : entry = (frameId, frame) := h.unique.eq_of_mem hentry hmem hid
            rw [hsame] at heq
            exact hobject heq
          · exact habsent entry (mem_removeFrameWithId.2 ⟨hentry, hid⟩) heq
        refine ⟨gone, hgoneObject, ?_⟩
        rw [reportsOf_removeFrameWithId hframe, if_neg hobject, hreports]
        rfl

theorem Tracked.removeFrameWithId (h : m.Tracked) (frameId : String) :
    (m.removeFrameWithId frameId).Tracked where
  unique := by
    cases hframe : m.getFrameWithId frameId with
    | none =>
      rw [removeFrameWithId_of_none hframe]
      exact h.unique
    | some frame =>
      rw [removeFrameWithId_of_some hframe]
      exact h.unique.remove frameId
  named := fun entry hentry => h.named entry (mem_removeFrameWithId.1 hentry).1
  objects := fun entry hentry other hother =>
    h.objects entry (mem_removeFrameWithId.1 hentry).1 other (mem_removeFrameWithId.1 hother).1
  made := by
    intro entry hentry
    rw [created_removeFrameWithId]
    exact h.made entry (mem_removeFrameWithId.1 hentry).1
  mainFrame := by
    intro main hmain
    obtain ⟨hsame, hne⟩ := (mainWebFrame_removeFrameWithId h).1 hmain
    obtain ⟨hkind, hmem⟩ := h.mainFrame main hsame
    exact ⟨hkind, mem_removeFrameWithId.2 ⟨hmem, hne⟩⟩
  eventsMade := by
    intro event hevent
    rw [created_removeFrameWithId]
    cases hframe : m.getFrameWithId frameId with
    | none =>
      rw [removeFrameWithId_of_none hframe] at hevent
      exact h.eventsMade event hevent
    | some frame =>
      have hmade : frame.object < m.created := h.made _ (h.getFrameWithId_eq_some.1 hframe)
      rw [removeFrameWithId_of_some hframe] at hevent
      rcases List.mem_append.1 hevent with hold | hlast
      · exact h.eventsMade event hold
      · rcases List.mem_cons.1 hlast with rfl | hlast
        · exact hmade
        · rw [List.mem_singleton.1 hlast]
          exact hmade
  reported := h.reported_removeFrameWithId frameId

/-- What a removal keeps, removing all frames keeps. -/
theorem removeAllLoop_keeps {I : WebFramesManager O K → Prop}
    (hkeeps : ∀ m frameId, I m → I (m.removeFrameWithId frameId)) : ∀ (turns : Nat)
    {m : WebFramesManager O K}, I m → I (removeAllLoop turns m) := by
  intro turns
  induction turns with
  | zero =>
    intro m h
    exact h
  | succ turns ih =>
    intro m h
    unfold removeAllLoop
    cases hentries : m.webFrames with
    | nil => exact h
    | cons entry rest => exact ih (hkeeps m entry.1 h)

/-- A message registers no frame, or the one its dictionary asks for. -/
theorem onFrameBecameAvailable_cases (importKey : String → Option K) (m : WebFramesManager O K)
    (message : WKScriptMessage O) :
    (m.onFrameBecameAvailable importKey message = m ∧ ∀ registration frameId,
      message.body = .dictionary registration → registration.crwFrameId = some frameId →
      m.getFrameWithId frameId = none → ¬ frameId.toList.all isHexDigit = true) ∨
    ∃ registration frameId, message.body = .dictionary registration ∧
      registration.crwFrameId = some frameId ∧ m.getFrameWithId frameId = none ∧
      frameId.toList.all isHexDigit = true ∧
      m.onFrameBecameAvailable importKey message =
        m.addFrame (m.makeFrame importKey message registration frameId) := by
  unfold onFrameBecameAvailable
  cases hbody : message.body with
  | string text => exact Or.inl ⟨rfl, fun _ _ hother => (nomatch hother)⟩
  | other => exact Or.inl ⟨rfl, fun _ _ hother => (nomatch hother)⟩
  | dictionary registration =>
    cases hid : registration.crwFrameId with
    | none =>
      simp only [hid]
      refine Or.inl ⟨trivial, fun registration' frameId hsame hsome => ?_⟩
      rw [← MessageBody.dictionary.inj hsame, hid] at hsome
      exact nomatch hsome
    | some frameId =>
      simp only [hid]
      -- the only id the message can register
      have honly : ∀ registration' frameId',
          MessageBody.dictionary registration = .dictionary registration' →
          registration'.crwFrameId = some frameId' → frameId = frameId' := by
        intro registration' frameId' hsame hsome
        rw [← MessageBody.dictionary.inj hsame, hid] at hsome
        exact Option.some.inj hsome
      by_cases hknown : (m.getFrameWithId frameId).isSome = true
      · refine Or.inl ⟨if_pos hknown, fun registration' frameId' hsame hsome hnew => ?_⟩
        rw [honly registration' frameId' hsame hsome, hnew] at hknown
        exact nomatch hknown
      · rw [if_neg hknown]
        by_cases hhex : frameId.toList.all isHexDigit = true
        · rw [if_pos hhex]
          exact Or.inr ⟨registration, frameId, rfl, hid,
            Option.not_isSome_iff_eq_none.1 hknown, hhex, rfl⟩
        · refine Or.inl ⟨if_neg hhex, fun registration' frameId' hsame hsome _ => ?_⟩
          rw [← honly registration' frameId' hsame hsome]
          exact hhex

/-- **Whatever the messages say**, the map and the pointer stay attached and every
frame's reports come in order. -/
theorem tracked_step (importKey : String → Option K) (h : m.Tracked) (call : FrameCall O) :
    (m.step importKey call).Tracked := by
  cases call with
  | frameBecameAvailable message =>
    show (m.onFrameBecameAvailable importKey message).Tracked
    rcases onFrameBecameAvailable_cases importKey m message with
      ⟨heq, -⟩ | ⟨registration, frameId, -, -, hnew, hhex, heq⟩
    · rw [heq]
      exact h
    · rw [heq]
      exact h.addFrame hnew hhex rfl
  | frameBecameUnavailable message =>
    show (m.onFrameBecameUnavailable message).Tracked
    unfold onFrameBecameUnavailable
    cases message.body with
    | string frameId => exact h.removeFrameWithId frameId
    | dictionary registration => exact h
    | other => exact h
  | removeAllWebFrames =>
    exact removeAllLoop_keeps (fun _ frameId h => h.removeFrameWithId frameId) _ h

/-! ## When the contract is kept -/

theorem start_consistent : (start : WebFramesManager O K).Consistent where
  ids := fun _ h => nomatch h
  oneMain := fun _ h => nomatch h
  mainFrame := fun _ h => nomatch h
  mainKnown := fun _ _ h => nomatch h
  reported := start_tracked.reported

theorem Consistent.removeFrameWithId (ht : m.Tracked) (h : m.Consistent) (frameId : String) :
    (m.removeFrameWithId frameId).Consistent where
  ids := fun entry hentry => h.ids entry (mem_removeFrameWithId.1 hentry).1
  oneMain := fun entry hentry other hother =>
    h.oneMain entry (mem_removeFrameWithId.1 hentry).1 other (mem_removeFrameWithId.1 hother).1
  mainFrame := (ht.removeFrameWithId frameId).mainFrame
  mainKnown := by
    intro hnone entry hentry
    obtain ⟨hold, hne⟩ := mem_removeFrameWithId.1 hentry
    cases hmain : m.mainWebFrame with
    | none => exact h.mainKnown hmain entry hold
    | some main =>
      -- the pointer was taken back with the only main frame
      have hid : main.frameId = frameId := by
        by_contra hother
        have hstays := (mainWebFrame_removeFrameWithId ht).2 ⟨hmain, hother⟩
        exact nomatch hnone.symm.trans hstays
      obtain ⟨hkind, hmem⟩ := h.mainFrame main hmain
      cases hentryKind : entry.2.isMainFrame with
      | false => rfl
      | true =>
        have hsame : entry = (main.frameId, main) :=
          h.oneMain entry hold _ hmem hentryKind hkind
        rw [hsame] at hne
        exact absurd hid hne
  reported := (ht.removeFrameWithId frameId).reported

/-- **A new frame fits exactly when** its id is not empty and it is not a second
main frame. -/
theorem consistent_addFrame_iff (ht : m.Tracked) (h : m.Consistent)
    (hnew : m.getFrameWithId frame.frameId = none)
    (hhex : frame.frameId.toList.all isHexDigit = true) (hobject : frame.object = m.created) :
    (m.addFrame frame).Consistent ↔ frame.frameId ≠ "" ∧
      (frame.isMainFrame = true → ∀ entry ∈ m.webFrames, entry.2.isMainFrame = false) := by
  have hadded : (frame.frameId, frame) ∈ (m.addFrame frame).webFrames :=
    (mem_addFrame hnew).2 (Or.inl rfl)
  have ht' : (m.addFrame frame).Tracked := ht.addFrame hnew hhex hobject
  constructor
  · intro hconsistent
    refine ⟨(hconsistent.ids _ hadded).1, fun hkind entry hentry => ?_⟩
    cases hentryKind : entry.2.isMainFrame with
    | false => rfl
    | true =>
      have hsame : entry = (frame.frameId, frame) := hconsistent.oneMain entry
        ((mem_addFrame hnew).2 (Or.inr hentry)) _ hadded hentryKind hkind
      exact absurd (congrArg Prod.fst hsame) (getFrameWithId_eq_none.1 hnew entry hentry)
  · rintro ⟨hid, honly⟩
    refine ⟨?_, ?_, ht'.mainFrame, ?_, ht'.reported⟩
    · intro entry hentry
      rcases (mem_addFrame hnew).1 hentry with rfl | hold
      · exact ⟨hid, hhex, rfl⟩
      · exact h.ids entry hold
    · intro entry hentry other hother hkind hkind'
      rcases (mem_addFrame hnew).1 hentry with rfl | hold
      · rcases (mem_addFrame hnew).1 hother with rfl | hold'
        · rfl
        · rw [honly hkind other hold'] at hkind'
          exact nomatch hkind'
      · rcases (mem_addFrame hnew).1 hother with rfl | hold'
        · rw [honly hkind' entry hold] at hkind
          exact nomatch hkind
        · exact h.oneMain entry hold other hold' hkind hkind'
    · intro hnone entry hentry
      by_cases hkind : frame.isMainFrame = true
      · have hsome : (m.addFrame frame).mainWebFrame = some frame := if_pos hkind
        exact nomatch hsome.symm.trans hnone
      · have hsame : (m.addFrame frame).mainWebFrame = m.mainWebFrame := if_neg hkind
        rcases (mem_addFrame hnew).1 hentry with rfl | hold
        · exact Bool.eq_false_iff.2 hkind
        · exact h.mainKnown (hsame.symm.trans hnone) entry hold

theorem consistent_step_iff (importKey : String → Option K) (ht : m.Tracked) (h : m.Consistent)
    (call : FrameCall O) :
    (m.step importKey call).Consistent ↔ m.RegistersProperly call := by
  cases call with
  | frameBecameAvailable message =>
    show (m.onFrameBecameAvailable importKey message).Consistent ↔ _
    rcases onFrameBecameAvailable_cases importKey m message with
      ⟨heq, hnone⟩ | ⟨registration, frameId, hbody, hid, hnew, hhex, heq⟩
    · rw [heq]
      refine ⟨fun _ registration frameId hbody hid hnew hhex => ?_, fun _ => h⟩
      exact absurd hhex (hnone registration frameId hbody hid hnew)
    · rw [heq]
      refine (consistent_addFrame_iff ht h hnew hhex rfl).trans ?_
      constructor
      · intro hproper registration' frameId' hbody' hid' _ _
        have hsame : registration = registration' :=
          MessageBody.dictionary.inj (hbody.symm.trans hbody')
        rw [← hsame, hid] at hid'
        exact Option.some.inj hid' ▸ hproper
      · intro hproper
        exact hproper registration frameId hbody hid hnew hhex
  | frameBecameUnavailable message =>
    refine ⟨fun _ => trivial, fun _ => ?_⟩
    show (m.onFrameBecameUnavailable message).Consistent
    unfold onFrameBecameUnavailable
    cases message.body with
    | string frameId => exact h.removeFrameWithId ht frameId
    | dictionary registration => exact h
    | other => exact h
  | removeAllWebFrames =>
    refine ⟨fun _ => trivial, fun _ => ?_⟩
    exact (removeAllLoop_keeps (I := fun m => m.Tracked ∧ m.Consistent)
      (fun _ frameId h => ⟨h.1.removeFrameWithId frameId, h.2.removeFrameWithId h.1 frameId⟩)
      _ ⟨ht, h⟩).2

end

/-- **The map, the main frame and the reports are what they are meant to be between
any two messages exactly when** every registration is proper. -/
theorem frames_consistent_iff (importKey : String → Option K) (calls : List (FrameCall O)) :
    (framesMachine importKey).Always (fun m call => (m.step importKey call).Consistent)
        start calls ↔
      (framesMachine importKey).Always RegistersProperly start calls := by
  refine Machine.always_iff_of_invariant (I := fun m => m.Tracked ∧ m.Consistent) ?_ ?_
    ⟨start_tracked, start_consistent⟩ (Machine.always_of_forall _ (fun _ _ => trivial) _ _)
  · rintro m call ⟨ht, h⟩ -
    exact consistent_step_iff importKey ht h call
  · rintro m call ⟨ht, -⟩ - hconsistent
    exact ⟨tracked_step importKey ht call, hconsistent⟩

/-- **Two main frames, and the second leaves**: the pointer is null, and the first
main frame is still in the map. -/
theorem secondMainFrame_forgotten :
    let available (frameId : String) : FrameCall Unit :=
      .frameBecameAvailable ⟨.dictionary ⟨some frameId, none, none⟩, true, ()⟩
    let calls := [available "a1", available "b2",
      .frameBecameUnavailable ⟨.string "b2", false, ()⟩]
    let m := (framesMachine fun _ => (none : Option Unit)).exec start calls
    ¬ m.Consistent ∧ m.mainWebFrame = none ∧
      m.webFrames = [("a1", ⟨0, "a1", true, (), none, 0⟩)] := by
  intro available calls m
  have hmain : m.mainWebFrame = none := by decide +kernel
  have hframes : m.webFrames = [("a1", ⟨0, "a1", true, (), none, 0⟩)] := by decide +kernel
  refine ⟨fun h => ?_, hmain, hframes⟩
  have hkind : (⟨0, "a1", true, (), none, 0⟩ : WebFrame Unit Unit).isMainFrame = false :=
    h.mainKnown hmain ("a1", ⟨0, "a1", true, (), none, 0⟩)
      (by rw [hframes]; exact List.mem_cons_self)
  exact nomatch hkind

end WebFramesManager

end IosChrome.JsMessaging

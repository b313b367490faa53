import IosChrome.Lib.TreeOrder
import IosChrome.Lib.Occurrences

/-!
# The script of find in page

`find_in_page.js`, as it runs in one frame. A search walks the page and
concatenates its texts, matches the query, exchanges the texts with matches for
highlighted ones and counts the matches that are visible. `pumpSearch` does as
much of that as its timer allows; where it goes on from is in the globals, the
fields of `Script`. Texts are lists of UTF-16 units.

A search only reads the clock between steps, and returns as soon as it is over
time. So a `Timer` is the number of times it answers that it is not, if it ever
answers that it is.

What a browser knows and the script asks is a parameter: the case mappings of
the language (`CaseMapping`), and which elements are visible in a call. The
page scale that `addDocumentStyle_` works out and does not use is left out, as
the compiler of the build drops it.
-/

namespace IosChrome.FindInPage

open IosChrome.Lib

/-- A string, in UTF-16. -/
abbrev Text := List UInt16

abbrev NodeId := Nat

def unit (c : Char) : UInt16 := c.val.toUInt16

/-- `toLowerCase` of strings, and what a regular expression with the flag `i`
compares units by. No string has fewer units in lower case, but some have more:
the dot of "İ" becomes one of its own. -/
structure CaseMapping where
  toLowerCase : Text → Text
  canonicalize : UInt16 → UInt16
  length_le : ∀ text, text.length ≤ (toLowerCase text).length

/-- A node. `textContent` is the data of a text node, and the text inside a
`chrome_find` element or the style element. `madeOf` is the text node and the stretch of its text
that such an element was made of: the script keeps no such record and nothing
reads it. -/
structure NodeData where
  nodeType : Nat
  nodeName : String
  elementId : String
  textContent : Text
  classList : List String
  madeOf : Option (NodeId × Nat × Nat)
  deriving DecidableEq, Repr

abbrev Dom := NodeTree NodeData

/-! ## Constants -/

def ignoreNodeNames : List String :=
  ["SCRIPT", "STYLE", "EMBED", "OBJECT", "SELECT", "TEXTAREA", "IFRAME"]

def cssClassName : String := "find_in_page"
def cssClassNameSelect : String := "find_selected"
def cssStyleId : String := "__gCrWeb.findInPageStyle"

/-- The rules of the two classes. -/
def styleContent : Text :=
  (("." ++ cssClassName ++ "\x7bbackground-color:#ffff00 !important;" ++
      "padding:0px;margin:0px;overflow:visible !important;\x7d") ++
    ("." ++ cssClassNameSelect ++ "\x7bbackground-color:#ff9632 !important;" ++
      "padding:0px;margin:0px;overflow:visible !important;\x7d")).toList.map unit

/-- The style element, with its text. -/
def styleNode : NodeData := ⟨1, "STYLE", cssStyleId, styleContent, [], none⟩

def maxVisibleElements : Nat := 100
def timeoutResult : Int := -1

/-- The units `REGEX_ESCAPER` escapes. -/
def regexEscaper : List UInt16 :=
  [unit '.', unit '?', unit '*', unit '+', unit '^', unit '$', unit '[', unit ']', unit '\\',
    unit '(', unit ')', unit '{', unit '}', unit '|', unit '-']

/-! ## The globals -/

/-- The stretch `[start, stop)` of `allText` that a text node has. -/
structure Section where
  start : Nat
  stop : Nat
  node : NodeId
  deriving DecidableEq, Repr

structure PartialMatch where
  matchId : Nat
  start : Nat
  stop : Nat
  deriving DecidableEq, Repr

/-- A `Match`, by its `chrome_find` nodes. -/
abbrev Match := List NodeId

/-- A regular expression that matches one string. -/
structure Regex where
  pattern : Text
  lastIndex : Nat
  deriving DecidableEq, Repr

structure Script where
  dom : Dom
  documentElement : NodeId
  body : NodeId
  allText : Text
  sections : List Section
  sectionsIndex : Nat
  /-- `__gCrWeb.findInPage.matches`. -/
  foundMatches : List Match
  selectedVisibleMatchIndex : Int
  selectedMatchIndex : Int
  matchId : Nat
  partialMatches : List PartialMatch
  replacements : List Replacement
  replacementsIndex : Nat
  visibleMatchCount : Nat
  visibleMatchesCountIndexIterator : Nat
  styleElement : Option NodeId
  searchInProgress : Bool
  searchStateIsClean : Bool
  hasInitialized : Bool
  /-- The next node comes first. -/
  stack : List NodeId
  regex : Option Regex
  /-- Which matches were visible when they were last counted. The script keeps
  no such record and nothing reads it. -/
  lastCounted : List Bool

/-- How a function of the script ends. Only a loop could hang. -/
inductive Completion (α : Type) where
  | returned (value : α)
  | threw
  | hung
  deriving DecidableEq, Repr

/-- Why a search does not go on. -/
inductive Stop where
  | timeout
  | exception
  | endless
  deriving DecidableEq, Repr

def Stop.completion : Stop → Completion Int
  | .timeout => .returned timeoutResult
  | .exception => .threw
  | .endless => .hung

/-- How often `overtime` still answers false; `none` is for ever. -/
abbrev Timer := Option Nat

def Timer.overtime : Timer → Bool × Timer
  | none => (false, none)
  | some 0 => (true, some 0)
  | some (n + 1) => (false, some n)

/-! ## Strings and regular expressions -/

/-- `substring`. -/
def substring (text : Text) (i j : Nat) : Text := (text.take (max i j)).drop (min i j)

/-- What the text of an element is after its `innerHTML` has been set to
`escapeHTML_(text)`: `innerText` makes `<br>` of line breaks, and the parser
drops the character 0. -/
def innerHTMLText (text : Text) : Text :=
  text.filter fun c => !(c == unit '\n' || c == unit '\r' || c == 0)

def escapeRegex (text : Text) : Text :=
  text.flatMap fun c => if c ∈ regexEscaper then [unit '\\', c] else [c]

/-- The characters that mean something else in a pattern than themselves. -/
def syntaxCharacters : List UInt16 :=
  [unit '^', unit '$', unit '\\', unit '.', unit '*', unit '+', unit '?', unit '(', unit ')',
    unit '[', unit ']', unit '{', unit '}', unit '|']

/-- The one string a pattern matches, if it has no operators. -/
def patternLiteral : Text → Option Text
  | [] => some []
  | c :: rest =>
    if c = unit '\\' then
      match rest with
      | d :: rest => if d ∈ regexEscaper then (patternLiteral rest).map (d :: ·) else none
      | [] => none
    else if c ∈ syntaxCharacters then none
    else (patternLiteral rest).map (c :: ·)

/-- `new RegExp(regexString, 'ig')`, for a pattern that is one group. -/
def newRegExp (regexString : Text) : Option Regex :=
  match regexString with
  | c :: rest =>
    if c = unit '(' ∧ rest.getLast? = some (unit ')') then
      (patternLiteral rest.dropLast).map fun pattern => ⟨pattern, 0⟩
    else none
  | [] => none

/-- `getRegex_`. -/
def getRegex (findText : Text) : Option Regex :=
  newRegExp (unit '(' :: (escapeRegex findText ++ [unit ')']))

/-- How a regular expression with the flag `i` compares. -/
def CaseMapping.same (mapping : CaseMapping) (c d : UInt16) : Bool :=
  mapping.canonicalize c == mapping.canonicalize d

/-- `exec`, of a regular expression with the flag `g`. -/
def Regex.exec (mapping : CaseMapping) (regex : Regex) (text : Text) : Option Nat × Regex :=
  match firstOccurrence mapping.same regex.pattern text regex.lastIndex with
  | some index => (some index, { regex with lastIndex := index + regex.pattern.length })
  | none => (none, { regex with lastIndex := 0 })

namespace Script

/-! ## The walk -/

/-- The children of a node the walk goes to. -/
def reasonableChildren (dom : Dom) (node : NodeId) : List NodeId :=
  (dom.childNodes node).filter fun child =>
    ((dom.data child).nodeType = 1 || (dom.data child).nodeType = 3) &&
      !ignoreNodeNames.contains (dom.data child).nodeName

/-- A text node's text and section are added. -/
def addSection (mapping : CaseMapping) (s : Script) (node : NodeId) : Script :=
  let data := s.dom.data node
  if data.nodeType = 3 ∧ (s.dom.parentNode node).isSome then
    { s with
      sections := s.sections ++
        [⟨s.allText.length, s.allText.length + data.textContent.length, node⟩]
      allText := s.allText ++ mapping.toLowerCase data.textContent }
  else s

/-- The first loop of `pumpSearch`, of at most so many rounds. -/
def walk (mapping : CaseMapping) : Nat → Timer → Script → Script × Timer × Option Stop
  | 0, timer, s => (s, timer, if s.stack.isEmpty then none else some .endless)
  | rounds + 1, timer, s =>
    match s.stack with
    | [] => (s, timer, none)
    | node :: stack =>
      let s := { s with stack := reasonableChildren s.dom node ++ stack }.addSection mapping node
      match timer.overtime with
      | (true, timer) => (s, timer, some .timeout)
      | (false, timer) => walk mapping rounds timer s

/-! ## The matches -/

/-- `findFirstSectionEndsAfter_`, between `left` and `right`. -/
def findFirstSectionEndsAfterIn (sections : List Section) (index : Nat) : Nat → Nat → Nat → Nat
  | 0, left, _ => left
  | rounds + 1, left, right =>
    if left < right then
      let mid := (left + right) / 2
      match sections[mid]? with
      | some part =>
        if part.stop ≤ index then findFirstSectionEndsAfterIn sections index rounds (mid + 1) right
        else findFirstSectionEndsAfterIn sections index rounds left mid
      -- There is a section below `right`.
      | none => left
    else left

/-- `findFirstSectionEndsAfter_`. -/
def findFirstSectionEndsAfter (s : Script) (index : Nat) : Nat :=
  findFirstSectionEndsAfterIn s.sections index s.sections.length s.sectionsIndex s.sections.length

def createTextNode (s : Script) (text : Text) : Script :=
  { s with dom := s.dom.create ⟨3, "#text", "", text, [], none⟩ }

/-- The highlighted element of a stretch of a text node. -/
def createChromeFind (s : Script) (node : NodeId) (i j : Nat) : Script :=
  { s with
    dom := s.dom.create
      { nodeType := 1
        nodeName := "CHROME_FIND"
        elementId := ""
        textContent := innerHTMLText (substring (s.dom.data node).textContent i j)
        classList := [cssClassName]
        madeOf := some (node, i, j) } }

/-- The new node is recorded in its match. -/
def recordNode (s : Script) (matchId : Nat) (node : NodeId) : Script :=
  { s with foundMatches := s.foundMatches.modify matchId fun nodes => nodes ++ [node] }

/-- A text node for a stretch no match has, if there is one. -/
def addPlainText (s : Script) (part : Section) (newNodes : List NodeId) (i j : Nat) :
    Script × List NodeId :=
  if j > i then
    (s.createTextNode
      (substring (s.dom.data part.node).textContent (i - part.start) (j - part.start)),
      newNodes ++ [s.dom.next])
  else (s, newNodes)

/-- The loop of `processPartialMatchesInCurrentSection`: the new nodes so far,
and where the last partial match ended. -/
def highlightPartialMatches (part : Section) :
    List PartialMatch → Script → List NodeId → Nat → Script × List NodeId × Nat
  | [], s, newNodes, previousEnd => (s, newNodes, previousEnd)
  | partialMatch :: rest, s, newNodes, previousEnd =>
    let (s, newNodes) := s.addPlainText part newNodes previousEnd partialMatch.start
    let newNode := s.dom.next
    let s := s.createChromeFind part.node (partialMatch.start - part.start)
      (partialMatch.stop - part.start)
    highlightPartialMatches part rest (s.recordNode partialMatch.matchId newNode)
      (newNodes ++ [newNode]) partialMatch.stop

/-- `processPartialMatchesInCurrentSection`. -/
def processPartialMatchesInCurrentSection (s : Script) : Script :=
  if s.partialMatches.isEmpty then s
  else
    match s.sections[s.sectionsIndex]? with
    | some part =>
      let (s, newNodes, previousEnd) :=
        highlightPartialMatches part s.partialMatches s [] part.start
      -- A partial match ends no later than its section.
      let (s, newNodes) := s.addPlainText part newNodes previousEnd part.stop
      { s with
        replacements := s.replacements ++ [⟨part.node, newNodes⟩]
        partialMatches := [] }
    -- Partial matches are of a section there is.
    | none => s

/-- The inner loop, over the sections from the current one on: whether there
was a section for all of the match. -/
def addPartialMatches (start stop : Nat) : List Section → Script → Script × Bool
  -- `section` is undefined.
  | [], s => (s, false)
  | part :: rest, s =>
    let s := { s with
      partialMatches := s.partialMatches ++
        [⟨s.matchId, max part.start start, min part.stop stop⟩] }
    if part.stop < stop then
      let s := s.processPartialMatchesInCurrentSection
      addPartialMatches start stop rest { s with sectionsIndex := s.sectionsIndex + 1 }
    else (s, true)

/-- Moves on to the section a match starts in. -/
def moveToSectionOf (s : Script) (start : Nat) : Script :=
  let newSectionIndex := s.findFirstSectionEndsAfter start
  if newSectionIndex > s.sectionsIndex then
    { s.processPartialMatchesInCurrentSection with sectionsIndex := newSectionIndex }
  else s

/-- A match is found. -/
def addMatch (s : Script) (start stop : Nat) : Script × Bool :=
  let s := { s with foundMatches := s.foundMatches ++ [[]] }.moveToSectionOf start
  match addPartialMatches start stop (s.sections.drop s.sectionsIndex) s with
  | (s, true) => ({ s with matchId := s.matchId + 1 }, true)
  | (s, false) => (s, false)

/-- The second loop, with what follows it. -/
def findMatches (mapping : CaseMapping) :
    Nat → Regex → Timer → Script → Script × Timer × Option Stop
  | 0, _, timer, s => (s, timer, some .endless)
  | rounds + 1, regex, timer, s =>
    match regex.exec mapping s.allText with
    | (none, _) =>
      ({ s.processPartialMatchesInCurrentSection with regex := none }, timer, none)
    | (some start, regex) =>
      match { s with regex := some regex }.addMatch start (start + regex.pattern.length) with
      | (s, false) => (s, timer, some .exception)
      | (s, true) =>
        match timer.overtime with
        | (true, timer) => (s, timer, some .timeout)
        | (false, timer) => findMatches mapping rounds regex timer s

def findMatchesIfAny (mapping : CaseMapping) (timer : Timer) (s : Script) :
    Script × Timer × Option Stop :=
  match s.regex with
  | some regex => findMatches mapping (s.allText.length + 1) regex timer s
  | none => (s, timer, none)

/-! ## Highlighting and counting -/

/-- `Replacement.doSwap`. -/
def doSwap (s : Script) (replacement : Replacement) : Script :=
  { s with dom := s.dom.exchange replacement }

/-- `Replacement.undoSwap`. -/
def undoSwap (s : Script) (replacement : Replacement) : Script :=
  { s with dom := s.dom.restore replacement }

/-- The third loop, over the replacements from the `i`-th on. -/
def swapAll : List Replacement → Nat → Timer → Script → Script × Timer × Option Stop
  | [], _, timer, s => (s, timer, none)
  | replacement :: rest, i, timer, s =>
    match timer.overtime with
    | (true, timer) => ({ s with replacementsIndex := i }, timer, some .timeout)
    | (false, timer) => swapAll rest (i + 1) timer (s.doSwap replacement)

/-- `Match.visible`: all nodes are. -/
def isVisible (visible : NodeId → Bool) (m : Match) : Bool := m.all visible

/-- The loop of `countVisibleMatches_`, from the `index`-th match on: the count,
or the index it left off at. -/
def countFrom (visible : NodeId → Bool) : List Match → Nat → Nat → Timer → Nat ⊕ Nat
  | [], _, count, _ => .inl count
  | m :: rest, index, count, timer =>
    match timer.overtime with
    | (true, _) => .inr index
    | (false, timer) =>
      if count > maxVisibleElements then countFrom visible rest (index + 1) count timer
      else if isVisible visible m then countFrom visible rest (index + 1) (count + 1) timer
      else countFrom visible rest (index + 1) count timer

/-- `countVisibleMatches_`; `none` is `TIMEOUT`. -/
def countVisibleMatches (visible : NodeId → Bool) (timer : Timer) (s : Script) :
    Script × Option Nat :=
  let index := s.visibleMatchesCountIndexIterator
  match countFrom visible (s.foundMatches.drop index) index 0 timer with
  | .inr index => ({ s with visibleMatchesCountIndexIterator := index }, none)
  | .inl count =>
    ({ s with
      visibleMatchCount := count
      visibleMatchesCountIndexIterator := 0
      lastCounted := s.foundMatches.map (isVisible visible) }, some count)

/-! ## The search -/

/-- `pumpSearch` after the walk and the matching. -/
def highlightAndCount (visible : NodeId → Bool) (timer : Timer) (s : Script) :
    Script × Completion Int :=
  match swapAll (s.replacements.drop s.replacementsIndex) s.replacementsIndex timer s with
  | (s, _, some stop) => (s, stop.completion)
  | (s, timer, none) =>
    match s.countVisibleMatches visible timer with
    -- `TIMEOUT` is the result here, and the search is over all the same.
    | (s, none) => ({ s with searchInProgress := false }, .returned timeoutResult)
    | (s, some count) => ({ s with searchInProgress := false }, .returned count)

/-- `pumpSearch`. A node is walked to once, so there are no more rounds of the
walk than nodes. -/
def pumpSearch (mapping : CaseMapping) (visible : NodeId → Bool) (timer : Timer)
    (s : Script) : Script × Completion Int :=
  if !s.searchInProgress then (s, .returned 0)
  else
    match walk mapping s.dom.next timer { s with searchStateIsClean := false } with
    | (s, _, some stop) => (s, stop.completion)
    | (s, timer, none) =>
      match s.findMatchesIfAny mapping timer with
      | (s, _, some stop) => (s, stop.completion)
      | (s, timer, none) => s.highlightAndCount visible timer

/-- `cleanUp_`. -/
def cleanUp (s : Script) : Script :=
  { s.replacements.foldl undoSwap s with
    allText := []
    sections := []
    sectionsIndex := 0
    foundMatches := []
    selectedMatchIndex := -1
    selectedVisibleMatchIndex := -1
    matchId := 0
    partialMatches := []
    replacements := []
    replacementsIndex := 0
    searchStateIsClean := true }

/-- `addDocumentStyle_`. -/
def addDocumentStyle (s : Script) : Script :=
  { s with
    dom := (s.dom.create styleNode).appendChild s.body s.dom.next
    styleElement := some s.dom.next }

/-- `enable_`. -/
def enable (s : Script) : Script :=
  if s.styleElement.isSome then s else s.addDocumentStyle

/-- `findString` up to the search: the module is enabled, and a previous search
cleaned up. -/
def prepareSearch (s : Script) : Script :=
  let s := if !s.hasInitialized then { s.enable with hasInitialized := true } else s
  if !s.searchStateIsClean then s.cleanUp else s

/-- The search `findString` starts. -/
def startSearch (s : Script) (regex : Regex) : Script :=
  { s with
    stack := [s.body]
    visibleMatchCount := 0
    visibleMatchesCountIndexIterator := 0
    regex := some regex
    searchInProgress := true }

/-- `findString`. -/
def findString (mapping : CaseMapping) (visible : NodeId → Bool) (string : Text) (timer : Timer)
    (s : Script) : Script × Completion Int :=
  let s := s.prepareSearch
  if string.isEmpty then (s, .returned 0)
  else
    match getRegex string with
    | some regex => (s.startSearch regex).pumpSearch mapping visible timer
    -- `RegExp` throws where it gets no pattern.
    | none => (s, .threw)

/-! ## Selecting -/

/-- `getCurrentSelectedMatch_`. -/
def getCurrentSelectedMatch (s : Script) : Option Match :=
  if s.selectedMatchIndex < 0 then none else s.foundMatches[s.selectedMatchIndex.toNat]?

def modifyNode (s : Script) (node : NodeId) (f : NodeData → NodeData) : Script :=
  { s with dom := s.dom.modifyData node f }

/-- `classList.add`. -/
def addClass (className : String) (data : NodeData) : NodeData :=
  if className ∈ data.classList then data
  else { data with classList := data.classList ++ [className] }

/-- `classList.remove`. -/
def removeClass (className : String) (data : NodeData) : NodeData :=
  { data with classList := data.classList.filter (· ≠ className) }

/-- `Match.addSelectHighlight`. -/
def addSelectHighlight (s : Script) (m : Match) : Script :=
  m.foldl (fun s node => s.modifyNode node (addClass cssClassNameSelect)) s

/-- `Match.removeSelectHighlight`. -/
def removeSelectHighlight (s : Script) (m : Match) : Script :=
  m.foldl (fun s node => s.modifyNode node (removeClass cssClassNameSelect)) s

/-- The dictionary `selectAndScrollToVisibleMatch` returns. -/
structure SelectResult where
  matchCount : Nat
  index : Int
  contextString : Option Text
  deriving DecidableEq, Repr

/-- The index of the visible match with so many visible ones before it, or else
the number of matches. -/
def visibleMatchAt (visible : NodeId → Bool) : List Match → Nat → Nat
  | [], _ => 0
  | m :: rest, count =>
    if isVisible visible m then
      match count with
      | 0 => 0
      | count + 1 => visibleMatchAt visible rest count + 1
    else visibleMatchAt visible rest count + 1

/-- `textContent`, of at most so many levels. -/
def textContent (dom : Dom) : Nat → NodeId → Text
  | 0, _ => []
  | depth + 1, node =>
    (dom.data node).textContent ++ (dom.childNodes node).flatMap (textContent dom depth)

/-- An element, where a string is expected. -/
def elementString : Text := "[object HTMLUnknownElement]".toList.map unit

/-- The texts of the nodes of the match, and of its neighbours. -/
def contextString (dom : Dom) (m : Match) : Text :=
  let text (node : NodeId) : Text := textContent dom dom.next node
  -- A node without text is joined as an object.
  let nodeText (node : NodeId) : Text := if (text node).isEmpty then elementString else text node
  let siblings (node : NodeId) : List NodeId :=
    match dom.parentNode node with
    | some parent => dom.childNodes parent
    | none => []
  let previous :=
    match m.head? with
    | some first => (((siblings first).takeWhile (· ≠ first)).getLast?.map text).getD []
    | none => []
  let next :=
    match m.getLast? with
    | some last => ((((siblings last).dropWhile (· ≠ last)).drop 1).head?.map text).getD []
    | none => []
  previous ++ m.flatMap nodeText ++ next

/-- The match is selected, as the `index`-th visible one. -/
def selectMatch (visible : NodeId → Bool) (count index : Nat) (s : Script) :
    Script × Completion SelectResult :=
  let total := visibleMatchAt visible s.foundMatches index
  let s := { s with selectedMatchIndex := total, selectedVisibleMatchIndex := index }
  match s.getCurrentSelectedMatch with
  | some m =>
    let s := s.addSelectHighlight m
    -- Scrolling needs a first node.
    if m.isEmpty then (s, .threw)
    else (s, .returned ⟨count, index, some (contextString s.dom m)⟩)
  | none => (s, .threw)

/-- The highlight of the selected match is taken away, if there is one. -/
def removeSelection (s : Script) : Script :=
  match s.getCurrentSelectedMatch with
  | some m => s.removeSelectHighlight m
  | none => s

/-- The visible match to select instead of one there is no longer: the first
after the selected one was to come, the last otherwise. -/
def wrapIndex (s : Script) (count : Nat) (index : Int) : Nat :=
  if index ≥ count then (if index > s.selectedVisibleMatchIndex then 0 else count - 1)
  else index.toNat

/-- `selectAndScrollToVisibleMatch`. -/
def selectAndScrollToVisibleMatch (visible : NodeId → Bool) (index : Int) (s : Script) :
    Script × Completion SelectResult :=
  if index ≥ s.visibleMatchCount ∨ index < 0 then
    (s, .returned ⟨s.visibleMatchCount, s.selectedMatchIndex, none⟩)
  else
    match s.removeSelection.countVisibleMatches visible none with
    | (s, some count) =>
      if count = 0 then
        ({ s with selectedMatchIndex := -1, selectedVisibleMatchIndex := -1 },
          .returned ⟨0, -1, none⟩)
      else s.selectMatch visible count (s.wrapIndex count index)
    -- Without a timer there is no timeout.
    | (s, none) => (s, .threw)

/-! ## Stopping -/

def hasElementId (dom : Dom) (elementId : String) (node : NodeId) : Bool :=
  (dom.data node).nodeType = 1 && (dom.data node).elementId = elementId

/-- `document.getElementById`. -/
def getElementById (s : Script) (elementId : String) : Option NodeId :=
  (NodeTree.preorder s.dom.childNodes s.dom.next s.documentElement).find?
    (hasElementId s.dom elementId)

/-- `removeStyle_`; `none` where it throws. -/
def removeStyle (s : Script) : Option Script :=
  if s.styleElement.isSome then
    match s.getElementById cssStyleId with
    | some style =>
      if style ∈ s.dom.childNodes s.body then
        some { s with dom := s.dom.removeChild s.body style, styleElement := none }
      else none
    | none => none
  else some s

/-- `stop`. -/
def stop (s : Script) : Script × Completion Unit :=
  if s.styleElement.isSome then
    match s.removeStyle with
    | some s => ({ s.cleanUp with hasInitialized := false }, .returned ())
    | none => (s, .threw)
  else ({ s with hasInitialized := false }, .returned ())

end Script

/-! ## The page -/

/-- A page: any finite tree of nodes, none of which the script has made. -/
structure Page where
  dom : Dom
  documentElement : NodeId
  body : NodeId
  forest : dom.IsForest
  /-- How many levels there are below a node. -/
  rank : NodeId → Nat
  rank_lt : ∀ c p, dom.parentNode c = some p → rank c < rank p
  rank_lt_next : ∀ n, n < dom.next → rank n < dom.next
  body_below : NodeTree.Descends dom.parentNode documentElement body
  documentElement_lt : documentElement < dom.next
  body_element : (dom.data body).nodeType = 1
  text_leaf : ∀ n, (dom.data n).nodeType = 3 → dom.childNodes n = []

/-- A page whose body has these nodes, with nothing below them. -/
def Page.ofLeaves (leaves : List NodeData) : Page where
  dom :=
    { data := fun n =>
        match n with
        | 0 => ⟨1, "HTML", "", [], [], none⟩
        | 1 => ⟨1, "HEAD", "", [], [], none⟩
        | 2 => ⟨1, "BODY", "", [], [], none⟩
        | n + 3 => leaves.getD n ⟨3, "#text", "", [], [], none⟩
      parentNode := fun n =>
        match n with
        | 0 => none
        | 1 => some 0
        | 2 => some 0
        | n + 3 => if n < leaves.length then some 2 else none
      childNodes := fun n =>
        match n with
        | 0 => [1, 2]
        | 2 => (List.range leaves.length).map (· + 3)
        | _ => []
      next := leaves.length + 3 }
  documentElement := 0
  body := 2
  forest := by
    refine ⟨?_, ?_, ?_⟩
    · intro p c
      match p, c with
      | 0, 0 | 0, 1 | 0, 2 | 1, 0 | 1, 1 | 1, 2 | 2, 0 | 2, 1 | 2, 2 => simp
      | _ + 3, 0 | _ + 3, 1 | _ + 3, 2 => simp
      | 0, c + 3 | 1, c + 3 | 2, c + 3 | _ + 3, c + 3 => simp
    · intro p
      match p with
      | 0 =>
        have hnodup : [1, 2].Nodup := by decide
        exact hnodup
      | 1 | _ + 3 => exact List.nodup_nil
      | 2 => exact List.nodup_range.map fun _ _ => Nat.add_right_cancel
    · intro p c hc
      match p with
      | 0 =>
        simp only [List.mem_cons, List.not_mem_nil, or_false] at hc ⊢
        omega
      | 1 | _ + 3 => cases hc
      | 2 =>
        simp only [List.mem_map, List.mem_range] at hc ⊢
        obtain ⟨i, hi, rfl⟩ := hc
        omega
  rank n :=
    match n with
    | 0 => 2
    | 2 => 1
    | _ => 0
  rank_lt c p h := by
    match c with
    | 0 => cases h
    | 1 | 2 => cases h; decide
    | c + 3 =>
      simp at h
      obtain ⟨-, rfl⟩ := h
      exact Nat.zero_lt_one
  rank_lt_next n hn := by
    have hthree : 3 ≤ leaves.length + 3 := Nat.le_add_left 3 _
    dsimp only
    split <;> omega
  body_below := .child .self rfl
  documentElement_lt := Nat.succ_pos _
  body_element := rfl
  text_leaf n hn := by
    match n with
    | 0 | 2 => cases hn
    | 1 | _ + 3 => rfl

/-- The script in a page it has just been put into. -/
def Page.start (page : Page) : Script where
  dom := page.dom
  documentElement := page.documentElement
  body := page.body
  allText := []
  sections := []
  sectionsIndex := 0
  foundMatches := []
  selectedVisibleMatchIndex := -1
  selectedMatchIndex := -1
  matchId := 0
  partialMatches := []
  replacements := []
  replacementsIndex := 0
  visibleMatchCount := 0
  visibleMatchesCountIndexIterator := 0
  styleElement := none
  searchInProgress := false
  searchStateIsClean := true
  hasInitialized := false
  stack := []
  regex := none
  lastCounted := []

end IosChrome.FindInPage

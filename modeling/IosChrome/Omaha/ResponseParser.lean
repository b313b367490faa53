import Mathlib.Algebra.Group.Int.Defs
import Mathlib.Algebra.Group.Nat.Defs
import Mathlib.Data.Option.Basic
import IosChrome.Omaha.OmahaService

/-!
# The parser of the server's responses

`ResponseParser` is the delegate of an `NSXMLParser`: it is told of every element that
starts, and flags remember how far the response has been read. An answer to an install
event has an `event` where an answer to a ping has an `updatecheck`, what that says and
a `ping`.

A step is `none` where the source goes through `_updateInformation` and there is none.
What it takes for a `GURL` to be valid is a parameter, and a `GURL` is the string it is
made of.
-/

namespace IosChrome.Omaha

/-! ## Elements -/

structure XmlElement where
  elementName : String
  attributeDict : List (String × String)
  deriving DecidableEq

namespace XmlElement

def valueForKey (element : XmlElement) (key : String) : Option String :=
  element.attributeDict.lookup key

def ignoredTagNames : List String := ["action", "actions", "package", "packages", "urls"]

def isIgnored (element : XmlElement) : Bool :=
  decide (element.elementName ∈ ignoredTagNames)

end XmlElement

/-- The digits a decimal number begins with. -/
def decimalValue (digits : List Char) : Int :=
  (digits.takeWhile Char.isDigit).foldl (fun n c => 10 * n + (c.toNat - '0'.toNat : Nat)) 0

/-- `integerValue` skips whitespace, is 0 without digits and stops at the bounds of an
`NSInteger`. -/
def integerValue (text : String) : Int :=
  let value : Int :=
    match text.toList.dropWhile Char.isWhitespace with
    | '-' :: digits => -decimalValue digits
    | '+' :: digits => decimalValue digits
    | digits => decimalValue digits
  max (-2 ^ 63) (min (2 ^ 63 - 1) value)

/-- An `NSInteger` in an `int`. -/
def toInt (value : Int) : Int := value.bmod (2 ^ 32)

/-- The URL without the `/` at its end. -/
def withoutSlash (url : String) : String :=
  if url.toList.getLast? = some '/' then String.ofList url.toList.dropLast else url

/-! ## The parser -/

structure ParserEnv where
  appId : String
  isValidUrl : String → Bool

/-- The members of `ResponseParser`. `upToDateKey` is the user default
`kIOSChromeUpToDateKey`, which the parser writes. -/
structure ResponseParser where
  hasError : Bool
  responseIsParsed : Bool
  appIsParsed : Bool
  updateCheckIsParsed : Bool
  urlIsParsed : Bool
  manifestIsParsed : Bool
  pingIsParsed : Bool
  eventIsParsed : Bool
  dayStartIsParsed : Bool
  serverDate : Int
  updateInformation : Option UpgradeRecommendedDetails
  upToDateKey : Option Bool
  deriving DecidableEq

namespace ResponseParser

def initWithAppId (upToDateKey : Option Bool) : ResponseParser :=
  { hasError := false, responseIsParsed := false, appIsParsed := false,
    updateCheckIsParsed := false, urlIsParsed := false, manifestIsParsed := false,
    pingIsParsed := false, eventIsParsed := false, dayStartIsParsed := false,
    serverDate := 0, updateInformation := none, upToDateKey := upToDateKey }

/-- A response has a ping ACK or an event ACK, depending on the request. -/
def isCorrect (p : ResponseParser) : Bool :=
  !p.hasError && (p.pingIsParsed || p.eventIsParsed)

def upgradeRecommendedDetails (p : ResponseParser) : Option UpgradeRecommendedDetails :=
  p.updateInformation

def fail (p : ResponseParser) : ResponseParser := { p with hasError := true }

def parseResponse (p : ResponseParser) (element : XmlElement) : ResponseParser :=
  if element.elementName = "response" ∧ element.valueForKey "protocol" = some "3.0" ∧
      element.valueForKey "server" = some "prod" then
    { p with responseIsParsed := true }
  else p.fail

def parseDayStart (p : ResponseParser) (element : XmlElement) : ResponseParser :=
  if element.elementName = "daystart" then
    -- a missing attribute is nil, whose `integerValue` is 0
    { p with
      dayStartIsParsed := true,
      serverDate := toInt (((element.valueForKey "elapsed_days").map integerValue).getD 0) }
  else p.fail

def parseApp (env : ParserEnv) (p : ResponseParser) (element : XmlElement) : ResponseParser :=
  if element.elementName = "app" ∧ element.valueForKey "status" = some "ok" ∧
      element.valueForKey "appid" = some env.appId then
    { p with appIsParsed := true }
  else p.fail

def parseUpdateCheck (p : ResponseParser) (element : XmlElement) : ResponseParser :=
  let checked : ResponseParser := { p with updateCheckIsParsed := true }
  let status := element.valueForKey "status"
  if status = some "noupdate" then
    -- neither a `url` nor a `manifest` is to come
    { checked with
      urlIsParsed := true,
      manifestIsParsed := true,
      updateInformation := some ⟨true, "", ""⟩,
      upToDateKey := some true }
  else if status = some "ok" then
    { checked with
      updateInformation := some ⟨false, "", ""⟩,
      upToDateKey := some false }
  else { checked with updateInformation := none, hasError := true }

def parseEventOrUpdateCheck (p : ResponseParser) (element : XmlElement) : ResponseParser :=
  if element.elementName = "updatecheck" then p.parseUpdateCheck element
  else if element.elementName = "event" ∧ element.valueForKey "status" = some "ok" then
    { p with eventIsParsed := true }
  else p.fail

def parseUrl (env : ParserEnv) (p : ResponseParser) (element : XmlElement) :
    Option ResponseParser :=
  let codebase := (element.valueForKey "codebase").getD ""
  if element.elementName = "url" ∧ codebase ≠ "" then
    let url := withoutSlash codebase
    p.updateInformation.map fun details =>
      { p with
        urlIsParsed := true,
        updateInformation := some { details with upgradeUrl := url },
        hasError := !env.isValidUrl url }
  else some p.fail

def parseManifest (p : ResponseParser) (element : XmlElement) : Option ResponseParser :=
  match element.valueForKey "version" with
  | some version =>
    if element.elementName = "manifest" then
      p.updateInformation.map fun details =>
        { p with
          manifestIsParsed := true,
          updateInformation := some { details with nextVersion := version } }
    else some p.fail
  | none => some p.fail

def parsePing (p : ResponseParser) (element : XmlElement) : ResponseParser :=
  if element.elementName = "ping" ∧ element.valueForKey "status" = some "ok" then
    { p with pingIsParsed := true }
  else p.fail

/-- The elements the parser waits for, one after the other. -/
def parseNext (env : ParserEnv) (p : ResponseParser) (element : XmlElement) :
    Option ResponseParser :=
  if !p.responseIsParsed then some (p.parseResponse element)
  else if !p.dayStartIsParsed then some (p.parseDayStart element)
  else if !p.appIsParsed then some (p.parseApp env element)
  else if !p.eventIsParsed && !p.updateCheckIsParsed then
    some (p.parseEventOrUpdateCheck element)
  -- after an `event` the chain goes on here, as after an `updatecheck`
  else if !p.urlIsParsed then p.parseUrl env element
  else if !p.manifestIsParsed then p.parseManifest element
  else if !p.pingIsParsed then some (p.parsePing element)
  else some p.fail

def didStartElement (env : ParserEnv) (p : ResponseParser) (element : XmlElement) :
    Option ResponseParser :=
  if p.hasError then some p
  else if element.isIgnored then some p
  else p.parseNext env element

/-- The elements of a response, in order. -/
def parse (env : ParserEnv) (p : ResponseParser) : List XmlElement → Option ResponseParser
  | [] => some p
  | element :: elements => (p.didStartElement env element).bind fun q => q.parse env elements

variable {env : ParserEnv} {p q : ResponseParser}

@[simp] theorem parse_nil : p.parse env [] = some p := rfl

theorem parse_cons (element : XmlElement) (elements : List XmlElement) :
    p.parse env (element :: elements) =
      (p.didStartElement env element).bind fun q => q.parse env elements := rfl

theorem didStartElement_failed (h : p.hasError = true) (element : XmlElement) :
    p.didStartElement env element = some p := by
  unfold didStartElement
  exact if_pos h

theorem didStartElement_ignored {element : XmlElement} (h : element.isIgnored = true) :
    p.didStartElement env element = some p := by
  unfold didStartElement
  by_cases hfailed : p.hasError = true
  · exact if_pos hfailed
  · rw [if_neg hfailed, if_pos h]

theorem didStartElement_next (h : p.hasError = false) {element : XmlElement}
    (hread : element.isIgnored = false) :
    p.didStartElement env element = p.parseNext env element := by
  unfold didStartElement
  rw [h, hread]
  rfl

/-- After an error nothing is read any more. -/
theorem parse_failed (h : p.hasError = true) (elements : List XmlElement) :
    p.parse env elements = some p := by
  induction elements with
  | nil => rfl
  | cons element elements ih =>
    rw [parse_cons, didStartElement_failed h]
    exact ih

/-- The elements without the ignored ones. -/
def significant (elements : List XmlElement) : List XmlElement :=
  elements.filter fun element => !element.isIgnored

theorem parse_significant (elements : List XmlElement) :
    p.parse env (significant elements) = p.parse env elements := by
  induction elements generalizing p with
  | nil => rfl
  | cons element elements ih =>
    cases hignored : element.isIgnored with
    | true =>
      rw [parse_cons, didStartElement_ignored hignored, Option.bind_some, ← ih]
      unfold significant
      rw [List.filter_cons_of_neg (by rw [hignored]; decide)]
    | false =>
      unfold significant at ih ⊢
      rw [List.filter_cons_of_pos (by rw [hignored]; rfl), parse_cons, parse_cons]
      exact congrArg _ (funext fun q => ih)

end ResponseParser

end IosChrome.Omaha

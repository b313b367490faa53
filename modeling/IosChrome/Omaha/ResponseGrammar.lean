import IosChrome.Omaha.ResponseParser

/-!
# The responses the parser takes

A response the parser finds correct is an acknowledged event, no update, or an update
with its URL and version, and there are details for the last two
(`ParsedAsDocumented`). The states an `event` and an `updatecheck` lead to are told
apart by nothing that `url` looks at, so a `url` after an `event` is read into details
that are not there. `parse_asDocumented_iff` says that this is the one way a sequence
of elements goes wrong.
-/

namespace IosChrome.Omaha

open XmlElement ResponseParser

/-! ## The elements of a response -/

def IsResponse (element : XmlElement) : Prop :=
  element.elementName = "response" ∧ element.valueForKey "protocol" = some "3.0" ∧
    element.valueForKey "server" = some "prod"

def IsDayStart (element : XmlElement) : Prop := element.elementName = "daystart"

def IsApp (env : ParserEnv) (element : XmlElement) : Prop :=
  element.elementName = "app" ∧ element.valueForKey "status" = some "ok" ∧
    element.valueForKey "appid" = some env.appId

def IsEvent (element : XmlElement) : Prop :=
  element.elementName = "event" ∧ element.valueForKey "status" = some "ok"

def IsUpdateCheck (status : String) (element : XmlElement) : Prop :=
  element.elementName = "updatecheck" ∧ element.valueForKey "status" = some status

def IsUrl (codebase : String) (element : XmlElement) : Prop :=
  element.elementName = "url" ∧ element.valueForKey "codebase" = some codebase ∧ codebase ≠ ""

def IsManifest (version : String) (element : XmlElement) : Prop :=
  element.elementName = "manifest" ∧ element.valueForKey "version" = some version

def IsPing (element : XmlElement) : Prop :=
  element.elementName = "ping" ∧ element.valueForKey "status" = some "ok"

instance (element : XmlElement) : Decidable (IsResponse element) :=
  inferInstanceAs (Decidable (_ ∧ _ ∧ _))

instance (element : XmlElement) : Decidable (IsDayStart element) :=
  inferInstanceAs (Decidable (_ = _))

instance (env : ParserEnv) (element : XmlElement) : Decidable (IsApp env element) :=
  inferInstanceAs (Decidable (_ ∧ _ ∧ _))

instance (element : XmlElement) : Decidable (IsEvent element) :=
  inferInstanceAs (Decidable (_ ∧ _))

instance (status : String) (element : XmlElement) : Decidable (IsUpdateCheck status element) :=
  inferInstanceAs (Decidable (_ ∧ _))

instance (element : XmlElement) : Decidable (IsPing element) :=
  inferInstanceAs (Decidable (_ ∧ _))

/-! ## The responses -/

/-- What every response begins with. -/
structure IsHead (env : ParserEnv) (response dayStart app : XmlElement) : Prop where
  response : IsResponse response
  dayStart : IsDayStart dayStart
  app : IsApp env app

def EventResponse (env : ParserEnv) (elements : List XmlElement) : Prop :=
  ∃ response dayStart app event, elements = [response, dayStart, app, event] ∧
    IsHead env response dayStart app ∧ IsEvent event

def NoUpdateResponse (env : ParserEnv) (elements : List XmlElement) : Prop :=
  ∃ response dayStart app check ping, elements = [response, dayStart, app, check, ping] ∧
    IsHead env response dayStart app ∧ IsUpdateCheck "noupdate" check ∧ IsPing ping

def UpdateResponse (env : ParserEnv) (codebase version : String)
    (elements : List XmlElement) : Prop :=
  ∃ response dayStart app check url manifest ping,
    elements = [response, dayStart, app, check, url, manifest, ping] ∧
    IsHead env response dayStart app ∧ IsUpdateCheck "ok" check ∧
    IsUrl codebase url ∧ env.isValidUrl (withoutSlash codebase) = true ∧
    IsManifest version manifest ∧ IsPing ping

/-- What the parser says of the elements that are not ignored. -/
structure ParsedAsDocumented (env : ParserEnv) (elements : List XmlElement)
    (p : ResponseParser) : Prop where
  correct : p.isCorrect = true ↔ EventResponse env elements ∨ NoUpdateResponse env elements ∨
    ∃ codebase version, UpdateResponse env codebase version elements
  present : p.isCorrect = true → (p.upgradeRecommendedDetails ≠ none ↔
    NoUpdateResponse env elements ∨
      ∃ codebase version, UpdateResponse env codebase version elements)
  noUpdate : NoUpdateResponse env elements →
    p.upgradeRecommendedDetails = some ⟨true, "", ""⟩
  update : ∀ codebase version, UpdateResponse env codebase version elements →
    p.upgradeRecommendedDetails = some ⟨false, version, withoutSlash codebase⟩

/-- The elements begin with an acknowledged event and a `url` that has a codebase. -/
def UrlAfterEvent (env : ParserEnv) (elements : List XmlElement) : Prop :=
  ∃ response dayStart app event url codebase rest,
    elements = response :: dayStart :: app :: event :: url :: rest ∧
    IsHead env response dayStart app ∧ IsEvent event ∧ IsUrl codebase url

/-- The elements begin with an update check that has an answer. -/
def AnswersCheck (env : ParserEnv) (elements : List XmlElement) : Prop :=
  ∃ response dayStart app check rest, elements = response :: dayStart :: app :: check :: rest ∧
    IsHead env response dayStart app ∧
    (IsUpdateCheck "noupdate" check ∨ IsUpdateCheck "ok" check)

/-! ## How far the response has been read -/

namespace ResponseParser

def afterResponse (key : Option Bool) : ResponseParser :=
  { initWithAppId key with responseIsParsed := true }

def afterDayStart (key : Option Bool) (date : Int) : ResponseParser :=
  { afterResponse key with dayStartIsParsed := true, serverDate := date }

def afterApp (key : Option Bool) (date : Int) : ResponseParser :=
  { afterDayStart key date with appIsParsed := true }

def afterEvent (key : Option Bool) (date : Int) : ResponseParser :=
  { afterApp key date with eventIsParsed := true }

/-- After an `updatecheck` that has an update. -/
def waitsForUrl (date : Int) : ResponseParser :=
  { afterApp (some false) date with
    updateCheckIsParsed := true, updateInformation := some ⟨false, "", ""⟩ }

def waitsForManifest (date : Int) (url : String) : ResponseParser :=
  { waitsForUrl date with
    urlIsParsed := true, updateInformation := some ⟨false, "", url⟩ }

/-- After a `manifest`, and after an `updatecheck` that has no update. -/
def waitsForPing (key : Option Bool) (date : Int) (details : UpgradeRecommendedDetails) :
    ResponseParser :=
  { afterApp key date with
    updateCheckIsParsed := true, urlIsParsed := true, manifestIsParsed := true,
    updateInformation := some details }

def afterPing (key : Option Bool) (date : Int) (details : UpgradeRecommendedDetails) :
    ResponseParser :=
  { waitsForPing key date details with pingIsParsed := true }

/-- `elapsed_days` of a `daystart`. -/
def elapsedDays (element : XmlElement) : Int :=
  toInt (((element.valueForKey "elapsed_days").map integerValue).getD 0)

/-! ## One element -/

variable {env : ParserEnv} {p q : ResponseParser} {P : Option ResponseParser → Prop}
  {element : XmlElement}

theorem parse_cons_next (h : p.hasError = false) (hread : element.isIgnored = false)
    (elements : List XmlElement) :
    p.parse env (element :: elements) =
      (p.parseNext env element).bind fun q => q.parse env elements := by
  rw [parse_cons, didStartElement_next h hread]

/-- Where the parser waits for one element, the rest is read when it comes, and nothing
when it does not. -/
theorem parse_expecting (h : p.hasError = false) (hread : element.isIgnored = false)
    {expected : Prop} [Decidable expected] {failed : ResponseParser}
    (hnext : p.parseNext env element = if expected then some q else some failed)
    (hfailed : failed.hasError = true) (hP : ¬ P (some failed)) (elements : List XmlElement) :
    P (p.parse env (element :: elements)) ↔ expected ∧ P (q.parse env elements) := by
  rw [parse_cons_next h hread, hnext]
  by_cases hexpected : expected
  · rw [if_pos hexpected, Option.bind_some]
    exact (and_iff_right hexpected).symm
  · rw [if_neg hexpected, Option.bind_some, parse_failed hfailed]
    exact iff_of_false hP fun h => hexpected h.1

/-- What is not said of a parser that has found an error. -/
def RejectsErrors (P : Option ResponseParser → Prop) : Prop :=
  ∀ failed : ResponseParser, failed.hasError = true → ¬ P (some failed)

/-- What is not said of a parser that has found an error before there were details. -/
def RejectsEarlyErrors (P : Option ResponseParser → Prop) : Prop :=
  ∀ failed : ResponseParser, failed.hasError = true → failed.updateInformation = none →
    ¬ P (some failed)

theorem RejectsErrors.early (hP : RejectsErrors P) : RejectsEarlyErrors P :=
  fun failed herror _ => hP failed herror

variable {key : Option Bool}

theorem parse_response (hread : element.isIgnored = false) (hP : RejectsEarlyErrors P)
    (elements : List XmlElement) :
    P ((initWithAppId key).parse env (element :: elements)) ↔
      IsResponse element ∧ P ((afterResponse key).parse env elements) := by
  have hnext : (initWithAppId key).parseNext env element =
      if IsResponse element then some (afterResponse key)
      else some (initWithAppId key).fail := apply_ite some _ _ _
  exact parse_expecting rfl hread hnext rfl (hP _ rfl rfl) elements

theorem parse_dayStart (hread : element.isIgnored = false) (hP : RejectsEarlyErrors P)
    (elements : List XmlElement) :
    P ((afterResponse key).parse env (element :: elements)) ↔
      IsDayStart element ∧ P ((afterDayStart key (elapsedDays element)).parse env elements) := by
  have hnext : (afterResponse key).parseNext env element =
      if IsDayStart element then some (afterDayStart key (elapsedDays element))
      else some (afterResponse key).fail := apply_ite some _ _ _
  exact parse_expecting rfl hread hnext rfl (hP _ rfl rfl) elements

theorem parse_app {date : Int} (hread : element.isIgnored = false) (hP : RejectsEarlyErrors P)
    (elements : List XmlElement) :
    P ((afterDayStart key date).parse env (element :: elements)) ↔
      IsApp env element ∧ P ((afterApp key date).parse env elements) := by
  have hnext : (afterDayStart key date).parseNext env element =
      if IsApp env element then some (afterApp key date)
      else some (afterDayStart key date).fail := apply_ite some _ _ _
  exact parse_expecting rfl hread hnext rfl (hP _ rfl rfl) elements

/-- The head of a response, and what comes after it. -/
theorem parse_head (hP : RejectsEarlyErrors P) (hinit : ¬ P (some (initWithAppId key)))
    (hresponse : ¬ P (some (afterResponse key)))
    (hdayStart : ∀ date, ¬ P (some (afterDayStart key date))) {elements : List XmlElement}
    (hread : ∀ element ∈ elements, element.isIgnored = false) :
    P ((initWithAppId key).parse env elements) ↔
      ∃ response dayStart app rest, elements = response :: dayStart :: app :: rest ∧
        IsHead env response dayStart app ∧
        P ((afterApp key (elapsedDays dayStart)).parse env rest) := by
  constructor
  · intro h
    cases elements with
    | nil => exact absurd h hinit
    | cons response elements =>
      obtain ⟨hignored, hread⟩ := List.forall_mem_cons.mp hread
      obtain ⟨hisResponse, h⟩ := (parse_response hignored hP _).mp h
      cases elements with
      | nil => exact absurd h hresponse
      | cons dayStart elements =>
        obtain ⟨hignored, hread⟩ := List.forall_mem_cons.mp hread
        obtain ⟨hisDayStart, h⟩ := (parse_dayStart hignored hP _).mp h
        cases elements with
        | nil => exact absurd h (hdayStart _)
        | cons app rest =>
          obtain ⟨hignored, -⟩ := List.forall_mem_cons.mp hread
          obtain ⟨hisApp, h⟩ := (parse_app hignored hP _).mp h
          exact ⟨response, dayStart, app, rest, rfl, ⟨hisResponse, hisDayStart, hisApp⟩, h⟩
  · rintro ⟨response, dayStart, app, rest, rfl, hhead, h⟩
    obtain ⟨hr, hread⟩ := List.forall_mem_cons.mp hread
    obtain ⟨hd, hread⟩ := List.forall_mem_cons.mp hread
    obtain ⟨ha, -⟩ := List.forall_mem_cons.mp hread
    refine (parse_response hr hP _).mpr ⟨hhead.response, ?_⟩
    refine (parse_dayStart hd hP _).mpr ⟨hhead.dayStart, ?_⟩
    exact (parse_app ha hP _).mpr ⟨hhead.app, h⟩

theorem read_rest {elements rest : List XmlElement} {response dayStart app : XmlElement}
    (hread : ∀ element ∈ elements, element.isIgnored = false)
    (hsame : elements = response :: dayStart :: app :: rest) :
    ∀ element ∈ rest, element.isIgnored = false := by
  subst hsame
  intro element hmem
  exact hread element (.tail _ (.tail _ (.tail _ hmem)))

/-! ## An event or an update check -/

/-- What comes after the head, for one thing said of the parser. -/
theorem parse_afterApp {date : Int} (hread : element.isIgnored = false) (hP : RejectsEarlyErrors P)
    (elements : List XmlElement) :
    P ((afterApp key date).parse env (element :: elements)) ↔
      (IsEvent element ∧ P ((afterEvent key date).parse env elements)) ∨
      (IsUpdateCheck "noupdate" element ∧
        P ((waitsForPing (some true) date ⟨true, "", ""⟩).parse env elements)) ∨
      (IsUpdateCheck "ok" element ∧ P ((waitsForUrl date).parse env elements)) := by
  rw [parse_cons_next rfl hread]
  change P (Option.bind (some ((afterApp key date).parseEventOrUpdateCheck element)) _) ↔ _
  rw [Option.bind_some]
  unfold parseEventOrUpdateCheck
  by_cases hcheck : element.elementName = "updatecheck"
  · have hevent : ¬ IsEvent element := fun h => absurd (h.1.symm.trans hcheck) (by decide)
    rw [if_pos hcheck]
    unfold parseUpdateCheck
    simp only
    by_cases hno : element.valueForKey "status" = some "noupdate"
    · have hok : ¬ IsUpdateCheck "ok" element := fun h =>
        absurd (hno.symm.trans h.2) (by decide)
      rw [if_pos hno]
      refine ⟨fun h => .inr (.inl ⟨⟨hcheck, hno⟩, h⟩), ?_⟩
      rintro (h | h | h)
      · exact absurd h.1 hevent
      · exact h.2
      · exact absurd h.1 hok
    · rw [if_neg hno]
      by_cases hok : element.valueForKey "status" = some "ok"
      · rw [if_pos hok]
        refine ⟨fun h => .inr (.inr ⟨⟨hcheck, hok⟩, h⟩), ?_⟩
        rintro (h | h | h)
        · exact absurd h.1 hevent
        · exact absurd h.1.2 hno
        · exact h.2
      · rw [if_neg hok, parse_failed rfl]
        refine iff_of_false (hP _ rfl rfl) ?_
        rintro (h | h | h)
        · exact hevent h.1
        · exact hno h.1.2
        · exact hok h.1.2
  · rw [if_neg hcheck]
    by_cases hevent : element.elementName = "event" ∧ element.valueForKey "status" = some "ok"
    · rw [if_pos hevent]
      refine ⟨fun h => .inl ⟨hevent, h⟩, ?_⟩
      rintro (h | h | h)
      · exact h.2
      · exact absurd h.1.1 hcheck
      · exact absurd h.1.1 hcheck
    · rw [if_neg hevent, parse_failed rfl]
      refine iff_of_false (hP _ rfl rfl) ?_
      rintro (h | h | h)
      · exact hevent h.1
      · exact hcheck h.1.1
      · exact hcheck h.1.1

/-! ## The URL and the version -/

theorem parse_url {date : Int} (hread : element.isIgnored = false) (hP : RejectsErrors P)
    (elements : List XmlElement) :
    P ((waitsForUrl date).parse env (element :: elements)) ↔
      ∃ codebase, IsUrl codebase element ∧ env.isValidUrl (withoutSlash codebase) = true ∧
        P ((waitsForManifest date (withoutSlash codebase)).parse env elements) := by
  rw [parse_cons_next rfl hread]
  change P (((waitsForUrl date).parseUrl env element).bind _) ↔ _
  unfold parseUrl
  simp only
  by_cases hurl : element.elementName = "url" ∧ (element.valueForKey "codebase").getD "" ≠ ""
  · rw [if_pos hurl]
    cases hcodebase : element.valueForKey "codebase" with
    | none =>
      rw [hcodebase] at hurl
      exact absurd rfl hurl.2
    | some codebase =>
      rw [hcodebase] at hurl
      simp only [Option.getD_some] at hurl ⊢
      change P (Option.bind (some _) _) ↔ _
      rw [Option.bind_some]
      cases hvalid : env.isValidUrl (withoutSlash codebase) with
      | true =>
        refine ⟨fun h => ⟨codebase, ⟨hurl.1, hcodebase, hurl.2⟩, hvalid, h⟩, ?_⟩
        rintro ⟨other, hother, -, h⟩
        obtain rfl := Option.some.inj (hcodebase.symm.trans hother.2.1)
        exact h
      | false =>
        rw [parse_failed rfl]
        refine iff_of_false (hP _ rfl) ?_
        rintro ⟨other, hother, hothervalid, -⟩
        obtain rfl := Option.some.inj (hcodebase.symm.trans hother.2.1)
        exact absurd (hvalid.symm.trans hothervalid) Bool.false_ne_true
  · rw [if_neg hurl, Option.bind_some, parse_failed rfl]
    refine iff_of_false (hP _ rfl) ?_
    rintro ⟨codebase, hother, -, -⟩
    exact hurl ⟨hother.1, by rw [hother.2.1]; exact hother.2.2⟩

theorem parse_manifest {date : Int} {url : String} (hread : element.isIgnored = false)
    (hP : RejectsErrors P) (elements : List XmlElement) :
    P ((waitsForManifest date url).parse env (element :: elements)) ↔
      ∃ version, IsManifest version element ∧
        P ((waitsForPing (some false) date ⟨false, version, url⟩).parse env elements) := by
  rw [parse_cons_next rfl hread]
  change P (((waitsForManifest date url).parseManifest element).bind _) ↔ _
  unfold parseManifest
  cases hversion : element.valueForKey "version" with
  | none =>
    simp only
    rw [Option.bind_some, parse_failed rfl]
    refine iff_of_false (hP _ rfl) ?_
    rintro ⟨version, hother, -⟩
    exact nomatch hversion.symm.trans hother.2
  | some version =>
    simp only
    by_cases hmanifest : element.elementName = "manifest"
    · rw [if_pos hmanifest]
      refine ⟨fun h => ⟨version, ⟨hmanifest, hversion⟩, h⟩, ?_⟩
      rintro ⟨other, hother, h⟩
      obtain rfl := Option.some.inj (hversion.symm.trans hother.2)
      exact h
    · rw [if_neg hmanifest, Option.bind_some, parse_failed rfl]
      refine iff_of_false (hP _ rfl) ?_
      rintro ⟨other, hother, -⟩
      exact hmanifest hother.1

theorem parse_ping {date : Int} {details : UpgradeRecommendedDetails}
    (hread : element.isIgnored = false) (hP : RejectsErrors P) (elements : List XmlElement) :
    P ((waitsForPing key date details).parse env (element :: elements)) ↔
      IsPing element ∧ P ((afterPing key date details).parse env elements) := by
  have hnext : (waitsForPing key date details).parseNext env element =
      if IsPing element then some (afterPing key date details)
      else some (waitsForPing key date details).fail := apply_ite some _ _ _
  exact parse_expecting rfl hread hnext rfl (hP _ rfl) elements

/-- Whatever comes when all has been read is an error. -/
theorem parse_afterPing {date : Int} {details : UpgradeRecommendedDetails}
    (hread : element.isIgnored = false) (hP : RejectsErrors P) (elements : List XmlElement) :
    ¬ P ((afterPing key date details).parse env (element :: elements)) := by
  rw [parse_cons_next rfl hread]
  change ¬ P (Option.bind (some (afterPing key date details).fail) _)
  rw [Option.bind_some, parse_failed rfl]
  exact hP _ rfl

end ResponseParser

end IosChrome.Omaha

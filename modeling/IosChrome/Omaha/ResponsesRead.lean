import IosChrome.Omaha.ResponseGrammar

/-!
# Which responses are read

Details that are there stay there, so nothing goes wrong after an `updatecheck`
(`HasDetails`). What is read of a response follows its elements one by one:
`reads_iff` has the responses that are found correct, and `parse_eq_none_iff` those on
which the parser reaches for details it does not have.
-/

namespace IosChrome.Omaha

open ResponseParser

variable {env : ParserEnv} {p : ResponseParser} {element : XmlElement}
  {elements : List XmlElement}

/-! ## Details stay -/

/-- The parser has got past an `updatecheck`. -/
structure HasDetails (p : ResponseParser) : Prop where
  response : p.responseIsParsed = true
  dayStart : p.dayStartIsParsed = true
  app : p.appIsParsed = true
  updateCheck : p.updateCheckIsParsed = true
  details : ∃ details, p.updateInformation = some details

namespace HasDetails

theorem parseUrl (h : HasDetails p) (element : XmlElement) :
    ∃ q, p.parseUrl env element = some q ∧ HasDetails q := by
  obtain ⟨details, hdetails⟩ := h.details
  unfold ResponseParser.parseUrl
  simp only [hdetails, Option.map_some]
  split
  · exact ⟨_, rfl, { h with details := ⟨_, rfl⟩ }⟩
  · exact ⟨_, rfl, { h with }⟩

theorem parseManifest (h : HasDetails p) (element : XmlElement) :
    ∃ q, p.parseManifest element = some q ∧ HasDetails q := by
  obtain ⟨details, hdetails⟩ := h.details
  unfold ResponseParser.parseManifest
  simp only [hdetails, Option.map_some]
  split
  · split
    · exact ⟨_, rfl, { h with details := ⟨_, rfl⟩ }⟩
    · exact ⟨_, rfl, { h with }⟩
  · exact ⟨_, rfl, { h with }⟩

theorem parsePing (h : HasDetails p) (element : XmlElement) :
    HasDetails (p.parsePing element) := by
  unfold ResponseParser.parsePing
  split
  · exact { h with }
  · exact { h with }

theorem parseNext (h : HasDetails p) (element : XmlElement) :
    ∃ q, p.parseNext env element = some q ∧ HasDetails q := by
  unfold ResponseParser.parseNext
  rw [h.response, h.dayStart, h.app, h.updateCheck]
  simp only [Bool.not_true, Bool.and_false, Bool.false_eq_true, if_false]
  by_cases hurl : p.urlIsParsed = true
  · by_cases hmanifest : p.manifestIsParsed = true
    · by_cases hping : p.pingIsParsed = true
      · exact ⟨p.fail, by simp [hurl, hmanifest, hping], { h with }⟩
      · exact ⟨p.parsePing element, by simp [hurl, hmanifest, hping], h.parsePing element⟩
    · simpa [hurl, hmanifest] using h.parseManifest element
  · simpa [hurl] using h.parseUrl element

theorem didStartElement (env : ParserEnv) (h : HasDetails p) (element : XmlElement) :
    ∃ q, p.didStartElement env element = some q ∧ HasDetails q := by
  unfold ResponseParser.didStartElement
  split
  · exact ⟨p, rfl, h⟩
  · split
    · exact ⟨p, rfl, h⟩
    · exact h.parseNext element

theorem parse (env : ParserEnv) (h : HasDetails p) (elements : List XmlElement) :
    ∃ q, p.parse env elements = some q ∧ HasDetails q := by
  induction elements generalizing p with
  | nil => exact ⟨p, rfl, h⟩
  | cons element elements ih =>
    obtain ⟨q, hq, hkept⟩ := h.didStartElement env element
    obtain ⟨r, hr, hend⟩ := ih hkept
    exact ⟨r, by rw [parse_cons, hq, Option.bind_some, hr], hend⟩

end HasDetails

theorem hasDetails_waitsForUrl (date : Int) : HasDetails (waitsForUrl date) :=
  ⟨rfl, rfl, rfl, rfl, _, rfl⟩

theorem hasDetails_waitsForPing (key : Option Bool) (date : Int)
    (details : UpgradeRecommendedDetails) : HasDetails (waitsForPing key date details) :=
  ⟨rfl, rfl, rfl, rfl, _, rfl⟩

/-! ## After an event -/

variable {key : Option Bool}

theorem parseUrl_afterEvent {date : Int} {codebase : String} (h : IsUrl codebase element) :
    (afterEvent key date).parseUrl env element = none := by
  unfold ResponseParser.parseUrl
  simp only
  rw [if_pos ⟨h.1, by rw [h.2.1]; exact h.2.2⟩]
  rfl

theorem parseUrl_other {q : ResponseParser} (h : ∀ codebase, ¬ IsUrl codebase element) :
    q.parseUrl env element = some q.fail := by
  unfold ResponseParser.parseUrl
  simp only
  refine if_neg fun hurl => ?_
  cases hcodebase : element.valueForKey "codebase" with
  | none =>
    rw [hcodebase] at hurl
    exact hurl.2 rfl
  | some codebase =>
    rw [hcodebase] at hurl
    exact h codebase ⟨hurl.1, hcodebase, hurl.2⟩

/-- A `url` with a codebase is read into no details, and all else is an error. -/
theorem parse_afterEvent (env : ParserEnv) {date : Int} (hread : element.isIgnored = false)
    (elements : List XmlElement) :
    ((∃ codebase, IsUrl codebase element) ∧
      (afterEvent key date).parse env (element :: elements) = none) ∨
    ((¬ ∃ codebase, IsUrl codebase element) ∧
      (afterEvent key date).parse env (element :: elements) =
        some (afterEvent key date).fail) := by
  have hnext : (afterEvent key date).parseNext env element =
      (afterEvent key date).parseUrl env element := rfl
  rw [parse_cons_next rfl hread, hnext]
  by_cases hurl : ∃ codebase, IsUrl codebase element
  · obtain ⟨codebase, hcodebase⟩ := hurl
    exact .inl ⟨⟨codebase, hcodebase⟩, by rw [parseUrl_afterEvent hcodebase]; rfl⟩
  · refine .inr ⟨hurl, ?_⟩
    rw [parseUrl_other (not_exists.mp hurl), Option.bind_some, parse_failed rfl]

/-! ## The correct responses -/

/-- The parser ends, finds the response correct and has these details. -/
def Reads (details : Option UpgradeRecommendedDetails) (result : Option ResponseParser) : Prop :=
  ∃ p, result = some p ∧ p.isCorrect = true ∧ p.upgradeRecommendedDetails = details

variable {details : Option UpgradeRecommendedDetails}

theorem reads_some : Reads details (some p) ↔
    p.isCorrect = true ∧ p.upgradeRecommendedDetails = details :=
  ⟨fun ⟨_, hp, h⟩ => Option.some.inj hp ▸ h, fun h => ⟨p, rfl, h⟩⟩

theorem reads_rejectsErrors : RejectsErrors (Reads details) := by
  intro failed herror h
  have hcorrect := (reads_some.mp h).1
  unfold isCorrect at hcorrect
  rw [herror] at hcorrect
  exact Bool.false_ne_true hcorrect

theorem reads_waitsForPing {date : Int} {found : UpgradeRecommendedDetails}
    (hread : ∀ element ∈ elements, element.isIgnored = false) :
    Reads details ((waitsForPing key date found).parse env elements) ↔
      ∃ ping, elements = [ping] ∧ IsPing ping ∧ details = some found := by
  constructor
  · intro h
    cases elements with
    | nil => exact absurd (reads_some.mp h).1 Bool.false_ne_true
    | cons ping elements =>
      obtain ⟨hignored, hread⟩ := List.forall_mem_cons.mp hread
      obtain ⟨hping, h⟩ := (parse_ping hignored reads_rejectsErrors _).mp h
      cases elements with
      | nil => exact ⟨ping, rfl, hping, (reads_some.mp h).2.symm⟩
      | cons element elements =>
        obtain ⟨hignored, -⟩ := List.forall_mem_cons.mp hread
        exact absurd h (parse_afterPing hignored reads_rejectsErrors _)
  · rintro ⟨ping, rfl, hping, rfl⟩
    obtain ⟨hignored, -⟩ := List.forall_mem_cons.mp hread
    exact (parse_ping hignored reads_rejectsErrors _).mpr ⟨hping, reads_some.mpr ⟨rfl, rfl⟩⟩

theorem reads_waitsForManifest {date : Int} {url : String}
    (hread : ∀ element ∈ elements, element.isIgnored = false) :
    Reads details ((waitsForManifest date url).parse env elements) ↔
      ∃ version manifest ping, elements = [manifest, ping] ∧ IsManifest version manifest ∧
        IsPing ping ∧ details = some ⟨false, version, url⟩ := by
  constructor
  · intro h
    cases elements with
    | nil => exact absurd (reads_some.mp h).1 Bool.false_ne_true
    | cons manifest elements =>
      obtain ⟨hignored, hread⟩ := List.forall_mem_cons.mp hread
      obtain ⟨version, hmanifest, h⟩ := (parse_manifest hignored reads_rejectsErrors _).mp h
      obtain ⟨ping, rfl, hping, hdetails⟩ := (reads_waitsForPing hread).mp h
      exact ⟨version, manifest, ping, rfl, hmanifest, hping, hdetails⟩
  · rintro ⟨version, manifest, ping, rfl, hmanifest, hping, hdetails⟩
    obtain ⟨hignored, hread⟩ := List.forall_mem_cons.mp hread
    refine (parse_manifest hignored reads_rejectsErrors _).mpr ⟨version, hmanifest, ?_⟩
    exact (reads_waitsForPing hread).mpr ⟨ping, rfl, hping, hdetails⟩

theorem reads_waitsForUrl {date : Int}
    (hread : ∀ element ∈ elements, element.isIgnored = false) :
    Reads details ((waitsForUrl date).parse env elements) ↔
      ∃ codebase version url manifest ping, elements = [url, manifest, ping] ∧
        IsUrl codebase url ∧ env.isValidUrl (withoutSlash codebase) = true ∧
        IsManifest version manifest ∧ IsPing ping ∧
        details = some ⟨false, version, withoutSlash codebase⟩ := by
  constructor
  · intro h
    cases elements with
    | nil => exact absurd (reads_some.mp h).1 Bool.false_ne_true
    | cons url elements =>
      obtain ⟨hignored, hread⟩ := List.forall_mem_cons.mp hread
      obtain ⟨codebase, hurl, hvalid, h⟩ := (parse_url hignored reads_rejectsErrors _).mp h
      obtain ⟨version, manifest, ping, rfl, hmanifest, hping, hdetails⟩ :=
        (reads_waitsForManifest hread).mp h
      exact ⟨codebase, version, url, manifest, ping, rfl, hurl, hvalid, hmanifest, hping,
        hdetails⟩
  · rintro ⟨codebase, version, url, manifest, ping, rfl, hurl, hvalid, hmanifest, hping,
      hdetails⟩
    obtain ⟨hignored, hread⟩ := List.forall_mem_cons.mp hread
    refine (parse_url hignored reads_rejectsErrors _).mpr ⟨codebase, hurl, hvalid, ?_⟩
    exact (reads_waitsForManifest hread).mpr
      ⟨version, manifest, ping, rfl, hmanifest, hping, hdetails⟩

theorem reads_afterEvent {date : Int} (hread : ∀ element ∈ elements, element.isIgnored = false) :
    Reads details ((afterEvent key date).parse env elements) ↔
      elements = [] ∧ details = none := by
  cases elements with
  | nil =>
    rw [parse_nil, reads_some]
    exact ⟨fun h => ⟨rfl, h.2.symm⟩, fun h => ⟨rfl, h.2.symm⟩⟩
  | cons element elements =>
    obtain ⟨hignored, -⟩ := List.forall_mem_cons.mp hread
    refine iff_of_false ?_ fun h => nomatch h.1
    obtain ⟨-, hparse⟩ | ⟨-, hparse⟩ := parse_afterEvent env hignored elements
    · rw [hparse]
      rintro ⟨p, hp, -⟩
      exact nomatch hp
    · rw [hparse]
      exact reads_rejectsErrors _ rfl

theorem reads_afterApp {date : Int} (hread : ∀ element ∈ elements, element.isIgnored = false) :
    Reads details ((afterApp key date).parse env elements) ↔
      (∃ event, elements = [event] ∧ IsEvent event ∧ details = none) ∨
      (∃ check ping, elements = [check, ping] ∧ IsUpdateCheck "noupdate" check ∧ IsPing ping ∧
        details = some ⟨true, "", ""⟩) ∨
      (∃ codebase version check url manifest ping, elements = [check, url, manifest, ping] ∧
        IsUpdateCheck "ok" check ∧ IsUrl codebase url ∧
        env.isValidUrl (withoutSlash codebase) = true ∧ IsManifest version manifest ∧
        IsPing ping ∧ details = some ⟨false, version, withoutSlash codebase⟩) := by
  cases elements with
  | nil =>
    refine iff_of_false (fun h => Bool.false_ne_true (reads_some.mp h).1) ?_
    rintro (⟨_, h, -⟩ | ⟨_, _, h, -⟩ | ⟨_, _, _, _, _, _, h, -⟩) <;> exact nomatch h
  | cons first elements =>
    obtain ⟨hignored, hread⟩ := List.forall_mem_cons.mp hread
    rw [parse_afterApp hignored reads_rejectsErrors.early, reads_afterEvent hread,
      reads_waitsForPing hread, reads_waitsForUrl hread]
    constructor
    · rintro (⟨hevent, rfl, hdetails⟩ | ⟨hcheck, ping, rfl, hping, hdetails⟩ |
        ⟨hcheck, codebase, version, url, manifest, ping, rfl, h⟩)
      · exact .inl ⟨first, rfl, hevent, hdetails⟩
      · exact .inr (.inl ⟨first, ping, rfl, hcheck, hping, hdetails⟩)
      · exact .inr (.inr ⟨codebase, version, first, url, manifest, ping, rfl, hcheck, h⟩)
    · rintro (⟨event, hsame, hevent, hdetails⟩ | ⟨check, ping, hsame, hcheck, hping, hdetails⟩ |
        ⟨codebase, version, check, url, manifest, ping, hsame, hcheck, h⟩)
      · obtain ⟨rfl, rfl⟩ := List.cons.inj hsame
        exact .inl ⟨hevent, rfl, hdetails⟩
      · obtain ⟨rfl, rfl⟩ := List.cons.inj hsame
        exact .inr (.inl ⟨hcheck, ping, rfl, hping, hdetails⟩)
      · obtain ⟨rfl, rfl⟩ := List.cons.inj hsame
        exact .inr (.inr ⟨hcheck, codebase, version, url, manifest, ping, rfl, h⟩)

/-- The responses that are found correct, and the details of each. -/
theorem reads_iff (hread : ∀ element ∈ elements, element.isIgnored = false) :
    Reads details ((initWithAppId key).parse env elements) ↔
      (EventResponse env elements ∧ details = none) ∨
      (NoUpdateResponse env elements ∧ details = some ⟨true, "", ""⟩) ∨
      (∃ codebase version, UpdateResponse env codebase version elements ∧
        details = some ⟨false, version, withoutSlash codebase⟩) := by
  have hnever : ∀ q : ResponseParser, q.isCorrect = false → ¬ Reads details (some q) :=
    fun q hq h => Bool.false_ne_true (hq.symm.trans (reads_some.mp h).1)
  rw [parse_head reads_rejectsErrors.early (hnever _ rfl) (hnever _ rfl)
    (fun _ => hnever _ rfl) hread]
  constructor
  · rintro ⟨response, dayStart, app, rest, rfl, hhead, h⟩
    have hrest := read_rest hread rfl
    obtain ⟨event, rfl, hevent, hdetails⟩ | ⟨check, ping, rfl, hcheck, hping, hdetails⟩ |
      ⟨codebase, version, check, url, manifest, ping, rfl, hcheck, hurl, hvalid, hmanifest,
        hping, hdetails⟩ := (reads_afterApp hrest).mp h
    · exact .inl ⟨⟨response, dayStart, app, event, rfl, hhead, hevent⟩, hdetails⟩
    · exact .inr (.inl ⟨⟨response, dayStart, app, check, ping, rfl, hhead, hcheck, hping⟩,
        hdetails⟩)
    · exact .inr (.inr ⟨codebase, version, ⟨response, dayStart, app, check, url, manifest, ping,
        rfl, hhead, hcheck, hurl, hvalid, hmanifest, hping⟩, hdetails⟩)
  · rintro (⟨⟨response, dayStart, app, event, rfl, hhead, hevent⟩, hdetails⟩ |
      ⟨⟨response, dayStart, app, check, ping, rfl, hhead, hcheck, hping⟩, hdetails⟩ |
      ⟨codebase, version, ⟨response, dayStart, app, check, url, manifest, ping, rfl, hhead,
        hcheck, hurl, hvalid, hmanifest, hping⟩, hdetails⟩)
    · refine ⟨response, dayStart, app, [event], rfl, hhead, ?_⟩
      exact (reads_afterApp (read_rest hread rfl)).mpr (.inl ⟨event, rfl, hevent, hdetails⟩)
    · refine ⟨response, dayStart, app, [check, ping], rfl, hhead, ?_⟩
      exact (reads_afterApp (read_rest hread rfl)).mpr
        (.inr (.inl ⟨check, ping, rfl, hcheck, hping, hdetails⟩))
    · refine ⟨response, dayStart, app, [check, url, manifest, ping], rfl, hhead, ?_⟩
      exact (reads_afterApp (read_rest hread rfl)).mpr (.inr (.inr ⟨codebase, version, check,
        url, manifest, ping, rfl, hcheck, hurl, hvalid, hmanifest, hping, hdetails⟩))

/-! ## The details that are not there -/

theorem rejectsErrors_none : RejectsErrors (· = none) := fun _ _ h => nomatch h

/-- The parser reaches for details it does not have. -/
theorem parse_eq_none_iff (key : Option Bool)
    (hread : ∀ element ∈ elements, element.isIgnored = false) :
    (initWithAppId key).parse env elements = none ↔ UrlAfterEvent env elements := by
  have hhead := @parse_head env (· = none) key rejectsErrors_none.early
    (Option.some_ne_none _) (Option.some_ne_none _) (fun _ => Option.some_ne_none _) _
    hread
  refine hhead.trans ?_
  constructor
  · rintro ⟨response, dayStart, app, rest, hsame, hhead, h⟩
    cases rest with
    | nil => exact nomatch h
    | cons event rest =>
      obtain ⟨hignored, hread⟩ := List.forall_mem_cons.mp (read_rest hread hsame)
      obtain ⟨hevent, h⟩ | ⟨-, h⟩ | ⟨-, h⟩ :=
        (parse_afterApp (P := (· = none)) hignored rejectsErrors_none.early _).mp h
      · cases rest with
        | nil => exact nomatch h
        | cons url rest =>
          obtain ⟨⟨codebase, hurl⟩, -⟩ | ⟨-, hparse⟩ :=
            parse_afterEvent env (hread url (.head _)) rest
          · exact ⟨response, dayStart, app, event, url, codebase, rest, hsame, hhead, hevent, hurl⟩
          · exact nomatch hparse.symm.trans h
      · obtain ⟨q, hq, -⟩ := (hasDetails_waitsForPing _ _ _).parse env rest
        exact nomatch hq.symm.trans h
      · obtain ⟨q, hq, -⟩ := (hasDetails_waitsForUrl _).parse env rest
        exact nomatch hq.symm.trans h
  · rintro ⟨response, dayStart, app, event, url, codebase, rest, hsame, hhead, hevent, hurl⟩
    refine ⟨response, dayStart, app, event :: url :: rest, hsame, hhead, ?_⟩
    obtain ⟨hignored, hread⟩ := List.forall_mem_cons.mp (read_rest hread hsame)
    refine (parse_afterApp (P := (· = none)) hignored rejectsErrors_none.early _).mpr
      (.inl ⟨hevent, ?_⟩)
    obtain ⟨-, hparse⟩ | ⟨hnone, -⟩ := parse_afterEvent env (hread url (.head _)) rest
    · exact hparse
    · exact absurd ⟨codebase, hurl⟩ hnone

/-- The parser ends with details. -/
def EndsWithDetails (result : Option ResponseParser) : Prop :=
  ∃ p details, result = some p ∧ p.upgradeRecommendedDetails = some details

theorem HasDetails.endsWithDetails (h : HasDetails p) (elements : List XmlElement) :
    EndsWithDetails (p.parse env elements) := by
  obtain ⟨q, hq, hdetails⟩ := h.parse env elements
  obtain ⟨details, hsome⟩ := hdetails.details
  exact ⟨q, details, hq, hsome⟩

theorem not_endsWithDetails (h : p.updateInformation = none) : ¬ EndsWithDetails (some p) := by
  rintro ⟨q, details, hsame, hdetails⟩
  obtain rfl := Option.some.inj hsame
  exact nomatch h.symm.trans hdetails

theorem endsWithDetails_rejectsEarlyErrors : RejectsEarlyErrors EndsWithDetails :=
  fun _ _ hnone => not_endsWithDetails hnone

/-- There are details from an answered `updatecheck` on, also where the rest is wrong. -/
theorem endsWithDetails_iff (hread : ∀ element ∈ elements, element.isIgnored = false) :
    EndsWithDetails ((initWithAppId key).parse env elements) ↔ AnswersCheck env elements := by
  rw [parse_head endsWithDetails_rejectsEarlyErrors (not_endsWithDetails rfl)
    (not_endsWithDetails rfl) (fun _ => not_endsWithDetails rfl) hread]
  constructor
  · rintro ⟨response, dayStart, app, rest, hsame, hhead, h⟩
    cases rest with
    | nil => exact absurd h (not_endsWithDetails rfl)
    | cons first rest =>
      obtain ⟨hignored, hread⟩ := List.forall_mem_cons.mp (read_rest hread hsame)
      obtain ⟨-, h⟩ | ⟨hcheck, -⟩ | ⟨hcheck, -⟩ :=
        (parse_afterApp hignored endsWithDetails_rejectsEarlyErrors _).mp h
      · cases rest with
        | nil => exact absurd h (not_endsWithDetails rfl)
        | cons url rest =>
          obtain ⟨-, hparse⟩ | ⟨-, hparse⟩ :=
            parse_afterEvent env (hread url (.head _)) rest
          · rw [hparse] at h
            obtain ⟨q, details, hsome, -⟩ := h
            exact nomatch hsome
          · rw [hparse] at h
            exact absurd h (not_endsWithDetails rfl)
      · exact ⟨response, dayStart, app, first, rest, hsame, hhead, .inl hcheck⟩
      · exact ⟨response, dayStart, app, first, rest, hsame, hhead, .inr hcheck⟩
  · rintro ⟨response, dayStart, app, check, rest, hsame, hhead, hcheck⟩
    refine ⟨response, dayStart, app, check :: rest, hsame, hhead, ?_⟩
    obtain ⟨hignored, -⟩ := List.forall_mem_cons.mp (read_rest hread hsame)
    refine (parse_afterApp hignored endsWithDetails_rejectsEarlyErrors _).mpr (.inr ?_)
    obtain hno | hok := hcheck
    · exact .inl ⟨hno, (hasDetails_waitsForPing _ _ _).endsWithDetails rest⟩
    · exact .inr ⟨hok, (hasDetails_waitsForUrl _).endsWithDetails rest⟩

/-! ## What the parser says -/

theorem significant_read (elements : List XmlElement) :
    ∀ element ∈ significant elements, element.isIgnored = false := by
  intro element hmem
  simpa using (List.mem_filter.mp hmem).2

/-- What is read is what is documented, where the parser ends. -/
theorem parsedAsDocumented (hread : ∀ element ∈ elements, element.isIgnored = false)
    (hp : (initWithAppId key).parse env elements = some p) :
    ParsedAsDocumented env elements p := by
  have hreads : ∀ details, p.isCorrect = true ∧ p.upgradeRecommendedDetails = details ↔
      (EventResponse env elements ∧ details = none) ∨
      (NoUpdateResponse env elements ∧ details = some ⟨true, "", ""⟩) ∨
      (∃ codebase version, UpdateResponse env codebase version elements ∧
        details = some ⟨false, version, withoutSlash codebase⟩) := by
    intro details
    rw [← reads_some, ← hp]
    exact reads_iff hread
  refine ⟨⟨fun hcorrect => ?_, ?_⟩, fun hcorrect => ⟨fun hdetails => ?_, ?_⟩, ?_, ?_⟩
  · obtain ⟨h, -⟩ | ⟨h, -⟩ | ⟨codebase, version, h, -⟩ := (hreads _).mp ⟨hcorrect, rfl⟩
    · exact .inl h
    · exact .inr (.inl h)
    · exact .inr (.inr ⟨codebase, version, h⟩)
  · rintro (h | h | ⟨codebase, version, h⟩)
    · exact ((hreads _).mpr (.inl ⟨h, rfl⟩)).1
    · exact ((hreads _).mpr (.inr (.inl ⟨h, rfl⟩))).1
    · exact ((hreads _).mpr (.inr (.inr ⟨codebase, version, h, rfl⟩))).1
  · obtain ⟨-, hnone⟩ | ⟨h, -⟩ | ⟨codebase, version, h, -⟩ := (hreads _).mp ⟨hcorrect, rfl⟩
    · exact absurd hnone hdetails
    · exact .inl h
    · exact .inr ⟨codebase, version, h⟩
  · rintro (h | ⟨codebase, version, h⟩)
    · rw [((hreads _).mpr (.inr (.inl ⟨h, rfl⟩))).2]
      exact Option.some_ne_none _
    · rw [((hreads _).mpr (.inr (.inr ⟨codebase, version, h, rfl⟩))).2]
      exact Option.some_ne_none _
  · exact fun h => ((hreads _).mpr (.inr (.inl ⟨h, rfl⟩))).2
  · exact fun codebase version h =>
      ((hreads _).mpr (.inr (.inr ⟨codebase, version, h, rfl⟩))).2

/-- The parser never reaches for details that are not there and says what is
documented, unless a `url` comes after an event. The details are there from an answered
`updatecheck` on. -/
theorem parse_asDocumented_iff (env : ParserEnv) (key : Option Bool)
    (elements : List XmlElement) :
    ((∃ p, (initWithAppId key).parse env elements = some p ∧
        ParsedAsDocumented env (significant elements) p) ↔
      ¬ UrlAfterEvent env (significant elements)) ∧
    (EndsWithDetails ((initWithAppId key).parse env elements) ↔
      AnswersCheck env (significant elements)) := by
  have hread := significant_read elements
  rw [← parse_significant, ← parse_eq_none_iff key hread]
  refine ⟨⟨?_, fun hends => ?_⟩, endsWithDetails_iff hread⟩
  · rintro ⟨p, hp, -⟩ hnone
    exact nomatch hp.symm.trans hnone
  · obtain ⟨p, hp⟩ := Option.ne_none_iff_exists'.mp hends
    exact ⟨p, hp, parsedAsDocumented hread hp⟩

/-- The parser of an application, and a head for its responses. -/
def exampleParserEnv : ParserEnv where
  appId := "app"
  isValidUrl := fun url => url.startsWith "http"

def exampleHead : List XmlElement :=
  [⟨"response", [("protocol", "3.0"), ("server", "prod")]⟩,
   ⟨"daystart", [("elapsed_days", "4088")]⟩,
   ⟨"app", [("status", "ok"), ("appid", "app")]⟩]

/-- An acknowledged event, and a `url`. -/
theorem urlAfterEvent_notDocumented :
    ¬ ∃ p, (initWithAppId none).parse exampleParserEnv (exampleHead ++
        [⟨"event", [("status", "ok")]⟩, ⟨"url", [("codebase", "http://www.goo.fr/foo/")]⟩]) =
      some p := by
  rintro ⟨p, hp⟩
  exact nomatch hp

end IosChrome.Omaha

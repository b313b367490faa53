import IosChrome.JsMessaging.FrameChannel

/-!
# What an honest page logs

The page of an encrypted frame that gets the payloads as they were sealed, each message
with its own function. `Honest` is what such a page keeps: it accepts an id for one request,
it runs the function of the request it has accepted, and it answers with what the function
has returned.
-/

namespace IosChrome.JsMessaging

variable {V : Type}

/-- A request whose function has been run. -/
def FrameRequest.executed (request : FrameRequest V) (outcome : Outcome V) :
    PageEvent (Payload V) V :=
  .executed (.message request) (.function request) request.messageId request.functionName
    request.parameters outcome

def FrameRequest.accepted (request : FrameRequest V) : PageEvent (Payload V) V :=
  .accepted (.message request) request.messageId

namespace Page

/-- The page has got requests only, each payload with its own. -/
structure Honest (requests : List (FrameRequest V)) (p : Page (Payload V) V) : Prop where
  messageJobs : ∀ job ∈ p.messageJobs, ∃ request ∈ requests,
    job = (.message request, some (.function request))
  functionJobs : ∀ job ∈ p.functionJobs, ∃ request ∈ requests,
    job.message = .message request ∧ job.function = .function request ∧
      job.messageId = request.messageId ∧ request.accepted ∈ p.log
  below : ∀ message (messageId : Int), .accepted message messageId ∈ p.log →
    messageId ≤ p.lastReceivedMessageId
  accepted : ∀ message other (messageId : Int), .accepted message messageId ∈ p.log →
    .accepted other messageId ∈ p.log → message = other
  executed : ∀ message function (messageId : Int) functionName parameters outcome,
    .executed message function messageId functionName parameters outcome ∈ p.log →
      .accepted message messageId ∈ p.log
  replied : ∀ message (messageId : Int) result, .replied message messageId result ∈ p.log →
    ∃ request ∈ requests, message = .message request ∧ messageId = request.messageId ∧
      request.accepted ∈ p.log ∧
      ∀ value, result = some value → request.executed (.returned (some value)) ∈ p.log

variable {requests : List (FrameRequest V)} {p : Page (Payload V) V}

theorem create_honest (frameSymmetricKey : Bool) :
    (create frameSymmetricKey : Page (Payload V) V).Honest requests where
  messageJobs := fun _ hmem => nomatch hmem
  functionJobs := fun _ hmem => nomatch hmem
  below := fun _ _ hmem => nomatch hmem
  accepted := fun _ _ _ hmem => nomatch hmem
  executed := fun _ _ _ _ _ _ hmem => nomatch hmem
  replied := fun _ _ _ hmem => nomatch hmem

theorem Honest.mono (h : p.Honest requests) {more : List (FrameRequest V)}
    (hmore : ∀ request ∈ requests, request ∈ more) : p.Honest more where
  messageJobs := by
    intro job hjob
    obtain ⟨request, hrequest, hpayloads⟩ := h.messageJobs job hjob
    exact ⟨request, hmore request hrequest, hpayloads⟩
  functionJobs := by
    intro job hjob
    obtain ⟨request, hrequest, hpayloads⟩ := h.functionJobs job hjob
    exact ⟨request, hmore request hrequest, hpayloads⟩
  below := h.below
  accepted := h.accepted
  executed := h.executed
  replied := by
    intro message messageId result hmem
    obtain ⟨request, hrequest, hreply⟩ := h.replied message messageId result hmem
    exact ⟨request, hmore request hrequest, hreply⟩

/-! ## What is logged -/

theorem Honest.accept (h : p.Honest requests) (request : FrameRequest V)
    (hnew : p.lastReceivedMessageId < request.messageId) :
    ({ p with
        lastReceivedMessageId := request.messageId,
        log := p.log ++ [request.accepted] } : Page (Payload V) V).Honest requests where
  messageJobs := h.messageJobs
  functionJobs := by
    intro job hjob
    obtain ⟨own, hown, hmessage, hfunction, hid, haccepted⟩ := h.functionJobs job hjob
    exact ⟨own, hown, hmessage, hfunction, hid, List.mem_append_left _ haccepted⟩
  below := by
    intro message messageId hmem
    show messageId ≤ (request.messageId : Int)
    rcases List.mem_append.1 hmem with hmem | hmem
    · have hle := h.below message messageId hmem
      omega
    · obtain ⟨-, rfl⟩ := PageEvent.accepted.inj (List.mem_singleton.1 hmem)
      exact Int.le_refl _
  accepted := by
    intro message other messageId hmessage hother
    -- an id that was accepted before is lower than this one
    rcases List.mem_append.1 hmessage with hmessage | hmessage <;>
      rcases List.mem_append.1 hother with hother | hother
    · exact h.accepted message other messageId hmessage hother
    · obtain ⟨-, rfl⟩ := PageEvent.accepted.inj (List.mem_singleton.1 hother)
      have hle := h.below message _ hmessage
      omega
    · obtain ⟨-, rfl⟩ := PageEvent.accepted.inj (List.mem_singleton.1 hmessage)
      have hle := h.below other _ hother
      omega
    · obtain ⟨rfl, -⟩ := PageEvent.accepted.inj (List.mem_singleton.1 hmessage)
      obtain ⟨rfl, -⟩ := PageEvent.accepted.inj (List.mem_singleton.1 hother)
      rfl
  executed := by
    intro message function messageId functionName parameters outcome hmem
    have hold := (List.mem_append.1 hmem).resolve_right fun hlast =>
      nomatch List.mem_singleton.1 hlast
    exact List.mem_append_left _ (h.executed _ _ _ _ _ _ hold)
  replied := by
    intro message messageId result hmem
    have hold := (List.mem_append.1 hmem).resolve_right fun hlast =>
      nomatch List.mem_singleton.1 hlast
    obtain ⟨own, hown, hmessage, hid, haccepted, hexecuted⟩ := h.replied _ _ _ hold
    exact ⟨own, hown, hmessage, hid, List.mem_append_left _ haccepted, fun value hvalue =>
      List.mem_append_left _ (hexecuted value hvalue)⟩

/-- An event of a request that has been accepted. -/
theorem Honest.append (h : p.Honest requests) {event : PageEvent (Payload V) V}
    (haccepted : ∀ message messageId, event ≠ .accepted message messageId)
    (hexecuted : ∀ message function (messageId : Int) functionName parameters outcome,
      event = .executed message function messageId functionName parameters outcome →
        .accepted message messageId ∈ p.log)
    (hreplied : ∀ message (messageId : Int) result, event = .replied message messageId result →
      ∃ request ∈ requests, message = .message request ∧ messageId = request.messageId ∧
        request.accepted ∈ p.log ∧
        ∀ value, result = some value → request.executed (.returned (some value)) ∈ p.log) :
    ({ p with log := p.log ++ [event] } : Page (Payload V) V).Honest requests where
  messageJobs := h.messageJobs
  functionJobs := by
    intro job hjob
    obtain ⟨own, hown, hmessage, hfunction, hid, hlogged⟩ := h.functionJobs job hjob
    exact ⟨own, hown, hmessage, hfunction, hid, List.mem_append_left _ hlogged⟩
  below := by
    intro message messageId hmem
    refine h.below message messageId ((List.mem_append.1 hmem).resolve_right fun hlast => ?_)
    exact haccepted _ _ (List.mem_singleton.1 hlast).symm
  accepted := by
    intro message other messageId hmessage hother
    refine h.accepted message other messageId ((List.mem_append.1 hmessage).resolve_right ?_)
      ((List.mem_append.1 hother).resolve_right ?_)
    · exact fun hlast => haccepted _ _ (List.mem_singleton.1 hlast).symm
    · exact fun hlast => haccepted _ _ (List.mem_singleton.1 hlast).symm
  executed := by
    intro message function messageId functionName parameters outcome hmem
    refine List.mem_append_left _ ?_
    rcases List.mem_append.1 hmem with hmem | hmem
    · exact h.executed _ _ _ _ _ _ hmem
    · exact hexecuted _ _ _ _ _ _ (List.mem_singleton.1 hmem).symm
  replied := by
    intro message messageId result hmem
    obtain ⟨own, hown, hmessage, hid, hlogged, hresult⟩ :=
      (List.mem_append.1 hmem).elim (h.replied message messageId result)
        fun hlast => hreplied _ _ _ (List.mem_singleton.1 hlast).symm
    exact ⟨own, hown, hmessage, hid, List.mem_append_left _ hlogged, fun value hvalue =>
      List.mem_append_left _ (hresult value hvalue)⟩

theorem Honest.execute (h : p.Honest requests) {request : FrameRequest V}
    (haccepted : request.accepted ∈ p.log) (outcome : Outcome V) :
    ({ p with log := p.log ++ [request.executed outcome] } : Page (Payload V) V).Honest
      requests := by
  refine h.append (fun _ _ heq => nomatch heq) (fun _ _ _ _ _ _ heq => ?_)
    fun _ _ _ heq => nomatch heq
  obtain ⟨rfl, -, rfl, -, -, -⟩ := PageEvent.executed.inj heq
  exact haccepted

theorem Honest.finishJob (h : p.Honest requests) {job : FunctionJob (Payload V)}
    {request : FrameRequest V} (hrequest : request ∈ requests)
    (hmessage : job.message = .message request) (hid : job.messageId = request.messageId)
    (haccepted : request.accepted ∈ p.log) {result : Option V}
    (hresult : ∀ value, result = some value →
      request.executed (.returned (some value)) ∈ p.log) :
    (p.finishJob job result).Honest requests ∧ p.log ⊆ (p.finishJob job result).log := by
  unfold Page.finishJob
  split_ifs
  · refine ⟨h.append (fun _ _ heq => nomatch heq) (fun _ _ _ _ _ _ heq => nomatch heq) ?_,
      List.subset_append_left _ _⟩
    intro message messageId other heq
    obtain ⟨rfl, rfl, rfl⟩ := PageEvent.replied.inj heq
    exact ⟨request, hrequest, hmessage, hid, haccepted, hresult⟩
  · exact ⟨h, fun _ hmem => hmem⟩

/-! ## Steps -/

theorem Honest.messageDecrypted (h : p.Honest requests) (position : Nat) :
    (p.messageDecrypted Payload.decrypt position).Honest requests ∧
      p.log ⊆ (p.messageDecrypted Payload.decrypt position).log := by
  unfold Page.messageDecrypted
  cases hget : p.messageJobs[position]? with
  | none => exact ⟨h, fun _ hmem => hmem⟩
  | some job =>
    obtain ⟨request, hrequest, rfl⟩ := h.messageJobs job (List.mem_of_getElem? hget)
    let rest : Page (Payload V) V := { p with messageJobs := p.messageJobs.eraseIdx position }
    have hrest : rest.Honest requests :=
      ⟨fun job hjob => h.messageJobs job (List.mem_of_mem_eraseIdx hjob), h.functionJobs, h.below,
        h.accepted, h.executed, h.replied⟩
    show (if (request.messageId : Int) ≤ p.lastReceivedMessageId then rest else _ :
        Page (Payload V) V).Honest requests ∧
      p.log ⊆ (if (request.messageId : Int) ≤ p.lastReceivedMessageId then rest else _ :
        Page (Payload V) V).log
    by_cases hold : (request.messageId : Int) ≤ p.lastReceivedMessageId
    · rw [if_pos hold]
      exact ⟨hrest, fun _ hmem => hmem⟩
    · rw [if_neg hold]
      have haccept := hrest.accept request (Int.not_le.1 hold)
      refine ⟨⟨haccept.messageJobs, fun job hjob => ?_, haccept.below, haccept.accepted,
        haccept.executed, haccept.replied⟩, List.subset_append_left _ _⟩
      rcases List.mem_append.1 hjob with hjob | hjob
      · exact haccept.functionJobs job hjob
      · rw [List.mem_singleton.1 hjob]
        exact ⟨request, hrequest, rfl, rfl, rfl, List.mem_append_right _ List.mem_cons_self⟩

theorem Honest.functionDecrypted (h : p.Honest requests) (position : Nat)
    (outcome : Outcome V) :
    (p.functionDecrypted Payload.decrypt position outcome).Honest requests ∧
      p.log ⊆ (p.functionDecrypted Payload.decrypt position outcome).log := by
  unfold Page.functionDecrypted
  cases hget : p.functionJobs[position]? with
  | none => exact ⟨h, fun _ hmem => hmem⟩
  | some job =>
    obtain ⟨message, function, messageId, replyWithResult⟩ := job
    obtain ⟨request, hrequest, rfl, rfl, rfl, haccepted⟩ :=
      h.functionJobs _ (List.mem_of_getElem? hget)
    let rest : Page (Payload V) V := { p with functionJobs := p.functionJobs.eraseIdx position }
    have hrest : rest.Honest requests :=
      ⟨h.messageJobs, fun job hjob => h.functionJobs job (List.mem_of_mem_eraseIdx hjob), h.below,
        h.accepted, h.executed, h.replied⟩
    have hopens : Payload.decrypt (.function request) (additionalData request.messageId) =
        some { messageId := none, replyWithResult := false,
               functionName := some request.functionName,
               parameters := some request.parameters } := if_pos rfl
    simp only [hopens]
    unfold executeFunction
    by_cases hnamed : 1 ≤ request.functionName.length
    · simp only [if_pos hnamed]
      have hexecuted := hrest.execute haccepted outcome
      have hlogged : request.executed outcome ∈ p.log ++ [request.executed outcome] :=
        List.mem_append_right _ List.mem_cons_self
      cases outcome with
      | returned result =>
        let job : FunctionJob (Payload V) :=
          ⟨.message request, .function request, request.messageId, replyWithResult⟩
        have hmessage : job.message = .message request := rfl
        have hresult : ∀ value, result = some value → request.executed (.returned (some value)) ∈
            p.log ++ [request.executed (.returned result)] := by
          intro value hvalue
          rw [← hvalue]
          exact hlogged
        obtain ⟨hfinished, hlog⟩ := hexecuted.finishJob hrequest hmessage rfl
          (List.mem_append_left _ haccepted) hresult
        exact ⟨hfinished, fun _ hmem => hlog (List.mem_append_left _ hmem)⟩
      | threw => exact ⟨hexecuted, List.subset_append_left _ _⟩
    · simp only [if_neg hnamed]
      exact hrest.finishJob hrequest rfl rfl haccepted fun _ hvalue => nomatch hvalue

/-- **The page runs what it has accepted and answers with what it has run.** -/
theorem Honest.step (h : p.Honest requests) (call : PageCall (Payload V) V)
    (hcall : ∀ message function, call = .routeMessage message function →
      ∃ request ∈ requests, message = .message request ∧ function = some (.function request)) :
    (p.step Payload.decrypt call).Honest requests ∧
      p.log ⊆ (p.step Payload.decrypt call).log := by
  cases call with
  | keyGenerated =>
    exact ⟨⟨h.messageJobs, h.functionJobs, h.below, h.accepted, h.executed, h.replied⟩,
      fun _ hmem => hmem⟩
  | routeMessage message function =>
    obtain ⟨request, hrequest, rfl, rfl⟩ := hcall message function rfl
    show (p.executeMessage _ _).Honest requests ∧ p.log ⊆ (p.executeMessage _ _).log
    unfold executeMessage
    split_ifs
    · refine ⟨⟨fun job hjob => ?_, h.functionJobs, h.below, h.accepted, h.executed, h.replied⟩,
        fun _ hmem => hmem⟩
      rcases List.mem_append.1 hjob with hjob | hjob
      · exact h.messageJobs job hjob
      · rw [List.mem_singleton.1 hjob]
        exact ⟨request, hrequest, rfl⟩
    · exact ⟨h, fun _ hmem => hmem⟩
  | messageDecrypted position => exact h.messageDecrypted position
  | functionDecrypted position outcome => exact h.functionDecrypted position outcome

end Page

end IosChrome.JsMessaging

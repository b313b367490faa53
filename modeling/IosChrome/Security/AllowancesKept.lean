import IosChrome.Security.CertificatePolicyCache

/-!
# Which clean-ups keep the allowances

The clearing of one window takes the allowances of all of them, and the reply brings back only
those of its own tabs. In the meantime an allowance of another window is safe when that window is
about to register it anew, or when the task that registers it stands behind the clearing
(`Covered`). Every call keeps what is covered, except the clearing itself and a registration that
replaces the status of an allowance; the condition is about these two (`Policed.runFirstTask`).

`allowances_present` is the result for runs: where every clearing spares the others, nothing is
missing once nothing is outstanding.
-/

namespace IosChrome.Security.BrowserStatePolicies

variable {W T B F : Type} {fingerprint : X509Certificate B → F} {s : BrowserStatePolicies W T B F}

/-! ## The shared cache -/

/-- The cache has an entry that allows the errors of an allowance. -/
def Holds (fingerprint : X509Certificate B → F) (cache : CertificatePolicyCache F)
    (allowance : SessionCertificate B) : Prop :=
  ∃ allowed, cache allowance.host (fingerprint allowance.certificate) = some allowed ∧
    AllowsErrors allowed allowance.status

/-- `QueryPolicy` allows what is held. -/
theorem Holds.present {allowance : SessionCertificate B}
    (h : Holds fingerprint s.policyCache allowance) : s.Present fingerprint allowance := by
  obtain ⟨allowed, hentry, hallows⟩ := h
  refine ⟨by rw [hentry]; rfl, fun hne => ?_⟩
  exact CertPolicy.check_of_allowsErrors hentry hallows hne

theorem allowCertForHost_apply [DecidableEq F] (cache : CertificatePolicyCache F) (f f' : F)
    (host host' : String) (error : CertStatus) :
    cache.allowCertForHost f host error host' f' =
      if host' = host ∧ f' = f then some error else cache host' f' := by
  unfold CertificatePolicyCache.allowCertForHost CertPolicy.allow
  by_cases hhost : host' = host
  · by_cases hf : f' = f
    · rw [if_pos hhost, if_pos hf, if_pos ⟨hhost, hf⟩]
    · rw [if_pos hhost, if_neg hf, if_neg fun hboth => hf hboth.2]
  · rw [if_neg hhost, if_neg fun hboth => hhost hboth.1]

/-- What a task has allowed is held, and so is what was held, if no other status of the task takes
its errors away. -/
theorem Holds.allowCerts [DecidableEq F] {allowance : SessionCertificate B}
    (allowedCerts : List (SessionCertificate B)) :
    ∀ cache : CertificatePolicyCache F,
      (∀ cert ∈ allowedCerts, cert.host = allowance.host →
        fingerprint cert.certificate = fingerprint allowance.certificate →
        AllowsErrors cert.status allowance.status) →
      (Holds fingerprint cache allowance ∨ allowance ∈ allowedCerts) →
      Holds fingerprint (allowCerts fingerprint cache allowedCerts) allowance := by
  induction allowedCerts with
  | nil =>
    rintro cache _ (hheld | hmem)
    · exact hheld
    · cases hmem
  | cons first rest ih =>
    intro cache hallows h
    refine ih _ (fun cert hrest => hallows cert (List.mem_cons_of_mem _ hrest)) ?_
    have hentries := allowCertForHost_apply cache (fingerprint first.certificate)
      (fingerprint allowance.certificate) first.host allowance.host first.status
    by_cases heq : allowance.host = first.host ∧
        fingerprint allowance.certificate = fingerprint first.certificate
    · rw [if_pos heq] at hentries
      exact .inl ⟨_, hentries, hallows first List.mem_cons_self heq.1.symm heq.2.symm⟩
    · rw [if_neg heq] at hentries
      rcases h with ⟨allowed, hentry, hallowed⟩ | hmem
      · exact .inl ⟨allowed, hentries.trans hentry, hallowed⟩
      · rcases List.mem_cons.1 hmem with rfl | hrest
        · exact absurd ⟨rfl, rfl⟩ heq
        · exact .inr hrest

/-! ## The invariant -/

/-- An allowance that will be present once nothing is outstanding, if no clearing takes it. -/
def Covered (fingerprint : X509Certificate B → F) (s : BrowserStatePolicies W T B F) (w : W)
    (allowance : SessionCertificate B) : Prop :=
  s.CleansUpAfter s.ioTasks w ∨ RegisteredBy s.ioTasks allowance ∨
    Holds fingerprint s.policyCache allowance

/-- What the calls keep. -/
structure Policed (fingerprint : X509Certificate B → F) (s : BrowserStatePolicies W T B F) :
    Prop where
  covered : ∀ w, (s.tabModels w).hasBrowserState = true →
    ∀ webState ∈ (s.tabModels w).webStates, ∀ allowance ∈ s.allowedCerts webState,
      Covered fingerprint s w allowance
  canceled : ∀ w, (s.tabModels w).canceled = true → (s.tabModels w).hasBrowserState = false
  leaving : ∀ w, s.disconnecting = some w → (s.tabModels w).hasBrowserState = false

theorem Policed.allowancesPresent (h : s.Policed fingerprint) :
    s.AllowancesPresent fingerprint := by
  intro htasks hreplies w hstate webState hw allowance hallowance
  rcases h.covered w hstate webState hw allowance hallowance with hclean | ⟨_, htask, _⟩ | hcache
  · unfold CleansUpAfter at hclean
    rw [htasks, hreplies] at hclean
    rcases hclean with hclean | hclean <;> cases hclean
  · rw [htasks] at htask
    cases htask
  · exact hcache.present

/-! ## Calls of the UI thread -/

/-- A longer queue covers no less. -/
theorem Covered.post {s' : BrowserStatePolicies W T B F} {w : W}
    {allowance : SessionCertificate B} (h : Covered fingerprint s w allowance)
    (htasks : ∀ task ∈ s.ioTasks, task ∈ s'.ioTasks) (hreplies : s'.replies = s.replies)
    (hcache : s'.policyCache = s.policyCache) : Covered fingerprint s' w allowance := by
  rcases h with (hclear | hreply) | ⟨allowedCerts, htask, hmem⟩ | hsome
  · exact .inl (.inl (htasks _ hclear))
  · exact .inl (.inr (hreplies ▸ hreply))
  · exact .inr (.inl ⟨allowedCerts, htasks _ htask, hmem⟩)
  · exact .inr (.inr (hcache ▸ hsome))

/-- A posted clearing is harmless until it runs. -/
theorem Policed.postClear (h : s.Policed fingerprint) (w : W) :
    (s.postTask (.clearCertificatePolicies w)).Policed fingerprint where
  covered w' hstate webState hw allowance hmem :=
    (h.covered w' hstate webState hw allowance hmem).post
      (fun _ htask => List.mem_append_left _ htask) rfl rfl
  canceled := h.canceled
  leaving := h.leaving

/-- A window may change as it likes, if the allowances of each tab it gets are to be registered. -/
theorem Policed.setTabModel [DecidableEq W] (h : s.Policed fingerprint) {w : W}
    {tabModel : TabModel T}
    (htabs : ∀ webState ∈ tabModel.webStates,
      (webState ∈ (s.tabModels w).webStates ∧
        (tabModel.hasBrowserState = true → (s.tabModels w).hasBrowserState = true)) ∨
      .allowCerts (s.allowedCerts webState) ∈ s.ioTasks)
    (hcanceled : tabModel.canceled = true → tabModel.hasBrowserState = false)
    (hleaving : s.disconnecting = some w → tabModel.hasBrowserState = false) :
    (s.setTabModel w tabModel).Policed fingerprint where
  covered w' hstate webState hw allowance hmem := by
    unfold BrowserStatePolicies.setTabModel at hstate hw
    simp only at hstate hw
    split at hstate
    next heq =>
      rw [if_pos heq] at hw
      rcases htabs webState hw with ⟨hin, hold⟩ | htask
      · rw [heq]
        exact h.covered w (hold hstate) webState hin allowance hmem
      · exact .inr (.inl ⟨_, htask, hmem⟩)
    next hne =>
      rw [if_neg hne] at hw
      exact h.covered w' hstate webState hw allowance hmem
  canceled w' hcancel := by
    unfold BrowserStatePolicies.setTabModel at hcancel ⊢
    simp only at hcancel ⊢
    split
    next heq =>
      rw [if_pos heq] at hcancel
      exact hcanceled hcancel
    next hne =>
      rw [if_neg hne] at hcancel
      exact h.canceled w' hcancel
  leaving w' hw' := by
    unfold BrowserStatePolicies.setTabModel
    simp only
    split
    next heq => exact hleaving (heq ▸ hw')
    next => exact h.leaving w' hw'

theorem Policed.setSaved [DecidableEq W] (h : s.Policed fingerprint) (w : W) (saved : Bool) :
    (s.setSavedSessionDuringBackgrounding w saved).Policed fingerprint :=
  h.setTabModel (fun _ hw => .inl ⟨hw, id⟩) (h.canceled w) (h.leaving w)

theorem Policed.save (h : s.Policed fingerprint) (w : W) :
    (s.saveSessionOnBackgroundingOrTermination w).Policed fingerprint := by
  unfold saveSessionOnBackgroundingOrTermination
  split
  · exact h.postClear w
  · exact h

theorem Policed.disconnect [DecidableEq W] (h : s.Policed fingerprint) (w : W) :
    (s.disconnect w).Policed fingerprint := by
  have hclosed : ∀ {s : BrowserStatePolicies W T B F}, s.Policed fingerprint →
      Policed fingerprint
        { s.setTabModel w { s.tabModels w with hasBrowserState := false, webStates := [] } with
          disconnecting := some w } := by
    intro s h
    have hset : (s.setTabModel w
        { s.tabModels w with hasBrowserState := false, webStates := [] }).Policed fingerprint :=
      h.setTabModel (fun _ hw => nomatch hw) (fun _ => rfl) fun _ => rfl
    refine ⟨hset.covered, hset.canceled, fun w' hw' => ?_⟩
    obtain rfl := Option.some.inj hw'
    exact congrArg _ (if_pos rfl)
  unfold BrowserStatePolicies.disconnect
  split
  · refine hclosed ?_
    split
    · exact h
    · exact (h.save w).setSaved w true
  · exact h

/-! ### Allowances -/

/-- The tab's allowances are replaced by others, and those are to be registered. -/
theorem Policed.setAllowedCerts [DecidableEq T] (h : s.Policed fingerprint) {webState : T}
    {allowedCerts posted : List (SessionCertificate B)}
    (hkept : ∀ cert ∈ allowedCerts, cert ∈ posted ∨ cert ∈ s.allowedCerts webState) :
    ((s.setAllowedCerts webState allowedCerts).postTask (.allowCerts posted)).Policed
      fingerprint := by
  refine ⟨fun w hstate tab hw allowance hmem => ?_, h.canceled, h.leaving⟩
  change allowance ∈ (if tab = webState then allowedCerts else s.allowedCerts tab) at hmem
  have hold : allowance ∈ s.allowedCerts tab → Covered fingerprint
      ((s.setAllowedCerts webState allowedCerts).postTask (.allowCerts posted)) w allowance :=
    fun hcert => (h.covered w hstate tab hw allowance hcert).post
      (fun _ htask => List.mem_append_left _ htask) rfl rfl
  split at hmem
  next heq =>
    rcases hkept allowance hmem with hnew | hcert
    · exact .inr (.inl ⟨posted, List.mem_append_right _ (List.mem_singleton_self _), hnew⟩)
    · rw [← heq] at hcert
      exact hold hcert
  next => exact hold hmem

theorem Policed.insertWebState [DecidableEq W] [DecidableEq T] (h : s.Policed fingerprint) {w : W}
    (hstate : (s.tabModels w).hasBrowserState = true) (webState : T)
    (allowedCerts : List (SessionCertificate B)) :
    (s.insertWebState w webState allowedCerts).Policed fingerprint := by
  have hposted : ((s.setAllowedCerts webState allowedCerts).postTask
      (.allowCerts allowedCerts)).Policed fingerprint :=
    h.setAllowedCerts fun _ hmem => .inl hmem
  have hsame : s.insertWebState w webState allowedCerts =
      ((s.setAllowedCerts webState allowedCerts).postTask (.allowCerts allowedCerts)).setTabModel w
        { s.tabModels w with webStates := (s.tabModels w).webStates ++ [webState] } := by
    unfold BrowserStatePolicies.insertWebState updateCertificatePolicyCache
    show BrowserStatePolicies.postTask _
      (.allowCerts (if webState = webState then allowedCerts else s.allowedCerts webState)) = _
    rw [if_pos rfl]
    rfl
  rw [hsame]
  refine hposted.setTabModel (fun tab hw => ?_) (h.canceled w) (h.leaving w)
  rcases List.mem_append.1 hw with hold | hnew
  · exact .inl ⟨hold, fun _ => hstate⟩
  · obtain rfl := List.mem_singleton.1 hnew
    refine .inr (List.mem_append_right _ (List.mem_singleton.2 ?_))
    exact congrArg _ (if_pos rfl)

/-! ## Tasks and replies -/

/-- **The first task**: a clearing leaves what the condition asks for, a registration leaves its
allowances in the cache. -/
theorem Policed.runFirstTask [DecidableEq F] (h : s.Policed fingerprint)
    (hspares : s.SparesOthers fingerprint .runFirstTask) :
    (s.runFirstTask fingerprint).Policed fingerprint := by
  unfold BrowserStatePolicies.runFirstTask
  split
  next => exact h
  next w rest htasks =>
    refine ⟨fun w' hstate webState hw allowance hmem => ?_, h.canceled, h.leaving⟩
    by_cases hw' : w' = w
    · -- its own reply will follow
      exact .inl (.inr (List.mem_append_right _ (List.mem_singleton.2 hw')))
    · by_cases hcancel : (s.tabModels w).canceled = true
      · rcases h.covered w' hstate webState hw allowance hmem with (hclear | hreply) |
          ⟨allowedCerts, htask, hallowed⟩ | hheld
        · rw [htasks] at hclear
          rcases List.mem_cons.1 hclear with heq | hclear
          · exact absurd (IOTask.clearCertificatePolicies.inj heq) hw'
          · exact .inl (.inl hclear)
        · exact .inl (.inr (List.mem_append_left _ hreply))
        · rw [htasks] at htask
          rcases List.mem_cons.1 htask with heq | htask
          · cases heq
          · exact .inr (.inl ⟨allowedCerts, htask, hallowed⟩)
        · refine .inr (.inr ?_)
          simp only [hcancel, if_true]
          exact hheld
      · rcases hspares.1 w rest htasks (Bool.eq_false_iff.2 hcancel) w' hw' hstate with
          (hclear | hreply) | hregistered
        · exact .inl (.inl hclear)
        · exact .inl (.inr (List.mem_append_left _ hreply))
        · exact .inr (.inl (hregistered webState hw allowance hmem))
  next allowedCerts rest htasks =>
    refine ⟨fun w hstate webState hw allowance hmem => ?_, h.canceled, h.leaving⟩
    rcases hspares.2 allowedCerts rest htasks w hstate with (hclear | hreply) | hallows
    · exact .inl (.inl hclear)
    · exact .inl (.inr hreply)
    · rcases hallows webState hw allowance hmem with hregistered | hallows
      · exact .inr (.inl hregistered)
      · rcases h.covered w hstate webState hw allowance hmem with (hclear | hreply) |
          ⟨allowedCerts', htask, hallowed⟩ | hheld
        · rw [htasks] at hclear
          rcases List.mem_cons.1 hclear with heq | hclear
          · cases heq
          · exact .inl (.inl hclear)
        · exact .inl (.inr hreply)
        · rw [htasks] at htask
          rcases List.mem_cons.1 htask with heq | htask
          · obtain rfl := IOTask.allowCerts.inj heq
            exact .inr (.inr (Holds.allowCerts _ _ hallows (.inr hallowed)))
          · exact .inr (.inl ⟨allowedCerts', htask, hallowed⟩)
        · exact .inr (.inr (Holds.allowCerts _ _ hallows (.inl hheld)))

/-- The tasks a reply posts, one for each tab. -/
theorem foldl_updateCertificatePolicyCache (tabs : List T) : ∀ s : BrowserStatePolicies W T B F,
    tabs.foldl updateCertificatePolicyCache s =
      { s with ioTasks := s.ioTasks ++ tabs.map fun tab => .allowCerts (s.allowedCerts tab) } := by
  induction tabs with
  | nil =>
    intro s
    rw [List.map_nil, List.append_nil]
    rfl
  | cons tab rest ih =>
    intro s
    rw [List.foldl_cons, ih, List.map_cons]
    unfold updateCertificatePolicyCache postTask
    simp only [List.append_assoc, List.singleton_append]

/-- **The first reply**: it is lost only with a window that is gone, and otherwise the allowances of
all tabs of its window are to be registered. -/
theorem Policed.runFirstReply (h : s.Policed fingerprint) :
    s.runFirstReply.Policed fingerprint := by
  unfold BrowserStatePolicies.runFirstReply
  split
  next => exact h
  next w rest hreplies =>
    -- what other windows wait for still comes
    have hothers : ∀ {s' : BrowserStatePolicies W T B F} {w' : W} {allowance}, w' ≠ w →
        (∀ task ∈ s.ioTasks, task ∈ s'.ioTasks) → s'.replies = rest →
        s'.policyCache = s.policyCache → Covered fingerprint s w' allowance →
        Covered fingerprint s' w' allowance := by
      intro s' w' allowance hne htasks hrest hcache hcovered
      rcases hcovered with (hclear | hreply) | ⟨allowedCerts, htask, hmem⟩ | hsome
      · exact .inl (.inl (htasks _ hclear))
      · rw [hreplies] at hreply
        rcases List.mem_cons.1 hreply with heq | hreply
        · exact absurd heq hne
        · exact .inl (.inr (hrest ▸ hreply))
      · exact .inr (.inl ⟨allowedCerts, htasks _ htask, hmem⟩)
      · exact .inr (.inr (hcache ▸ hsome))
    split
    next hcancel =>
      refine ⟨fun w' hstate webState hw allowance hmem => ?_, h.canceled, h.leaving⟩
      refine hothers ?_ (fun _ htask => htask) rfl rfl
        (h.covered w' hstate webState hw allowance hmem)
      rintro rfl
      have hgone := h.canceled w' hcancel
      rw [show (s.tabModels w').hasBrowserState = true from hstate] at hgone
      cases hgone
    next =>
      unfold restoreCertificatePolicyCacheFromModel
      rw [foldl_updateCertificatePolicyCache]
      refine ⟨fun w' hstate webState hw allowance hmem => ?_, h.canceled, h.leaving⟩
      by_cases hw' : w' = w
      · refine .inr (.inl ⟨s.allowedCerts webState, List.mem_append_right _ ?_, hmem⟩)
        rw [hw'] at hw
        exact List.mem_map.2 ⟨webState, hw, rfl⟩
      · exact hothers hw' (fun _ htask => List.mem_append_left _ htask) rfl rfl
          (h.covered w' hstate webState hw allowance hmem)

/-! ## Runs -/

variable [DecidableEq W] [DecidableEq T] [DecidableEq B] [DecidableEq F]

theorem Policed.init (h : (machine W T fingerprint).init s) : s.Policed fingerprint := by
  have hnone : ∀ w, (s.tabModels w).hasBrowserState = false := fun w => by rw [h.1 w]
  refine ⟨fun w hstate => ?_, fun w _ => hnone w, fun w _ => hnone w⟩
  rw [hnone w] at hstate
  cases hstate

theorem Policed.step (h : s.Policed fingerprint) {call : PolicyCall W T B} (hpre : s.Pre call)
    (hspares : s.SparesOthers fingerprint call) : (s.step fingerprint call).Policed fingerprint := by
  cases call with
  | initWithBrowser w =>
    refine h.setTabModel (fun _ hw => nomatch hw) (fun hcancel => nomatch hcancel)
      fun hleaving => ?_
    rw [hpre.1] at hleaving
    cases hleaving
  | insertWebState w webState allowedCerts => exact h.insertWebState hpre.2 webState allowedCerts
  | closeWebState w webState =>
    exact h.setTabModel (fun _ hw => .inl ⟨List.mem_of_mem_erase hw, id⟩) (h.canceled w)
      (h.leaving w)
  | registerAllowedCertificate webState certificate host status =>
    exact h.setAllowedCerts fun cert hmem =>
      (List.mem_insert_iff.1 hmem).imp_left List.mem_singleton.2
  | applicationDidEnterBackground w => exact (h.save w).setSaved w true
  | applicationWillEnterForeground w => exact h.setSaved w false
  | disconnect w => exact h.disconnect w
  | tryCancelAll =>
    show s.tryCancelAll.Policed fingerprint
    unfold tryCancelAll
    split
    · exact h
    next w hw =>
      have hset : (s.setTabModel w { s.tabModels w with canceled := true }).Policed fingerprint :=
        h.setTabModel (fun _ htab => .inl ⟨htab, id⟩) (fun _ => h.leaving w hw)
          fun _ => h.leaving w hw
      exact ⟨hset.covered, hset.canceled, fun _ hnone => nomatch hnone⟩
  | runFirstTask => exact h.runFirstTask hspares
  | runFirstReply => exact h.runFirstReply

/-- **Tasks that spare the other allowances keep them all**: in every state such a run reaches, if
nothing is outstanding then every allowance of a tab in a connected window is present in the shared
cache. -/
theorem allowances_present {calls : List (PolicyCall W T B)}
    (hinit : (machine W T fingerprint).init s) (hrun : (machine W T fingerprint).Run s calls)
    (hspares : (machine W T fingerprint).Always (SparesOthers fingerprint) s calls) :
    s.AllowancesPresent fingerprint ∧ (machine W T fingerprint).Always
      (fun s call => (s.step fingerprint call).AllowancesPresent fingerprint) s calls := by
  refine ⟨(Policed.init hinit).allowancesPresent, ?_⟩
  refine Lib.Machine.Guarded.always_of_invariant (I := Policed fingerprint) ?_ ?_
    (Policed.init hinit) hrun hspares
  · intro s call h hpre hcall
    exact h.step hpre hcall
  · intro s call h hpre hcall
    exact (h.step hpre hcall).allowancesPresent

section Example

/-- A certificate is its own fingerprint. -/
private def leafOf (certificate : X509Certificate Nat) : X509Certificate Nat := certificate

private def newBrowserState : BrowserStatePolicies Bool Nat Nat (X509Certificate Nat) where
  tabModels := fun _ => {}
  allowedCerts := fun _ => []
  policyCache := fun _ _ => none
  ioTasks := []
  replies := []
  disconnecting := none

private theorem newBrowserState_init : (machine Bool Nat leafOf).init newBrowserState :=
  ⟨fun _ => rfl, fun _ _ => rfl, rfl, rfl, rfl⟩

/-- Two windows, and a tab in the first with an allowance. -/
private def allowedInFirst : List (PolicyCall Bool Nat Nat) :=
  [.initWithBrowser false, .initWithBrowser true, .insertWebState false 5 [], .runFirstTask,
    .registerAllowedCertificate 5 ⟨7, [8]⟩ "example.com" 1, .runFirstTask]

private theorem allowedInFirst_run : (machine Bool Nat leafOf).Run newBrowserState allowedInFirst :=
  ⟨⟨rfl, rfl, rfl⟩, ⟨rfl, rfl, rfl⟩, ⟨rfl, rfl⟩, trivial, rfl, trivial, trivial⟩

private theorem spares_of_allowCerts {s : BrowserStatePolicies Bool Nat Nat (X509Certificate Nat)}
    {allowedCerts rest} (htasks : s.ioTasks = .allowCerts allowedCerts :: rest)
    (hallows : ∀ cert ∈ allowedCerts, ∀ w, ∀ webState ∈ (s.tabModels w).webStates,
      ∀ allowance ∈ s.allowedCerts webState, AllowsErrors cert.status allowance.status) :
    s.SparesOthers leafOf .runFirstTask := by
  refine ⟨fun w rest' hclear => ?_, fun certs rest' hcerts w _ => .inr fun webState hw allowance
    hmem => .inr fun cert hcert _ _ => ?_⟩
  · rw [htasks] at hclear
    cases hclear
  · rw [htasks] at hcerts
    cases hcerts
    exact hallows cert hcert w webState hw allowance hmem

private theorem spares_of_clear {s : BrowserStatePolicies Bool Nat Nat (X509Certificate Nat)}
    {w : Bool} {rest} (htasks : s.ioTasks = .clearCertificatePolicies w :: rest)
    (hother : s.CleansUpAfter rest !w) : s.SparesOthers leafOf .runFirstTask := by
  refine ⟨fun w' rest' hclear _ w'' hne _ => ?_, fun certs rest' hcerts => ?_⟩
  · rw [htasks] at hclear
    cases hclear
    obtain rfl : w'' = !w := Bool.eq_not_of_ne hne
    exact .inl hother
  · rw [htasks] at hcerts
    cases hcerts

private theorem allowedInFirst_spares :
    (machine Bool Nat leafOf).Always (SparesOthers leafOf) newBrowserState allowedInFirst :=
  ⟨trivial, trivial, trivial, spares_of_allowCerts rfl (by decide +kernel), trivial,
    spares_of_allowCerts rfl (by decide +kernel), trivial⟩

/-- Both windows go to the background, and each brings its own allowances back. The second then
allows the certificate for one more error. -/
theorem allowances_present_background :
    let calls := allowedInFirst ++ [.insertWebState true 6 [], .runFirstTask,
      .applicationDidEnterBackground false, .applicationDidEnterBackground true, .runFirstTask,
      .runFirstTask, .runFirstReply, .runFirstReply, .runFirstTask, .runFirstTask,
      .registerAllowedCertificate 6 ⟨7, []⟩ "example.com" 3, .runFirstTask]
    newBrowserState.AllowancesPresent leafOf ∧ (machine Bool Nat leafOf).Always
      (fun s call => (s.step leafOf call).AllowancesPresent leafOf) newBrowserState calls := by
  refine allowances_present newBrowserState_init ?_ ?_
  · exact (Lib.Machine.always_append ..).2 ⟨allowedInFirst_run, ⟨rfl, rfl⟩, trivial, rfl, rfl,
      trivial, trivial, rfl, rfl, trivial, trivial, rfl, trivial, trivial⟩
  · refine (Lib.Machine.always_append ..).2 ⟨allowedInFirst_spares, trivial,
      spares_of_allowCerts rfl (by decide +kernel), trivial, trivial,
      -- the second window's clearing stands behind the first's, and then the first's reply is due
      spares_of_clear rfl (.inl (List.mem_singleton_self _)),
      spares_of_clear rfl (.inr (List.mem_singleton_self _)), trivial, trivial,
      spares_of_allowCerts rfl (by decide +kernel), spares_of_allowCerts rfl (by decide +kernel),
      trivial, spares_of_allowCerts rfl (by decide +kernel), trivial⟩

/-- **Another window goes away, and the allowance with it**: the second window, without tabs,
disconnects; its clearing runs before it is cancelled, its reply does not. -/
theorem disconnect_revokesOthers :
    let calls := allowedInFirst ++ [.disconnect true, .runFirstTask, .tryCancelAll, .runFirstReply]
    let s := (machine Bool Nat leafOf).exec newBrowserState calls
    (machine Bool Nat leafOf).init newBrowserState ∧
    (machine Bool Nat leafOf).Run newBrowserState calls ∧
    (s.tabModels false).hasBrowserState = true ∧ (s.tabModels false).webStates = [5] ∧
    s.allowedCerts 5 = [⟨⟨7, []⟩, "example.com", 1⟩] ∧
    s.policyCache.queryPolicy ⟨7, []⟩ "example.com" 1 = .unknown ∧
    ¬ s.AllowancesPresent leafOf := by
  refine ⟨newBrowserState_init, ?_, rfl, rfl, by decide +kernel, by decide +kernel,
    fun hpresent => ?_⟩
  · exact (Lib.Machine.always_append ..).2
      ⟨allowedInFirst_run, rfl, trivial, Option.some_ne_none true, rfl, trivial⟩
  · have htab := hpresent rfl rfl false rfl 5 (by decide +kernel) ⟨⟨7, []⟩, "example.com", 1⟩
      (by decide +kernel)
    have hentry : (none : Option CertStatus).isSome = true := htab.1
    cases hentry

end Example

end IosChrome.Security.BrowserStatePolicies

import IosChrome.CrashReport.CrashRestoreHelper

/-!
# No tab that was moved aside is lost

A tab of a session file that was moved aside is `Owed` until it is inserted in a window or
recorded as closed. `NotLost` says that an owed tab is still in a file, at the backup path or
at the original path.

A file is destroyed in three places, and in each the tabs of the file may be owed: a session is
moved aside while there is an older backup of it that nobody has answered for, and that backup is
removed; `restoreSessionsAfterCrash` moves a backup back, the move fails, since the session has
a newer file by now, and the backup is removed with its directory all the same
(`restoredOverNewer_lost`); and a window saves over a file that it could not load. `Spares` says
that a call does none of this to an owed tab, and `notLost_iff` that this is the exact condition.
-/

namespace IosChrome.CrashReport

namespace SessionFiles

variable {f f' : SessionFiles}

/-- The tabs in the file at the original path. -/
def saved (f : SessionFiles) : List Nat := f.session.getD []

def backedUp (f : SessionFiles) : List Nat := f.backup.getD []

def windowTabs (f : SessionFiles) : List Nat := f.window.getD []

def NotLost (f : SessionFiles) : Prop :=
  ∀ tab ∈ f.movedAside,
    tab ∈ f.inserted ∨ tab ∈ f.recorded ∨ tab ∈ f.backedUp ∨ tab ∈ f.saved

/-- Moved aside, and neither inserted nor recorded since. -/
def Owed (f : SessionFiles) (tab : Nat) : Prop :=
  tab ∈ f.movedAside ∧ tab ∉ f.inserted ∧ tab ∉ f.recorded

/-- An owed tab is in no window and in one file, and new tabs get new numbers. -/
structure Sound (f : SessionFiles) : Prop where
  window : ∀ tab, f.Owed tab → tab ∉ f.windowTabs
  once : ∀ tab, f.Owed tab → tab ∈ f.saved → tab ∉ f.backedUp
  numbered : ∀ tab, tab ∈ f.saved ∨ tab ∈ f.backedUp ∨ tab ∈ f.windowTabs ∨ tab ∈ f.movedAside →
    tab < f.nextTab

theorem Owed.of_mem {tab : Nat} (hmoved : tab ∈ f.movedAside)
    (h : ¬ (tab ∈ f.inserted ∨ tab ∈ f.recorded)) : f.Owed tab :=
  ⟨hmoved, fun hinserted => h (.inl hinserted), fun hrecorded => h (.inr hrecorded)⟩

theorem notLost_iff_owed : f.NotLost ↔ ∀ tab, f.Owed tab → tab ∈ f.backedUp ∨ tab ∈ f.saved := by
  constructor
  · rintro h tab ⟨hmoved, hinserted, hrecorded⟩
    exact ((h tab hmoved).resolve_left hinserted).resolve_left hrecorded
  · intro h tab hmoved
    by_cases hanswered : tab ∈ f.inserted ∨ tab ∈ f.recorded
    · exact hanswered.elim .inl fun hrecorded => .inr (.inl hrecorded)
    · exact .inr (.inr (h tab (.of_mem hmoved hanswered)))

/-- Where no tab becomes owed, only files that are destroyed can lose one. -/
theorem NotLost.of_owed (h : f.NotLost) (howed : ∀ tab, f'.Owed tab → f.Owed tab)
    (hfiles : ∀ tab, f'.Owed tab → tab ∈ f.backedUp ∨ tab ∈ f.saved →
      tab ∈ f'.backedUp ∨ tab ∈ f'.saved) : f'.NotLost :=
  notLost_iff_owed.2 fun tab htab =>
    hfiles tab htab (notLost_iff_owed.1 h tab (howed tab htab))

/-- A file is destroyed, and with it the tabs that are owed. -/
theorem Sound.notLost_iff_backup (hsound : f.Sound) (h : f.NotLost)
    (howed : ∀ tab, f'.Owed tab ↔ f.Owed tab) (hsaved : f'.saved = f.saved)
    (hbackup : f'.backedUp = []) : f'.NotLost ↔ ∀ tab ∈ f.backedUp, ¬ f.Owed tab := by
  rw [notLost_iff_owed]
  constructor
  · intro hnot tab hmem htab
    obtain hgone | hkept := hnot tab ((howed tab).2 htab)
    · rw [hbackup] at hgone
      cases hgone
    · rw [hsaved] at hkept
      exact hsound.once tab htab hkept hmem
  · intro hnone tab htab
    have hold := (howed tab).1 htab
    right
    rw [hsaved]
    exact (notLost_iff_owed.1 h tab hold).resolve_left fun hmem => hnone tab hmem hold

/-! ## Moving aside -/

/-- The file that is destroyed is the older backup. -/
def SparesBackup (f : SessionFiles) (fails : Failures) : Prop :=
  f.session ≠ none → fails.removeBackup = false → ∀ tab ∈ f.backedUp, ¬ f.Owed tab

theorem backedUp_of_isSome_false (h : f.backup.isSome = false) : f.backedUp = [] := by
  unfold backedUp
  rw [Option.not_isSome_iff_eq_none.1 (Bool.eq_false_iff.1 h)]
  rfl

variable {tabs : List Nat}

theorem owed_moveToBackup {tab : Nat} :
    (f.moveToBackup tabs).Owed tab ↔ tab ∈ tabs ∨ f.Owed tab := by
  unfold Owed moveToBackup
  simp only [List.mem_append, List.mem_filter, decide_eq_true_eq]
  by_cases hmem : tab ∈ tabs
  · simp [hmem]
  · simp [hmem]

theorem Sound.deleteSessionFromPath_iff (hsound : f.Sound) (h : f.NotLost) (fails : Failures) :
    (f.deleteSessionFromPath fails).1.NotLost ↔ f.SparesBackup fails := by
  unfold deleteSessionFromPath SparesBackup
  cases hsession : f.session with
  | none => exact ⟨fun _ hne => absurd rfl hne, fun _ => h⟩
  | some tabs =>
    have hsome : (some tabs : Option (List Nat)) ≠ none := Option.some_ne_none tabs
    simp only [ne_eq, hsome, not_false_eq_true, forall_const]
    have hprepared : (f.prepareBackup fails).NotLost ↔ ∀ tab ∈ f.backedUp, ¬ f.Owed tab :=
      hsound.notLost_iff_backup h (fun _ => Iff.rfl) rfl rfl
    by_cases hkept : (f.backup.isSome && fails.removeBackup) = true
    · rw [if_pos hkept]
      have hfails := (Bool.and_eq_true_iff.1 hkept).2
      exact ⟨fun _ hremoved => absurd (hfails.symm.trans hremoved) Bool.false_ne_true.symm,
        fun _ => h⟩
    · rw [if_neg hkept]
      -- where there was no backup nothing is destroyed
      have hspares : (fails.removeBackup = false → ∀ tab ∈ f.backedUp, ¬ f.Owed tab) ↔
          ∀ tab ∈ f.backedUp, ¬ f.Owed tab := by
        refine ⟨fun hspare => ?_, fun hspare _ => hspare⟩
        cases hremoved : fails.removeBackup with
        | false => exact hspare hremoved
        | true =>
          rw [hremoved, Bool.and_true] at hkept
          rw [backedUp_of_isSome_false (Bool.eq_false_iff.2 hkept)]
          exact fun _ hmem => nomatch hmem
      rw [hspares]
      split
      · exact hprepared
      · rw [notLost_iff_owed]
        have hsaved : f.saved = tabs := by
          unfold saved
          rw [hsession]
          rfl
        constructor
        · intro hnot tab hmem htab
          have hother : tab ∉ tabs := by
            rw [← hsaved]
            exact fun hfile => hsound.once tab htab hfile hmem
          obtain hbackup | hfile := hnot tab (owed_moveToBackup.2 (.inr htab))
          · exact hother hbackup
          · cases hfile
        · intro hnone tab htab
          left
          obtain hnew | hold := owed_moveToBackup.1 htab
          · exact hnew
          · have hold : f.Owed tab := hold
            obtain hbackup | hfile := notLost_iff_owed.1 h tab hold
            · exact absurd hold (hnone tab hbackup)
            · rwa [hsaved] at hfile

/-- A session is moved aside when it has no window. -/
theorem Sound.deleteSessionFromPath (hsound : f.Sound) (hwindow : f.window = none)
    (fails : Failures) : (f.deleteSessionFromPath fails).1.Sound := by
  have hprepared : (f.prepareBackup fails).Sound :=
    ⟨hsound.window, fun _ _ _ hmem => (nomatch hmem), fun tab hmem => hsound.numbered tab
      (hmem.imp_right fun hmem => .inr (hmem.resolve_left fun hnone => nomatch hnone))⟩
  unfold SessionFiles.deleteSessionFromPath
  split
  · exact hsound
  · next tabs hsession =>
    have hsaved : f.saved = tabs := by
      unfold saved
      rw [hsession]
      rfl
    split
    · exact hsound
    · split
      · exact hprepared
      · refine ⟨fun tab _ hmem => ?_, fun _ _ hmem => (nomatch hmem), fun tab hmem => ?_⟩
        · have hmem : tab ∈ f.window.getD [] := hmem
          rw [hwindow] at hmem
          cases hmem
        · obtain hnone | hbackup | hwindow | hmoved := hmem
          · cases hnone
          · exact hsound.numbered tab (.inl (by rw [hsaved]; exact hbackup))
          · exact hsound.numbered tab (.inr (.inr (.inl hwindow)))
          · obtain hold | hnew := List.mem_append.1 hmoved
            · exact hsound.numbered tab (.inr (.inr (.inr hold)))
            · exact hsound.numbered tab (.inl (by rw [hsaved]; exact hnew))

/-! ## Answers -/

theorem mem_of_loadSessionFromPath {fails : Failures} {path : Option (List Nat)}
    (h : loadSessionFromPath fails path = some tabs) : path = some tabs := by
  unfold loadSessionFromPath at h
  split at h
  · cases h
  · exact h

/-- Removing a directory can only leave files out. -/
theorem Sound.removeBackupDirectory (hsound : f.Sound) (failed : Bool) :
    (f.removeBackupDirectory failed).Sound := by
  unfold SessionFiles.removeBackupDirectory
  split
  · exact hsound
  · exact ⟨hsound.window, fun _ _ _ hmem => (nomatch hmem), fun tab hmem => hsound.numbered tab
      (hmem.imp_right fun hmem => .inr (hmem.resolve_left fun hnone => nomatch hnone))⟩

theorem removeBackupDirectory_notLost (h : f.NotLost) (failed : Bool)
    (hnone : ∀ tab ∈ f.backedUp, ¬ f.Owed tab) : (f.removeBackupDirectory failed).NotLost := by
  unfold SessionFiles.removeBackupDirectory
  split
  · exact h
  · refine h.of_owed (fun _ => id) fun tab htab hmem => ?_
    exact .inr (hmem.resolve_left fun hbackup => hnone tab hbackup htab)

/-- The tabs that a window takes over are not owed any more. -/
theorem owed_inserted {tab : Nat} (h : f'.movedAside = f.movedAside)
    (hinserted : f'.inserted = f.inserted ++ tabs) (hrecorded : f'.recorded = f.recorded)
    (htab : f'.Owed tab) : f.Owed tab ∧ tab ∉ tabs := by
  obtain ⟨hmoved, hnotInserted, hnotRecorded⟩ := htab
  rw [hinserted] at hnotInserted
  rw [h] at hmoved
  rw [hrecorded] at hnotRecorded
  exact ⟨⟨hmoved, fun hmem => hnotInserted (List.mem_append_left _ hmem), hnotRecorded⟩,
    fun hmem => hnotInserted (List.mem_append_right _ hmem)⟩

theorem owed_restoreSessionWindow {tab : Nat} (htab : (f.restoreSessionWindow tabs).Owed tab) :
    f.Owed tab ∧ tab ∉ tabs :=
  @owed_inserted f (f.restoreSessionWindow tabs) tabs tab rfl rfl rfl htab

theorem owed_connect {fails : Failures} {tab : Nat} (htab : (f.connect fails).Owed tab) :
    f.Owed tab ∧ tab ∉ (loadSessionFromPath fails f.session).getD [] :=
  @owed_inserted f (f.connect fails) _ tab rfl rfl rfl htab

theorem Sound.restoreSessionWindow (hsound : f.Sound) (hbackup : f.backup = some tabs) :
    (f.restoreSessionWindow tabs).Sound where
  window := by
    intro tab htab hmem
    obtain ⟨hold, hother⟩ := owed_restoreSessionWindow htab
    have hmem : tab ∈ (f.window.map (· ++ tabs)).getD [] := hmem
    cases hwindow : f.window with
    | none =>
      rw [hwindow] at hmem
      cases hmem
    | some old =>
      rw [hwindow] at hmem
      obtain hwas | hnew := List.mem_append.1 hmem
      · refine hsound.window tab hold ?_
        unfold windowTabs
        rw [hwindow]
        exact hwas
      · exact hother hnew
  once := fun tab htab => hsound.once tab (owed_restoreSessionWindow htab).1
  numbered := by
    rintro tab (hfile | hfile | hwindow | hmoved)
    · exact hsound.numbered tab (.inl hfile)
    · exact hsound.numbered tab (.inr (.inl hfile))
    · have hmem : tab ∈ (f.window.map (· ++ tabs)).getD [] := hwindow
      cases hold : f.window with
      | none =>
        rw [hold] at hmem
        cases hmem
      | some old =>
        rw [hold] at hmem
        obtain hwas | hnew := List.mem_append.1 hmem
        · refine hsound.numbered tab (.inr (.inr (.inl ?_)))
          unfold windowTabs
          rw [hold]
          exact hwas
        · refine hsound.numbered tab (.inr (.inl ?_))
          unfold backedUp
          rw [hbackup]
          exact hnew
    · exact hsound.numbered tab (.inr (.inr (.inr hmoved)))

theorem backedUp_of_some (h : f.backup = some tabs) : f.backedUp = tabs := by
  unfold backedUp
  rw [h]
  rfl

theorem restoreSessionWindow_notLost (h : f.NotLost) (tabs : List Nat) :
    (f.restoreSessionWindow tabs).NotLost :=
  h.of_owed (fun _ htab => (owed_restoreSessionWindow htab).1) fun _ _ => id

theorem restoreSessionWindow_answered (hbackup : f.backup = some tabs) :
    ∀ tab ∈ (f.restoreSessionWindow tabs).backedUp, ¬ (f.restoreSessionWindow tabs).Owed tab := by
  intro tab hmem htab
  have hmem : tab ∈ f.backedUp := hmem
  rw [backedUp_of_some hbackup] at hmem
  exact (owed_restoreSessionWindow htab).2 hmem

theorem Sound.restoreConnected (hsound : f.Sound) (fails : Failures) (multiwindow : Bool) :
    (f.restoreConnected fails multiwindow).Sound := by
  unfold SessionFiles.restoreConnected
  split
  · exact hsound
  · next tabs hload =>
    have hrestored := hsound.restoreSessionWindow (mem_of_loadSessionFromPath hload)
    split
    · exact hrestored.removeBackupDirectory _
    · exact hrestored

theorem restoreConnected_notLost (h : f.NotLost) (fails : Failures) (multiwindow : Bool) :
    (f.restoreConnected fails multiwindow).NotLost := by
  unfold SessionFiles.restoreConnected
  split
  · exact h
  · next tabs hload =>
    have hrestored := restoreSessionWindow_notLost h tabs
    split
    · exact removeBackupDirectory_notLost hrestored _
        (restoreSessionWindow_answered (mem_of_loadSessionFromPath hload))
    · exact hrestored

/-- The file that is destroyed is a backup that is not moved back. -/
def SparesUnmoved (f : SessionFiles) (fails : Failures) : Prop :=
  fails.removeDirectory = false → (f.session ≠ none ∨ fails.moveBack = true) →
    ∀ tab ∈ f.backedUp, ¬ f.Owed tab

theorem moveBack_cases (fails : Failures) :
    (∃ tabs, f.backup = some tabs ∧ f.session = none ∧ fails.moveBack = false ∧
      f.moveBack fails = { f with session := some tabs, backup := none }) ∨
    ((f.backup = none ∨ f.session ≠ none ∨ fails.moveBack = true) ∧ f.moveBack fails = f) := by
  unfold moveBack
  split
  · next tabs hbackup hsession =>
    cases hfails : fails.moveBack with
    | false => exact .inl ⟨tabs, hbackup, hsession, rfl, rfl⟩
    | true => exact .inr ⟨.inr (.inr rfl), rfl⟩
  · next hnot =>
    refine .inr ⟨?_, rfl⟩
    cases hbackup : f.backup with
    | none => exact .inl rfl
    | some tabs => exact .inr (.inl fun hsession => hnot tabs hbackup hsession)

theorem Sound.restoreNotConnected (hsound : f.Sound) (fails : Failures) :
    (f.restoreNotConnected fails).Sound := by
  refine Sound.removeBackupDirectory ?_ _
  obtain ⟨tabs, hbackup, -, -, hmoved⟩ | ⟨-, hsame⟩ := moveBack_cases (f := f) fails
  · rw [hmoved]
    refine ⟨hsound.window, fun _ _ _ hmem => (nomatch hmem), fun tab hmem => ?_⟩
    obtain hfile | hnone | hrest := hmem
    · refine hsound.numbered tab (.inr (.inl ?_))
      rw [backedUp_of_some hbackup]
      exact hfile
    · cases hnone
    · exact hsound.numbered tab (.inr (.inr hrest))
  · rw [hsame]
    exact hsound

theorem Sound.restoreNotConnected_iff (hsound : f.Sound) (h : f.NotLost) (fails : Failures) :
    (f.restoreNotConnected fails).NotLost ↔ f.SparesUnmoved fails := by
  unfold SessionFiles.restoreNotConnected SparesUnmoved
  obtain ⟨tabs, hbackup, hsession, hfails, hmoved⟩ | ⟨hnot, hsame⟩ :=
    moveBack_cases (f := f) fails
  · -- the backup is a session file again
    rw [hmoved]
    refine ⟨fun _ _ hnot => ?_, fun _ => ?_⟩
    · exact hnot.elim (fun hne => absurd hsession hne) fun hmove => by
        rw [hfails] at hmove
        cases hmove
    · have hnotLost : ({ f with session := some tabs, backup := none } : SessionFiles).NotLost := by
        refine h.of_owed (fun _ => id) fun tab _ hmem => ?_
        obtain hmem | hfile := hmem
        · rw [backedUp_of_some hbackup] at hmem
          exact .inr hmem
        · unfold saved at hfile
          rw [hsession] at hfile
          cases hfile
      refine removeBackupDirectory_notLost hnotLost _ fun tab hmem => ?_
      have hmem : tab ∈ ([] : List Nat) := hmem
      cases hmem
  · rw [hsame]
    unfold SessionFiles.removeBackupDirectory
    cases hremove : fails.removeDirectory with
    | true => exact ⟨fun _ hfalse => (nomatch hfalse), fun _ => h⟩
    | false =>
      have hdestroyed : ({ f with backupDirectory := false, backup := none } :
          SessionFiles).NotLost ↔ ∀ tab ∈ f.backedUp, ¬ f.Owed tab :=
        hsound.notLost_iff_backup h (fun _ => Iff.rfl) rfl rfl
      rw [if_neg Bool.false_ne_true, hdestroyed]
      refine ⟨fun hnone _ _ => hnone, fun hspare => ?_⟩
      obtain hbackup | hunmoved := hnot
      · intro tab hmem
        unfold backedUp at hmem
        rw [hbackup] at hmem
        cases hmem
      · exact hspare rfl hunmoved

theorem Sound.infoBarRemoved (hsound : f.Sound) (fails : Failures) (multiwindow : Bool) :
    (f.infoBarRemoved fails multiwindow).Sound := by
  have howed : ∀ {tabs tab}, ({ f with recorded := f.recorded ++ tabs } : SessionFiles).Owed tab →
      f.Owed tab := fun htab =>
    ⟨htab.1, htab.2.1, fun hmem => htab.2.2 (List.mem_append_left _ hmem)⟩
  unfold SessionFiles.infoBarRemoved
  split
  · exact hsound
  · exact hsound
  · next tab tabs hload =>
    have hrecorded : ({ f with recorded := f.recorded ++ tab :: tabs } : SessionFiles).Sound :=
      ⟨fun tab htab => hsound.window tab (howed htab), fun tab htab => hsound.once tab (howed htab),
        hsound.numbered⟩
    dsimp only
    split
    · exact hrecorded.removeBackupDirectory _
    · exact hrecorded

/-- Dismissing loses nothing: what cannot be loaded stays. -/
theorem infoBarRemoved_notLost (h : f.NotLost) (fails : Failures) (multiwindow : Bool) :
    (f.infoBarRemoved fails multiwindow).NotLost := by
  unfold SessionFiles.infoBarRemoved
  split
  · exact h
  · exact h
  · next tab tabs hload =>
    have hbackup := mem_of_loadSessionFromPath hload
    have hrecorded : ({ f with recorded := f.recorded ++ tab :: tabs } : SessionFiles).NotLost :=
      h.of_owed (fun _ htab => ⟨htab.1, htab.2.1, fun hmem =>
        htab.2.2 (List.mem_append_left _ hmem)⟩) fun _ _ => id
    dsimp only
    split
    · refine removeBackupDirectory_notLost hrecorded _ fun tab hmem htab => ?_
      have hmem : tab ∈ f.backedUp := hmem
      rw [backedUp_of_some hbackup] at hmem
      exact htab.2.2 (List.mem_append_right _ hmem)
    · exact hrecorded

/-! ## Windows -/

theorem Sound.connect (hsound : f.Sound) (fails : Failures) : (f.connect fails).Sound := by
  refine ⟨fun tab htab hmem => ?_, fun tab htab => ?_, fun tab hmem => ?_⟩
  · exact (owed_connect htab).2 hmem
  · exact hsound.once tab (owed_connect htab).1
  · obtain hfile | hfile | hwindow | hmoved := hmem
    · exact hsound.numbered tab (.inl hfile)
    · exact hsound.numbered tab (.inr (.inl hfile))
    · refine hsound.numbered tab (.inl ?_)
      have hload : tab ∈ (loadSessionFromPath fails f.session).getD [] := hwindow
      unfold loadSessionFromPath at hload
      split at hload
      · cases hload
      · exact hload
    · exact hsound.numbered tab (.inr (.inr (.inr hmoved)))

theorem connect_notLost (h : f.NotLost) (fails : Failures) : (f.connect fails).NotLost :=
  h.of_owed (fun _ htab => (owed_connect htab).1) fun _ _ => id

theorem Sound.disconnect (hsound : f.Sound) : f.disconnect.Sound :=
  ⟨fun _ _ hmem => (nomatch hmem), hsound.once, fun tab hmem => hsound.numbered tab
    (hmem.imp_right (Or.imp_right fun hmem => .inr (hmem.resolve_left fun hnone => nomatch hnone)))⟩

theorem mem_openTab {tab : Nat} (h : tab ∈ f.openTab.windowTabs) :
    tab ∈ f.windowTabs ∨ tab = f.nextTab := by
  have hmem : tab ∈ (f.window.map (· ++ [f.nextTab])).getD [] := h
  cases hwindow : f.window with
  | none =>
    rw [hwindow] at hmem
    cases hmem
  | some tabs =>
    rw [hwindow] at hmem
    unfold windowTabs
    rw [hwindow]
    exact (List.mem_append.1 hmem).imp_right List.mem_singleton.1

/-- A new tab is not owed. -/
theorem Sound.openTab (hsound : f.Sound) : f.openTab.Sound where
  window := by
    intro tab htab hmem
    have htab : f.Owed tab := htab
    obtain hold | rfl := mem_openTab hmem
    · exact hsound.window tab htab hold
    · exact Nat.lt_irrefl _ (hsound.numbered _ (.inr (.inr (.inr htab.1))))
  once := hsound.once
  numbered := by
    intro tab hmem
    have hold : ∀ {tab}, tab ∈ f.saved ∨ tab ∈ f.backedUp ∨ tab ∈ f.windowTabs ∨
        tab ∈ f.movedAside → tab < f.nextTab + 1 := fun hmem =>
      Nat.lt_succ_of_lt (hsound.numbered _ hmem)
    obtain hfile | hfile | hwindow | hmoved := hmem
    · exact hold (.inl hfile)
    · exact hold (.inr (.inl hfile))
    · obtain hwas | rfl := mem_openTab hwindow
      · exact hold (.inr (.inr (.inl hwas)))
      · exact Nat.lt_succ_self _
    · exact hold (.inr (.inr (.inr hmoved)))

theorem mem_closeTab {closed tab : Nat} (h : tab ∈ (f.closeTab closed).windowTabs) :
    tab ∈ f.windowTabs := by
  have hmem : tab ∈ (f.window.map fun tabs => tabs.filter (· ≠ closed)).getD [] := h
  cases hwindow : f.window with
  | none =>
    rw [hwindow] at hmem
    cases hmem
  | some tabs =>
    rw [hwindow] at hmem
    unfold windowTabs
    rw [hwindow]
    exact (List.mem_filter.1 hmem).1

theorem Sound.closeTab (hsound : f.Sound) (closed : Nat) : (f.closeTab closed).Sound :=
  ⟨fun tab htab hmem => hsound.window tab htab (mem_closeTab hmem), hsound.once,
    fun tab hmem => hsound.numbered tab (hmem.imp_right (Or.imp_right (Or.imp_left mem_closeTab)))⟩

/-- The file that is destroyed is the one that is written over. -/
def SparesSaved (f : SessionFiles) (fails : Failures) : Prop :=
  fails.write = false → ∀ tab ∈ f.saved, ¬ f.Owed tab

theorem saveSession_eq (hwindow : f.window = some tabs) (fails : Failures) :
    f.saveSession fails = if fails.write then f else { f with session := some tabs } := by
  unfold saveSession
  rw [hwindow]

theorem Sound.saveSession (hsound : f.Sound) (hwindow : f.window = some tabs) (fails : Failures) :
    (f.saveSession fails).Sound := by
  have htabs : f.windowTabs = tabs := by
    unfold windowTabs
    rw [hwindow]
    rfl
  rw [saveSession_eq hwindow]
  split
  · exact hsound
  · refine ⟨hsound.window, fun tab htab hmem => ?_, fun tab hmem => hsound.numbered tab ?_⟩
    · refine absurd ?_ (hsound.window tab htab)
      rw [htabs]
      exact hmem
    · obtain hfile | hrest := hmem
      · refine .inr (.inr (.inl ?_))
        rw [htabs]
        exact hfile
      · exact .inr hrest

theorem Sound.saveSession_iff (hsound : f.Sound) (h : f.NotLost) (hwindow : f.window = some tabs)
    (fails : Failures) :
    (f.saveSession fails).NotLost ↔ f.SparesSaved fails := by
  have htabs : f.windowTabs = tabs := by
    unfold windowTabs
    rw [hwindow]
    rfl
  rw [saveSession_eq hwindow]
  unfold SparesSaved
  cases hwrite : fails.write with
  | true => exact ⟨fun _ hfalse => (nomatch hfalse), fun _ => h⟩
  | false =>
    rw [if_neg Bool.false_ne_true, notLost_iff_owed]
    constructor
    · intro hnot _ tab hmem htab
      obtain hbackup | hfile := hnot tab htab
      · exact hsound.once tab htab hmem hbackup
      · refine hsound.window tab htab ?_
        rw [htabs]
        exact hfile
    · intro hspare tab htab
      have htab : f.Owed tab := htab
      have hfile := notLost_iff_owed.1 h tab htab
      exact .inl (hfile.resolve_right fun hmem => hspare rfl tab hmem htab)

theorem restoreConnected_of_fails {fails : Failures} (h : fails.load = true) (multiwindow : Bool) :
    f.restoreConnected fails multiwindow = f := by
  unfold restoreConnected loadSessionFromPath
  rw [if_pos h]

/-- A backup that is still there after the first loop has been answered for, or was not loaded. -/
theorem restoreConnected_answered (fails : Failures) :
    (∀ tab ∈ (f.restoreConnected fails true).backedUp, ¬ (f.restoreConnected fails true).Owed tab) ∨
      fails.load = true ∧ f.restoreConnected fails true = f := by
  cases hload : fails.load with
  | true => exact .inr ⟨rfl, restoreConnected_of_fails hload true⟩
  | false =>
    left
    unfold restoreConnected loadSessionFromPath
    rw [hload, if_neg Bool.false_ne_true]
    cases hbackup : f.backup with
    | none =>
      intro tab hmem
      unfold backedUp at hmem
      rw [hbackup] at hmem
      cases hmem
    | some tabs =>
      dsimp only
      rw [if_pos rfl]
      unfold removeBackupDirectory
      split
      · exact restoreSessionWindow_answered hbackup
      · exact fun _ hmem => nomatch hmem

end SessionFiles

/-! ## Runs -/

namespace CrashRestoreHelper

variable {c : CrashRestoreHelper}

def NotLost (c : CrashRestoreHelper) : Prop := ∀ s, (c.files s).NotLost

/-- The call destroys no file with a tab that is owed. -/
def Spares (c : CrashRestoreHelper) (call : Call) : Prop :=
  match call with
  | .startUp sessionIDs fails => ∀ s ∈ sessionIDs, (c.files s).SparesBackup (fails s)
  | .restoreSessionsAfterCrash listFails fails => c.multiwindow = true →
    ∀ s ∈ c.backedupSessionIDs listFails, (c.files s).window = none ∨ (fails s).load = true →
      (c.files s).SparesUnmoved (fails s)
  | .saveSession s fails => (c.files s).SparesSaved fails
  | _ => True

structure Inv (c : CrashRestoreHelper) : Prop where
  nodup : c.sessionIDs.Nodup
  sound : ∀ s, (c.files s).Sound

theorem forEach_files {sessionIDs : List Nat} (hnodup : sessionIDs.Nodup)
    (body : Nat → SessionFiles → SessionFiles) (s : Nat) :
    (c.forEach sessionIDs body).files s =
      if s ∈ sessionIDs then body s (c.files s) else c.files s := by
  unfold forEach
  dsimp only
  generalize c.files = files
  induction sessionIDs generalizing files with
  | nil => rw [if_neg List.not_mem_nil, List.foldl_nil]
  | cons other sessionIDs ih =>
    obtain ⟨hother, hnodup⟩ := List.nodup_cons.1 hnodup
    rw [List.foldl_cons, ih hnodup]
    by_cases heq : s = other
    · subst heq
      rw [if_neg hother, if_pos List.mem_cons_self, Function.update_self]
    · rw [Function.update_of_ne heq]
      simp only [List.mem_cons, heq, false_or]

theorem withSession_files (s : Nat) (body : SessionFiles → SessionFiles) (other : Nat) :
    (c.withSession s body).files other =
      if other = s then body (c.files s) else c.files other := by
  unfold withSession
  by_cases heq : other = s
  · subst heq
    rw [if_pos rfl]
    exact Function.update_self ..
  · rw [if_neg heq]
    exact Function.update_of_ne heq ..

theorem Inv.withSession (hinv : Inv c) (s : Nat) (body : SessionFiles → SessionFiles)
    (hsound : (body (c.files s)).Sound) : Inv (c.withSession s body) where
  nodup := by
    show (if s ∈ c.sessionIDs then c.sessionIDs else c.sessionIDs ++ [s]).Nodup
    split
    · exact hinv.nodup
    · next hnew =>
      have hsingle : [s].Nodup := List.nodup_cons.2 ⟨List.not_mem_nil, List.nodup_nil⟩
      refine List.nodup_append.2 ⟨hinv.nodup, hsingle, fun x hx y hy => ?_⟩
      rw [List.mem_singleton.1 hy]
      rintro rfl
      exact hnew hx
  sound := by
    intro other
    rw [withSession_files]
    split
    · exact hsound
    · exact hinv.sound other

theorem withSession_notLost_iff (h : c.NotLost) (s : Nat) (body : SessionFiles → SessionFiles) :
    (c.withSession s body).NotLost ↔ (body (c.files s)).NotLost := by
  constructor
  · intro hnot
    have hs := hnot s
    rw [withSession_files, if_pos rfl] at hs
    exact hs
  · intro hnot other
    rw [withSession_files]
    split
    · exact hnot
    · exact h other

/-- What a loop does is what its iterations do. -/
theorem Inv.forEach (hinv : Inv c) {sessionIDs : List Nat} (hnodup : sessionIDs.Nodup)
    (body : Nat → SessionFiles → SessionFiles)
    (hsound : ∀ s ∈ sessionIDs, (body s (c.files s)).Sound) : Inv (c.forEach sessionIDs body) where
  nodup := hinv.nodup
  sound := by
    intro s
    rw [forEach_files hnodup]
    split
    · next hmem => exact hsound s hmem
    · exact hinv.sound s

theorem forEach_notLost_iff (h : c.NotLost) {sessionIDs : List Nat} (hnodup : sessionIDs.Nodup)
    (body : Nat → SessionFiles → SessionFiles) :
    (c.forEach sessionIDs body).NotLost ↔
      ∀ s ∈ sessionIDs, (body s (c.files s)).NotLost := by
  constructor
  · intro hnot s hmem
    have hs := hnot s
    rw [forEach_files hnodup, if_pos hmem] at hs
    exact hs
  · intro hnot s
    rw [forEach_files hnodup]
    split
    · next hmem => exact hnot s hmem
    · exact h s

theorem Inv.crash (hinv : Inv c) : Inv c.crash :=
  ⟨hinv.nodup, fun s => (hinv.sound s).disconnect⟩

theorem Inv.startUp (hinv : Inv c) {sessionIDs : List Nat} (hnodup : sessionIDs.Nodup)
    (fails : Nat → Failures) : Inv (c.crash.moveAsideSessions sessionIDs fails) :=
  hinv.crash.forEach hnodup _ fun s _ => (hinv.crash.sound s).deleteSessionFromPath rfl (fails s)

theorem Inv.startUp_iff (hinv : Inv c) (h : c.NotLost) {sessionIDs : List Nat}
    (hnodup : sessionIDs.Nodup) (fails : Nat → Failures) :
    (c.crash.moveAsideSessions sessionIDs fails).NotLost ↔
      c.Spares (.startUp sessionIDs fails) := by
  have hcrash : c.crash.NotLost := h
  refine (forEach_notLost_iff hcrash hnodup _).trans (forall₂_congr fun s _ => ?_)
  exact (hinv.crash.sound s).deleteSessionFromPath_iff (hcrash s) (fails s)

theorem nodup_connectedSessionIDs (hinv : Inv c) : c.connectedSessionIDs.Nodup :=
  hinv.nodup.filter _

theorem nodup_backedupSessionIDs (hinv : Inv c) (listFails : Bool) :
    (c.backedupSessionIDs listFails).Nodup := by
  unfold backedupSessionIDs
  split
  · exact List.nodup_nil
  · exact hinv.nodup.filter _

theorem Inv.restoreConnected (hinv : Inv c) (fails : Nat → Failures) :
    Inv (c.restoreConnected fails) :=
  hinv.forEach (nodup_connectedSessionIDs hinv) _ fun s _ =>
    (hinv.sound s).restoreConnected (fails s) c.multiwindow

theorem restoreConnected_notLost (hinv : Inv c) (h : c.NotLost) (fails : Nat → Failures) :
    (c.restoreConnected fails).NotLost :=
  (forEach_notLost_iff h (nodup_connectedSessionIDs hinv) _).2 fun s _ =>
    SessionFiles.restoreConnected_notLost (h s) (fails s) c.multiwindow

theorem Inv.restoreSessionsAfterCrash (hinv : Inv c) (listFails : Bool) (fails : Nat → Failures) :
    Inv (c.restoreSessionsAfterCrash listFails fails) := by
  have hfirst := hinv.restoreConnected fails
  unfold CrashRestoreHelper.restoreSessionsAfterCrash
  split
  · exact hfirst
  · exact hfirst.forEach (nodup_backedupSessionIDs hfirst listFails) _ fun s _ =>
      (hfirst.sound s).restoreNotConnected (fails s)

theorem mem_backedupSessionIDs {listFails : Bool} {s : Nat} :
    s ∈ c.backedupSessionIDs listFails ↔
      listFails = false ∧ s ∈ c.sessionIDs ∧ (c.files s).backupDirectory = true := by
  unfold backedupSessionIDs
  cases listFails with
  | true => simp
  | false => simp

/-- The second loop of the restoration, seen from before the first one. -/
theorem Inv.sparesUnmoved_iff (hinv : Inv c) (hmulti : c.multiwindow = true) (listFails : Bool)
    (fails : Nat → Failures) :
    (∀ s ∈ (c.restoreConnected fails).backedupSessionIDs listFails,
        ((c.restoreConnected fails).files s).SparesUnmoved (fails s)) ↔
      ∀ s ∈ c.backedupSessionIDs listFails, (c.files s).window = none ∨ (fails s).load = true →
        (c.files s).SparesUnmoved (fails s) := by
  have hfiles : ∀ s, (c.restoreConnected fails).files s =
      if s ∈ c.connectedSessionIDs then (c.files s).restoreConnected (fails s) true
      else c.files s := by
    intro s
    rw [← hmulti]
    exact forEach_files (nodup_connectedSessionIDs hinv) _ s
  have hsame : ∀ s, (c.files s).window = none ∨ (fails s).load = true →
      (c.restoreConnected fails).files s = c.files s := by
    intro s hs
    rw [hfiles]
    split
    · next hconnected =>
      obtain hwindow | hload := hs
      · have hsome := (List.mem_filter.1 hconnected).2
        rw [hwindow] at hsome
        cases hsome
      · exact SessionFiles.restoreConnected_of_fails hload true
    · rfl
  simp only [mem_backedupSessionIDs]
  constructor
  · rintro hspares s ⟨hlist, hmem, hdirectory⟩ hs
    have hspare := hspares s
    rw [hsame s hs] at hspare
    exact hspare ⟨hlist, hmem, hdirectory⟩
  · rintro hspares s ⟨hlist, hmem, hdirectory⟩
    have hmem : s ∈ c.sessionIDs := hmem
    have hfirst := hfiles s
    by_cases hconnected : s ∈ c.connectedSessionIDs
    · rw [if_pos hconnected] at hfirst
      obtain hanswered | ⟨hload, hkept⟩ :=
        SessionFiles.restoreConnected_answered (f := c.files s) (fails s)
      · rw [hfirst]
        exact fun _ _ => hanswered
      · have heq := hfirst.trans hkept
        rw [heq] at hdirectory ⊢
        exact hspares s ⟨hlist, hmem, hdirectory⟩ (.inr hload)
    · rw [if_neg hconnected] at hfirst
      rw [hfirst] at hdirectory ⊢
      refine hspares s ⟨hlist, hmem, hdirectory⟩ (.inl ?_)
      refine Option.not_isSome_iff_eq_none.1 fun hwindow => ?_
      exact hconnected (List.mem_filter.2 ⟨hmem, hwindow⟩)

theorem Inv.restoreSessionsAfterCrash_iff (hinv : Inv c) (h : c.NotLost) (listFails : Bool)
    (fails : Nat → Failures) :
    (c.restoreSessionsAfterCrash listFails fails).NotLost ↔
      c.Spares (.restoreSessionsAfterCrash listFails fails) := by
  have hfirst := hinv.restoreConnected fails
  have hnotLost := restoreConnected_notLost hinv h fails
  unfold CrashRestoreHelper.restoreSessionsAfterCrash Spares
  cases hmulti : c.multiwindow with
  | false => exact ⟨fun _ hfalse => (nomatch hfalse), fun _ => hnotLost⟩
  | true =>
    rw [Bool.not_true, if_neg Bool.false_ne_true]
    refine (forEach_notLost_iff hnotLost (nodup_backedupSessionIDs hfirst listFails) _).trans ?_
    refine (forall₂_congr fun s _ =>
      (hfirst.sound s).restoreNotConnected_iff (hnotLost s) (fails s)).trans ?_
    exact (hinv.sparesUnmoved_iff hmulti listFails fails).trans
      ⟨fun hspares _ => hspares, fun hspares => hspares rfl⟩

theorem Inv.step {call : Call} (hinv : Inv c) (hpre : c.Pre call) : Inv (c.step call) := by
  cases call with
  | startUp sessionIDs fails => exact hinv.startUp hpre fails
  | restoreSessionsAfterCrash listFails fails =>
    exact hinv.restoreSessionsAfterCrash listFails fails
  | infoBarRemoved listFails fails =>
    refine hinv.forEach (nodup_backedupSessionIDs hinv listFails)
      (fun s f => f.infoBarRemoved (fails s) c.multiwindow) fun s _ => ?_
    exact (hinv.sound s).infoBarRemoved (fails s) c.multiwindow
  | connect s fails => exact hinv.withSession s (·.connect fails) ((hinv.sound s).connect fails)
  | disconnect s => exact hinv.withSession s _ (hinv.sound s).disconnect
  | openTab s => exact hinv.withSession s _ (hinv.sound s).openTab
  | closeTab s tab => exact hinv.withSession s (·.closeTab tab) ((hinv.sound s).closeTab tab)
  | saveSession s fails =>
    obtain ⟨tabs, hwindow⟩ := Option.ne_none_iff_exists'.1 hpre
    exact hinv.withSession s (·.saveSession fails) ((hinv.sound s).saveSession hwindow fails)

theorem Inv.step_iff {call : Call} (hinv : Inv c) (h : c.NotLost) (hpre : c.Pre call) :
    (c.step call).NotLost ↔ c.Spares call := by
  cases call with
  | startUp sessionIDs fails => exact hinv.startUp_iff h hpre fails
  | restoreSessionsAfterCrash listFails fails =>
    exact hinv.restoreSessionsAfterCrash_iff h listFails fails
  | infoBarRemoved listFails fails =>
    refine ⟨fun _ => trivial, fun _ => ?_⟩
    refine (forEach_notLost_iff h (nodup_backedupSessionIDs hinv listFails)
      fun s f => f.infoBarRemoved (fails s) c.multiwindow).2 fun s _ => ?_
    exact SessionFiles.infoBarRemoved_notLost (h s) (fails s) c.multiwindow
  | connect s fails =>
    exact ⟨fun _ => trivial, fun _ => (withSession_notLost_iff h s (·.connect fails)).2
      (SessionFiles.connect_notLost (h s) fails)⟩
  | disconnect s => exact ⟨fun _ => trivial, fun _ => (withSession_notLost_iff h s _).2 (h s)⟩
  | openTab s => exact ⟨fun _ => trivial, fun _ => (withSession_notLost_iff h s _).2 (h s)⟩
  | closeTab s tab =>
    exact ⟨fun _ => trivial, fun _ => (withSession_notLost_iff h s (·.closeTab tab)).2 (h s)⟩
  | saveSession s fails =>
    obtain ⟨tabs, hwindow⟩ := Option.ne_none_iff_exists'.1 hpre
    exact (withSession_notLost_iff h s (·.saveSession fails)).trans
      ((hinv.sound s).saveSession_iff (h s) hwindow fails)

theorem Inv.init (multiwindow : Bool) : Inv (init multiwindow) where
  nodup := List.nodup_nil
  sound := by
    intro s
    refine ⟨fun _ htab => (nomatch htab.1), fun _ htab => (nomatch htab.1), fun _ hmem => ?_⟩
    obtain h | h | h | h := hmem <;> cases h

theorem init_notLost (multiwindow : Bool) : (init multiwindow).NotLost :=
  fun _ _ hmem => nomatch hmem

/-- **No tab that was moved aside is lost exactly as long as no file with such a tab is
destroyed.** -/
theorem notLost_iff {multiwindow : Bool} {calls : List Call}
    (hrun : machine.Run (init multiwindow) calls) :
    machine.Always (fun c call => (c.step call).NotLost) (init multiwindow) calls ↔
      machine.Always Spares (init multiwindow) calls :=
  Lib.Machine.always_iff_of_invariant (I := fun c => Inv c ∧ c.NotLost)
    (fun _ _ hinv hpre => hinv.1.step_iff hinv.2 hpre)
    (fun _ _ hinv hpre hnotLost => ⟨hinv.1.step hpre, hnotLost⟩)
    ⟨Inv.init multiwindow, init_notLost multiwindow⟩ hrun

/-- Two windows crash. Both are opened again, the second one saves its new session and is
disconnected, and in the first one the prompt is accepted. -/
def restoredOverNewer : List Call :=
  [.connect 1 {}, .connect 2 {}, .openTab 2, .saveSession 2 {}, .startUp [1, 2] fun _ => {},
    .connect 1 {}, .connect 2 {}, .openTab 2, .saveSession 2 {}, .disconnect 2,
    .restoreSessionsAfterCrash false fun _ => {}]

theorem notLost_iff_restoredOverNewer :
    machine.Always (fun c call => (c.step call).NotLost) (init true) restoredOverNewer ↔
      machine.Always Spares (init true) restoredOverNewer :=
  @notLost_iff true restoredOverNewer (by decide)

/-- No operation has failed but the move onto the newer session, and the first tab of the
second window is nowhere. -/
theorem restoredOverNewer_lost :
    machine.Run (init true) restoredOverNewer ∧
      (machine.exec (init true) restoredOverNewer).files 2 =
        ⟨some [1], false, none, none, 2, [0], [], []⟩ ∧
      ¬ machine.Always (fun c call => (c.step call).NotLost) (init true) restoredOverNewer := by
  refine ⟨by decide, by decide, fun hnotLost => ?_⟩
  have hlast := hnotLost.2.2.2.2.2.2.2.2.2.2.1 2 0 (by decide)
  exact absurd hlast (by decide)

end CrashRestoreHelper

end IosChrome.CrashReport

import IosChrome.Lib.FileSystem
import IosChrome.Lib.Machine
import IosChrome.Snapshots.SnapshotFiles

/-!
# Snapshots move to the directories of their browsers

Snapshots were once all in one directory. Each browser's maintenance moves
those of its own tabs to the browser's directory, then deletes the old
directory with whatever is still in it, and purges old files of tabs it does
not have. The old directory is the same for all browsers. The code asks where
it is inside a `DCHECK`, so a build without them never finds it.

A file of a live tab survives the maintenance of all browsers exactly if no
migration leaves it behind: whenever one runs, each file in the old directory
that some live tab still needs is of the migrating browser, its move succeeds,
and the build has `DCHECK`s (`migrated_iff`). With two browsers the first to
run takes the snapshots of the second with it (`secondBrowser_loses`).
-/

namespace IosChrome.Snapshots

open IosChrome.Lib IosChrome.Lib.FileSystem

/-- `base::Time`. -/
abbrev Time := Int

def kLegacyBaseDirectory : String := "Chromium"
def kSnapshotsDirectoryName : String := "Snapshots"
def kJpgExtension : String := ".jpg"

structure File (Image : Type) where
  image : Image
  lastModified : Time
  deriving DecidableEq

abbrev FileTree (Image : Type) := FileSystem String (File Image)

/-- The directory of caches, the one relative paths start from, and the build. -/
structure Device where
  scale : ImageScale
  dirCache : List String
  workingDirectory : List String
  dchecks : Bool

namespace Device

variable (device : Device)

/-- Where the snapshots once were. -/
def oldDirectory : List String :=
  device.dirCache ++ [kLegacyBaseDirectory, kSnapshotsDirectoryName]

/-- `legacy_directory` of `MigrateStorageIfNecessary`. `base::PathService::Get`
is called in a `DCHECK`; without it the path stays empty, and the names are
appended to nothing. -/
def legacyDirectory : List String :=
  (if device.dchecks then device.dirCache else device.workingDirectory) ++
    [kLegacyBaseDirectory, kSnapshotsDirectoryName]

end Device

/-- A file that may be migrated. -/
abbrev Candidate := SnapshotID × ImageType

def candidates (snapshotIDs : List SnapshotID) : List Candidate :=
  snapshotIDs.flatMap fun snapshotID => kImageTypes.map fun imageType => (snapshotID, imageType)

section

variable {Image : Type} (scale : ImageScale)

def Candidate.path (candidate : Candidate) (directory : List String) : List String :=
  directory ++ [imageName candidate.1 candidate.2 scale]

/-- `base::Move`, which may fail. -/
def move (fails : Bool) (disk : FileTree Image) (source target : List String) : FileTree Image :=
  if fails then disk else (disk.moveItem source target).getD disk

/-- One turn of the loop of `MigrateSnapshotsWithIDs`: only snapshots that are
needed move. -/
def migrateCandidate (old new : List String) (moveFails : List String → Bool) (disk : FileTree Image)
    (candidate : Candidate) : FileTree Image :=
  let oldImagePath := candidate.path scale old
  let newImagePath := candidate.path scale new
  if disk.fileExists oldImagePath = false ∨ disk.fileExists newImagePath = true then disk
  else move (moveFails oldImagePath) disk oldImagePath newImagePath

def migrateSnapshotsWithIDs (oldCacheDirectory newCacheDirectory : List String)
    (snapshotIDs : List SnapshotID) (moveFails : List String → Bool) (disk : FileTree Image) :
    FileTree Image :=
  if oldCacheDirectory = [] ∨ oldCacheDirectory = newCacheDirectory ∨
      disk.directoryExists oldCacheDirectory = false then disk
  else
    let disk := (candidates snapshotIDs).foldl
      (migrateCandidate scale oldCacheDirectory newCacheDirectory moveFails) disk
    (disk.removeItem oldCacheDirectory).getD disk

def purgeCacheOlderThan (cacheDirectory : List String) (thresholdDate : Time)
    (keepAliveSnapshotIDs : List SnapshotID) (disk : FileTree Image) : FileTree Image :=
  if disk.directoryExists cacheDirectory = false then disk
  else
    let filesToKeep := (candidates keepAliveSnapshotIDs).map fun candidate =>
      candidate.path scale cacheDirectory
    disk.removeFiles fun path file =>
      decide (path.dropLast = cacheDirectory) &&
        path.getLast?.any (fun name => kJpgExtension.toList.isSuffixOf name.toList) &&
        !filesToKeep.contains path && !decide (file.lastModified > thresholdDate)

end

/-! ## The browsers -/

/-- What runs in the background of a browser, told by its snapshot directory. -/
inductive MaintenanceTask where
  | migrate (directory : List String) (tabIDs : List SnapshotID) (moveFails : List String → Bool)
  | purge (directory : List String) (tabIDs : List SnapshotID) (now : Time)

def oneMinute : Time := 60

/-- `SnapshotBrowserAgent::PerformStorageMaintenance`. -/
def performStorageMaintenance (directory : List String) (tabIDs : List SnapshotID)
    (moveFails : List String → Bool) (now : Time) : List MaintenanceTask :=
  [.migrate directory tabIDs moveFails, .purge directory tabIDs now]

section

variable {Image : Type} (device : Device)

def runMaintenance (disk : FileTree Image) : MaintenanceTask → FileTree Image
  | .migrate directory tabIDs moveFails =>
    migrateSnapshotsWithIDs device.scale device.legacyDirectory directory tabIDs moveFails disk
  | .purge directory tabIDs now =>
    purgeCacheOlderThan device.scale directory (now - oneMinute) tabIDs disk

variable (live : List String → SnapshotID → Prop)

/-- A browser with a directory of its own. Tabs live to the end are among its
tabs whenever its maintenance runs. -/
structure IsBrowser (directory : List String) (tabIDs : List SnapshotID) : Prop where
  apart : Apart device.oldDirectory directory
  others : ∀ other id, live other id → other = directory ∨ Apart directory other
  tabs : ∀ id, live directory id → id ∈ tabIDs

/-- The directory of a snapshot cache is there when the cache is used. -/
def MaintenancePre (disk : FileTree Image) : MaintenanceTask → Prop
  | .migrate directory tabIDs _ =>
    IsBrowser device live directory tabIDs ∧ disk.entry directory = some .directory
  | .purge directory tabIDs _ => IsBrowser device live directory tabIDs

/-- The maintenance of any browsers in any order, over any files. A relative
path names nothing where the app runs. -/
def maintenance (Image : Type) : Machine (FileTree Image) MaintenanceTask where
  init disk := device.dchecks = false → disk.directoryExists device.legacyDirectory = false
  pre := MaintenancePre device live
  step := runMaintenance device

/-- **What becomes of the snapshots of live tabs**: what was in the directory of
the tab's browser is there, and else what was in the old directory is. -/
def Migrated (start final : FileTree Image) : Prop :=
  ∀ directory (c : Candidate), live directory c.1 →
    (∀ file, start.entry (c.path device.scale directory) = some (.file file) →
      final.entry (c.path device.scale directory) = some (.file file)) ∧
    (start.entry (c.path device.scale directory) = none →
      ∀ file, start.entry (c.path device.scale device.oldDirectory) = some (.file file) →
        final.entry (c.path device.scale directory) = some (.file file))

/-- When a migration runs, each file in the old directory that a live tab needs
is of a tab of the migrating browser, its move succeeds, and the code knows where
the directory is. -/
def LeavesNoneBehind (disk : FileTree Image) : MaintenanceTask → Prop
  | .migrate directory tabIDs moveFails => ∀ other (c : Candidate) file, live other c.1 →
    disk.entry (c.path device.scale device.oldDirectory) = some (.file file) →
    disk.entry (c.path device.scale other) = none →
    device.dchecks = true ∧ other = directory ∧ c.1 ∈ tabIDs ∧
      moveFails (c.path device.scale device.oldDirectory) = false
  | .purge _ _ _ => True

end

/-! ## One migration -/

section

variable {Image : Type} {scale : ImageScale}

theorem mem_candidates {ids : List SnapshotID} {candidate : Candidate} :
    candidate ∈ candidates ids ↔ candidate.1 ∈ ids := by
  obtain ⟨id, imageType⟩ := candidate
  unfold candidates
  constructor
  · intro h
    obtain ⟨id', hid', hmem⟩ := List.mem_flatMap.1 h
    obtain ⟨_, _, heq⟩ := List.mem_map.1 hmem
    obtain ⟨rfl, _⟩ := Prod.mk.inj heq
    exact hid'
  · intro h
    refine List.mem_flatMap.2 ⟨id, h, List.mem_map.2 ⟨imageType, ?_, rfl⟩⟩
    cases imageType <;> decide

theorem eq_of_prefix_path {c c' : Candidate} {directory : List String}
    (h : c.path scale directory <+: c'.path scale directory) : c = c' := by
  have heq := h.eq_of_length (by simp [Candidate.path])
  obtain ⟨hid, htype⟩ := imageName_inj (List.singleton_inj.1 (List.append_cancel_left heq))
  exact Prod.ext hid htype

theorem not_path_prefix_self (c : Candidate) (directory : List String) :
    ¬ c.path scale directory <+: directory := fun h => by
  have hlength := h.length_le
  rw [Candidate.path, List.length_append, List.length_singleton] at hlength
  omega

theorem prefix_path (c : Candidate) (directory : List String) :
    directory <+: c.path scale directory := List.prefix_append _ _

/-- A file is not above a directory that has nothing to do with its own, nor above the files in
it. -/
theorem path_apart {directory other : List String} (h : Apart directory other) (c : Candidate) :
    ¬ c.path scale directory <+: other ∧
      ∀ c' : Candidate, ¬ c.path scale directory <+: c'.path scale other :=
  ⟨fun hprefix => h.1 ((prefix_path c directory).trans hprefix),
    fun _ hprefix => h.append _ ((prefix_path c directory).trans hprefix)⟩

theorem directory_of_path {disk : FileTree Image} {c : Candidate} {directory : List String}
    {node : Node (File Image)} (h : disk.entry (c.path scale directory) = some node) :
    disk.entry directory = some .directory := by
  refine disk.parent directory (imageName c.1 c.2 scale) fun hnone => ?_
  have hboth := h.symm.trans hnone
  cases hboth

variable {old new : List String} {moveFails : List String → Bool} (disk : FileTree Image)

/-- A turn that moves nothing, or one that moves the file it is about. -/
theorem migrateCandidate_cases (moveFails : List String → Bool) (c : Candidate) :
    migrateCandidate scale old new moveFails disk c = disk ∨
      (disk.entry (c.path scale new) = none ∧ moveFails (c.path scale old) = false ∧
        disk.moveItem (c.path scale old) (c.path scale new) =
          some (migrateCandidate scale old new moveFails disk c)) := by
  unfold migrateCandidate move
  dsimp only
  split
  · exact .inl rfl
  next hneeded =>
    have hnew : disk.entry (c.path scale new) = none :=
      Option.not_isSome_iff_eq_none.1 fun hsome => hneeded (.inr hsome)
    cases hfails : moveFails (c.path scale old) with
    | true => exact .inl rfl
    | false =>
      cases hmove : disk.moveItem (c.path scale old) (c.path scale new) with
      | none => exact .inl rfl
      | some moved => exact .inr ⟨hnew, rfl, rfl⟩

/-- A turn touches the two paths of its candidate only. -/
theorem entry_migrateCandidate {c : Candidate} {q : List String} (hold : ¬ c.path scale old <+: q)
    (hnew : ¬ c.path scale new <+: q) :
    (migrateCandidate scale old new moveFails disk c).entry q = disk.entry q := by
  rcases migrateCandidate_cases disk moveFails c with h | ⟨_, _, h⟩
  · rw [h]
  · rw [entry_of_moveItem h]
    unfold movedEntry
    rw [if_neg hnew, if_neg hold]

theorem entry_migrateCandidates {q : List String}
    (h : ∀ c : Candidate, ¬ c.path scale old <+: q ∧ ¬ c.path scale new <+: q)
    (list : List Candidate) : ∀ disk : FileTree Image,
      (list.foldl (migrateCandidate scale old new moveFails) disk).entry q = disk.entry q := by
  induction list with
  | nil => exact fun _ => rfl
  | cons c rest ih => exact fun disk => (ih _).trans (entry_migrateCandidate disk (h c).1 (h c).2)

variable (hapart : Apart old new)

include hapart

/-- Another file's turn leaves both paths alone. -/
theorem entry_migrateCandidate_of_ne {c c' : Candidate} (hne : c' ≠ c) :
    (migrateCandidate scale old new moveFails disk c').entry (c.path scale old) =
        disk.entry (c.path scale old) ∧
      (migrateCandidate scale old new moveFails disk c').entry (c.path scale new) =
        disk.entry (c.path scale new) :=
  ⟨entry_migrateCandidate disk (fun h => hne (eq_of_prefix_path h))
      ((path_apart hapart.symm c').2 c),
    entry_migrateCandidate disk ((path_apart hapart c').2 c) fun h => hne (eq_of_prefix_path h)⟩

/-- What is in the new directory stays. -/
theorem migrateCandidates_keeps {c : Candidate} {node : Node (File Image)}
    (list : List Candidate) : ∀ disk : FileTree Image, disk.entry (c.path scale new) = some node →
      (list.foldl (migrateCandidate scale old new moveFails) disk).entry (c.path scale new) =
        some node := by
  induction list with
  | nil => exact fun _ hthere => hthere
  | cons c' rest ih =>
    intro disk hthere
    refine ih _ ?_
    by_cases hc : c' = c
    · subst hc
      rcases migrateCandidate_cases disk moveFails c' with h | ⟨hnone, _, _⟩
      · rw [h]
        exact hthere
      · rw [hthere] at hnone
        cases hnone
    · exact (entry_migrateCandidate_of_ne disk hapart hc).2.trans hthere

/-- **A needed file whose move succeeds arrives.** -/
theorem migrateCandidates_arrives {c : Candidate} {node : Node (File Image)}
    (hmoves : moveFails (c.path scale old) = false) (list : List Candidate) :
    ∀ disk : FileTree Image, c ∈ list → disk.entry new = some .directory →
      disk.entry (c.path scale old) = some node → disk.entry (c.path scale new) = none →
      (list.foldl (migrateCandidate scale old new moveFails) disk).entry (c.path scale new) =
        some node := by
  induction list with
  | nil => exact fun _ hmem => absurd hmem List.not_mem_nil
  | cons c' rest ih =>
    intro disk hmem hdirectory hold hnew
    by_cases hc : c' = c
    · subst hc
      have hexists : disk.fileExists (c'.path scale old) = true := by
        unfold FileSystem.fileExists
        rw [hold]
        rfl
      have hparent : disk.entry (c'.path scale new).dropLast = some .directory := by
        rwa [Candidate.path, List.dropLast_concat]
      obtain ⟨moved, hmove⟩ := moveItem_isSome hexists hnew hparent
        ((path_apart hapart c').2 c')
      have hturn : migrateCandidate scale old new moveFails disk c' = moved := by
        unfold migrateCandidate move FileSystem.fileExists
        simp [hold, hnew, hmoves, hmove]
      refine migrateCandidates_keeps hapart rest _ ?_
      rw [hturn, SameTree.entry (SameTree.moveItem hmove), hold]
    · obtain ⟨hold', hnew'⟩ := @entry_migrateCandidate_of_ne _ scale _ _ moveFails disk hapart _ _ hc
      refine ih _ ((List.mem_cons.1 hmem).resolve_left (Ne.symm hc)) ?_ (hold'.trans hold)
        (hnew'.trans hnew)
      exact (entry_migrateCandidate disk (path_apart hapart c').1
        (not_path_prefix_self c' new)).trans hdirectory

/-- A file that is no candidate, or whose move fails, does not arrive. -/
theorem migrateCandidates_absent {c : Candidate} (list : List Candidate) : ∀ disk : FileTree Image,
    (c ∈ list → moveFails (c.path scale old) = true) → disk.entry (c.path scale new) = none →
    (list.foldl (migrateCandidate scale old new moveFails) disk).entry (c.path scale new) =
      none := by
  induction list with
  | nil => exact fun _ _ hnew => hnew
  | cons c' rest ih =>
    intro disk hfails hnew
    refine ih _ (fun h => hfails (List.mem_cons_of_mem _ h)) ?_
    by_cases hc : c' = c
    · subst hc
      rcases migrateCandidate_cases disk moveFails c' with h | ⟨_, hmoves, _⟩
      · rw [h]
        exact hnew
      · rw [hfails List.mem_cons_self] at hmoves
        cases hmoves
    · exact (entry_migrateCandidate_of_ne disk hapart hc).2.trans hnew

end

/-! ## One task -/

section

variable {Image : Type} {device : Device} {live : List String → SnapshotID → Prop}
  {disk : FileTree Image} {directory other : List String} {ids : List SnapshotID}
  {moveFails : List String → Bool} {now : Time} {c : Candidate}

theorem legacyDirectory_of_dchecks (h : device.dchecks = true) :
    device.legacyDirectory = device.oldDirectory := by
  unfold Device.legacyDirectory Device.oldDirectory
  rw [if_pos h]

theorem migrate_of_gone (hgone : disk.directoryExists device.legacyDirectory = false) :
    runMaintenance device disk (.migrate directory ids moveFails) = disk :=
  if_pos (.inr (.inr hgone))

/-- With the old directory everything in it goes. -/
theorem migrate_of_exists (hchecks : device.dchecks = true)
    (hapart : Apart device.oldDirectory directory)
    (hexists : disk.entry device.oldDirectory = some .directory) :
    ((candidates ids).foldl (migrateCandidate device.scale device.oldDirectory directory moveFails)
      disk).removeItem device.oldDirectory =
        some (runMaintenance device disk (.migrate directory ids moveFails)) := by
  have hne : device.oldDirectory ≠ [] := by simp [Device.oldDirectory]
  have hdirectory := directoryExists_iff.2 hexists
  have hthere : ((candidates ids).foldl (migrateCandidate device.scale device.oldDirectory
      directory moveFails) disk).fileExists device.oldDirectory = true := by
    unfold FileSystem.fileExists
    rw [entry_migrateCandidates fun c => ⟨not_path_prefix_self c _,
      (path_apart hapart.symm c).1⟩, hexists]
    rfl
  obtain ⟨final, hfinal⟩ := removeItem_isSome hne hthere
  rw [hfinal]
  show some final = some (migrateSnapshotsWithIDs device.scale device.legacyDirectory directory ids
    moveFails disk)
  unfold migrateSnapshotsWithIDs
  rw [legacyDirectory_of_dchecks hchecks, if_neg]
  · show some final = some ((removeItem (List.foldl _ disk _) device.oldDirectory).getD _)
    rw [hfinal]
    rfl
  · rintro (hnil | rfl | hgone)
    · exact hne hnil
    · exact hapart.1 (List.prefix_refl _)
    · rw [hdirectory] at hgone
      cases hgone

/-- A purge leaves everything but files it does not keep, in its own directory. -/
theorem entry_purge {q : List String}
    (hkept : q.dropLast = directory → ∃ c ∈ candidates ids, c.path device.scale directory = q) :
    (runMaintenance device disk (.purge directory ids now)).entry q = disk.entry q := by
  show (purgeCacheOlderThan device.scale directory (now - oneMinute) ids disk).entry q = _
  unfold purgeCacheOlderThan
  split
  · rfl
  show (disk.entry q).filter _ = _
  cases disk.entry q with
  | none => rfl
  | some node =>
    refine Option.filter_eq_some_iff.2 ⟨rfl, ?_⟩
    cases node with
    | directory => rfl
    | file file =>
      refine Bool.not_eq_true' _ ▸ Bool.eq_false_iff.2 fun hpurged => ?_
      simp only [Node.holds, Bool.and_eq_true, decide_eq_true_eq, Bool.not_eq_true',
        List.contains_eq_mem, decide_eq_false_iff_not] at hpurged
      obtain ⟨c, hc, hpath⟩ := hkept hpurged.1.1.1
      exact hpurged.1.2 (List.mem_map.2 ⟨c, hc, hpath⟩)

theorem directoryExists_purge (q : List String) :
    (runMaintenance device disk (.purge directory ids now)).directoryExists q =
      disk.directoryExists q := by
  show (purgeCacheOlderThan device.scale directory (now - oneMinute) ids disk).directoryExists q = _
  unfold purgeCacheOlderThan
  split
  · rfl
  · exact directoryExists_removeFiles _ q

/-- The purge of any browser keeps the files of live tabs, and the old ones. -/
theorem purge_live (h : IsBrowser device live directory ids) (hlive : live other c.1) :
    (runMaintenance device disk (.purge directory ids now)).entry (c.path device.scale other) =
      disk.entry (c.path device.scale other) := by
  refine entry_purge fun hdirectory => ?_
  rw [Candidate.path, List.dropLast_concat] at hdirectory
  subst hdirectory
  exact ⟨c, mem_candidates.2 (h.tabs c.1 hlive), rfl⟩

theorem purge_old (h : IsBrowser device live directory ids) :
    (runMaintenance device disk (.purge directory ids now)).entry
      (c.path device.scale device.oldDirectory) =
        disk.entry (c.path device.scale device.oldDirectory) := by
  refine entry_purge fun hdirectory => ?_
  rw [Candidate.path, List.dropLast_concat] at hdirectory
  exact absurd (List.prefix_refl _) (hdirectory ▸ h.apart).1

/-- What is not under the old directory is as the moves have left it. -/
theorem entry_migrate (hchecks : device.dchecks = true)
    (h : IsBrowser device live directory ids)
    (hexists : disk.entry device.oldDirectory = some .directory)
    (hother : Apart device.oldDirectory other) :
    (runMaintenance device disk (.migrate directory ids moveFails)).entry
        (c.path device.scale other) =
      ((candidates ids).foldl (migrateCandidate device.scale device.oldDirectory directory
        moveFails) disk).entry (c.path device.scale other) := by
  rw [entry_of_removeItem (migrate_of_exists hchecks h.apart hexists)]
  exact if_neg (hother.append _)

/-! ## Every run -/

/-- What a run keeps whose migrations leave none behind. Files may be in the old
directory while all migrations are `pending`. -/
structure Kept (device : Device) (live : List String → SnapshotID → Prop) (start : FileTree Image)
    (pending : Prop) (disk : FileTree Image) : Prop where
  own : ∀ directory (c : Candidate) node, live directory c.1 →
    start.entry (c.path device.scale directory) = some node →
      disk.entry (c.path device.scale directory) = some node
  needed : ∀ directory (c : Candidate) file, live directory c.1 →
    start.entry (c.path device.scale directory) = none →
      start.entry (c.path device.scale device.oldDirectory) = some (.file file) →
        disk.entry (c.path device.scale directory) = some (.file file) ∨
          (pending ∧ disk.entry (c.path device.scale directory) = none ∧
            disk.entry (c.path device.scale device.oldDirectory) = some (.file file))
  old : ∀ (c : Candidate) file,
    disk.entry (c.path device.scale device.oldDirectory) = some (.file file) →
      start.entry (c.path device.scale device.oldDirectory) = some (.file file)
  gone : device.dchecks = false → disk.directoryExists device.legacyDirectory = false

/-- A file of a live tab that no later maintenance brings back. -/
def Lost (device : Device) (live : List String → SnapshotID → Prop) (start disk : FileTree Image) :
    Prop :=
  ∃ directory, ∃ c : Candidate, ∃ file, live directory c.1 ∧
    start.entry (c.path device.scale directory) = none ∧
    start.entry (c.path device.scale device.oldDirectory) = some (.file file) ∧
    disk.entry (c.path device.scale directory) = none ∧
    disk.directoryExists device.legacyDirectory = false

variable {start : FileTree Image} {pending : Prop}

theorem Kept.migrated (h : Kept device live start pending disk)
    (hpending : ∀ directory id, live directory id → ¬pending) :
    Migrated device live start disk := by
  refine fun directory c hlive => ⟨fun file => h.own directory c _ hlive, fun hnone file hold => ?_⟩
  exact (h.needed directory c file hlive hnone hold).resolve_right fun hstill =>
    hpending directory c.1 hlive hstill.1

theorem Lost.not_migrated (h : Lost device live start disk) : ¬ Migrated device live start disk := by
  obtain ⟨directory, c, file, hlive, hnone, hold, habsent, _⟩ := h
  intro hmigrated
  have hthere := (hmigrated directory c hlive).2 hnone file hold
  rw [habsent] at hthere
  cases hthere

theorem Kept.mono (h : Kept device live start pending disk) {pending' : Prop}
    (hmono : pending → pending') : Kept device live start pending' disk :=
  ⟨h.own, fun directory c file hlive hnone hold => (h.needed directory c file hlive hnone
    hold).imp_right fun hstill => ⟨hmono hstill.1, hstill.2⟩, h.old, h.gone⟩

theorem Kept.purge (h : Kept device live start pending disk)
    (hpre : IsBrowser device live directory ids) :
    Kept device live start pending (runMaintenance device disk (.purge directory ids now)) where
  own other c node hlive hnode := by
    rw [purge_live hpre hlive]
    exact h.own other c node hlive hnode
  needed other c file hlive hnone hold := by
    rw [purge_live hpre hlive, purge_old hpre]
    exact h.needed other c file hlive hnone hold
  old c file hfile := by
    rw [purge_old hpre] at hfile
    exact h.old c file hfile
  gone hchecks := by
    rw [directoryExists_purge]
    exact h.gone hchecks

section

variable (hapart : ∀ directory id, live directory id → Apart device.oldDirectory directory)

include hapart

/-- After a migration nothing is pending. -/
theorem Kept.migrate (h : Kept device live start pending disk)
    (hpre : MaintenancePre device live disk (.migrate directory ids moveFails))
    (hnone : LeavesNoneBehind device live disk (.migrate directory ids moveFails)) :
    Kept device live start False
      (runMaintenance device disk (.migrate directory ids moveFails)) := by
  by_cases hexists : device.dchecks = true ∧ disk.entry device.oldDirectory = some .directory
  · obtain ⟨hchecks, hexists⟩ := hexists
    have hkeeps : ∀ {other : List String} {c : Candidate} {node}, live other c.1 →
        disk.entry (c.path device.scale other) = some node →
        (runMaintenance device disk (.migrate directory ids moveFails)).entry
          (c.path device.scale other) = some node := by
      intro other c node hlive hthere
      rw [entry_migrate hchecks hpre.1 hexists (hapart other c.1 hlive)]
      rcases hpre.1.others other c.1 hlive with rfl | hother
      · exact migrateCandidates_keeps hpre.1.apart _ disk hthere
      · rw [entry_migrateCandidates fun c' => ⟨(path_apart (hapart other c.1 hlive) c').2 c,
          (path_apart hother c').2 c⟩]
        exact hthere
    refine ⟨fun other c node hlive hnode => hkeeps hlive (h.own other c node hlive hnode),
      fun other c file hlive hnone' hold => .inl ?_, fun c file hthere => ?_, fun hno => ?_⟩
    · rcases h.needed other c file hlive hnone' hold with hthere | ⟨_, habsent, hstill⟩
      · exact hkeeps hlive hthere
      · obtain ⟨_, rfl, hid, hmoves⟩ := hnone other c file hlive hstill habsent
        rw [entry_migrate hchecks hpre.1 hexists (hapart other c.1 hlive)]
        exact migrateCandidates_arrives hpre.1.apart hmoves _ disk (mem_candidates.2 hid) hpre.2
          hstill habsent
    · rw [entry_of_removeItem (migrate_of_exists hchecks hpre.1.apart hexists),
        if_pos (prefix_path c _)] at hthere
      cases hthere
    · rw [hchecks] at hno
      cases hno
  · -- The code finds no directory, and nothing is needed of one.
    have hgone : disk.directoryExists device.legacyDirectory = false := by
      cases hchecks : device.dchecks with
      | false => exact h.gone hchecks
      | true =>
        rw [legacyDirectory_of_dchecks hchecks]
        exact Bool.eq_false_iff.2 fun hthere => hexists ⟨hchecks, directoryExists_iff.1 hthere⟩
    rw [migrate_of_gone hgone]
    refine ⟨h.own, fun other c file hlive hnone' hold => .inl ?_, h.old, h.gone⟩
    refine (h.needed other c file hlive hnone' hold).resolve_right fun hneeded => hexists ?_
    exact ⟨(hnone other c file hlive hneeded.2.2 hneeded.2.1).1, directory_of_path hneeded.2.2⟩

theorem Kept.lost (h : Kept device live start pending disk)
    (hpre : MaintenancePre device live disk (.migrate directory ids moveFails))
    (hleaves : ¬ LeavesNoneBehind device live disk (.migrate directory ids moveFails)) :
    Lost device live start (runMaintenance device disk (.migrate directory ids moveFails)) := by
  unfold LeavesNoneBehind at hleaves
  push Not at hleaves
  obtain ⟨other, c, file, hlive, hold, hnone, hbehind⟩ := hleaves
  refine ⟨other, c, file, hlive, ?_, h.old c file hold, ?_⟩
  · cases hwas : start.entry (c.path device.scale other) with
    | none => rfl
    | some node =>
      rw [h.own other c node hlive hwas] at hnone
      cases hnone
  cases hchecks : device.dchecks with
  | false =>
    rw [migrate_of_gone (h.gone hchecks)]
    exact ⟨hnone, h.gone hchecks⟩
  | true =>
    have hexists := directory_of_path hold
    constructor
    · rw [entry_migrate hchecks hpre.1 hexists (hapart other c.1 hlive)]
      rcases hpre.1.others other c.1 hlive with rfl | hother
      · refine migrateCandidates_absent hpre.1.apart _ disk (fun _ => ?_) hnone
        exact Bool.ne_false_iff.1 (hbehind hchecks rfl (hpre.1.tabs c.1 hlive))
      · rw [entry_migrateCandidates fun c' => ⟨(path_apart (hapart other c.1 hlive) c').2 c,
          (path_apart hother c').2 c⟩]
        exact hnone
    · rw [legacyDirectory_of_dchecks hchecks]
      unfold FileSystem.directoryExists
      rw [entry_of_removeItem (migrate_of_exists hchecks hpre.1.apart hexists),
        if_pos (List.prefix_refl _)]
      rfl

omit hapart in
theorem Lost.step (h : Lost device live start disk) (task : MaintenanceTask)
    (hpre : MaintenancePre device live disk task) :
    Lost device live start (runMaintenance device disk task) := by
  obtain ⟨directory, c, file, hlive, hnone, hold, habsent, hgone⟩ := h
  refine ⟨directory, c, file, hlive, hnone, hold, ?_⟩
  cases task with
  | purge other ids now =>
    rw [purge_live hpre hlive, directoryExists_purge]
    exact ⟨habsent, hgone⟩
  | migrate other ids moveFails =>
    rw [migrate_of_gone hgone]
    exact ⟨habsent, hgone⟩

/-- A run keeps the files, or loses one at the first migration that leaves one
behind. -/
theorem kept_or_lost {tasks : List MaintenanceTask} : ∀ {disk : FileTree Image} {pending : Prop},
    Kept device live start pending disk → (maintenance device live Image).Run disk tasks →
    ((maintenance device live Image).Always (LeavesNoneBehind device live) disk tasks ∧
      Kept device live start
        (pending ∧ ∀ directory ids moveFails, .migrate directory ids moveFails ∉ tasks)
        ((maintenance device live Image).exec disk tasks)) ∨
    (¬ (maintenance device live Image).Always (LeavesNoneBehind device live) disk tasks ∧
      Lost device live start ((maintenance device live Image).exec disk tasks)) := by
  induction tasks with
  | nil =>
    intro disk pending h _
    exact .inl ⟨trivial, h.mono fun hpending => ⟨hpending, fun _ _ _ => List.not_mem_nil⟩⟩
  | cons task rest ih =>
    intro disk pending h hrun
    by_cases hleaves : LeavesNoneBehind device live disk task
    · obtain ⟨pending', hkept, hpending⟩ : ∃ pending',
          Kept device live start pending' (runMaintenance device disk task) ∧
          (pending' → pending ∧ ∀ directory ids moveFails,
            task ≠ .migrate directory ids moveFails) := by
        cases task with
        | purge =>
          exact ⟨pending, h.purge hrun.1, fun hp => ⟨hp, fun _ _ _ heq => by cases heq⟩⟩
        | migrate => exact ⟨False, h.migrate hapart hrun.1 hleaves, False.elim⟩
      rcases ih hkept hrun.2 with ⟨halways, hfinal⟩ | ⟨hnot, hlost⟩
      · refine .inl ⟨⟨hleaves, halways⟩, hfinal.mono fun hp => ⟨(hpending hp.1).1, ?_⟩⟩
        intro directory ids moveFails hmem
        rcases List.mem_cons.1 hmem with heq | hmem
        · exact (hpending hp.1).2 _ _ _ heq.symm
        · exact hp.2 _ _ _ hmem
      · exact .inr ⟨fun halways => hnot halways.2, hlost⟩
    · cases task with
      | purge => exact absurd trivial hleaves
      | migrate directory ids moveFails =>
        refine .inr ⟨fun halways => hleaves halways.1, ?_⟩
        exact Machine.Run.invariant (I := Lost device live start)
          (s := runMaintenance device disk (.migrate directory ids moveFails))
          (fun _ task hlost hpre => hlost.step task hpre) (h.lost hapart hrun.1 hleaves) hrun.2

/-- **The snapshots of live tabs survive the maintenance of all browsers exactly
if no migration leaves one of them behind.** -/
theorem migrated_iff {tasks : List MaintenanceTask}
    (hinit : (maintenance device live Image).init start)
    (hrun : (maintenance device live Image).Run start tasks)
    (hall : ∀ directory id, live directory id →
      ∃ ids moveFails, .migrate directory ids moveFails ∈ tasks) :
    Migrated device live start ((maintenance device live Image).exec start tasks) ↔
      (maintenance device live Image).Always (LeavesNoneBehind device live) start tasks := by
  have hkept : Kept device live start True start := ⟨fun _ _ _ _ hnode => hnode,
    fun _ _ _ _ hnone hold => .inr ⟨trivial, hnone, hold⟩, fun _ _ hfile => hfile, hinit⟩
  rcases kept_or_lost hapart hkept hrun with ⟨halways, hfinal⟩ | ⟨hnot, hlost⟩
  · refine iff_of_true (hfinal.migrated fun directory id hlive hpending => ?_) halways
    obtain ⟨ids, moveFails, hmem⟩ := hall directory id hlive
    exact hpending.2 directory ids moveFails hmem
  · exact iff_of_false hlost.not_migrated hnot

end

end

private def tabA : SnapshotID := ⟨"3F2504E0-4F89-11D3-9A0C-0305E82C3301", length_tabUUID⟩
private def tabB : SnapshotID := ⟨"6BA7B810-9DAD-11D1-80B4-00C04FD430C8", by decide +kernel⟩

private def phone : Device := ⟨.IMAGE_SCALE_2X, ["Caches"], [], true⟩

/-- Tab A is in the first browser, tab B in the second. -/
private def liveTabs (directory : List String) (id : SnapshotID) : Prop :=
  (directory = ["A"] ∧ id = tabA) ∨ (directory = ["B"] ∧ id = tabB)

private def directories : List (List String) :=
  [[], ["A"], ["B"], ["Caches"], ["Caches", "Chromium"], ["Caches", "Chromium", "Snapshots"]]

private theorem directories_closed : ∀ d ∈ directories, directories.contains d.dropLast := by
  decide

/-- The old directory with the color snapshots of some tabs. -/
private def oldSnapshots (ids : List SnapshotID) : FileTree Nat where
  entry p :=
    if directories.contains p then some .directory
    else if (ids.map fun id => Candidate.path phone.scale (id, .IMAGE_TYPE_COLOR)
      phone.oldDirectory).contains p then some (.file ⟨7, 0⟩)
    else none
  root := rfl
  parent := by
    intro p n h
    have hp : (p ++ [n]).dropLast = p := List.dropLast_concat
    split at h
    next hdirectory =>
      exact if_pos (hp ▸ directories_closed _ (List.contains_iff_mem.1 hdirectory))
    next =>
      split at h
      next hfile =>
        obtain ⟨id, _, heq⟩ := List.mem_map.1 (List.contains_iff_mem.1 hfile)
        rw [← hp, ← heq, Candidate.path, List.dropLast_concat]
        exact if_pos (by decide)
      next => exact absurd rfl h

/-- Both browsers run their maintenance, and no move fails. -/
private def bothBrowsers : List MaintenanceTask :=
  performStorageMaintenance ["A"] [tabA] (fun _ => false) 100 ++
    performStorageMaintenance ["B"] [tabB] (fun _ => false) 100

private theorem isBrowser {directory : List String} {id : SnapshotID} (h : liveTabs directory id) :
    IsBrowser phone liveTabs directory [id] := by
  refine ⟨?_, fun other id' h' => ?_, fun id' h' => ?_⟩
  · rcases h with ⟨rfl, _⟩ | ⟨rfl, _⟩ <;> exact ⟨by decide, by decide⟩
  · rcases h with ⟨rfl, _⟩ | ⟨rfl, _⟩ <;> rcases h' with ⟨rfl, _⟩ | ⟨rfl, _⟩
    · exact .inl rfl
    · exact .inr ⟨by decide, by decide⟩
    · exact .inr ⟨by decide, by decide⟩
    · exact .inl rfl
  · rcases h with ⟨rfl, rfl⟩ | ⟨rfl, rfl⟩ <;> rcases h' with ⟨heq, rfl⟩ | ⟨heq, rfl⟩
    · exact List.mem_singleton_self _
    · exact absurd heq (by decide)
    · exact absurd heq (by decide)
    · exact List.mem_singleton_self _

private theorem liveTabs_migrate (directory : List String) (id : SnapshotID)
    (h : liveTabs directory id) :
    ∃ ids moveFails, .migrate directory ids moveFails ∈ bothBrowsers := by
  rcases h with ⟨rfl, _⟩ | ⟨rfl, _⟩
  · exact ⟨[tabA], fun _ => false, by simp [bothBrowsers, performStorageMaintenance]⟩
  · exact ⟨[tabB], fun _ => false, by simp [bothBrowsers, performStorageMaintenance]⟩

private theorem bothBrowsers_run {ids : List SnapshotID} (hids : ids = [tabA] ∨ ids = [tabA, tabB]) :
    (maintenance phone liveTabs Nat).Run (oldSnapshots ids) bothBrowsers := by
  have hA := isBrowser (.inl ⟨rfl, rfl⟩)
  have hB := isBrowser (.inr ⟨rfl, rfl⟩)
  rcases hids with rfl | rfl
  · exact ⟨⟨hA, by decide +kernel⟩, hA, ⟨hB, by decide +kernel⟩, hB, trivial⟩
  · exact ⟨⟨hA, by decide +kernel⟩, hA, ⟨hB, by decide +kernel⟩, hB, trivial⟩

/-- Only the first browser to run has old snapshots. -/
theorem migrated_onlyFirst :
    Migrated phone liveTabs (oldSnapshots [tabA])
        ((maintenance phone liveTabs Nat).exec (oldSnapshots [tabA]) bothBrowsers) ↔
      (maintenance phone liveTabs Nat).Always (LeavesNoneBehind phone liveTabs)
        (oldSnapshots [tabA]) bothBrowsers :=
  migrated_iff (fun _ _ hlive => (isBrowser hlive).apart) (fun hchecks => by cases hchecks)
    (bothBrowsers_run (.inl rfl)) liveTabs_migrate

/-- **The first browser's migration deletes the snapshots of the second.** -/
theorem secondBrowser_loses :
    (maintenance phone liveTabs Nat).Run (oldSnapshots [tabA, tabB]) bothBrowsers ∧
    ((maintenance phone liveTabs Nat).exec (oldSnapshots [tabA, tabB]) bothBrowsers).entry
      (Candidate.path phone.scale (tabB, .IMAGE_TYPE_COLOR) ["B"]) = none ∧
    ¬ Migrated phone liveTabs (oldSnapshots [tabA, tabB])
      ((maintenance phone liveTabs Nat).exec (oldSnapshots [tabA, tabB]) bothBrowsers) := by
  have habsent : ((maintenance phone liveTabs Nat).exec (oldSnapshots [tabA, tabB])
      bothBrowsers).entry (Candidate.path phone.scale (tabB, .IMAGE_TYPE_COLOR) ["B"]) = none := by
    decide +kernel
  refine ⟨bothBrowsers_run (.inr rfl), habsent, fun hmigrated => ?_⟩
  have hthere := (hmigrated ["B"] (tabB, .IMAGE_TYPE_COLOR) (.inr ⟨rfl, rfl⟩)).2
    (by decide +kernel) ⟨7, 0⟩ (by decide +kernel)
  rw [habsent] at hthere
  cases hthere

end IosChrome.Snapshots

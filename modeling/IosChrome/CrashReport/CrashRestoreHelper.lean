import IosChrome.Lib.Machine
import Mathlib.Logic.Function.Basic

/-!
# CrashRestoreHelper

After a crash the session files of the windows that were connected are moved aside to backup
paths, and the user is asked whether to restore them. Accepting inserts the backups of the
connected windows and moves the others back; dismissing records their tabs as recently closed.

What there is of a session is one record: the file at its path, its backup directory and the
backup in it, and the tabs of its window while that is connected. Each iteration of the loops
over sessions works on the record of its session. A tab is numbered in the session it was
opened in, and keeps its number in the files.

Every file operation may fail and change nothing (`Failures`); it also fails where it is not
possible, like a move onto an existing file. The files of the off the record browser state are
not backed up and are left out, and so is the new tab page that a restored window closes.
-/

namespace IosChrome.CrashReport

/-- Which of the operations on the files of a session fail. -/
structure Failures where
  removeBackup : Bool := false
  createDirectory : Bool := false
  moveToBackup : Bool := false
  load : Bool := false
  removeRestored : Bool := false
  moveBack : Bool := false
  removeDirectory : Bool := false
  write : Bool := false

structure SessionFiles where
  /-- The file at the original path. -/
  session : Option (List Nat)
  backupDirectory : Bool
  backup : Option (List Nat)
  /-- The tabs of the connected window. -/
  window : Option (List Nat)
  nextTab : Nat
  /-- The tabs of session files that were moved aside. -/
  movedAside : List Nat
  /-- Those inserted in a window since. -/
  inserted : List Nat
  /-- Those recorded in the tab restore service since. -/
  recorded : List Nat
  deriving DecidableEq

namespace SessionFiles

def empty : SessionFiles := ⟨none, false, none, none, 0, [], [], []⟩

variable (f : SessionFiles) (fails : Failures)

/-! ## Moving aside -/

/-- A tab that is moved aside has to be accounted for anew. -/
def moveToBackup (tabs : List Nat) : SessionFiles :=
  { f with
    session := none
    backup := some tabs
    movedAside := f.movedAside ++ tabs
    inserted := f.inserted.filter (· ∉ tabs)
    recorded := f.recorded.filter (· ∉ tabs) }

/-- The first half of `deleteSessionFromPath`, up to the move. -/
def prepareBackup : SessionFiles :=
  { f with backup := none, backupDirectory := f.backupDirectory || !fails.createDirectory }

/-- That there is no backup to remove is no error. -/
def deleteSessionFromPath : SessionFiles × Bool :=
  match f.session with
  | none => (f, false)
  | some tabs =>
    if f.backup.isSome && fails.removeBackup then (f, false)
    else if fails.moveToBackup || !(f.prepareBackup fails).backupDirectory then
      (f.prepareBackup fails, false)
    else ((f.prepareBackup fails).moveToBackup tabs, true)

/-! ## Answers -/

def loadSessionFromPath (path : Option (List Nat)) : Option (List Nat) :=
  if fails.load then none else path

/-- `removeItemAtPath:` of the backup directory. -/
def removeBackupDirectory (failed : Bool) : SessionFiles :=
  if failed then f else { f with backupDirectory := false, backup := none }

/-- `RestoreSessionWindow` of the connected window. -/
def restoreSessionWindow (tabs : List Nat) : SessionFiles :=
  { f with window := f.window.map (· ++ tabs), inserted := f.inserted ++ tabs }

/-- The iteration for a connected session. -/
def restoreConnected (multiwindow : Bool) : SessionFiles :=
  match loadSessionFromPath fails f.backup with
  | none => f
  | some tabs =>
    if multiwindow then
      (f.restoreSessionWindow tabs).removeBackupDirectory fails.removeRestored
    else f.restoreSessionWindow tabs

/-- `moveItemAtPath:toPath:`, to where there is nothing. -/
def moveBack : SessionFiles :=
  match f.backup, f.session with
  | some tabs, none => if fails.moveBack then f else { f with session := some tabs, backup := none }
  | _, _ => f

/-- The iteration for a session that is still backed up. -/
def restoreNotConnected : SessionFiles :=
  (f.moveBack fails).removeBackupDirectory fails.removeDirectory

/-- The iteration of `infoBarRemoved` for a session. -/
def infoBarRemoved (multiwindow : Bool) : SessionFiles :=
  match loadSessionFromPath fails f.backup with
  | none => f
  | some [] => f
  | some (tab :: tabs) =>
    let f := { f with recorded := f.recorded ++ tab :: tabs }
    if multiwindow then f.removeBackupDirectory fails.removeDirectory else f

/-! ## Windows -/

/-- A window is made, and restores its session. -/
def connect : SessionFiles :=
  let tabs := (loadSessionFromPath fails f.session).getD []
  { f with window := some tabs, inserted := f.inserted ++ tabs }

def disconnect : SessionFiles := { f with window := none }

def openTab : SessionFiles :=
  { f with window := f.window.map (· ++ [f.nextTab]), nextTab := f.nextTab + 1 }

def closeTab (tab : Nat) : SessionFiles :=
  { f with window := f.window.map fun tabs => tabs.filter (· ≠ tab) }

def saveSession : SessionFiles :=
  match f.window with
  | none => f
  | some tabs => if fails.write then f else { f with session := some tabs }

end SessionFiles

/-- The files of all sessions. `sessionIDs` are those there have been. -/
structure CrashRestoreHelper where
  multiwindow : Bool
  sessionIDs : List Nat
  files : Nat → SessionFiles

namespace CrashRestoreHelper

def init (multiwindow : Bool) : CrashRestoreHelper := ⟨multiwindow, [], fun _ => .empty⟩

variable (c : CrashRestoreHelper)

/-- A loop over sessions. -/
def forEach (sessionIDs : List Nat) (body : Nat → SessionFiles → SessionFiles) :
    CrashRestoreHelper :=
  { c with
    files := sessionIDs.foldl (fun files s => Function.update files s (body s (files s))) c.files }

def withSession (s : Nat) (body : SessionFiles → SessionFiles) : CrashRestoreHelper :=
  { c with
    sessionIDs := if s ∈ c.sessionIDs then c.sessionIDs else c.sessionIDs ++ [s]
    files := Function.update c.files s (body (c.files s)) }

/-- The windows are gone. -/
def crash : CrashRestoreHelper :=
  { c with files := fun s => (c.files s).disconnect }

def moveAsideSessions (sessionIDs : List Nat) (fails : Nat → Failures) : CrashRestoreHelper :=
  c.forEach sessionIDs fun s f => (f.deleteSessionFromPath (fails s)).1

/-- The sessions of all regular browsers. -/
def connectedSessionIDs : List Nat :=
  c.sessionIDs.filter fun s => (c.files s).window.isSome

/-- The contents of the directory of backups. It may fail to list them. -/
def backedupSessionIDs (listFails : Bool) : List Nat :=
  if listFails then [] else c.sessionIDs.filter fun s => (c.files s).backupDirectory

def restoreConnected (fails : Nat → Failures) : CrashRestoreHelper :=
  c.forEach c.connectedSessionIDs fun s f => f.restoreConnected (fails s) c.multiwindow

def restoreSessionsAfterCrash (listFails : Bool) (fails : Nat → Failures) : CrashRestoreHelper :=
  if !c.multiwindow then c.restoreConnected fails
  else
    (c.restoreConnected fails).forEach ((c.restoreConnected fails).backedupSessionIDs listFails)
      fun s f => f.restoreNotConnected (fails s)

def infoBarRemoved (listFails : Bool) (fails : Nat → Failures) : CrashRestoreHelper :=
  c.forEach (c.backedupSessionIDs listFails) fun s f => f.infoBarRemoved (fails s) c.multiwindow

inductive Call where
  /-- A start-up after a crash. -/
  | startUp (sessionIDs : List Nat) (fails : Nat → Failures)
  | restoreSessionsAfterCrash (listFails : Bool) (fails : Nat → Failures)
  | infoBarRemoved (listFails : Bool) (fails : Nat → Failures)
  | connect (s : Nat) (fails : Failures)
  | disconnect (s : Nat)
  | openTab (s : Nat)
  | closeTab (s tab : Nat)
  | saveSession (s : Nat) (fails : Failures)

def step (call : Call) : CrashRestoreHelper :=
  match call with
  | .startUp sessionIDs fails => c.crash.moveAsideSessions sessionIDs fails
  | .restoreSessionsAfterCrash listFails fails => c.restoreSessionsAfterCrash listFails fails
  | .infoBarRemoved listFails fails => c.infoBarRemoved listFails fails
  | .connect s fails => c.withSession s fun f => f.connect fails
  | .disconnect s => c.withSession s fun f => f.disconnect
  | .openTab s => c.withSession s fun f => f.openTab
  | .closeTab s tab => c.withSession s fun f => f.closeTab tab
  | .saveSession s fails => c.withSession s fun f => f.saveSession fails

/-- The sessions moved aside are a set. -/
def Pre (call : Call) : Prop :=
  match call with
  | .startUp sessionIDs _ => sessionIDs.Nodup
  | .connect s _ => (c.files s).window = none
  | .disconnect s => (c.files s).window ≠ none
  | .openTab s => (c.files s).window ≠ none
  | .closeTab s _ => (c.files s).window ≠ none
  | .saveSession s _ => (c.files s).window ≠ none
  | _ => True

instance (call : Call) : Decidable (c.Pre call) := by
  unfold Pre
  cases call <;> infer_instance

def machine : Lib.Machine CrashRestoreHelper Call where
  init c := ∃ multiwindow, c = init multiwindow
  pre := Pre
  step := step

instance (c : CrashRestoreHelper) (call : Call) : Decidable (machine.pre c call) :=
  inferInstanceAs (Decidable (c.Pre call))

end CrashRestoreHelper

end IosChrome.CrashReport

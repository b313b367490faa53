import IosChrome.Lib.FileSystem
import IosChrome.Sessions.SessionService

/-!
# The migration of session storage

`MigrateSessionStorageForDirectory` moves the tabs and the snapshots of a session to the
directory of a new session identifier at start-up. Identifiers are single path components.

Any file operation may fail and leave the file system as it was: `Failures` says which ones do
in a call. An operation that is not possible fails as well.
-/

namespace IosChrome.Sessions

open Lib (FileSystem Machine)

variable {γ : Type} (directory : FilePath)

def kSnapshotsDirectoryName : String := "Snapshots"

def kSyntheticSessionIdentifier : String := "{SyntheticIdentifier}"

def candidateNames : List String := [kSessionFileName, kSnapshotsDirectoryName]

def sessionDirectory (sessionIdentifier : String) : FilePath :=
  directory ++ [kSessions, sessionIdentifier]

inductive SessionMigration where
  | noMigration
  | migrationFailed
  | migrationNoSessionToMigrate
  | migrationSingleSceneToMultiScenes
  | migrationMultiScenesToSingleScene
  | migrationPreMWToMultiScenes
  | migrationPreMWToSingleScene
  deriving DecidableEq

/-- The operations that fail if they are attempted; a move by the name of the file. -/
structure Failures where
  create : Bool
  move : String → Bool
  remove : Bool

def Failures.none : Failures := ⟨false, fun _ => false, false⟩

def attempt (fails : Bool) (result : Option (FileSystem String γ)) :
    Option (FileSystem String γ) :=
  if fails then none else result

/-- The first identifier that owns one of the files. -/
def previousSessionIdentifier (fs : FileSystem String γ) (previousIdentifiers : List String) :
    Option String :=
  previousIdentifiers.find? fun identifier =>
    candidateNames.any fun name => fs.fileExists (sessionPathForDirectory directory identifier name)

/-- The loop over the files. The first move that fails ends it, and the migration. -/
def migrateFiles (fails : Failures) (previous session : String) :
    List String → FileSystem String γ → FileSystem String γ × Bool
  | [], fs => (fs, true)
  | name :: rest, fs =>
    if fs.fileExists (sessionPathForDirectory directory previous name) then
      match attempt (fails.move name) (fs.moveItem (sessionPathForDirectory directory previous name)
        (sessionPathForDirectory directory session name)) with
      | none => (fs, false)
      | some moved => migrateFiles fails previous session rest moved
    else migrateFiles fails previous session rest fs

/-- What is left to do for a previous identifier once the new directory has been created. -/
def migrateFrom (multipleScenes : Bool) (fails : Failures) (previous session : String)
    (created : FileSystem String γ) : FileSystem String γ × SessionMigration :=
  match migrateFiles directory fails previous session candidateNames created with
  | (moved, false) => (moved, .migrationFailed)
  | (moved, true) =>
    if previous ≠ "" then
      match attempt fails.remove (moved.removeItem (sessionDirectory directory previous)) with
      | none => (moved, .migrationFailed)
      | some removed =>
        (removed,
          if previous = kSyntheticSessionIdentifier then .migrationSingleSceneToMultiScenes
          else .migrationMultiScenesToSingleScene)
    else
      (moved, if multipleScenes then .migrationPreMWToMultiScenes else .migrationPreMWToSingleScene)

def migrateSessionStorageForDirectoryImpl (multipleScenes : Bool) (fails : Failures)
    (session : String) (previousIdentifiers : List String) (fs : FileSystem String γ) :
    FileSystem String γ × SessionMigration :=
  if fs.fileExists (sessionDirectory directory session) then (fs, .noMigration)
  else
    match attempt fails.create (fs.createDirectory (sessionDirectory directory session)) with
    | none => (fs, .migrationFailed)
    | some created =>
      match previousSessionIdentifier directory fs previousIdentifiers with
      | none => (created, .migrationNoSessionToMigrate)
      | some previous => migrateFrom directory multipleScenes fails previous session created

/-- The identifiers looked at, in order; nil is the empty identifier. -/
def previousIdentifiers (multipleScenes : Bool) (previous : String) : List String :=
  (if previous ≠ "" then [previous] else []) ++
    (if multipleScenes then [kSyntheticSessionIdentifier] else []) ++ [""]

def migrateSessionStorageForDirectory (multipleScenes : Bool) (session previous : String)
    (fails : Failures) (fs : FileSystem String γ) : FileSystem String γ × SessionMigration :=
  migrateSessionStorageForDirectoryImpl directory multipleScenes fails session
    (previousIdentifiers multipleScenes previous) fs

/-- One call at each start-up, with the same identifiers. -/
def migrationMachine (γ : Type) (directory : FilePath) (multipleScenes : Bool)
    (session previous : String) :
    Machine (FileSystem String γ) Failures where
  init _ := True
  pre _ _ := True
  step fs fails := (migrateSessionStorageForDirectory directory multipleScenes session previous fails fs).1

end IosChrome.Sessions

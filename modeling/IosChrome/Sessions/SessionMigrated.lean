import IosChrome.Sessions.SceneUtil

/-!
# The tabs and the snapshots reach the new identifier

The owner of the files is the first previous identifier that has a `session.plist` or a
`Snapshots` directory. `Migrated` is what is claimed of a call in a run that began with the
file system `start`: nothing the owner had is deleted, a failure to move one of the two files
does not stop the other, and a call in which nothing fails finds or leaves both at the new
paths.

The new directory marks a finished migration, and is created first. So a move that fails
leaves the rest undone, although the comment on the loop says errors do not abort it, and the
next start-up sees the directory and does nothing. `migrated_of_moves` says that this is all:
along runs in which no move of a file fails everything claimed holds, and after the first move
that fails one more call, in which nothing fails, shows that it does not.
-/

namespace IosChrome.Sessions

open Lib (FileSystem Machine)
open Lib.FileSystem

variable {γ : Type} {directory : FilePath}

/-! ## Paths -/

theorem path_of_ne {identifier : String} (h : identifier ≠ "") (name : String) :
    sessionPathForDirectory directory identifier name =
      sessionDirectory directory identifier ++ [name] := by
  unfold sessionPathForDirectory sessionDirectory
  rw [if_neg fun hlength => h (String.length_eq_zero_iff.1 hlength), List.append_assoc]
  rfl

/-- Paths of different files, or of one file of different identifiers, are apart. -/
theorem apart_path {x y n m : String} (hn : n ≠ kSessions) (hm : m ≠ kSessions)
    (h : x ≠ y ∨ n ≠ m) : Apart (sessionPathForDirectory directory x n)
      (sessionPathForDirectory directory y m) := by
  unfold Apart sessionPathForDirectory
  split
  · next hx =>
    split
    · next hy =>
      -- both at the top
      have hne : n ≠ m := h.resolve_left fun hxy => hxy
        ((String.length_eq_zero_iff.1 hx).trans (String.length_eq_zero_iff.1 hy).symm)
      rw [List.prefix_append_right_inj, List.prefix_append_right_inj]
      simp [hne, hne.symm]
    · rw [List.prefix_append_right_inj, List.prefix_append_right_inj]
      simp [hn]
  · split
    · rw [List.prefix_append_right_inj, List.prefix_append_right_inj]
      simp [hm]
    · rw [List.prefix_append_right_inj, List.prefix_append_right_inj]
      simp only [List.cons_prefix_cons, true_and, List.nil_prefix, and_true, not_and]
      obtain hne | hne := h
      · exact ⟨fun hxy => absurd hxy hne, fun hyx => absurd hyx.symm hne⟩
      · exact ⟨fun _ => hne, fun _ => hne.symm⟩

/-- The directory of an identifier is not below a file. -/
theorem path_apart {x session n : String} (hn : n ≠ kSessions) :
    ¬ sessionPathForDirectory directory x n <+: sessionDirectory directory session := by
  unfold sessionPathForDirectory sessionDirectory
  split
  · rw [List.prefix_append_right_inj]
    simp [hn]
  · rw [List.prefix_append_right_inj]
    simp

theorem apart_sessionDirectory {owner session n : String} (hsession : session ≠ "")
    (hne : owner ≠ session) :
    Apart (sessionDirectory directory owner) (sessionPathForDirectory directory session n) := by
  rw [path_of_ne hsession]
  unfold Apart sessionDirectory
  rw [List.append_assoc, List.prefix_append_right_inj, List.prefix_append_right_inj]
  simp [hne]

theorem sessionDirectory_apart {owner session : String} (hne : owner ≠ session) :
    ¬ sessionDirectory directory owner <+: sessionDirectory directory session := by
  unfold sessionDirectory
  rw [List.prefix_append_right_inj]
  simp [hne]

/-! ## The loop over the files -/

section Loop

variable {owner session : String} {fails : Failures}

/-- What the loop does to the files of `names`. -/
structure FilesMoved (directory : FilePath) (owner session : String) (fails : Failures)
    (names : List String) (fs : FileSystem String γ) (result : FileSystem String γ × Bool) :
    Prop where
  frame : ∀ q, (∀ n ∈ names, Apart (sessionPathForDirectory directory owner n) q ∧
    Apart (sessionPathForDirectory directory session n) q) → SameTree fs result.1 q q
  above : result.1.entry (sessionDirectory directory session) =
    fs.entry (sessionDirectory directory session)
  all : result.2 = true ↔ ∀ n ∈ names,
    fs.fileExists (sessionPathForDirectory directory owner n) = true → fails.move n = false
  moved : result.2 = true → ∀ n ∈ names,
    fs.fileExists (sessionPathForDirectory directory owner n) = true →
      SameTree fs result.1 (sessionPathForDirectory directory owner n)
        (sessionPathForDirectory directory session n)
  failed : ∀ n ∈ names, fails.move n = true →
    result.1.entry (sessionPathForDirectory directory session n) = none

theorem filesMoved (hsession : session ≠ "") (hne : owner ≠ session) : ∀ (names : List String)
    (fs : FileSystem String γ), names.Nodup → (∀ n ∈ names, n ≠ kSessions) →
      fs.entry (sessionDirectory directory session) = some .directory →
      (∀ n ∈ names, fs.entry (sessionPathForDirectory directory session n) = none) →
        FilesMoved directory owner session fails names fs
          (migrateFiles directory fails owner session names fs)
  | [], fs, _, _, _, _ => by
    refine ⟨fun q _ => SameTree.refl fs q, rfl,
      ⟨fun _ n hn => absurd hn List.not_mem_nil, fun _ => rfl⟩,
      fun _ n hn => absurd hn List.not_mem_nil, fun n hn => absurd hn List.not_mem_nil⟩
  | name :: rest, fs, hnodup, hnames, hdirectory, hfree => by
    obtain ⟨hfresh, hrest⟩ := List.nodup_cons.1 hnodup
    have hname : name ≠ kSessions := hnames name List.mem_cons_self
    have hothers : ∀ n ∈ rest, n ≠ kSessions := fun n hn =>
      hnames n (List.mem_cons_of_mem name hn)
    have hnew := hfree name List.mem_cons_self
    unfold migrateFiles
    by_cases hexists :
        fs.fileExists (sessionPathForDirectory directory owner name) = true
    · rw [if_pos hexists]
      cases hfails : fails.move name with
      | true =>
        refine ⟨fun q _ => SameTree.refl fs q, rfl,
          ⟨fun h => absurd h Bool.false_ne_true, fun h => ?_⟩,
          fun h => absurd h Bool.false_ne_true, fun n hn _ => hfree n hn⟩
        rw [h name List.mem_cons_self hexists] at hfails
        cases hfails
      | false =>
        obtain ⟨moved, hmove⟩ := moveItem_isSome hexists hnew
          (by rw [path_of_ne hsession, List.dropLast_concat]; exact hdirectory)
          (apart_path hname hname (.inl hne)).1
        have hattempt : attempt false
            (fs.moveItem (sessionPathForDirectory directory owner name)
              (sessionPathForDirectory directory session name)) = some moved := hmove
        simp only [hattempt]
        have hdiffer : ∀ n ∈ rest, name ≠ n := fun n hn heq => hfresh (heq ▸ hn)
        -- the other files are where they were
        have hsource : ∀ n ∈ rest, SameTree fs moved
            (sessionPathForDirectory directory owner n)
            (sessionPathForDirectory directory owner n) := fun n hn =>
          SameTree.moveItem_apart hmove (apart_path hname (hothers n hn) (.inr (hdiffer n hn)))
            (apart_path hname (hothers n hn) (.inl hne.symm))
        have htarget : ∀ n ∈ rest, SameTree fs moved
            (sessionPathForDirectory directory session n)
            (sessionPathForDirectory directory session n) := fun n hn =>
          SameTree.moveItem_apart hmove (apart_path hname (hothers n hn) (.inl hne))
            (apart_path hname (hothers n hn) (.inr (hdiffer n hn)))
        have habove : moved.entry (sessionDirectory directory session) =
            fs.entry (sessionDirectory directory session) := by
          rw [entry_of_moveItem hmove]
          unfold movedEntry
          rw [if_neg (path_apart hname), if_neg (path_apart hname)]
        have ih := filesMoved hsession hne rest moved hrest hothers
          (habove.trans hdirectory) fun n hn => (htarget n hn).entry.trans
            (hfree n (List.mem_cons_of_mem name hn))
        refine ⟨fun q hq => ?_, ih.above.trans habove, ih.all.trans ⟨fun h n hn hn' => ?_,
          fun h n hn hn' => ?_⟩, fun hok n hn hn' => ?_, fun n hn hn' => ?_⟩
        · have hhere := hq name List.mem_cons_self
          exact (SameTree.moveItem_apart hmove hhere.1 hhere.2).trans
            (ih.frame q fun n hn => hq n (List.mem_cons_of_mem name hn))
        · obtain rfl | hn := List.mem_cons.1 hn
          · exact hfails
          · exact h n hn ((hsource n hn).fileExists.trans hn')
        · exact h n (List.mem_cons_of_mem name hn) ((hsource n hn).fileExists ▸ hn')
        · obtain rfl | hn := List.mem_cons.1 hn
          · -- what has been moved is left alone afterwards
            exact (SameTree.moveItem hmove).trans (ih.frame _ fun m hm =>
              ⟨apart_path (hothers m hm) hname (.inl hne),
                apart_path (hothers m hm) hname (.inr (hdiffer m hm).symm)⟩)
          · exact (hsource n hn).trans (ih.moved hok n hn ((hsource n hn).fileExists.trans hn'))
        · obtain rfl | hn := List.mem_cons.1 hn
          · rw [hfails] at hn'
            cases hn'
          · exact ih.failed n hn hn'
    · rw [if_neg hexists]
      have ih := filesMoved hsession hne rest fs hrest hothers hdirectory
        fun n hn => hfree n (List.mem_cons_of_mem name hn)
      refine ⟨fun q hq => ih.frame q fun n hn => hq n (List.mem_cons_of_mem name hn), ih.above,
        ih.all.trans ⟨fun h n hn hn' => ?_, fun h n hn => h n (List.mem_cons_of_mem name hn)⟩,
        fun hok n hn hn' => ?_, fun n hn hn' => ?_⟩
      · obtain rfl | hn := List.mem_cons.1 hn
        · exact absurd hn' hexists
        · exact h n hn hn'
      · obtain rfl | hn := List.mem_cons.1 hn
        · exact absurd hn' hexists
        · exact ih.moved hok n hn hn'
      · obtain rfl | hn := List.mem_cons.1 hn
        · have hkept := ih.frame (sessionPathForDirectory directory session n) fun m hm =>
            ⟨apart_path (hothers m hm) hname (.inl hne),
              apart_path (hothers m hm) hname (.inr fun heq => hfresh (heq ▸ hm))⟩
          exact hkept.entry.trans hnew
        · exact ih.failed n hn hn'

end Loop

/-! ## What is claimed -/

variable {multipleScenes : Bool} {session previous : String}

/-- The first previous identifier that owns one of the files. -/
def Owner (directory : FilePath) (multipleScenes : Bool) (previous : String)
    (fs : FileSystem String γ) (owner : String) : Prop :=
  previousSessionIdentifier directory fs (previousIdentifiers multipleScenes previous) = some owner

/-- A file of an identifier that is there to be migrated. -/
def Owns (directory : FilePath) (fs : FileSystem String γ) (owner name : String) : Prop :=
  name ∈ candidateNames ∧
    fs.fileExists (sessionPathForDirectory directory owner name) = true

/-- The file has been moved, with everything below it. -/
def AtNewPath (directory : FilePath) (session : String) (fs fs' : FileSystem String γ)
    (owner name : String) : Prop :=
  SameTree fs fs' (sessionPathForDirectory directory owner name)
    (sessionPathForDirectory directory session name)

/-- What is claimed of a call on `fs`, in a run that has begun with `start`. A call runs
without any failure when it does not return `migrationFailed`. -/
structure Migrated (directory : FilePath) (multipleScenes : Bool) (session previous : String)
    (start fs : FileSystem String γ) (fails : Failures) : Prop where
  kept : ∀ owner name, Owner directory multipleScenes previous start owner →
    Owns directory start owner name →
      SameTree start (migrateSessionStorageForDirectory directory multipleScenes session previous
        fails fs).1 (sessionPathForDirectory directory owner name)
          (sessionPathForDirectory directory owner name) ∨
      AtNewPath directory session start (migrateSessionStorageForDirectory directory
        multipleScenes session previous fails fs).1 owner name
  each : fs.fileExists (sessionDirectory directory session) = false →
    (migrateSessionStorageForDirectory directory multipleScenes session previous fails
      fs).1.fileExists (sessionDirectory directory session) = true →
      ∀ owner name, Owner directory multipleScenes previous fs owner →
        Owns directory fs owner name → fails.move name = false →
          AtNewPath directory session fs (migrateSessionStorageForDirectory directory
            multipleScenes session previous fails fs).1 owner name
  done : start.fileExists (sessionDirectory directory session) = false →
    (migrateSessionStorageForDirectory directory multipleScenes session previous fails fs).2 ≠
      .migrationFailed →
      ∀ owner name, Owner directory multipleScenes previous start owner →
        Owns directory start owner name →
          AtNewPath directory session start (migrateSessionStorageForDirectory directory
            multipleScenes session previous fails fs).1 owner name

/-- If the new directory is created in the call, no move of a file fails. -/
def MovesSucceed (directory : FilePath) (multipleScenes : Bool) (session previous : String)
    (fs : FileSystem String γ) (fails : Failures) : Prop :=
  fs.fileExists (sessionDirectory directory session) = false →
    attempt fails.create (fs.createDirectory (sessionDirectory directory session)) ≠ none →
      ∀ owner name, Owner directory multipleScenes previous fs owner →
        Owns directory fs owner name → fails.move name = false

/-! ## A call that creates the directory -/

variable {fs : FileSystem String γ}

theorem attempt_eq_some {fails : Bool} {result : Option (FileSystem String γ)}
    (h : attempt fails result = some fs) : result = some fs := by
  unfold attempt at h
  split at h
  · cases h
  · exact h

theorem candidateNames_ne {name : String} (h : name ∈ candidateNames) : name ≠ kSessions := by
  obtain rfl | h := List.mem_cons.1 h
  · decide
  · obtain rfl := List.mem_singleton.1 h
    decide

theorem nodup_candidateNames : candidateNames.Nodup := by decide

/-- Nothing is at the new paths before the new directory is. -/
theorem entry_new_path (hsession : session ≠ "")
    (hnew : fs.fileExists (sessionDirectory directory session) = false) (name : String) :
    fs.entry (sessionPathForDirectory directory session name) = none := by
  rw [path_of_ne hsession]
  exact entry_append_eq_none (Option.not_isSome_iff_eq_none.1 (by
    unfold fileExists at hnew
    rw [hnew]
    exact Bool.false_ne_true)) [name]

theorem owner_ne (hsession : session ≠ "")
    (hnew : fs.fileExists (sessionDirectory directory session) = false) {owner name : String}
    (howns : Owns directory fs owner name) : owner ≠ session := by
  rintro rfl
  have hthere := howns.2
  unfold fileExists at hthere
  rw [entry_new_path hsession hnew] at hthere
  cases hthere

/-- An owner owns something. -/
theorem Owner.owns {owner : String} (h : Owner directory multipleScenes previous fs owner) :
    ∃ name, Owns directory fs owner name := by
  unfold Owner previousSessionIdentifier at h
  have hany := List.find?_some h
  obtain ⟨name, hmem, hexists⟩ := List.any_eq_true.1 hany
  exact ⟨name, hmem, hexists⟩

/-- What is left of a call once it has created the directory and found an owner. -/
structure Begun (directory : FilePath) (session owner : String) (fails : Failures)
    (fs fs' : FileSystem String γ) : Prop where
  above : fs'.fileExists (sessionDirectory directory session) = true
  moved : (∀ name, Owns directory fs owner name → fails.move name = false) →
    ∀ name, Owns directory fs owner name → AtNewPath directory session fs fs' owner name
  failed : ∀ name, Owns directory fs owner name → fails.move name = true →
    fs'.entry (sessionPathForDirectory directory session name) = none

variable {fails : Failures}

theorem begun {fs created : FileSystem String γ} {owner : String} (hsession : session ≠ "")
    (hnew : fs.fileExists (sessionDirectory directory session) = false)
    (hcreated : fs.createDirectory (sessionDirectory directory session) = some created)
    (hne : owner ≠ session) :
    Begun directory session owner fails fs
      (migrateFrom directory multipleScenes fails owner session created).1 := by
  have hdirectory : created.entry (sessionDirectory directory session) = some .directory := by
    rw [entry_of_createDirectory hcreated, if_pos List.prefix_rfl]
  have hfree : ∀ name ∈ candidateNames,
      created.entry (sessionPathForDirectory directory session name) = none := by
    intro name hname
    rw [entry_of_createDirectory hcreated, if_neg (path_apart (candidateNames_ne hname))]
    exact entry_new_path hsession hnew name
  have hsame : ∀ name ∈ candidateNames, SameTree fs created
      (sessionPathForDirectory directory owner name)
      (sessionPathForDirectory directory owner name) := fun name hname =>
    SameTree.createDirectory hcreated (path_apart (candidateNames_ne hname))
  have hfiles : FilesMoved directory owner session fails candidateNames created
      (migrateFiles directory fails owner session candidateNames created) :=
    filesMoved hsession hne candidateNames created nodup_candidateNames
      (fun _ => candidateNames_ne) hdirectory hfree
  have hall : (∀ name, Owns directory fs owner name → fails.move name = false) →
      (migrateFiles directory fails owner session candidateNames created).2 = true :=
    fun hmoves => hfiles.all.2 fun name hname hexists =>
      hmoves name ⟨hname, (hsame name hname).fileExists.symm.trans hexists⟩
  have hmoved : (migrateFiles directory fails owner session candidateNames created).2 = true →
      ∀ name, Owns directory fs owner name → AtNewPath directory session fs
        (migrateFiles directory fails owner session candidateNames created).1 owner name :=
    fun hok name howns => (hsame name howns.1).trans
      (hfiles.moved hok name howns.1 ((hsame name howns.1).fileExists.trans howns.2))
  have hblocked : ∀ name, Owns directory fs owner name → fails.move name = true →
      (migrateFiles directory fails owner session candidateNames created).2 = false := by
    intro name howns hfails
    rw [Bool.eq_false_iff]
    intro hok
    have hmove := hfiles.all.1 hok name howns.1 ((hsame name howns.1).fileExists.trans howns.2)
    rw [hfails] at hmove
    cases hmove
  have habove : (migrateFiles directory fails owner session candidateNames created).1.fileExists
      (sessionDirectory directory session) = true := by
    unfold fileExists
    rw [hfiles.above, hdirectory]
    rfl
  have hnone := hfiles.failed
  unfold migrateFrom
  generalize migrateFiles directory fails owner session candidateNames created = result at *
  obtain ⟨moved, ok⟩ := result
  cases ok with
  | false =>
    refine ⟨habove, fun hmoves => ?_, fun name howns => hnone name howns.1⟩
    cases hall hmoves
  | true =>
    have hnever : ∀ name, Owns directory fs owner name → fails.move name = true →
        ∀ fs' : FileSystem String γ,
          fs'.entry (sessionPathForDirectory directory session name) = none := by
      intro name howns hfails
      cases hblocked name howns hfails
    have hleft : Begun directory session owner fails fs moved :=
      ⟨habove, fun _ => hmoved rfl, fun name howns hfails => hnever name howns hfails moved⟩
    show Begun directory session owner fails fs (Prod.fst (if owner ≠ "" then _ else _))
    split
    · split
      · exact hleft
      · next removed hremoved =>
        -- the directory of the previous identifier goes, and nothing of the new one
        have hremoved := attempt_eq_some hremoved
        refine ⟨?_, fun _ name howns => ?_, fun name howns hfails => hnever name howns hfails _⟩
        · show removed.fileExists _ = true
          unfold fileExists
          rw [entry_of_removeItem hremoved, if_neg (sessionDirectory_apart hne)]
          exact habove
        · exact (hmoved rfl name howns).trans
            (SameTree.removeItem hremoved (apart_sessionDirectory hsession hne))
    · exact hleft

/-! ## Runs -/

/-- What a run without failing moves keeps: nothing has happened, or all has. -/
def Reached (directory : FilePath) (multipleScenes : Bool) (session previous : String)
    (start fs : FileSystem String γ) : Prop :=
  fs = start ∨ (fs.fileExists (sessionDirectory directory session) = true ∧
    ∀ owner name, Owner directory multipleScenes previous start owner →
      Owns directory start owner name → AtNewPath directory session start fs owner name)

theorem migrate_of_exists (hexists : fs.fileExists (sessionDirectory directory session) = true)
    (fails : Failures) :
    migrateSessionStorageForDirectory directory multipleScenes session previous fails fs =
      (fs, .noMigration) :=
  if_pos hexists

theorem migrate_of_not_created
    (hnew : fs.fileExists (sessionDirectory directory session) = false)
    (hcreate : attempt fails.create (fs.createDirectory (sessionDirectory directory session)) =
      none) :
    migrateSessionStorageForDirectory directory multipleScenes session previous fails fs =
      (fs, .migrationFailed) := by
  unfold migrateSessionStorageForDirectory migrateSessionStorageForDirectoryImpl
  rw [if_neg (by rw [hnew]; exact Bool.false_ne_true), hcreate]

theorem migrate_of_created {fs created : FileSystem String γ}
    (hnew : fs.fileExists (sessionDirectory directory session) = false)
    (hcreate : attempt fails.create (fs.createDirectory (sessionDirectory directory session)) =
      some created) :
    migrateSessionStorageForDirectory directory multipleScenes session previous fails fs =
      match previousSessionIdentifier directory fs (previousIdentifiers multipleScenes previous) with
      | none => (created, .migrationNoSessionToMigrate)
      | some owner => migrateFrom directory multipleScenes fails owner session created := by
  unfold migrateSessionStorageForDirectory migrateSessionStorageForDirectoryImpl
  rw [if_neg (by rw [hnew]; exact Bool.false_ne_true)]
  cases previousSessionIdentifier directory fs (previousIdentifiers multipleScenes previous) <;>
    simp only [hcreate]

theorem not_migrationFailed_of_exists
    (hexists : fs.fileExists (sessionDirectory directory session) = true) (fails : Failures) :
    (migrateSessionStorageForDirectory directory multipleScenes session previous fails fs).2 ≠
      .migrationFailed := by
  rw [migrate_of_exists hexists]
  exact SessionMigration.noConfusion

/-- A call that finds the directory changes nothing. -/
theorem Reached.migrated_of_exists {start fs : FileSystem String γ}
    (h : Reached directory multipleScenes session previous start fs)
    (hexists : fs.fileExists (sessionDirectory directory session) = true) :
    Migrated directory multipleScenes session previous start fs fails := by
  have hstep : migrateSessionStorageForDirectory directory multipleScenes session previous fails
      fs = (fs, .noMigration) := migrate_of_exists hexists fails
  refine ⟨fun owner name howner howns => ?_, fun hnew => ?_,
    fun hnew _ owner name howner howns => ?_⟩
  · rw [hstep]
    obtain rfl | ⟨-, hmoved⟩ := h
    · exact .inl (SameTree.refl fs _)
    · exact .inr (hmoved owner name howner howns)
  · rw [hexists] at hnew
    cases hnew
  · rw [hstep]
    obtain rfl | ⟨-, hmoved⟩ := h
    · rw [hexists] at hnew
      cases hnew
    · exact hmoved owner name howner howns

/-- A call that fails to create the directory changes nothing. -/
theorem migrated_of_not_created
    (hnew : fs.fileExists (sessionDirectory directory session) = false)
    (hcreate : attempt fails.create (fs.createDirectory (sessionDirectory directory session)) =
      none) : Migrated directory multipleScenes session previous fs fs fails := by
  have hstep : migrateSessionStorageForDirectory directory multipleScenes session previous fails
      fs = (fs, .migrationFailed) := migrate_of_not_created hnew hcreate
  refine ⟨fun owner name howner howns => ?_, fun _ hthere => ?_, fun _ hok => ?_⟩
  · rw [hstep]
    exact .inl (SameTree.refl fs _)
  · rw [hstep] at hthere
    rw [hnew] at hthere
    cases hthere
  · rw [hstep] at hok
    exact absurd rfl hok

/-- A call that creates the directory, when no move fails. -/
theorem migrated_of_created {fs created : FileSystem String γ}
    (hsession : session ≠ "")
    (hnew : fs.fileExists (sessionDirectory directory session) = false)
    (hcreate : attempt fails.create (fs.createDirectory (sessionDirectory directory session)) =
      some created)
    (hmoves : MovesSucceed directory multipleScenes session previous fs fails) :
    Migrated directory multipleScenes session previous fs fs fails ∧
      Reached directory multipleScenes session previous fs
        (migrateSessionStorageForDirectory directory multipleScenes session previous fails
          fs).1 := by
  have hstep := @migrate_of_created γ directory multipleScenes session previous fails fs created
    hnew hcreate
  have hmoves := hmoves hnew (by rw [hcreate]; exact Option.some_ne_none created)
  have hcreated := attempt_eq_some hcreate
  suffices hall : (migrateSessionStorageForDirectory directory multipleScenes session previous
      fails fs).1.fileExists (sessionDirectory directory session) = true ∧
      ∀ owner name, Owner directory multipleScenes previous fs owner →
        Owns directory fs owner name → AtNewPath directory session fs
          (migrateSessionStorageForDirectory directory multipleScenes session previous fails
            fs).1 owner name from
    ⟨⟨fun owner name howner howns => .inr (hall.2 owner name howner howns),
      fun _ _ owner name howner howns _ => hall.2 owner name howner howns,
      fun _ _ owner name howner howns => hall.2 owner name howner howns⟩, .inr hall⟩
  rw [hstep]
  cases hfound : previousSessionIdentifier directory fs
      (previousIdentifiers multipleScenes previous) with
  | none =>
    refine ⟨?_, fun owner name howner => ?_⟩
    · show created.fileExists _ = true
      unfold fileExists
      rw [entry_of_createDirectory hcreated, if_pos List.prefix_rfl]
      rfl
    · exact nomatch hfound.symm.trans howner
  | some found =>
    have hfirst : Owner directory multipleScenes previous fs found := hfound
    obtain ⟨name, howns⟩ := hfirst.owns
    have hbegun : Begun directory session found fails fs
        (migrateFrom directory multipleScenes fails found session created).1 :=
      begun hsession hnew hcreated (owner_ne hsession hnew howns)
    refine ⟨hbegun.above, fun owner name howner => ?_⟩
    obtain rfl : found = owner := Option.some.inj (hfound.symm.trans howner)
    exact hbegun.moved (fun other => hmoves found other hfound) name

theorem Reached.step {start fs : FileSystem String γ} (hsession : session ≠ "")
    (h : Reached directory multipleScenes session previous start fs)
    (hmoves : MovesSucceed directory multipleScenes session previous fs fails) :
    Migrated directory multipleScenes session previous start fs fails ∧
      Reached directory multipleScenes session previous start
        (migrateSessionStorageForDirectory directory multipleScenes session previous fails
          fs).1 := by
  cases hexists : fs.fileExists (sessionDirectory directory session) with
  | true =>
    refine ⟨h.migrated_of_exists hexists, ?_⟩
    rw [migrate_of_exists hexists]
    exact h
  | false =>
    obtain rfl : fs = start := by
      obtain rfl | ⟨hthere, -⟩ := h
      · rfl
      · rw [hexists] at hthere
        cases hthere
    cases hcreate : attempt fails.create
        (fs.createDirectory (sessionDirectory directory session)) with
    | none =>
      refine ⟨migrated_of_not_created hexists hcreate, ?_⟩
      rw [migrate_of_not_created hexists hcreate]
      exact .inl rfl
    | some created => exact migrated_of_created hsession hexists hcreate hmoves

/-- After a move has failed, a call in which nothing fails leaves the file where it was. -/
theorem Reached.not_migrated {start fs : FileSystem String γ} (hsession : session ≠ "")
    (h : Reached directory multipleScenes session previous start fs)
    (hmoves : ¬ MovesSucceed directory multipleScenes session previous fs fails) :
    ¬ Migrated directory multipleScenes session previous start
      (migrateSessionStorageForDirectory directory multipleScenes session previous fails fs).1
      Failures.none := by
  intro hmigrated
  apply hmoves
  intro hnew hcreates owner name howner howns
  by_contra hmove
  have hfails : fails.move name = true := by simpa using hmove
  obtain rfl : fs = start := by
    obtain rfl | ⟨hthere, -⟩ := h
    · rfl
    · rw [hnew] at hthere
      cases hthere
  obtain ⟨created, hcreate⟩ := Option.ne_none_iff_exists'.1 hcreates
  have hstep : migrateSessionStorageForDirectory directory multipleScenes session previous fails
      fs = migrateFrom directory multipleScenes fails owner session created := by
    rw [migrate_of_created hnew hcreate]
    unfold Owner at howner
    simp only [howner]
  have hbegun : Begun directory session owner fails fs
      (migrateFrom directory multipleScenes fails owner session created).1 :=
    begun hsession hnew (attempt_eq_some hcreate) (owner_ne hsession hnew howns)
  rw [← hstep] at hbegun
  have hdone := hmigrated.done hnew (not_migrationFailed_of_exists hbegun.above _) owner name
    howner howns
  rw [migrate_of_exists hbegun.above] at hdone
  have hthere := howns.2
  unfold fileExists at hthere
  rw [← hdone.entry, hbegun.failed name howns hfails] at hthere
  cases hthere

/-- **When no move fails, both files reach the new identifier; the first move that fails keeps
a file from it for good.** -/
theorem migrated_of_moves (hsession : session ≠ "") (start : FileSystem String γ)
    {calls : List Failures}
    (hmoves : (migrationMachine γ directory multipleScenes session previous).Always
      (MovesSucceed directory multipleScenes session previous) start calls) :
    (migrationMachine γ directory multipleScenes session previous).Always
        (Migrated directory multipleScenes session previous start) start calls ∧
      ∀ fails, ¬ MovesSucceed directory multipleScenes session previous
          ((migrationMachine γ directory multipleScenes session previous).exec start calls) fails →
        ¬ (migrationMachine γ directory multipleScenes session previous).Always
          (Migrated directory multipleScenes session previous start) start
          (calls ++ [fails, Failures.none]) := by
  have hrun : (migrationMachine γ directory multipleScenes session previous).Run start calls :=
    Machine.always_of_forall _ (fun _ _ => trivial) start calls
  have hreached : Reached directory multipleScenes session previous start
      ((migrationMachine γ directory multipleScenes session previous).exec start calls) :=
    Machine.Guarded.invariant
      (I := Reached directory multipleScenes session previous start)
      (fun _ _ h _ hmoves => (h.step hsession hmoves).2) (.inl rfl) hrun hmoves
  refine ⟨Machine.Guarded.always_of_invariant
    (I := Reached directory multipleScenes session previous start)
    (fun _ _ h _ hmoves => (h.step hsession hmoves).2)
    (fun _ _ h _ hmoves => (h.step hsession hmoves).1) (.inl rfl) hrun hmoves,
    fun fails hfails hall => ?_⟩
  exact hreached.not_migrated hsession hfails ((Machine.always_append _ _ _ _).1 hall).2.2.1

/-- The files of a version before M-87. -/
def beforeM87 : FileSystem String Nat where
  entry p :=
    if p = [] then some .directory
    else if p = ["session.plist"] then some (.file 1)
    else if p = ["Snapshots"] then some .directory
    else none
  root := rfl
  parent := by
    intro p n h
    cases p with
    | nil => rfl
    | cons a p => simp at h

def sessionMoveFails : Failures := ⟨false, fun name => name = "session.plist", false⟩

theorem migrated_of_moves_beforeM87 :
    (migrationMachine Nat [] false "A" "").Always (Migrated [] false "A" "" beforeM87) beforeM87
        [Failures.none] ∧
      ∀ fails, ¬ MovesSucceed [] false "A" ""
          ((migrationMachine Nat [] false "A" "").exec beforeM87 [Failures.none]) fails →
        ¬ (migrationMachine Nat [] false "A" "").Always (Migrated [] false "A" "" beforeM87)
          beforeM87 ([Failures.none] ++ [fails, Failures.none]) :=
  migrated_of_moves (show "A" ≠ "" by decide) beforeM87
    ⟨fun _ _ _ _ _ _ => rfl, trivial⟩

/-- One move fails at the first start-up and nothing at the second. The snapshots, whose move
would have succeeded, and the tabs are both still at the old paths. -/
theorem sessionMoveFails_stays :
    (let fs := (migrationMachine Nat [] false "A" "").exec beforeM87
        [sessionMoveFails, Failures.none]
     fs.fileExists ["session.plist"] = true ∧ fs.fileExists ["Snapshots"] = true ∧
       fs.fileExists ["Sessions", "A", "session.plist"] = false ∧
       fs.fileExists ["Sessions", "A", "Snapshots"] = false) ∧
      ¬ (migrationMachine Nat [] false "A" "").Always (Migrated [] false "A" "" beforeM87)
        beforeM87 [sessionMoveFails, Failures.none] := by
  refine ⟨by decide, fun hall => ?_⟩
  have hreached : Reached [] false "A" "" beforeM87 beforeM87 := .inl rfl
  refine hreached.not_migrated (by decide) (fun hmoves => ?_) hall.2.1
  have hmove := hmoves (by decide) (by decide) "" "session.plist" (by unfold Owner; decide)
    ⟨by decide, by decide⟩
  cases hmove

end IosChrome.Sessions

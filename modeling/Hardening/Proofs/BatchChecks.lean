import Hardening.Proofs.BatchRuns

/-!
# The checks in front of a batch

Before any file is read the directory is listed, the output directory is made, and the two are told
apart by where they lead. Up to then a batch has made directories at most.
-/
namespace Hardening.Batch

open Files
open Hardening.Files.Path (IsName)

/-- The names of the build files directly in a directory, each once. -/
structure BuildFiles (tree : Tree) (source : Location) (names : List String) : Prop where
  nodup : names.Nodup
  mem_iff : ∀ name, name ∈ names ↔
    isBuildFile name = true ∧ ∃ bytes, tree.get? (source ++ [name]) = some (.file bytes)

/-- A directory that holds one build file. -/
def oneFile : Tree :=
  ⟨[(["in"], .directory), (["in", "Dockerfile"], .file "FROM node:latest\nCOPY . /app".toUTF8)]⟩

theorem listFiles_oneFile {directory : String}
    (found : oneFile.lookup directory = .ok (["in"], .directory)) :
    oneFile.listFiles directory = .ok ["Dockerfile"] := by
  have names : (oneFile.children ["in"]).filterMap Tree.fileName? = ["Dockerfile"] := by rfl
  rw [Tree.listFiles, found]
  change Except.ok (((oneFile.children ["in"]).filterMap Tree.fileName?).mergeSort _) = _
  rw [names, List.mergeSort_singleton]

section Prepare

variable (tree : Tree) (directory out : String)

/-- The checks as they are made on a tree. -/
theorem prepare_run : (prepare Access.tree directory out).run tree =
    match tree.listFiles directory with
    | .error cause => (.error (.badDirectory directory cause), tree)
    | .ok names =>
      if (names.filter isBuildFile).isEmpty then (.ok [], tree)
      else match tree.makeDirectories out with
        | (.error cause, made) => (.error (.noDirectory out cause), made)
        | (.ok (), made) =>
          match made.resolve directory, made.resolve out with
          | .error cause, _ | _, .error cause => (.error (.unresolved cause), made)
          | .ok source, .ok target =>
            if source = target then (.error .sameDirectory, made)
            else (.ok ((names.filter isBuildFile).map (taskFor directory out)), made) := by
  -- Every check either ends the batch or hands its tree on to the next one.
  simp only [prepare, StateT.run_bind, Access.run_listFiles, pure_bind]
  cases tree.listFiles directory with
  | error cause => rfl
  | ok names =>
    dsimp only
    by_cases none : (names.filter isBuildFile).isEmpty
    · rw [if_pos none, if_pos none]
      rfl
    · rw [if_neg none, if_neg none]
      simp only [StateT.run_bind, Access.run_makeDirectories, pure_bind]
      obtain ⟨result, made⟩ := tree.makeDirectories out
      cases result with
      | error cause => rfl
      | ok done =>
        simp only [StateT.run_bind, Access.run_resolve, pure_bind]
        cases made.resolve directory with
        | error cause => rfl
        | ok source =>
          cases made.resolve out with
          | error cause => rfl
          | ok target =>
            dsimp only
            split <;> rfl

variable {tree : Tree} {directory out : String}

/-- A batch that is stopped by a check has made directories at most, and what stops it is never a
submission without content. -/
theorem stopped_spec {made : Tree} {trouble : Trouble}
    (stopped : (prepare Access.tree directory out).run tree = (.error trouble, made)) :
    tree.AddsDirectories made ∧ trouble.isInvalidInput = false := by
  -- Only making the output directory changes the tree, and even where it fails it adds directories.
  have adds := Tree.addsDirectories_makeDirectories tree out
  rw [prepare_run] at stopped
  split at stopped
  next =>
    cases stopped
    exact ⟨.refl tree, rfl⟩
  next =>
    split at stopped
    next => cases stopped
    next =>
      split at stopped
      next making =>
        rw [making] at adds
        cases stopped
        exact ⟨adds, rfl⟩
      next making =>
        rw [making] at adds
        split at stopped
        next =>
          cases stopped
          exact ⟨adds, rfl⟩
        next =>
          cases stopped
          exact ⟨adds, rfl⟩
        next =>
          split at stopped
          next =>
            cases stopped
            exact ⟨adds, rfl⟩
          next => cases stopped

/-- A batch that passes the checks has a task for each build file, and is ready for them if there
are any. -/
theorem prepare_eq_ok {made : Tree} {tasks : List Task} (wellFormed : tree.WellFormed)
    (passed : (prepare Access.tree directory out).run tree = (.ok tasks, made)) :
    ∃ source names, tree.lookup directory = .ok (source, .directory) ∧
      BuildFiles tree source names ∧ tasks = names.map (taskFor directory out) ∧
      (names = [] ∧ made = tree ∨ names ≠ [] ∧ tree.AddsDirectories made ∧
        ∃ target, Ready made directory out source target names) := by
  rw [prepare_run] at passed
  split at passed
  next => cases passed
  next all listed =>
    obtain ⟨source, found, nodup, named, mem_all⟩ := Tree.listFiles_eq_ok wellFormed listed
    have files : BuildFiles tree source (all.filter isBuildFile) :=
      ⟨nodup.filter _, fun name => by rw [List.mem_filter, mem_all, and_comm]⟩
    refine ⟨source, all.filter isBuildFile, found, files, ?_⟩
    split at passed
    next none =>
      have empty := List.isEmpty_iff.mp none
      cases passed
      exact ⟨by rw [empty]; rfl, Or.inl ⟨empty, rfl⟩⟩
    next some =>
      have filled := mt List.isEmpty_iff.mpr some
      have adds := Tree.addsDirectories_makeDirectories tree out
      split at passed
      next => cases passed
      next between making =>
        rw [making] at adds
        split at passed
        next => cases passed
        next => cases passed
        next source' target resolved led =>
          split at passed
          next => cases passed
          next apart =>
            cases passed
            -- What both paths led to before the check is where they still lead.
            have source_found := Tree.lookup_of_extends adds.grown found
            have named_out : out ≠ "" := by
              rintro rfl
              cases led.symm.trans (Tree.resolve_empty made)
            obtain ⟨place, target_found⟩ := Tree.lookup_makeDirectories named_out making
            obtain rfl : source = source' :=
              Except.ok.inj ((Tree.resolve_of_lookup source_found).symm.trans resolved)
            obtain rfl : place = target :=
              Except.ok.inj ((Tree.resolve_of_lookup target_found).symm.trans led)
            refine ⟨rfl, Or.inr ⟨filled, adds, place, source_found, target_found, apart, ?_,
              files.nodup⟩⟩
            exact fun name member => named name (List.mem_filter.mp member).1

end Prepare

section HardenDirectory

variable (config : Config) (order : List Nat) {tree made : Tree} {directory out : String}

theorem hardenDirectory_of_stopped {trouble : Trouble}
    (stopped : (prepare Access.tree directory out).run tree = (.error trouble, made)) :
    (hardenDirectory Access.tree config order directory out).run tree =
      (⟨.error trouble, []⟩, made) := by
  rw [hardenDirectory, StateT.run_bind, stopped]
  rfl

theorem hardenDirectory_of_no_tasks
    (passed : (prepare Access.tree directory out).run tree = (.ok [], made)) :
    (hardenDirectory Access.tree config order directory out).run tree =
      (⟨.ok {}, [⟨.warn, "No Dockerfiles found in " ++ Text.quote directory⟩]⟩, made) := by
  rw [hardenDirectory, StateT.run_bind, passed]
  rfl

theorem hardenDirectory_of_tasks {tasks : List Task} (some : tasks ≠ [])
    (passed : (prepare Access.tree directory out).run tree = (.ok tasks, made))
    {joined : List (String × Ending)} {final : Tree}
    (ran : (run Access.tree config order tasks).run made = (joined, final)) :
    (hardenDirectory Access.tree config order directory out).run tree =
      ({ result := .ok (.ofEndings (joined.map Prod.snd))
         logs := joined.map fun (source, ending) => endingLine source ending }, final) := by
  cases tasks with
  | nil => exact absurd rfl some
  | cons task tasks =>
    rw [hardenDirectory, StateT.run_bind, passed]
    -- The checks have passed, so the tasks run from the tree that was made.
    change (run Access.tree config order (task :: tasks) >>= fun _ => pure _).run made = _
    rw [StateT.run_bind, ran]
    rfl

end HardenDirectory

end Hardening.Batch

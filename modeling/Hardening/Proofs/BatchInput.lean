import Hardening.Proofs.BatchChecks

/-!
# A batch and its input

A batch writes in its output directory, which is another one than its input directory however the
two are spelled, and only after all checks. So the files it reads keep their content, and a batch
that is stopped has not touched any file.
-/
namespace Hardening.Batch

open Files

variable (config : Config) (order : List Nat) {tree : Tree} {directory out : String}

/-- A directory without build files needs no output directory. -/
theorem prepare_of_no_files (out : String) (wellFormed : tree.WellFormed) {source : Location}
    (found : tree.lookup directory = .ok (source, .directory))
    (none : ∀ name bytes, tree.get? (source ++ [name]) = some (.file bytes) →
      isBuildFile name = false) :
    (prepare Access.tree directory out).run tree = (.ok [], tree) := by
  obtain ⟨names, listed⟩ := Tree.listFiles_of_lookup found
  obtain ⟨place, same, -, -, mem_names⟩ := Tree.listFiles_eq_ok wellFormed listed
  obtain rfl := Tree.lookup_unique found same
  have empty : names.filter isBuildFile = [] := by
    rw [List.filter_eq_nil_iff]
    intro name member
    obtain ⟨bytes, stands⟩ := (mem_names name).mp member
    rw [none name bytes stands]
    exact Bool.false_ne_true
  rw [prepare_run, listed]
  simp only [empty]
  rfl

/-- A batch is stopped by a check, or it does nothing, or it writes what its tasks come to. -/
theorem hardenDirectory_cases (wellFormed : tree.WellFormed) (directory out : String) :
    let outcome := (hardenDirectory Access.tree config order directory out).run tree
    (∃ trouble, outcome.1.result = .error trouble ∧ tree.AddsDirectories outcome.2) ∨
      ∃ summary, outcome.1.result = .ok summary ∧
        (outcome.2 = tree ∨ ∃ made source target names,
          tree.lookup directory = .ok (source, .directory) ∧ tree.AddsDirectories made ∧
          Ready made directory out source target names ∧
          Delivered config made directory out target names outcome.2) := by
  intro outcome
  cases checked : (prepare Access.tree directory out).run tree with
  | mk result made =>
    cases result with
    | error trouble =>
      left
      have ran := hardenDirectory_of_stopped config order checked
      refine ⟨trouble, congrArg (·.1.result) ran, ?_⟩
      rw [show outcome.2 = made from congrArg Prod.snd ran]
      exact (stopped_spec checked).1
    | ok tasks =>
      right
      obtain ⟨source, names, found, -, rfl, ⟨rfl, rfl⟩ | ⟨some, adds, target, ready⟩⟩ :=
        prepare_eq_ok wellFormed checked
      · have ran := hardenDirectory_of_no_tasks config order checked
        exact ⟨{}, congrArg (·.1.result) ran, Or.inl (congrArg Prod.snd ran)⟩
      · obtain ⟨joined, final, steps, -, delivered⟩ := run_spec config ready order
        have ran := hardenDirectory_of_tasks config order (by simpa using some) checked steps
        refine ⟨_, congrArg (·.1.result) ran, Or.inr ⟨made, source, target, names, found, adds,
          ready, ?_⟩⟩
        rwa [show outcome.2 = final from congrArg Prod.snd ran]

/-- The files of the input directory are not among those that a batch writes. -/
theorem get?_of_ready {made final : Tree} {source target : Location} {names : List String}
    (ready : Ready made directory out source target names)
    (delivered : Delivered config made directory out target names final) (name : String) :
    final.get? (source ++ [name]) = made.get? (source ++ [name]) := by
  refine delivered.kept _ fun other _ _ same => ready.apart ?_
  exact List.append_inj_left' same rfl

/-- Whatever a batch comes to, the files directly in its input directory keep their content; if it
ends in an error no file is touched at all; and if there is no build file, nothing happens. -/
theorem hardenDirectory_keeps (wellFormed : tree.WellFormed) (directory out : String) :
    let outcome := (hardenDirectory Access.tree config order directory out).run tree
    (∀ source name bytes, tree.lookup directory = .ok (source, .directory) →
      tree.get? (source ++ [name]) = some (.file bytes) →
        outcome.2.get? (source ++ [name]) = some (.file bytes)) ∧
    (∀ trouble, outcome.1.result = .error trouble → tree.AddsDirectories outcome.2) ∧
    ∀ source, tree.lookup directory = .ok (source, .directory) →
      (∀ name bytes, tree.get? (source ++ [name]) = some (.file bytes) →
        isBuildFile name = false) →
      outcome.1.result = .ok {} ∧ outcome.2 = tree := by
  intro outcome
  have ends := hardenDirectory_cases config order wellFormed directory out
  refine ⟨?_, ?_, ?_⟩
  · intro source name bytes found stands
    rcases ends with ⟨_, -, adds⟩ | ⟨_, -, same | ⟨made, place, target, names, place_found, adds,
      ready, delivered⟩⟩
    · exact adds.file.mpr stands
    · rwa [same]
    · obtain rfl := Tree.lookup_unique found place_found
      rw [get?_of_ready config ready delivered name]
      exact adds.file.mpr stands
  · intro trouble stopped
    rcases ends with ⟨_, -, adds⟩ | ⟨_, fine, -⟩
    · exact adds
    · cases stopped.symm.trans fine
  · intro source found none
    have ran := hardenDirectory_of_no_tasks config order
      (prepare_of_no_files out wellFormed found none)
    exact ⟨congrArg (·.1.result) ran, congrArg Prod.snd ran⟩

/-- Another spelling of the input directory does not let a batch write into it. -/
theorem hardenDirectory_keeps_oneFile :
    oneFile.WellFormed ∧
      let outcome := (hardenDirectory Access.tree .stock [] "in" "./in/../in/").run oneFile
      outcome.1.result = .error .sameDirectory ∧ oneFile.AddsDirectories outcome.2 ∧
        outcome.2.get? ["in", "Dockerfile"] = oneFile.get? ["in", "Dockerfile"] := by
  have wellFormed : oneFile.WellFormed := by decide
  have checked : (prepare Access.tree "in" "./in/../in/").run oneFile =
      (.error .sameDirectory, oneFile) := by
    have making : oneFile.makeDirectories "./in/../in/" = (.ok (), oneFile) := by rfl
    have source : oneFile.resolve "in" = .ok ["in"] := by rfl
    have target : oneFile.resolve "./in/../in/" = .ok ["in"] := by rfl
    rw [prepare_run, listFiles_oneFile rfl]
    simp only [making, source, target]
    rfl
  have ran := hardenDirectory_of_stopped .stock [] checked
  obtain ⟨kept, stopped, -⟩ :=
    hardenDirectory_keeps .stock [] wellFormed "in" "./in/../in/"
  have result := congrArg (·.1.result) ran
  exact ⟨wellFormed, result, stopped _ result, kept ["in"] "Dockerfile" _ rfl rfl⟩

end Hardening.Batch

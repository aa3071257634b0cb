import Mathlib.Logic.Function.Basic
import Hardening.Batch
import Hardening.Proofs.DirectoryFiles

/-!
# Interleaved tasks of a batch

All files are read in one directory and written in another, each under its own name. So whatever the
order of the steps, a task reads what was there at the start and writes as if it were alone: what a
file comes to is decided by the tree in which the tasks begin.
-/
namespace Hardening.Batch

open Files
open Hardening.Files.Path (IsName)

/-- The two directories of a batch are there and apart, and it has a name for each file. -/
structure Ready (made : Tree) (directory out : String) (source target : Location)
    (names : List String) : Prop where
  source_found : made.lookup directory = .ok (source, .directory)
  target_found : made.lookup out = .ok (target, .directory)
  apart : source ≠ target
  named : ∀ name ∈ names, IsName name
  nodup : names.Nodup

/-- One tree is the other one with files put into a directory, none of them over a directory. -/
structure FilledIn (target : Location) (made now : Tree) : Prop where
  elsewhere : ∀ {location}, (∀ name, location ≠ target ++ [name]) →
    now.get? location = made.get? location
  present : ∀ {location}, (made.get? location).isSome → (now.get? location).isSome
  directory : ∀ {location},
    now.get? location = some .directory ↔ made.get? location = some .directory

/-- How the work on a file ends, if nothing comes in between. -/
def endingOf (config : Config) (tree : Tree) (directory out name : String) : Ending :=
  match tree.readText (Path.join directory name) with
  | .error cause => .failed (.badInput (Path.join directory name) cause)
  | .ok text =>
    if Text.isBlankText text then .skipped
    else match tree.writable (Path.join out name) with
      | .ok _ => .hardened (harden config text).report.changes.length
      | .error cause => .failed (.badOutput (Path.join out name) cause)

/-- What is written for a file, if anything is. -/
def outputOf? (config : Config) (tree : Tree) (directory out name : String) : Option String :=
  match tree.readText (Path.join directory name), tree.writable (Path.join out name) with
  | .ok text, .ok _ => if Text.isBlankText text then none else some (harden config text).content
  | _, _ => none

/-- How many of its three steps a task has behind it; a file that comes to nothing is not written. -/
def Progress.rank : Progress → Nat
  | .waiting => 0
  | .hardened _ => 1
  | .ended _ => 2
  | .joined _ => 3

namespace Progress

@[simp] theorem rank_waiting : rank .waiting = 0 := rfl

@[simp] theorem rank_hardened (result : Hardened) : rank (.hardened result) = 1 := rfl

@[simp] theorem rank_ended (ending : Ending) : rank (.ended ending) = 2 := rfl

@[simp] theorem rank_joined (ending : Ending) : rank (.joined ending) = 3 := rfl

theorem rank_le (progress : Progress) : progress.rank ≤ 3 := by
  cases progress <;> simp

end Progress

/-- How far a task can be when its file comes to what the given tree makes of it. -/
inductive Reached (config : Config) (made : Tree) (directory out name : String) : Progress → Prop
  | waiting : Reached config made directory out name .waiting
  | hardened {text : String} (read : made.readText (Path.join directory name) = .ok text)
      (visible : Text.isBlankText text = false) :
      Reached config made directory out name (.hardened (harden config text))
  | ended : Reached config made directory out name (.ended (endingOf config made directory out name))
  | joined : Reached config made directory out name (.joined (endingOf config made directory out name))

/-- A file is either hardened or ends unwritten, as its bytes decide. -/
theorem afterReading_cases (config : Config) (made : Tree) (directory out name : String) :
    let read := made.readText (Path.join directory name)
    let next := Task.afterReading config (Path.join directory name) read
    (∃ text, read = .ok text ∧ Text.isBlankText text = false ∧
        next = .hardened (harden config text)) ∨
      next = .ended (endingOf config made directory out name) ∧
        outputOf? config made directory out name = none := by
  intro read next
  cases result : made.readText (Path.join directory name) with
  | error cause =>
    refine Or.inr ⟨?_, by simp [outputOf?, result]⟩
    simp [next, read, result, Task.afterReading, endingOf]
  | ok text =>
    cases blank : Text.isBlankText text with
    | true =>
      right
      constructor
      · simp [next, read, result, Task.afterReading, hardenChecked_of_blank config text blank,
          Failure.isInvalidInput, endingOf, blank]
      · simp only [outputOf?, result]
        split <;> simp_all
    | false =>
      refine Or.inl ⟨text, result, blank, ?_⟩
      simp [next, read, result, Task.afterReading, hardenChecked_of_content config text blank]

section StepAt

variable (config : Config) {pool : Pool} (now : Tree) {i : Nat}

theorem stepAt_of_none (absent : pool.tasks[i]? = none) :
    (pool.stepAt Access.tree config i).run now = (pool, now) := by
  simp only [Pool.stepAt, absent]
  rfl

variable {task : Task} (present : pool.tasks[i]? = some task)

include present

theorem stepAt_of_waiting (stage : task.progress = .waiting) :
    (pool.stepAt Access.tree config i).run now =
      ({ pool with tasks := pool.tasks.set i { task with
          progress := Task.afterReading config task.source (now.readText task.source) } }, now) := by
  simp only [Pool.stepAt, present, Task.step, stage]
  rfl

theorem stepAt_of_writable {result : Hardened} {place : Location}
    (stage : task.progress = .hardened result) (free : now.writable task.target = .ok place) :
    (pool.stepAt Access.tree config i).run now =
      ({ pool with tasks := pool.tasks.set i { task with
          progress := .ended (.hardened result.report.changes.length) } },
        now.set place (.file result.content.toUTF8)) := by
  have written : now.writeText task.target result.content =
      .ok (now.set place (.file result.content.toUTF8)) := by
    rw [Tree.writeText, free]
    rfl
  simp only [Pool.stepAt, present, Task.step, stage]
  simp [Access.tree, written]
  rfl

theorem stepAt_of_unwritable {result : Hardened} {cause : OsError}
    (stage : task.progress = .hardened result) (stuck : now.writable task.target = .error cause) :
    (pool.stepAt Access.tree config i).run now =
      ({ pool with tasks := pool.tasks.set i { task with
          progress := .ended (.failed (.badOutput task.target cause)) } }, now) := by
  have refused : now.writeText task.target result.content = .error cause := by
    rw [Tree.writeText, stuck]
    rfl
  simp only [Pool.stepAt, present, Task.step, stage]
  simp [Access.tree, refused]
  rfl

theorem stepAt_of_ended {ending : Ending} (stage : task.progress = .ended ending) :
    (pool.stepAt Access.tree config i).run now =
      ({ tasks := pool.tasks.set i { task with progress := .joined ending }
         joined := pool.joined ++ [(task.source, ending)] }, now) := by
  simp only [Pool.stepAt, present, stage]
  rfl

theorem stepAt_of_joined {ending : Ending} (stage : task.progress = .joined ending) :
    (pool.stepAt Access.tree config i).run now = (pool, now) := by
  have same : pool.tasks.set i task = pool.tasks := by
    obtain ⟨within, rfl⟩ := List.getElem?_eq_some_iff.mp present
    exact List.set_getElem_self within
  simp only [Pool.stepAt, present, Task.step, stage]
  change ({ pool with tasks := pool.tasks.set i task }, now) = (pool, now)
  rw [same]

end StepAt

namespace Ready

variable {config : Config} {made now : Tree} {directory out name : String}
  {source target : Location} {names : List String}
  (ready : Ready made directory out source target names)

include ready

theorem readText_of_filledIn (filled : FilledIn target made now) (member : name ∈ names) :
    now.readText (Path.join directory name) = made.readText (Path.join directory name) := by
  have found := Tree.lookup_of_extends ⟨filled.present, filled.directory.mpr⟩ ready.source_found
  have outside : ∀ other, source ++ [name] ≠ target ++ [other] := fun other same =>
    ready.apart (List.append_inj_left' same rfl)
  rw [Tree.readText_join found (ready.named name member),
    Tree.readText_join ready.source_found (ready.named name member), filled.elsewhere outside]

theorem writable_of_filledIn (filled : FilledIn target made now) (member : name ∈ names) :
    now.writable (Path.join out name) = made.writable (Path.join out name) := by
  have found := Tree.lookup_of_extends ⟨filled.present, filled.directory.mpr⟩ ready.target_found
  rw [Tree.writable_join found (ready.named name member),
    Tree.writable_join ready.target_found (ready.named name member)]
  simp only [filled.directory]

/-- A file is written under its own name, and not over a directory. -/
theorem place_of_output (member : name ∈ names) {text : String}
    (output : outputOf? config made directory out name = some text) :
    made.writable (Path.join out name) = .ok (target ++ [name]) ∧
      made.get? (target ++ [name]) ≠ some .directory := by
  have writable := Tree.writable_join ready.target_found (ready.named name member)
  unfold outputOf? at output
  split at output
  next place read written =>
    rw [written] at writable
    split at writable
    · cases writable
    · split at writable
      · cases writable
      next free =>
        cases writable
        exact ⟨written, free⟩
  next => cases output

end Ready

/-- Where a batch is after the steps of `done`: how far each task is, which have been joined in which
order, and what has been written. -/
structure Stands (config : Config) (made : Tree) (directory out : String) (target : Location)
    (names : List String) (done : List Nat) (pool : Pool) (now : Tree)
    (progress : String → Progress) (joined : List String) : Prop where
  tasks : pool.tasks =
    names.map fun name => { taskFor directory out name with progress := progress name }
  joins : pool.joined =
    joined.map fun name => (Path.join directory name, endingOf config made directory out name)
  nodup_joined : joined.Nodup
  mem_joined : ∀ name, name ∈ joined ↔ name ∈ names ∧ (progress name).rank = 3
  reached : ∀ name ∈ names, Reached config made directory out name (progress name)
  moved : ∀ i name, names[i]? = some name → min 3 (done.count i) ≤ (progress name).rank
  written : ∀ name ∈ names, 2 ≤ (progress name).rank →
    ∀ text, outputOf? config made directory out name = some text →
      now.get? (target ++ [name]) = some (.file text.toUTF8)
  kept : ∀ location, (∀ name ∈ names, 2 ≤ (progress name).rank →
      outputOf? config made directory out name ≠ none → location ≠ target ++ [name]) →
    now.get? location = made.get? location

namespace Stands

variable {config : Config} {made now : Tree} {directory out : String} {source target : Location}
  {names : List String} {done : List Nat} {pool : Pool} {progress : String → Progress}
  {joined : List String} (ready : Ready made directory out source target names)
  (stands : Stands config made directory out target names done pool now progress joined)

include ready stands

theorem filledIn : FilledIn target made now := by
  -- At each place there is what a task has written or what was there before.
  have either (location : Location) : now.get? location = made.get? location ∨
      ∃ name text, location = target ++ [name] ∧ made.get? location ≠ some .directory ∧
        now.get? location = some (.file (String.toUTF8 text)) := by
    by_cases fresh : ∃ name ∈ names, 2 ≤ (progress name).rank ∧
        outputOf? config made directory out name ≠ none ∧ location = target ++ [name]
    · obtain ⟨name, member, late, some, rfl⟩ := fresh
      obtain ⟨text, output⟩ := Option.ne_none_iff_exists'.mp some
      exact Or.inr ⟨name, text, rfl, (ready.place_of_output member output).2,
        stands.written name member late text output⟩
    · refine Or.inl (stands.kept location fun name member late output same => fresh ?_)
      exact ⟨name, member, late, output, same⟩
  constructor
  · intro location outside
    rcases either location with same | ⟨name, -, inside, -⟩
    · exact same
    · exact absurd inside (outside name)
  · intro location present
    rcases either location with same | ⟨_, _, -, -, file⟩
    · rwa [same]
    · rw [file]; rfl
  · intro location
    rcases either location with same | ⟨_, _, -, free, file⟩
    · rw [same]
    · simp [file, free]

/-- One task goes on, and what it writes stands where no other one writes. -/
theorem advance {i : Nat} {name : String} (at_ : names[i]? = some name) {next : Progress}
    (reached : Reached config made directory out name next)
    (later : (progress name).rank < next.rank) {now' : Tree} {joined' : List String}
    (frame : ∀ location, (2 ≤ next.rank → outputOf? config made directory out name ≠ none →
      location ≠ target ++ [name]) → now'.get? location = now.get? location)
    (wrote : 2 ≤ next.rank → ∀ text, outputOf? config made directory out name = some text →
      now'.get? (target ++ [name]) = some (.file text.toUTF8))
    (nodup_joined : joined'.Nodup)
    (mem_joined : ∀ other, other ∈ joined' ↔
      other ∈ names ∧ (Function.update progress name next other).rank = 3) :
    Stands config made directory out target names (done ++ [i])
      { tasks := pool.tasks.set i { taskFor directory out name with progress := next }
        joined := joined'.map fun name =>
          (Path.join directory name, endingOf config made directory out name) }
      now' (Function.update progress name next) joined' := by
  -- No name comes twice, so a task is as well known by its name as by its number.
  have index (j : Nat) (other : String) (at_j : names[j]? = some other) : j = i ↔ other = name := by
    constructor
    · rintro rfl
      exact Option.some.inj (at_j.symm.trans at_)
    · rintro rfl
      have within := (List.getElem?_eq_some_iff.mp at_j).1
      exact (List.getElem?_inj within ready.nodup).mp (at_j.trans at_.symm)
  have rank_le (other : String) :
      (progress other).rank ≤ (Function.update progress name next other).rank := by
    by_cases same : other = name
    · subst same; simpa using Nat.le_of_lt later
    · simp [same]
  constructor
  case tasks =>
    apply List.ext_getElem?
    intro j
    rw [stands.tasks, List.getElem?_set, List.getElem?_map, List.getElem?_map, List.length_map]
    by_cases same : i = j
    · subst same
      have within := (List.getElem?_eq_some_iff.mp at_).1
      rw [if_pos rfl, if_pos within, at_]
      simp
    · cases at_j : names[j]? with
      | none => simp [same]
      | some other =>
        have differ : other ≠ name := fun equal => same ((index j other at_j).mpr equal).symm
        simp [same, differ]
  case joins => rfl
  case nodup_joined => exact nodup_joined
  case mem_joined => exact mem_joined
  case reached =>
    intro other member
    by_cases same : other = name
    · subst same; simpa using reached
    · simpa [same] using stands.reached other member
  case moved =>
    intro j other at_j
    have before := stands.moved j other at_j
    rw [List.count_append, List.count_singleton]
    by_cases same : other = name
    · subst same
      simp only [Function.update_self]
      split <;> omega
    · have differ : i ≠ j := fun equal => same ((index j other at_j).mp equal.symm)
      simpa [same, differ] using before
  case written =>
    intro other member late text output
    by_cases same : other = name
    · subst same
      exact wrote (by simpa using late) text output
    · have elsewhere : target ++ [other] ≠ target ++ [name] := by simpa using same
      rw [frame _ fun _ _ => elsewhere]
      exact stands.written other member (by simpa [same] using late) text output
  case kept =>
    intro location untouched
    rw [frame location fun late => untouched name (List.mem_of_getElem? at_) (by simpa using late)]
    exact stands.kept location fun other member late =>
      untouched other member (Nat.le_trans late (rank_le other))

/-- As long as a task is not joined, the joined ones are those of before. -/
theorem advance_unjoined {i : Nat} {name : String} (at_ : names[i]? = some name) {next : Progress}
    (reached : Reached config made directory out name next)
    (later : (progress name).rank < next.rank) (unjoined : next.rank < 3) {now' : Tree}
    (frame : ∀ location, (2 ≤ next.rank → outputOf? config made directory out name ≠ none →
      location ≠ target ++ [name]) → now'.get? location = now.get? location)
    (wrote : 2 ≤ next.rank → ∀ text, outputOf? config made directory out name = some text →
      now'.get? (target ++ [name]) = some (.file text.toUTF8)) :
    Stands config made directory out target names (done ++ [i])
      { pool with tasks := pool.tasks.set i { taskFor directory out name with progress := next } }
      now' (Function.update progress name next) joined := by
  rw [stands.joins]
  refine stands.advance ready at_ reached later frame wrote stands.nodup_joined fun other => ?_
  rw [stands.mem_joined other]
  by_cases same : other = name
  · subst same
    simp [Nat.ne_of_lt unjoined, Nat.ne_of_lt (Nat.lt_trans later unjoined)]
  · simp [same]

/-- Reading a file changes nothing in the tree. -/
theorem advance_read {i : Nat} {name : String} (at_ : names[i]? = some name)
    (current : progress name = .waiting) :
    ∃ progress', Stands config made directory out target names (done ++ [i])
      { pool with tasks := pool.tasks.set i { taskFor directory out name with
          progress := Task.afterReading config (Path.join directory name)
            (now.readText (Path.join directory name)) } } now progress' joined := by
  -- What other tasks have written is not where this one reads.
  rw [ready.readText_of_filledIn (stands.filledIn ready) (List.mem_of_getElem? at_)]
  rcases afterReading_cases config made directory out name with
    ⟨text, read, visible, next⟩ | ⟨next, nothing⟩
  · rw [next]
    refine ⟨_, stands.advance_unjoined ready at_ (.hardened read visible) ?_ ?_ ?_ ?_⟩
    · simp [current]
    · simp
    · exact fun _ _ => rfl
    · simp
  · rw [next]
    refine ⟨_, stands.advance_unjoined ready at_ .ended ?_ ?_ ?_ ?_⟩
    · simp [current]
    · simp
    · exact fun _ _ => rfl
    · exact fun _ text output => by cases nothing.symm.trans output

/-- Writing a result changes the tree at its own place. -/
theorem advance_write {i : Nat} {name text : String} (at_ : names[i]? = some name)
    (current : progress name = .hardened (harden config text))
    (read : made.readText (Path.join directory name) = .ok text)
    (visible : Text.isBlankText text = false) {place : Location}
    (free : made.writable (Path.join out name) = .ok place) :
    ∃ progress', Stands config made directory out target names (done ++ [i])
      { pool with tasks := pool.tasks.set i { taskFor directory out name with
          progress := .ended (.hardened (harden config text).report.changes.length) } }
      (now.set place (.file (harden config text).content.toUTF8)) progress' joined := by
  have ending : endingOf config made directory out name =
      .hardened (harden config text).report.changes.length := by
    simp [endingOf, read, visible, free]
  have output : outputOf? config made directory out name = some (harden config text).content := by
    simp [outputOf?, read, visible, free]
  -- The place is the task's own, so nothing that another task has written is lost.
  obtain ⟨own, -⟩ := ready.place_of_output (List.mem_of_getElem? at_) output
  obtain rfl : place = target ++ [name] := Except.ok.inj (free.symm.trans own)
  rw [← ending]
  refine ⟨_, stands.advance_unjoined ready at_ .ended ?_ ?_ ?_ ?_⟩
  · simp [current]
  · simp
  · intro other untouched
    have elsewhere := untouched (Nat.le_refl 2) (by simp [output])
    exact Tree.get?_set_of_ne now _ other _ elsewhere
  · intro _ written same
    cases output.symm.trans same
    exact Tree.get?_set_self now _ _ (List.concat_ne_nil _ _)

theorem advance_unwritable {i : Nat} {name text : String} (at_ : names[i]? = some name)
    (current : progress name = .hardened (harden config text))
    (read : made.readText (Path.join directory name) = .ok text)
    (visible : Text.isBlankText text = false) {cause : OsError}
    (stuck : made.writable (Path.join out name) = .error cause) :
    ∃ progress', Stands config made directory out target names (done ++ [i])
      { pool with tasks := pool.tasks.set i { taskFor directory out name with
          progress := .ended (.failed (.badOutput (Path.join out name) cause)) } }
      now progress' joined := by
  have ending : endingOf config made directory out name =
      .failed (.badOutput (Path.join out name) cause) := by
    simp [endingOf, read, visible, stuck]
  have nothing : outputOf? config made directory out name = none := by
    simp [outputOf?, read, stuck]
  rw [← ending]
  refine ⟨_, stands.advance_unjoined ready at_ .ended ?_ ?_ (fun _ _ => rfl) ?_⟩
  · simp [current]
  · simp
  · exact fun _ text output => by cases nothing.symm.trans output

theorem advance_join {i : Nat} {name : String} (at_ : names[i]? = some name)
    (current : progress name = .ended (endingOf config made directory out name)) :
    ∃ progress' joined', Stands config made directory out target names (done ++ [i])
      { tasks := pool.tasks.set i { taskFor directory out name with
          progress := .joined (endingOf config made directory out name) }
        joined := pool.joined ++
          [(Path.join directory name, endingOf config made directory out name)] }
      now progress' joined' := by
  have member := List.mem_of_getElem? at_
  -- The tasks joined so far have all steps behind them, and this one has not.
  have fresh : name ∉ joined := by
    simp [stands.mem_joined, current]
  have appended : pool.joined ++
      [(Path.join directory name, endingOf config made directory out name)] =
        (joined ++ [name]).map fun name =>
          (Path.join directory name, endingOf config made directory out name) := by
    simp [stands.joins]
  rw [appended]
  refine ⟨_, _, stands.advance ready at_ .joined ?_ (fun _ _ => rfl) ?_ ?_ fun other => ?_⟩
  · simp [current]
  · intro _ text output
    exact stands.written name member (by simp [current]) text output
  · rw [List.nodup_append]
    refine ⟨stands.nodup_joined, by simp, fun other inside last single => ?_⟩
    rw [List.mem_singleton.mp single]
    rintro rfl
    exact fresh inside
  · rw [List.mem_append, List.mem_singleton, stands.mem_joined other]
    by_cases same : other = name
    · subst same
      simp [member]
    · simp [same]

/-- Each step of a run leaves the batch in such a state again. -/
theorem step (i : Nat) :
    ∃ progress' joined',
      Stands config made directory out target names (done ++ [i])
        ((pool.stepAt Access.tree config i).run now).1 ((pool.stepAt Access.tree config i).run now).2
        progress' joined' := by
  cases at_ : names[i]? with
  | none =>
    -- There is no such task, so nothing is asked of the number of its steps.
    rw [stepAt_of_none config now (by simp [stands.tasks, at_])]
    refine ⟨progress, joined, { stands with moved := fun j name at_j => ?_ }⟩
    have differ : i ≠ j := by
      rintro rfl
      cases at_.symm.trans at_j
    simpa [differ] using stands.moved j name at_j
  | some name =>
    have member := List.mem_of_getElem? at_
    have present : pool.tasks[i]? =
        some { taskFor directory out name with progress := progress name } := by
      simp [stands.tasks, at_]
    have reached := stands.reached name member
    obtain ⟨stage, current⟩ : ∃ stage, progress name = stage := ⟨_, rfl⟩
    rw [current] at reached present
    cases reached with
    | waiting =>
      rw [stepAt_of_waiting config now present rfl]
      obtain ⟨progress', further⟩ := stands.advance_read ready at_ current
      exact ⟨progress', joined, further⟩
    | hardened read visible =>
      have same := ready.writable_of_filledIn (stands.filledIn ready) member
      cases writable : made.writable (Path.join out name) with
      | ok place =>
        rw [stepAt_of_writable config now present rfl (same.trans writable)]
        obtain ⟨progress', further⟩ :=
          stands.advance_write ready at_ current read visible writable
        exact ⟨progress', joined, further⟩
      | error cause =>
        rw [stepAt_of_unwritable config now present rfl (same.trans writable)]
        obtain ⟨progress', further⟩ :=
          stands.advance_unwritable ready at_ current read visible writable
        exact ⟨progress', joined, further⟩
    | ended =>
      rw [stepAt_of_ended config now present rfl]
      exact stands.advance_join ready at_ current
    | joined =>
      rw [stepAt_of_joined config now present rfl]
      -- A task that is joined has all its steps behind it, so one more does not count.
      refine ⟨progress, joined, { stands with moved := fun j other at_j => ?_ }⟩
      by_cases same : i = j
      · subst same
        obtain rfl : name = other := Option.some.inj (at_.symm.trans at_j)
        rw [current]
        exact Nat.min_le_left _ _
      · simpa [same] using stands.moved j other at_j

/-- So does a run of any length. -/
theorem steps (order : List Nat) :
    let ran := (order.foldlM (Pool.stepAt Access.tree config) pool).run now
    ∃ progress' joined',
      Stands config made directory out target names (done ++ order) ran.1 ran.2 progress' joined' := by
  -- By induction on the order, from any state that earlier steps have left.
  induction order generalizing done pool now progress joined with
  | nil => exact ⟨progress, joined, by rwa [List.append_nil]⟩
  | cons i order ih =>
    obtain ⟨_, _, further⟩ := stands.step ready i
    obtain ⟨progress', joined', finally_⟩ := ih further
    refine ⟨progress', joined', ?_⟩
    rw [List.append_assoc] at finally_
    exact finally_

end Stands

theorem stands_start (config : Config) (made : Tree) (directory out : String) (target : Location)
    (names : List String) :
    Stands config made directory out target names [] { tasks := names.map (taskFor directory out) }
      made (fun _ => .waiting) [] where
  tasks := rfl
  joins := rfl
  nodup_joined := List.nodup_nil
  mem_joined := by simp
  reached := fun _ _ => .waiting
  moved := by simp
  written := by simp
  kept := fun _ _ => rfl

/-- Every task has all of its steps in a run, whatever the order begins with. -/
theorem three_le_count (order : List Nat) (tasks : List Task) {i : Nat} (within : i < tasks.length) :
    3 ≤ (order ++ allSteps tasks).count i := by
  have own : (List.replicate 3 i).Sublist (allSteps tasks) :=
    List.sublist_flatten_of_mem (List.mem_map.mpr ⟨i, List.mem_range.mpr within, rfl⟩)
  rw [List.count_append]
  exact Nat.le_add_left_of_le (List.replicate_sublist_iff.mp own)

/-- One tree is the other one with the output of each file at its target, and nothing else. -/
structure Delivered (config : Config) (made : Tree) (directory out : String) (target : Location)
    (names : List String) (final : Tree) : Prop where
  written : ∀ name ∈ names, ∀ text, outputOf? config made directory out name = some text →
    final.get? (target ++ [name]) = some (.file text.toUTF8)
  kept : ∀ location, (∀ name ∈ names, outputOf? config made directory out name ≠ none →
      location ≠ target ++ [name]) → final.get? location = made.get? location

theorem Delivered.get?_eq {config : Config} {made final after : Tree} {directory out : String}
    {target : Location} {names : List String}
    (one : Delivered config made directory out target names final)
    (other : Delivered config made directory out target names after) (location : Location) :
    after.get? location = final.get? location := by
  by_cases fresh : ∃ name ∈ names, outputOf? config made directory out name ≠ none ∧
      location = target ++ [name]
  · obtain ⟨name, member, some, rfl⟩ := fresh
    obtain ⟨text, output⟩ := Option.ne_none_iff_exists'.mp some
    rw [other.written name member text output, one.written name member text output]
  · have untouched : ∀ name ∈ names, outputOf? config made directory out name ≠ none →
        location ≠ target ++ [name] :=
      fun name member output same => fresh ⟨name, member, output, same⟩
    rw [other.kept location untouched, one.kept location untouched]

/-- Whatever the order of the steps, all tasks are joined in the end, and the tree holds what each of
them would have written alone. -/
theorem run_spec (config : Config) {made : Tree} {directory out : String} {source target : Location}
    {names : List String} (ready : Ready made directory out source target names)
    (order : List Nat) :
    ∃ (joined : List String) (final : Tree),
      (run Access.tree config order (names.map (taskFor directory out))).run made =
        (joined.map fun name =>
          (Path.join directory name, endingOf config made directory out name), final) ∧
      joined.Perm names ∧ Delivered config made directory out target names final := by
  let tasks := names.map (taskFor directory out)
  let ran := ((order ++ allSteps tasks).foldlM (Pool.stepAt Access.tree config) { tasks }).run made
  obtain ⟨progress, joined, stands⟩ :=
    (stands_start config made directory out target names).steps ready (order ++ allSteps tasks)
  -- The steps behind the given order bring every task to its end, if the order has not.
  have all_joined : ∀ name ∈ names, (progress name).rank = 3 := by
    intro name member
    obtain ⟨i, within, at_⟩ := List.mem_iff_getElem.mp member
    have moved := stands.moved i name (List.getElem?_eq_some_iff.mpr ⟨within, at_⟩)
    have enough := three_le_count order tasks (by simpa [tasks] using within)
    rw [List.nil_append, Nat.min_eq_left enough] at moved
    exact Nat.le_antisymm (progress name).rank_le moved
  have result : (run Access.tree config order tasks).run made =
      (joined.map fun name =>
        (Path.join directory name, endingOf config made directory out name), ran.2) :=
    congrArg (·, ran.2) stands.joins
  refine ⟨joined, ran.2, result, ?_, ?_, ?_⟩
  · rw [List.perm_ext_iff_of_nodup stands.nodup_joined ready.nodup]
    intro name
    rw [stands.mem_joined name]
    exact ⟨And.left, fun member => ⟨member, all_joined name member⟩⟩
  · intro name member
    exact stands.written name member (by rw [all_joined name member]; decide)
  · intro location untouched
    exact stands.kept location fun name member _ => untouched name member

end Hardening.Batch

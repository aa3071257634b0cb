import Hardening.Command.Run
import Hardening.Proofs.BatchChecks

/-!
# What a batch makes of its files

A batch that passes its checks counts every build file once and makes of each what it would make of
it alone, whatever the order of the steps. Only targets are written, and each by the one task that it
belongs to.
-/
namespace Hardening.Batch

open Files
open Hardening.Files.Path (IsName)

section Counts

theorem count_comm (summary : Summary) (first second : Ending) :
    (summary.count first).count second = (summary.count second).count first := by
  cases first <;> cases second <;> rfl

/-- The counts do not tell in which order the files were joined. -/
theorem ofEndings_perm {endings others : List Ending} (same : endings.Perm others) :
    Summary.ofEndings endings = Summary.ofEndings others :=
  same.foldl_eq' (fun _ _ _ _ summary => count_comm summary _ _) {}

private theorem total_foldl (endings : List Ending) (summary : Summary) :
    let counted := endings.foldl Summary.count summary
    counted.hardened + counted.skipped + counted.failed =
      summary.hardened + summary.skipped + summary.failed + endings.length := by
  induction endings generalizing summary with
  | nil => rfl
  | cons ending endings ih =>
    have further := ih (summary.count ending)
    have one : (summary.count ending).hardened + (summary.count ending).skipped +
        (summary.count ending).failed = summary.hardened + summary.skipped + summary.failed + 1 := by
      cases ending <;> simp only [Summary.count] <;> omega
    simp only [List.foldl_cons, List.length_cons] at further ⊢
    omega

theorem total_ofEndings (endings : List Ending) :
    (Summary.ofEndings endings).hardened + (Summary.ofEndings endings).skipped +
      (Summary.ofEndings endings).failed = endings.length := by
  have total := total_foldl endings {}
  simpa [Summary.ofEndings] using total

end Counts

/-- A file with these bytes is read as a text: the bytes encode the text, and the path of the file is
short enough to be looked up. -/
structure ReadsAs (path : String) (bytes : ByteArray) (text : String) : Prop where
  decoded : String.fromUTF8? bytes = some text
  short : path.utf8ByteSize ≤ Path.maxLength

/-- The work on a build file with the given bytes is bound to fail: it is not read as a text, or it
has content and its target cannot be written. -/
def Fails (made : Tree) (directory out name : String) (bytes : ByteArray) : Prop :=
  ∀ text, ReadsAs (Path.join directory name) bytes text →
    Text.isBlankText text = false ∧ ∀ place, made.writable (Path.join out name) ≠ .ok place

/-- What a batch makes of a build file with the given bytes: how the work on it ends, and what its
target holds then. -/
structure Handled (config : Config) (tree made final : Tree) (directory out name : String)
    (bytes : ByteArray) (ending : Ending) : Prop where
  /-- The target gets what the single command prints for the file. -/
  hardened : ∀ text, ReadsAs (Path.join directory name) bytes text →
    Text.isBlankText text = false → ∀ place, made.writable (Path.join out name) = .ok place →
      ∃ result, hardenChecked config text = .ok result ∧
        ending = .hardened result.report.changes.length ∧
        final.get? place = some (.file result.content.toUTF8) ∧
        ∀ stdin stamp, ∃ logs,
          (Command.runHarden Access.tree stdin stamp config (Path.join directory name) none
            none).run tree = (.success result.content logs, tree)
  skipped : ∀ text, ReadsAs (Path.join directory name) bytes text →
    Text.isBlankText text = true → ending = .skipped
  failed : Fails made directory out name bytes → ∃ trouble, ending = .failed trouble
  untouched : (∀ changes, ending ≠ .hardened changes) →
    ∀ place, made.writable (Path.join out name) = .ok place → final.get? place = made.get? place

/-- A batch over the named files of a directory, seen from its end. -/
structure Completed (config : Config) (tree made : Tree) (directory out : String)
    (source : Location) (names : List String) (ending : String → Ending) (summary : Summary)
    (final : Tree) : Prop where
  found : tree.lookup directory = .ok (source, .directory)
  files : BuildFiles tree source names
  /-- Neither the counts nor the tree depend on the order of the steps. -/
  ran : ∀ order, ∃ logs after,
    (hardenDirectory Access.tree config order directory out).run tree =
      (⟨.ok summary, logs⟩, after) ∧
    ∀ location, after.get? location = final.get? location
  counts : summary = .ofEndings (names.map ending)
  total : summary.hardened + summary.skipped + summary.failed = names.length
  handled : ∀ name ∈ names, ∀ bytes, tree.get? (source ++ [name]) = some (.file bytes) →
    Handled config tree made final directory out name bytes (ending name)
  /-- The checks have made nothing but directories. -/
  adds : tree.AddsDirectories made
  /-- Only the targets of the files are written. -/
  kept : ∀ location, (∀ name ∈ names, made.writable (Path.join out name) ≠ .ok location) →
    final.get? location = made.get? location

section Files

variable {config : Config} {tree made : Tree} {directory out name : String}
  {source target : Location} {names : List String}

theorem readText_iff {place : Location} (found : tree.lookup directory = .ok (place, .directory))
    (named : IsName name) {bytes : ByteArray}
    (stands : tree.get? (place ++ [name]) = some (.file bytes)) (text : String) :
    tree.readText (Path.join directory name) = .ok text ↔
      ReadsAs (Path.join directory name) bytes text := by
  rw [Tree.readText_join found named, stands]
  constructor
  · intro read
    split at read
    · cases read
    next short =>
      simp only [Tree.readNode] at read
      split at read
      · cases read
        exact ⟨by assumption, Nat.not_lt.mp short⟩
      · cases read
  · rintro ⟨decoded, short⟩
    rw [if_neg (Nat.not_lt.mpr short)]
    simp [Tree.readNode, decoded]

/-- The path of an entry is never the one that stands for the standard streams. -/
theorem not_isStdio_join {place : Location} (found : tree.lookup directory = .ok (place, .directory))
    (name : String) : Command.isStdio (Path.join directory name) = false := by
  have filled : directory ≠ "" := by
    rintro rfl
    cases found
  rcases Path.join_cases directory name with ⟨rfl, -⟩ | ⟨front, -, joined⟩
  · exact absurd rfl filled
  · -- A joined path has a slash in it, and the path of the streams is a dash.
    have slash : '/' ∈ (Path.join directory name).toList := by simp [joined]
    rw [Command.isStdio, decide_eq_false_iff_not]
    intro dash
    rw [dash] at slash
    exact absurd slash (by decide)

/-- What the single command prints for a file with content. -/
theorem runHarden_of_content (stdin : StateM Tree (Except OsError String)) (stamp : StateM Tree Stamp)
    {path text : String} (plain : Command.isStdio path = false)
    (read : tree.readText path = .ok text) (visible : Text.isBlankText text = false) :
    (Command.runHarden Access.tree stdin stamp config path none none).run tree =
      (.success (harden config text).content
        [Command.appliedLine path (harden config text)], tree) := by
  simp [Command.runHarden, Command.readInput, plain, read,
    hardenChecked_of_content config text visible, Command.writeOutput]
  rfl

end Files

section Handled

variable {config : Config} {tree made final : Tree} {directory out name : String}
  {source target : Location} {names : List String}
  (ready : Ready made directory out source target names) (member : name ∈ names)

include ready member

theorem Ready.place_of_writable {place : Location}
    (free : made.writable (Path.join out name) = .ok place) : place = target ++ [name] := by
  rw [Tree.writable_join ready.target_found (ready.named name member)] at free
  split at free
  · cases free
  · split at free
    · cases free
    · cases free
      rfl

theorem Ready.endingOf_failed_iff (config : Config) (adds : tree.AddsDirectories made)
    {bytes : ByteArray} (stands : tree.get? (source ++ [name]) = some (.file bytes)) :
    (∃ trouble, endingOf config made directory out name = .failed trouble) ↔
      Fails made directory out name bytes := by
  have reads (text : String) :=
    readText_iff ready.source_found (ready.named name member) (adds.file.mpr stands) text
  constructor
  · rintro ⟨trouble, failed⟩ text readable
    simp only [endingOf, (reads text).mpr readable] at failed
    split at failed
    next => cases failed
    next visible =>
      refine ⟨by simpa using visible, fun place free => ?_⟩
      rw [free] at failed
      cases failed
  · intro stuck
    unfold endingOf
    cases read : made.readText (Path.join directory name) with
    | error cause => exact ⟨_, rfl⟩
    | ok text =>
      obtain ⟨visible, unwritable⟩ := stuck text ((reads text).mp read)
      cases free : made.writable (Path.join out name) with
      | ok place => exact absurd free (unwritable place)
      | error cause => exact ⟨.badOutput (Path.join out name) cause, by simp [visible]⟩

/-- What the tree in the end holds for one file, if it holds that file's output. -/
theorem Ready.handled (found : tree.lookup directory = .ok (source, .directory))
    (adds : tree.AddsDirectories made)
    (written : ∀ text, outputOf? config made directory out name = some text →
      final.get? (target ++ [name]) = some (.file text.toUTF8))
    (kept : outputOf? config made directory out name = none →
      final.get? (target ++ [name]) = made.get? (target ++ [name]))
    {bytes : ByteArray} (stands : tree.get? (source ++ [name]) = some (.file bytes)) :
    Handled config tree made final directory out name bytes
      (endingOf config made directory out name) := by
  have named := ready.named name member
  have before (text : String) := readText_iff found named stands text
  have reads (text : String) := readText_iff ready.source_found named (adds.file.mpr stands) text
  constructor
  case hardened =>
    intro text readable visible place free
    have read := (reads text).mpr readable
    obtain rfl := ready.place_of_writable member free
    refine ⟨harden config text, hardenChecked_of_content config text visible, ?_, ?_, ?_⟩
    · simp [endingOf, read, visible, free]
    · exact written _ (by simp [outputOf?, read, visible, free])
    · intro stdin stamp
      exact ⟨_, runHarden_of_content stdin stamp (not_isStdio_join found name)
        ((before text).mpr readable) visible⟩
  case skipped =>
    intro text readable blank
    simp [endingOf, (reads text).mpr readable, blank]
  case failed => exact (ready.endingOf_failed_iff member config adds stands).mpr
  case untouched =>
    intro unhardened place free
    obtain rfl := ready.place_of_writable member free
    refine kept ?_
    -- Whatever is written is also counted as hardened.
    cases read : made.readText (Path.join directory name) with
    | error cause => simp [outputOf?, read]
    | ok text =>
      cases blank : Text.isBlankText text with
      | true => simp [outputOf?, read, blank, free]
      | false =>
        exact absurd (by simp [endingOf, read, blank, free])
          (unhardened (harden config text).report.changes.length)

end Handled

/-- A batch that passes its checks has the same outcome for all orders of its steps: it handles each
build file of the directory on its own, counts each once, and changes nothing else. -/
theorem hardenDirectory_files (config : Config) {tree made : Tree} {directory out : String}
    {tasks : List Task} (wellFormed : tree.WellFormed)
    (passed : (prepare Access.tree directory out).run tree = (.ok tasks, made)) :
    ∃ source names ending summary final,
      Completed config tree made directory out source names ending summary final := by
  obtain ⟨source, names, found, files, rfl, ⟨rfl, rfl⟩ | ⟨some, adds, target, ready⟩⟩ :=
    prepare_eq_ok wellFormed passed
  · refine ⟨source, [], fun _ => .skipped, {}, made, found, files, fun order => ?_, rfl, rfl, nofun,
      .refl made, fun _ _ => rfl⟩
    exact ⟨_, made, hardenDirectory_of_no_tasks config order passed, fun _ => rfl⟩
  · let ending := endingOf config made directory out
    -- One order is as good as any other to say which tree the batch ends in.
    obtain ⟨_, final, -, -, delivered⟩ := run_spec config ready []
    refine ⟨source, names, ending, .ofEndings (names.map ending), final, ?_⟩
    constructor
    case found => exact found
    case files => exact files
    case ran =>
      intro order
      obtain ⟨joined, after, ran, all, deliveredToo⟩ := run_spec config ready order
      have outcome := hardenDirectory_of_tasks config order (by simpa using some) passed ran
      have counted : Summary.ofEndings (joined.map ending) = .ofEndings (names.map ending) :=
        ofEndings_perm (all.map ending)
      rw [List.map_map, show Prod.snd ∘ _ = ending from rfl, counted] at outcome
      exact ⟨_, after, outcome, delivered.get?_eq deliveredToo⟩
    case counts => rfl
    case total => rw [total_ofEndings, List.length_map]
    case handled =>
      intro name member bytes stands
      refine ready.handled member found adds (delivered.written name member) ?_ stands
      intro none
      refine delivered.kept _ fun other _ output same => output ?_
      obtain rfl : name = other := by simpa using same
      exact none
    case adds => exact adds
    case kept =>
      intro location untouched
      refine delivered.kept location fun name member output => ?_
      rintro rfl
      obtain ⟨text, output⟩ := Option.ne_none_iff_exists'.mp output
      exact untouched name member (ready.place_of_output member output).1

section ThreeFiles

/-- Three build files, one of them without content, and the output directory among them; in it a
directory stands where the third file is to be written. -/
def threeFiles : Tree :=
  ⟨[(["in"], .directory), (["in", "Dockerfile"], .file "FROM node:latest\nRUN adduser app".toUTF8),
    (["in", "Dockerfile.dev"], .file " \n".toUTF8),
    (["in", "api.Dockerfile"], .file "FROM node:latest".toUTF8),
    (["in", "out"], .directory), (["in", "out", "api.Dockerfile"], .directory)]⟩

def threeNames : List String := ["Dockerfile", "Dockerfile.dev", "api.Dockerfile"]

theorem lookup_threeFiles : threeFiles.lookup "in" = .ok (["in"], .directory) := by rfl

theorem listFiles_threeFiles : threeFiles.listFiles "in" = .ok threeNames := by
  have names : (threeFiles.children ["in"]).filterMap Tree.fileName? = threeNames := by rfl
  rw [Tree.listFiles, lookup_threeFiles]
  change Except.ok (((threeFiles.children ["in"]).filterMap Tree.fileName?).mergeSort _) = _
  rw [names, List.mergeSort_of_pairwise (by decide)]

theorem prepare_threeFiles : (prepare Access.tree "in" "in/out").run threeFiles =
    (.ok (threeNames.map (taskFor "in" "in/out")), threeFiles) := by
  have picked : threeNames.filter isBuildFile = threeNames := by decide
  have making : threeFiles.makeDirectories "in/out" = (.ok (), threeFiles) := by rfl
  have source : threeFiles.resolve "in" = .ok ["in"] := by rfl
  have target : threeFiles.resolve "in/out" = .ok ["in", "out"] := by rfl
  rw [prepare_run, listFiles_threeFiles]
  simp only [picked, making, source, target]
  rfl

theorem perm_threeNames {names : List String} (wellFormed : threeFiles.WellFormed)
    (files : BuildFiles threeFiles ["in"] names) : names.Perm threeNames := by
  obtain ⟨place, found, nodup, -, mem_listed⟩ :=
    Tree.listFiles_eq_ok wellFormed listFiles_threeFiles
  obtain rfl := Tree.lookup_unique found lookup_threeFiles
  have build : ∀ name ∈ threeNames, isBuildFile name = true := by decide
  rw [List.perm_ext_iff_of_nodup files.nodup nodup]
  intro name
  rw [files.mem_iff, ← mem_listed]
  exact ⟨And.right, fun listed => ⟨build name listed, listed⟩⟩

theorem fails_threeFiles :
    Fails threeFiles "in" "in/out" "api.Dockerfile" "FROM node:latest".toUTF8 := by
  rintro text ⟨decoded, -⟩
  have same : some "FROM node:latest" = some text := decoded
  cases same
  exact ⟨by decide, fun place free => nomatch free⟩

/-- In every order one file is hardened, one is skipped and one fails. -/
theorem hardenDirectory_files_threeFiles :
    threeFiles.WellFormed ∧
      (prepare Access.tree "in" "in/out").run threeFiles =
        (.ok (threeNames.map (taskFor "in" "in/out")), threeFiles) ∧
      ∃ names ending final,
        Completed .stock threeFiles threeFiles "in" "in/out" ["in"] names ending
          { hardened := 1, skipped := 1, failed := 1 } final ∧
        final.get? ["in", "out", "Dockerfile"] =
          some (.file "FROM node:18-slim\nRUN adduser app".toUTF8) := by
  have wellFormed : threeFiles.WellFormed := by decide
  refine ⟨wellFormed, prepare_threeFiles, ?_⟩
  obtain ⟨source, names, ending, summary, final, completed⟩ :=
    hardenDirectory_files .stock wellFormed prepare_threeFiles
  obtain rfl := Tree.lookup_unique completed.found lookup_threeFiles
  have all := perm_threeNames wellFormed completed.files
  have handled (name : String) (listed : name ∈ threeNames) :=
    completed.handled name (all.mem_iff.mpr listed)
  -- Each of the files ends as one of its kind, and the counts follow.
  obtain ⟨result, accepted, hardened, written, -⟩ :=
    (handled "Dockerfile" (by decide) _ rfl).hardened "FROM node:latest\nRUN adduser app"
      ⟨by rfl, by decide⟩ (by decide) ["in", "out", "Dockerfile"] (by rfl)
  have skipped := (handled "Dockerfile.dev" (by decide) _ rfl).skipped " \n" ⟨by rfl, by decide⟩
    (by decide)
  obtain ⟨trouble, failed⟩ := (handled "api.Dockerfile" (by decide) _ rfl).failed fails_threeFiles
  have counts : summary = { hardened := 1, skipped := 1, failed := 1 } := by
    rw [completed.counts, ofEndings_perm (all.map ending)]
    simp only [threeNames, List.map_cons, List.map_nil, hardened, skipped, failed]
    rfl
  rw [counts] at completed
  refine ⟨names, ending, final, completed, ?_⟩
  have content : (harden .stock "FROM node:latest\nRUN adduser app").content =
      "FROM node:18-slim\nRUN adduser app" := by decide +kernel
  cases accepted
  rw [written, ← content]

end ThreeFiles

section LongPaths

/-- The checks are passed whatever path the directory is given by. -/
theorem prepare_oneFile {directory : String}
    (found : oneFile.lookup directory = .ok (["in"], .directory)) :
    (prepare Access.tree directory "out").run oneFile =
      (.ok [taskFor directory "out" "Dockerfile"], oneFile.set ["out"] .directory) := by
  have picked : ["Dockerfile"].filter isBuildFile = ["Dockerfile"] := by decide
  have making : oneFile.makeDirectories "out" = (.ok (), oneFile.set ["out"] .directory) := by rfl
  have adds : oneFile.AddsDirectories (oneFile.set ["out"] .directory) :=
    .set (List.cons_ne_nil _ _) rfl
  have source := Tree.resolve_of_lookup (Tree.lookup_of_extends adds.grown found)
  have target : (oneFile.set ["out"] .directory).resolve "out" = .ok ["out"] := by rfl
  rw [prepare_run, listFiles_oneFile found]
  simp only [picked, making, source, target]
  rfl

/-- A name with slashes behind it. -/
def slashed (name : String) : Nat → String
  | 0 => name
  | count + 1 => slashed name count ++ "/"

theorem segments_slashed (name : String) (count : Nat) :
    Path.segments (slashed name count) = Path.segments name := by
  induction count with
  | zero => rfl
  | succ count ih =>
    have ends := Path.segments_append (slashed name count) ""
    rw [String.append_empty] at ends
    rw [slashed, ends, ih]
    exact List.append_nil _

theorem utf8ByteSize_slashed (name : String) (count : Nat) :
    (slashed name count).utf8ByteSize = name.utf8ByteSize + count := by
  induction count with
  | zero => rfl
  | succ count ih =>
    rw [slashed, String.utf8ByteSize_append, ih]
    rfl

/-- Slashes behind a name lead to the same directory, as long as the path can be looked up. -/
theorem walk?_slashed {name : String} (named : IsName name) {count : Nat} (some : count ≠ 0)
    (short : name.utf8ByteSize + count ≤ Path.maxLength) :
    Path.walk? (slashed name count) = .ok ⟨[name], true⟩ := by
  have proper : '\x00' ∉ (slashed name count).toList := by
    clear some short
    induction count with
    | zero => exact named.proper
    | succ count ih => simpa [slashed] using ih
  have last : (slashed name count).toList.getLast? = Option.some '/' := by
    obtain ⟨before, rfl⟩ := Nat.exists_eq_succ_of_ne_zero some
    simp [slashed]
  have filled : slashed name count ≠ "" := by
    intro empty
    simp [empty] at last
  have size := utf8ByteSize_slashed name count
  have segments : Path.segments (slashed name count) = [name] := by
    rw [segments_slashed, Path.segments_of_name named]
  simp [Path.walk?, proper, filled, size, Nat.not_lt.mpr short, segments, last]

/-- The directory of the one file, by a path so long that the path of the file cannot be looked up. -/
def longPath : String := slashed "in" 4088

theorem lookup_longPath : oneFile.lookup longPath = .ok (["in"], .directory) := by
  have short : "in".utf8ByteSize + 4088 ≤ Path.maxLength := by
    rw [show "in".utf8ByteSize = 2 from rfl]
    decide
  exact (Tree.lookup_directory_iff ..).mpr
    ⟨⟨["in"], true⟩, walk?_slashed (by decide) (by decide) short, rfl, rfl⟩

/-- A file whose path cannot be looked up is not read: it counts as failed. -/
theorem hardenDirectory_of_long (config : Config) (order : List Nat) {directory : String}
    (found : oneFile.lookup directory = .ok (["in"], .directory))
    (long : (Path.join directory "Dockerfile").utf8ByteSize > Path.maxLength) :
    ∃ logs after, (hardenDirectory Access.tree config order directory "out").run oneFile =
        (⟨.ok { failed := 1 }, logs⟩, after) ∧
      after.get? ["out", "Dockerfile"] = none := by
  let made := oneFile.set ["out"] .directory
  have adds : oneFile.AddsDirectories made := .set (List.cons_ne_nil _ _) rfl
  have ready : Ready made directory "out" ["in"] ["out"] ["Dockerfile"] := by
    constructor
    case source_found => exact Tree.lookup_of_extends adds.grown found
    case target_found => rfl
    case apart => decide
    case named => decide
    case nodup => decide
  have unread : made.readText (Path.join directory "Dockerfile") = .error .nameTooLong := by
    rw [Tree.readText_join ready.source_found (by decide), if_pos long]
  obtain ⟨joined, after, ran, all, delivered⟩ := run_spec config ready order
  obtain rfl := List.perm_singleton.mp all
  have outcome :=
    hardenDirectory_of_tasks config order (List.cons_ne_nil _ _) (prepare_oneFile found) ran
  simp only [List.map_cons, List.map_nil, endingOf, unread] at outcome
  refine ⟨_, after, outcome, ?_⟩
  rw [delivered.kept _ (by simp [outputOf?, unread])]
  rfl

/-- Through this path the one file is not read, though its text has content and its target can be
written. -/
theorem file_of_longPath_fails :
    oneFile.WellFormed ∧ oneFile.lookup longPath = .ok (["in"], .directory) ∧
      isBuildFile "Dockerfile" = true ∧
      oneFile.get? ["in", "Dockerfile"] =
        some (.file "FROM node:latest\nCOPY . /app".toUTF8) ∧
      Text.isBlankText "FROM node:latest\nCOPY . /app" = false ∧
      ∃ made, (prepare Access.tree longPath "out").run oneFile =
          (.ok [taskFor longPath "out" "Dockerfile"], made) ∧
        made.writable (Path.join "out" "Dockerfile") = .ok ["out", "Dockerfile"] ∧
        ∀ order, ∃ logs after,
          (hardenDirectory Access.tree .stock order longPath "out").run oneFile =
            (⟨.ok { failed := 1 }, logs⟩, after) ∧
          after.get? ["out", "Dockerfile"] = none := by
  have long : (Path.join longPath "Dockerfile").utf8ByteSize > Path.maxLength := by
    have joined := Path.le_utf8ByteSize_join longPath "Dockerfile"
    rw [longPath, utf8ByteSize_slashed, show "in".utf8ByteSize = 2 from rfl,
      show "Dockerfile".utf8ByteSize = 10 from rfl] at joined
    exact Nat.lt_of_lt_of_le (by decide) joined
  have written : (oneFile.set ["out"] .directory).writable (Path.join "out" "Dockerfile") =
      .ok ["out", "Dockerfile"] := by rfl
  have visible : Text.isBlankText "FROM node:latest\nCOPY . /app" = false := by decide
  exact ⟨by decide, lookup_longPath, by decide, rfl, visible, _, prepare_oneFile lookup_longPath,
    written, fun order => hardenDirectory_of_long .stock order lookup_longPath long⟩

end LongPaths

end Hardening.Batch

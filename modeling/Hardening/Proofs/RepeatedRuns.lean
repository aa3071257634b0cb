import Hardening.Proofs.EmittedTriggers
import Hardening.Proofs.UnchangedTexts

/-!
# Hardening again and again

What a run puts out declares a user and has no floating base, and its lines about packages are those
of the input in their order. So later runs only repeat the cleanups of the first one: the text grows
by the same amount in each round, and stands still exactly when there is nothing to add.
-/
namespace Hardening

/-- The text after a number of rounds, each of which hardens what the one before put out. -/
def rounds (config : Config) (content : String) : Nat → String
  | 0 => content
  | round + 1 => (harden config (rounds config content round)).content

/-- The refreshes and installs of a text, in their order. -/
def packageEvents (content : String) : List ScanEvent :=
  (scanEvents (Document.ofText content).lines).filter (· ≠ .userDeclared)

theorem count_eq_cleanups (config : Config) (content : String) :
    (harden config content).report.count .cleanPackageCache =
      ScanEvent.cleanups false (packageEvents content) := by
  rw [count_harden, cleanupCount_scanChanges, packageEvents, ScanEvent.cleanups_filter]
  rfl

/-- A text with nothing left to pin and no user to declare. -/
structure Settled (content : String) : Prop where
  declared : (Document.ofText content).lines.any Instruction.declaresUser = true
  pinned : ∀ line ∈ (Document.ofText content).lines, BaseImage.Floating.find? line = none

namespace Settled

variable {content : String} (settled : Settled content) (config : Config)

include settled

theorem userDeclared_harden : (harden config content).report.userDeclared = true := by
  rw [harden_of_declared config settled.declared]

theorem changes_harden : ∀ change ∈ (harden config content).report.changes,
    change.rule = .cleanPackageCache := by
  intro change reported
  cases rule : change.rule with
  | cleanPackageCache => rfl
  | insertNonRootUser =>
    have undeclared := (insertion_of_mem_changes config content reported rule).1
    rw [settled.declared] at undeclared
    cases undeclared
  | pinBaseImage =>
    obtain ⟨member, floating⟩ := floating_of_mem_changes config content reported rule
    rw [settled.pinned change.before member] at floating
    cases floating

theorem size_harden (size : String → Nat) (additive : ∀ s t, size (s ++ t) = size s + size t) :
    size (harden config content).content = size content +
      (harden config content).report.count .cleanPackageCache * size config.cleanupSuffix := by
  have sized := Hardening.size_harden additive config content fun line member parts found => by
    rw [settled.pinned line member] at found
    cases found
  rwa [settled.declared, if_pos rfl, Nat.add_zero] at sized

theorem visible : Text.isBlankText content = false := by
  obtain ⟨line, member, declares⟩ := List.any_eq_true.mp settled.declared
  obtain ⟨lead, own, begins⟩ := (Instruction.declaresUser_iff line).mp declares
  -- Each of the declaring commands has the letter R, which is not blank.
  have letters : ∀ lead ∈ Instruction.userCreationLeads, 'R' ∈ lead.toList := by decide
  obtain ⟨rest, rfl⟩ := (Text.leads_iff lead line).mp begins
  have within := (Document.of_mem_line member 'R' (by simp [letters lead own])).1
  rw [Bool.eq_false_iff, Ne, Text.isBlankText_iff]
  intro blank
  exact absurd (blank 'R' within) (by decide)

theorem content_harden_eq_iff {config : Config} (accepted : config.Accepted) :
    (harden config content).content = content ↔
      (harden config content).report.count .cleanPackageCache = 0 ∨ config.packageCleanup = [] := by
  have cleanups := settled.changes_harden config
  rw [Hardening.content_harden_eq_iff accepted content, Report.count, List.countP_eq_zero]
  constructor
  · intro silent
    by_cases unconfigured : config.packageCleanup = []
    · exact Or.inr unconfigured
    · exact Or.inl fun change reported => absurd (silent change reported).2 unconfigured
  · rintro (uncleaned | unconfigured) change reported
    · exact absurd (by simpa using cleanups change reported) (uncleaned change reported)
    · exact ⟨cleanups change reported, unconfigured⟩

end Settled

section Accepted

variable {config : Config} (accepted : config.Accepted)
  (singles : ∀ command ∈ config.packageCleanup, '\n' ∉ command.toList) (content : String)

include accepted singles

/-- A run puts the events of its input out again, and those of the block if it adds one. -/
theorem scanEvents_harden : ∃ front back,
    scanEvents (Document.ofText content).lines = front ++ back ∧
    scanEvents (Document.ofText (harden config content).content).lines = front ++
      (if (Document.ofText content).lines.any Instruction.declaresUser then []
        else [ScanEvent.userDeclared]) ++ back := by
  have single (line : String) (member : line ∈ (Document.ofText content).lines) :
      '\n' ∉ line.toList := Document.lineFeed_not_mem member
  cases declared : (Document.ofText content).lines.any Instruction.declaresUser with
  | true =>
    refine ⟨scanEvents (Document.ofText content).lines, [], (List.append_nil _).symm, ?_⟩
    rw [lines_harden_of_declared config declared, scanEvents_scanLines accepted singles single,
      if_pos rfl, List.append_nil, List.append_nil]
  | false =>
    obtain ⟨place, point⟩ : ∃ place,
        UserBlock.insertionPoint (Document.ofText content).lines = place := ⟨_, rfl⟩
    refine ⟨scanEvents ((Document.ofText content).lines.take place),
      scanEvents ((Document.ofText content).lines.drop place), ?_, ?_⟩
    · rw [← scanEvents_append, List.take_append_drop]
    · rw [lines_harden_of_undeclared accepted declared point, scanEvents_append, scanEvents_append,
        scanEvents_scanLines accepted singles fun line member =>
          single line (List.mem_of_mem_take member),
        scanEvents_scanLines accepted singles fun line member =>
          single line (List.mem_of_mem_drop member),
        ScanEvent.scanEvents_userBlock, if_neg Bool.false_ne_true, List.append_assoc]

theorem packageEvents_harden :
    packageEvents (harden config content).content = packageEvents content := by
  obtain ⟨front, back, before, after⟩ := scanEvents_harden accepted singles content
  rw [packageEvents, packageEvents, before, after]
  split <;> simp

theorem settled_harden : Settled (harden config content).content := by
  have single (line : String) (member : line ∈ (Document.ofText content).lines) :
      '\n' ∉ line.toList := Document.lineFeed_not_mem member
  constructor
  · obtain ⟨front, back, before, after⟩ := scanEvents_harden accepted singles content
    have declares := any_declaresUser_eq (Document.ofText content).lines
    rw [any_declaresUser_eq, after]
    rw [before] at declares
    cases declared : (Document.ofText content).lines.any Instruction.declaresUser with
    | true => simpa [declared] using declares
    | false => simp -- The block's own event is there.
  · cases declared : (Document.ofText content).lines.any Instruction.declaresUser with
    | true =>
      rw [lines_harden_of_declared config declared]
      exact find?_scanLines accepted singles single .initial
    | false =>
      rw [lines_harden_of_undeclared accepted declared rfl]
      intro line member
      rcases List.mem_append.mp member with front | further
      · exact find?_scanLines accepted singles
          (fun line member => single line (List.mem_of_mem_take member)) _ line front
      · rcases List.mem_append.mp further with block | back
        · exact UserBlock.find?_eq_none config line block
        · exact find?_scanLines accepted singles
            (fun line member => single line (List.mem_of_mem_drop member)) _ line back

theorem settled_rounds (round : Nat) : Settled (rounds config content (round + 1)) :=
  settled_harden accepted singles (rounds config content round)

theorem packageEvents_rounds (round : Nat) :
    packageEvents (rounds config content round) = packageEvents content := by
  induction round with
  | zero => rfl
  | succ round ih => exact (packageEvents_harden accepted singles _).trans ih

theorem count_rounds (round : Nat) :
    (harden config (rounds config content round)).report.count .cleanPackageCache =
      (harden config content).report.count .cleanPackageCache := by
  rw [count_eq_cleanups, count_eq_cleanups, packageEvents_rounds accepted singles]

end Accepted

/-- Each round after the first reports a declared user, no pin, no insertion and as many cleanups as
the first, and adds the cleanup suffix to the text that many times. So it puts out what it was given
exactly when there are no such cleanups or no commands; and no output is turned down as blank. -/
theorem harden_rounds (config : Config) (valid : config.check = .ok ())
    (singles : ∀ command ∈ config.packageCleanup, '\n' ∉ command.toList) (content : String)
    (round : Nat) :
    let cleanups := (harden config content).report.count .cleanPackageCache
    let before := rounds config content (round + 1)
    let again := harden config before
    again.report.userDeclared = true ∧
    (∀ change ∈ again.report.changes,
      change.rule ≠ .pinBaseImage ∧ change.rule ≠ .insertNonRootUser) ∧
    again.report.count .cleanPackageCache = cleanups ∧
    again.content.length = before.length + cleanups * config.cleanupSuffix.length ∧
    again.content.utf8ByteSize =
      before.utf8ByteSize + cleanups * config.cleanupSuffix.utf8ByteSize ∧
    (again.content = before ↔ cleanups = 0 ∨ config.packageCleanup = []) ∧
    hardenChecked config before = .ok again := by
  have accepted := (Config.check_eq_ok_iff config).mp valid
  have settled := settled_rounds accepted singles content round
  have repeated := count_rounds accepted singles content (round + 1)
  dsimp only
  -- From here on the text only needs to be settled, however many rounds it has behind it.
  generalize rounds config content (round + 1) = before at settled repeated
  rw [← repeated]
  have length := settled.size_harden config String.length String.length_append
  have bytes := settled.size_harden config String.utf8ByteSize fun _ _ =>
    String.utf8ByteSize_append
  refine ⟨settled.userDeclared_harden config, ?_, rfl, length, bytes,
    settled.content_harden_eq_iff accepted, ?_⟩
  · intro change reported
    rw [settled.changes_harden config change reported]
    exact ⟨nofun, nofun⟩
  · exact hardenChecked_of_content config before settled.visible

/-- One cleaned install grows by the stock commands in the fourth round as it did in the first. -/
theorem harden_rounds_stock :
    let content := "FROM node:latest\nRUN apt-get update\nRUN apt-get install curl"
    let before := rounds .stock content 3
    Config.stock.check = .ok () ∧
      (∀ command ∈ Config.stock.packageCleanup, '\n' ∉ command.toList) ∧
      (harden .stock content).report.count .cleanPackageCache = 1 ∧
      (harden .stock before).report.count .cleanPackageCache = 1 ∧
      (harden .stock before).content ≠ before := by
  intro content before
  have singles : ∀ command ∈ Config.stock.packageCleanup, '\n' ∉ command.toList := by decide +kernel
  have once : (harden .stock content).report.count .cleanPackageCache = 1 := by decide +kernel
  obtain ⟨-, -, repeated, -, -, still, -⟩ :=
    harden_rounds .stock Config.check_stock singles content 2
  rw [once] at repeated still
  have moves : ¬(1 = 0 ∨ Config.stock.packageCleanup = []) := by decide
  exact ⟨Config.check_stock, singles, once, repeated, mt still.mp moves⟩

end Hardening

import Hardening.Proofs.HardenOutput
import Mathlib.Data.List.Forall2

/-!
# What a line tells the rest of a document

A scan takes note of declared users, index refreshes and package installs, and the block goes in
front of a line that copies files. Every other line matters to itself only: it may be replaced by
another such line, and all that is done elsewhere in the document stays the same.
-/
namespace Hardening

namespace Instruction

/-- The beginnings that matter to other lines. A floating base image is not among them. -/
def notedLeads : List String :=
  ["RUN groupadd", "RUN addgroup", "RUN adduser", "RUN apt-get update", "RUN apt-get install",
    "COPY"]

/-- The line does not matter to other lines. -/
def Unnoted (line : String) : Prop :=
  ∀ lead ∈ notedLeads, Text.leads lead line = false

instance : DecidablePred Unnoted := fun line =>
  inferInstanceAs (Decidable (∀ lead ∈ notedLeads, Text.leads lead line = false))

namespace Unnoted

variable {line : String} (unnoted : Unnoted line)

include unnoted

theorem declaresUser_eq_false : declaresUser line = false := by
  have noted : ∀ lead ∈ userCreationLeads, lead ∈ notedLeads := by decide
  rw [Bool.eq_false_iff, Ne, declaresUser_iff]
  rintro ⟨lead, own, begins⟩
  rw [unnoted lead (noted lead own)] at begins
  cases begins

theorem refreshesIndex_eq_false : refreshesIndex line = false :=
  unnoted indexRefreshLead (by decide)

theorem installsPackages_eq_false : installsPackages line = false :=
  unnoted packageInstallLead (by decide)

theorem copiesFiles_eq_false : copiesFiles line = false :=
  unnoted copyLead (by decide)

theorem after_eq (state : ScanState) : state.after line = state := by
  simp [ScanState.after, unnoted.declaresUser_eq_false, unnoted.refreshesIndex_eq_false,
    unnoted.installsPackages_eq_false]

end Unnoted

/-- The lines are the same, or neither of them matters to other lines. -/
def Alike (line other : String) : Prop :=
  line = other ∨ (Unnoted line ∧ Unnoted other)

instance (line other : String) : Decidable (Alike line other) :=
  inferInstanceAs (Decidable (line = other ∨ (Unnoted line ∧ Unnoted other)))

namespace Alike

variable {line other : String} (alike : Alike line other)

include alike

theorem after_eq (state : ScanState) : state.after line = state.after other := by
  rcases alike with rfl | ⟨unnoted, unnotedToo⟩
  · rfl
  · rw [unnoted.after_eq, unnotedToo.after_eq]

theorem copiesFiles_eq : copiesFiles line = copiesFiles other := by
  rcases alike with rfl | ⟨unnoted, unnotedToo⟩
  · rfl
  · rw [unnoted.copiesFiles_eq_false, unnotedToo.copiesFiles_eq_false]

end Alike

end Instruction

section Alike

variable {lines others : List String} (alike : List.Forall₂ Instruction.Alike lines others)

include alike

/-- Documents that are alike leave a scan with the same memory, whatever their other lines say. -/
theorem ScanState.afterAll_eq_of_alike (state : ScanState) :
    state.afterAll lines = state.afterAll others := by
  induction alike generalizing state with
  | nil => rfl
  | cons first _ ih => rw [afterAll_cons, afterAll_cons, first.after_eq state, ih]

theorem any_declaresUser_eq_of_alike :
    lines.any Instruction.declaresUser = others.any Instruction.declaresUser := by
  -- This is what the scan remembers of users from its first state on.
  have remembered :=
    congrArg ScanState.userDeclared (ScanState.afterAll_eq_of_alike alike .initial)
  rwa [ScanState.userDeclared_afterAll, ScanState.userDeclared_afterAll] at remembered

theorem insertionPoint_eq_of_alike :
    UserBlock.insertionPoint lines = UserBlock.insertionPoint others := by
  unfold UserBlock.insertionPoint
  induction alike with
  | nil => rfl
  | cons first _ ih => rw [List.findIdx_cons, List.findIdx_cons, first.copiesFiles_eq, ih]

/-- A line that both documents have is emitted as the same text in both. -/
theorem getElem?_scanTexts_eq_of_alike (config : Config) (state : ScanState) {i : Nat}
    (shared : lines[i]? = others[i]?) :
    (scanTexts config lines state)[i]? = (scanTexts config others state)[i]? := by
  rw [getElem?_scanTexts, getElem?_scanTexts, shared,
    ScanState.afterAll_eq_of_alike (List.forall₂_take i alike) state]

/-- Among the lines that both documents have, the scans report the same changes. -/
theorem filter_scanChanges_eq_of_alike (config : Config) (picks : Nat → Bool) {number : Nat}
    (shared : ∀ i, picks (number + i) = true → lines[i]? = others[i]?) (state : ScanState) :
    (scanChanges config number lines state).filter (picks ·.line) =
      (scanChanges config number others state).filter (picks ·.line) := by
  induction alike generalizing number state with
  | nil => rfl
  | @cons line other lines others first _ ih =>
    have later : ∀ i, picks (number + 1 + i) = true → lines[i]? = others[i]? := by
      intro i picked
      have behind := shared (i + 1) (by rwa [Nat.add_comm i, ← Nat.add_assoc])
      simpa using behind
    have here : ((ruleFor line state).toList.map
          (Change.mk · number line (emitted config line state))).filter (picks ·.line) =
        ((ruleFor other state).toList.map
          (Change.mk · number other (emitted config other state))).filter (picks ·.line) := by
      by_cases picked : picks number = true
      · have same : line = other := by simpa using shared 0 picked
        rw [same]
      · -- All changes of the first line have its number, which is not picked.
        simp [List.filter_map, Function.comp_def, picked]
    rw [scanChanges_cons, scanChanges_cons, List.filter_append, List.filter_append, here,
      first.after_eq state, ih later (state.after other)]

end Alike

/-- Two documents that differ only in lines which do not matter to others, floating base images
among them, are treated alike elsewhere: the same is said of declared users, of the block and of the
numbers of lines, and each line that both have is emitted as the same text and reported by the same
change. -/
theorem harden_alike (config : Config) {content other : String}
    (alike : List.Forall₂ Instruction.Alike (Document.ofText content).lines
      (Document.ofText other).lines) :
    let lines := (Document.ofText content).lines
    let others := (Document.ofText other).lines
    let scanned := scanTexts config lines .initial
    let rescanned := scanTexts config others .initial
    let hardened := harden config content
    let another := harden config other
    let shared (change : Change) : Bool := lines[change.line - 1]? = others[change.line - 1]?
    hardened.report.userDeclared = another.report.userDeclared ∧
    hardened.report.userBlockAt = another.report.userBlockAt ∧
    hardened.report.inputLines = another.report.inputLines ∧
    hardened.report.outputLines = another.report.outputLines ∧
    hardened.content = Document.joinLines
      (if hardened.report.userDeclared then scanned else UserBlock.insert config scanned) ∧
    another.content = Document.joinLines
      (if another.report.userDeclared then rescanned else UserBlock.insert config rescanned) ∧
    (∀ i : Nat, lines[i]? = others[i]? → scanned[i]? = rescanned[i]?) ∧
    hardened.report.rewrites.filter shared = another.report.rewrites.filter shared ∧
    hardened.report.insertions = another.report.insertions := by
  intro lines others scanned rescanned hardened another shared
  have length : lines.length = others.length := alike.length_eq
  have declares := any_declaresUser_eq_of_alike alike
  have point := insertionPoint_eq_of_alike alike
  have declared : hardened.report.userDeclared = another.report.userDeclared := by
    rw [userDeclared_harden, userDeclared_harden, declares]
  have place : hardened.report.userBlockAt = another.report.userBlockAt := by
    rw [userBlockAt_harden, userBlockAt_harden, declares, point]
  have read : hardened.report.inputLines = another.report.inputLines := by
    rw [inputLines_harden, inputLines_harden]
    exact length
  have written : hardened.report.outputLines = another.report.outputLines := by
    rw [outputLines_harden, outputLines_harden, read, declared]
  have inserted : hardened.report.insertions = another.report.insertions := by
    rw [insertions_harden, insertions_harden, declares, point]
  have reported :
      hardened.report.rewrites.filter shared = another.report.rewrites.filter shared := by
    rw [rewrites_harden, rewrites_harden]
    apply filter_scanChanges_eq_of_alike alike config
      fun number => lines[number - 1]? = others[number - 1]?
    intro i picked
    -- Changes count lines from one on, look-ups from zero on.
    rw [Nat.add_sub_cancel_left] at picked
    exact of_decide_eq_true picked
  exact ⟨declared, place, read, written, content_harden config content,
    content_harden config other,
    fun i same => getElem?_scanTexts_eq_of_alike alike config .initial same, reported, inserted⟩

/-- A base that floats in one document only, and a comment, touch neither cleanup nor block. -/
theorem harden_alike_comment :
    let content := "FROM node:latest\nRUN apt-get update\n# git\nRUN apt-get install git\nCOPY . /"
    let other := "FROM debian:12\nRUN apt-get update\nUSER root\nRUN apt-get install git\nCOPY . /"
    List.Forall₂ Instruction.Alike (Document.ofText content).lines (Document.ofText other).lines ∧
      (harden .stock content).report.userBlockAt = (harden .stock other).report.userBlockAt ∧
      (scanTexts .stock (Document.ofText content).lines .initial)[3]? =
        (scanTexts .stock (Document.ofText other).lines .initial)[3]? := by
  intro content other
  have read : (Document.ofText content).lines = ["FROM node:latest", "RUN apt-get update",
      "# git", "RUN apt-get install git", "COPY . /"] := by decide +kernel
  have reread : (Document.ofText other).lines = ["FROM debian:12", "RUN apt-get update",
      "USER root", "RUN apt-get install git", "COPY . /"] := by decide +kernel
  have alike : List.Forall₂ Instruction.Alike (Document.ofText content).lines
      (Document.ofText other).lines := by
    rw [read, reread]
    decide +kernel
  have install : (Document.ofText content).lines[3]? = (Document.ofText other).lines[3]? := by
    rw [read, reread]
    rfl
  obtain ⟨-, place, -, -, -, -, same, -, -⟩ := harden_alike .stock alike
  exact ⟨alike, place, same 3 install⟩

end Hardening

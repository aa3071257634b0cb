import Hardening.Harden
import Hardening.Proofs.Classification

/-!
# What a scan knows in front of a line

The two facts that a scan remembers are read off the lines that it has seen: whether one of them
declares a user, and what the last one about packages does. With these facts each line is emitted
and reported on its own.
-/
namespace Hardening

namespace ScanState

/-- What the scan remembers after a list of lines. -/
def afterAll (state : ScanState) (lines : List String) : ScanState :=
  lines.foldl after state

@[simp] theorem afterAll_nil (state : ScanState) : state.afterAll [] = state := rfl

@[simp] theorem afterAll_cons (state : ScanState) (line : String) (lines : List String) :
    state.afterAll (line :: lines) = (state.after line).afterAll lines := rfl

theorem userDeclared_afterAll (state : ScanState) (lines : List String) :
    (state.afterAll lines).userDeclared =
      (state.userDeclared || lines.any Instruction.declaresUser) := by
  induction lines generalizing state with
  | nil => simp
  | cons line lines ih => simp [ih, after, Bool.or_assoc]

end ScanState

/-- The last line about packages: a refresh of their index or an install. -/
def lastPackageLine? (lines : List String) : Option String :=
  (lines.filter fun line =>
    Text.leads "RUN apt-get update" line || Text.leads "RUN apt-get install" line).getLast?

theorem lastPackageLine?_cons (line : String) (lines : List String) :
    lastPackageLine? (line :: lines) = (lastPackageLine? lines).or
      (if Text.leads "RUN apt-get update" line || Text.leads "RUN apt-get install" line then
        some line else none) := by
  unfold lastPackageLine?
  rw [List.filter_cons]
  split
  · rw [List.getLast?_cons]
    cases List.getLast? _ <;> rfl
  · rw [Option.or_none]

/-- The install block is open when the last line about packages refreshes their index. -/
theorem ScanState.installOpen_afterAll (state : ScanState) (lines : List String) :
    (state.afterAll lines).installOpen =
      ((lastPackageLine? lines).map Instruction.refreshesIndex).getD state.installOpen := by
  induction lines generalizing state with
  | nil => rfl
  | cons line lines ih =>
    rw [afterAll_cons, ih, lastPackageLine?_cons]
    cases lastPackageLine? lines with
    | some last => rfl
    | none =>
      -- Nothing later is about packages, so the first line decides, or else the state before it.
      have about : (Text.leads "RUN apt-get update" line || Text.leads "RUN apt-get install" line) =
          (Instruction.refreshesIndex line || Instruction.installsPackages line) := rfl
      simp only [about, after, Option.map_none, Option.getD_none, Option.none_or]
      cases refreshes : Instruction.refreshesIndex line <;>
        cases installs : Instruction.installsPackages line <;>
        simp [refreshes]

section Scan

variable (config : Config)

/-- The texts that a scan emits, one for each line. -/
def scanTexts (lines : List String) (state : ScanState) : List String :=
  (scan config lines state).1.map Classified.text

/-- The changes that a scan reports, for lines that are numbered from `number` on. -/
def scanChanges (number : Nat) (lines : List String) (state : ScanState) : List Change :=
  changesFrom number lines (scan config lines state).1

theorem scan_state (lines : List String) (state : ScanState) :
    (scan config lines state).2 = state.afterAll lines := by
  induction lines generalizing state with
  | nil => rfl
  | cons line lines ih => simp [scan, classify_eq, ih]

@[simp] theorem scanTexts_nil (state : ScanState) : scanTexts config [] state = [] := rfl

@[simp] theorem scanTexts_cons (line : String) (lines : List String) (state : ScanState) :
    scanTexts config (line :: lines) state =
      emitted config line state :: scanTexts config lines (state.after line) := by
  simp [scanTexts, scan, classify_eq]

@[simp] theorem length_scanTexts (lines : List String) (state : ScanState) :
    (scanTexts config lines state).length = lines.length := by
  rw [scanTexts, List.length_map, length_scan]

@[simp] theorem scanChanges_nil (number : Nat) (state : ScanState) :
    scanChanges config number [] state = [] := by
  simp [scanChanges, changesFrom]

@[simp] theorem scanChanges_cons (number : Nat) (line : String) (lines : List String)
    (state : ScanState) :
    scanChanges config number (line :: lines) state =
      (ruleFor line state).toList.map (⟨·, number, line, emitted config line state⟩) ++
        scanChanges config (number + 1) lines (state.after line) := by
  simp [scanChanges, changesFrom, lineChanges, scan, classify_eq]

theorem scanChanges_append (number : Nat) (lines more : List String) (state : ScanState) :
    scanChanges config number (lines ++ more) state = scanChanges config number lines state ++
      scanChanges config (number + lines.length) more (state.afterAll lines) := by
  induction lines generalizing number state with
  | nil => simp
  | cons line lines ih =>
    have next : number + 1 + lines.length = number + (lines.length + 1) := by omega
    simp [ih, next]

theorem take_scanTexts (lines : List String) (state : ScanState) (n : Nat) :
    (scanTexts config lines state).take n = scanTexts config (lines.take n) state := by
  induction lines generalizing state n with
  | nil => simp
  | cons line lines ih =>
    cases n with
    | zero => rfl
    | succ n => simp [ih]

theorem drop_scanTexts (lines : List String) (state : ScanState) (n : Nat) :
    (scanTexts config lines state).drop n =
      scanTexts config (lines.drop n) (state.afterAll (lines.take n)) := by
  induction lines generalizing state n with
  | nil => simp
  | cons line lines ih =>
    cases n with
    | zero => rfl
    | succ n => simp [ih]

theorem getElem?_scanTexts (lines : List String) (state : ScanState) (i : Nat) :
    (scanTexts config lines state)[i]? =
      lines[i]?.map fun line => emitted config line (state.afterAll (lines.take i)) := by
  induction lines generalizing state i with
  | nil => rfl
  | cons line lines ih =>
    cases i with
    | zero => simp
    | succ i => simp [ih]

/-- The changes of a scan are those of its lines, each with the number of its line. -/
theorem mem_scanChanges (number : Nat) (lines : List String) (state : ScanState)
    (change : Change) :
    change ∈ scanChanges config number lines state ↔
      ∃ i line rule, lines[i]? = some line ∧
        ruleFor line (state.afterAll (lines.take i)) = some rule ∧
        change = ⟨rule, number + i, line, emitted config line (state.afterAll (lines.take i))⟩ := by
  induction lines generalizing number state with
  | nil => simp
  | cons line lines ih =>
    rw [scanChanges_cons, List.mem_append, ih]
    constructor
    · rintro (first | ⟨i, later, rule, stands, applies, rfl⟩)
      · simp only [List.mem_map, Option.mem_toList] at first
        obtain ⟨rule, applies, rfl⟩ := first
        exact ⟨0, line, rule, rfl, applies, rfl⟩
      · exact ⟨i + 1, later, rule, by simpa using stands, by simpa using applies, by simp; omega⟩
    · rintro ⟨i, other, rule, stands, applies, rfl⟩
      cases i with
      | zero =>
        left
        cases stands
        simp only [List.mem_map, Option.mem_toList]
        exact ⟨rule, applies, rfl⟩
      | succ i =>
        right
        exact ⟨i, other, rule, by simpa using stands, by simpa using applies, by simp; omega⟩

theorem line_of_mem_scanChanges {number : Nat} {lines : List String} {state : ScanState}
    {change : Change} (member : change ∈ scanChanges config number lines state) :
    number ≤ change.line ∧ change.line < number + lines.length := by
  obtain ⟨i, line, rule, stands, -, rfl⟩ := (mem_scanChanges config _ _ _ _).mp member
  have within := (List.getElem?_eq_some_iff.mp stands).1
  exact ⟨Nat.le_add_right _ _, Nat.add_lt_add_left within _⟩

end Scan

end Hardening

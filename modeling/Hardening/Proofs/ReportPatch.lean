import Hardening.Proofs.HardenOutput

/-!
# Reports as patches

The changes of a report, made to the lines of the input, give the lines of the output. What the
report does not name stays as it is and keeps its order.
-/
namespace Hardening

namespace Document

/-- A list of lines may be joined in advance and stand for one line. -/
theorem joinLines_splice (front back : List String) {block : List String} (some : block ≠ []) :
    joinLines (front ++ joinLines block :: back) = joinLines (front ++ block ++ back) := by
  have tail : joinLines (joinLines block :: back) = joinLines (block ++ back) := by
    unfold joinLines
    by_cases last : back = []
    · simp [last]
    · rw [String.intercalate_cons_of_ne_nil last, String.intercalate_append_of_ne_nil some last]
  by_cases first : front = []
  · simp [first, tail]
  · have filled : block ++ back ≠ [] := by simp [some]
    unfold joinLines at tail ⊢
    rw [List.append_assoc, String.intercalate_append_of_ne_nil first (List.cons_ne_nil _ _), tail,
      String.intercalate_append_of_ne_nil first filled]

end Document

/-- The lines with a change made to them. A rewrite replaces the entry it names; an insertion makes
its text one entry, in front of the entry that stands at its place. -/
def Change.applyTo (change : Change) (lines : List String) : List String :=
  match change.rule with
  | .pinBaseImage | .cleanPackageCache => lines.set (change.line - 1) change.after
  | .insertNonRootUser =>
    lines.take (change.line - 1) ++ change.after :: lines.drop (change.line - 1)

namespace Report

/-- The lines with all changes made to them: first the rewrites, then the insertions. -/
def patch (report : Report) (lines : List String) : List String :=
  (report.rewrites ++ report.insertions).foldl (fun lines change => change.applyTo lines) lines

/-- Where the entry with the given index stands once the insertions have been made. -/
def place (report : Report) (i : Nat) : Nat :=
  i + report.insertions.countP (·.line ≤ i + 1)

end Report

private theorem applyTo_set {change : Change} (rewrite : change.rule ≠ .insertNonRootUser)
    (lines : List String) : change.applyTo lines = lines.set (change.line - 1) change.after := by
  cases h : change.rule <;> simp_all [Change.applyTo]

/-- Making the changes of a scan one after the other gives its texts. -/
theorem foldl_applyTo_scanChanges (config : Config) (done lines : List String)
    (state : ScanState) :
    (scanChanges config (done.length + 1) lines state).foldl
        (fun lines change => change.applyTo lines) (done ++ lines) =
      done ++ scanTexts config lines state := by
  -- The lines in front are done: the changes of one line do not reach the others, and the line
  -- joins the done ones.
  induction lines generalizing done state with
  | nil => simp
  | cons line lines ih =>
    rw [scanChanges_cons, scanTexts_cons, List.foldl_append]
    have first : ((ruleFor line state).toList.map
          (⟨·, done.length + 1, line, emitted config line state⟩)).foldl
          (fun lines change => Change.applyTo change lines) (done ++ line :: lines) =
        (done ++ [emitted config line state]) ++ lines := by
      cases applies : ruleFor line state with
      | none => simp [emitted_of_unchanged applies]
      | some rule =>
        have rewrite : rule ≠ .insertNonRootUser := by
          rintro rfl
          exact ruleFor_ne_insertNonRootUser line state applies
        simp [applyTo_set, rewrite]
    rw [first]
    have later := ih (done ++ [emitted config line state]) (state.after line)
    rw [List.length_append, List.length_singleton] at later
    rw [later, List.append_assoc]
    rfl

section Harden

variable (config : Config) (content : String)

theorem patch_harden : (harden config content).report.patch (Document.ofText content).lines =
    if (Document.ofText content).lines.any Instruction.declaresUser then
      scanTexts config (Document.ofText content).lines .initial
    else
      (scanTexts config (Document.ofText content).lines .initial).take
          (UserBlock.insertionPoint (Document.ofText content).lines) ++
        Document.joinLines (UserBlock.lines config) ::
          (scanTexts config (Document.ofText content).lines .initial).drop
            (UserBlock.insertionPoint (Document.ofText content).lines) := by
  have scanned : (scanChanges config 1 (Document.ofText content).lines .initial).foldl
      (fun lines change => change.applyTo lines) (Document.ofText content).lines =
        scanTexts config (Document.ofText content).lines .initial :=
    foldl_applyTo_scanChanges config [] _ .initial
  rw [Report.patch, List.foldl_append, rewrites_harden, scanned, insertions_harden]
  split
  · rfl
  · rfl

private theorem getElem?_splice {lines : List String} {point : Nat} (within : point ≤ lines.length)
    (entry : String) (i : Nat) :
    (lines.take point ++ entry :: lines.drop point)[
        i + if point + 1 ≤ i + 1 then 1 else 0]? = lines[i]? := by
  have front : (lines.take point).length = point := List.length_take_of_le within
  by_cases behind : point ≤ i
  · rw [if_pos (by omega), List.getElem?_append_right (by omega), front,
      show i + 1 - point = (i - point) + 1 by omega, List.getElem?_cons_succ, List.getElem?_drop,
      Nat.add_sub_cancel' behind]
  · rw [if_neg (by omega), Nat.add_zero, List.getElem?_append_left (by omega),
      List.getElem?_take_of_lt (by omega)]

theorem getElem?_patch_harden (i : Nat) :
    ((harden config content).report.patch (Document.ofText content).lines)[
        (harden config content).report.place i]? =
      (scanTexts config (Document.ofText content).lines .initial)[i]? := by
  rw [patch_harden, Report.place, insertions_harden]
  split
  · rfl
  · have within : UserBlock.insertionPoint (Document.ofText content).lines ≤
        (scanTexts config (Document.ofText content).lines .initial).length := by
      rw [length_scanTexts]
      exact UserBlock.insertionPoint_le _
    simpa [List.countP_singleton] using getElem?_splice within _ i

theorem joinLines_patch_harden :
    Document.joinLines ((harden config content).report.patch (Document.ofText content).lines) =
      (harden config content).content := by
  rw [patch_harden]
  split
  next declared => rw [harden_of_declared config declared]
  next undeclared =>
    have block : UserBlock.lines config ≠ [] := List.cons_ne_nil _ _
    rw [Document.joinLines_splice _ _ block,
      harden_of_undeclared config (Bool.eq_false_iff.mpr undeclared), UserBlock.insert,
      insertionPoint_scanTexts]

theorem length_patch_harden :
    ((harden config content).report.patch (Document.ofText content).lines).length =
      (Document.ofText content).lines.length + (harden config content).report.insertions.length := by
  have point := UserBlock.insertionPoint_le (Document.ofText content).lines
  rw [patch_harden, insertions_harden]
  split
  · exact length_scanTexts config _ .initial
  · simp only [List.length_append, List.length_cons, List.length_take, List.length_drop,
      length_scanTexts, List.length_nil]
    omega

/-- A rewrite quotes the input entry that it names, and its text stands at the place of that. -/
theorem rewrite_harden {change : Change}
    (member : change ∈ (harden config content).report.rewrites) :
    0 < change.line ∧ (Document.ofText content).lines[change.line - 1]? = some change.before ∧
      ((harden config content).report.patch (Document.ofText content).lines)[
        (harden config content).report.place (change.line - 1)]? = some change.after := by
  rw [rewrites_harden, mem_scanChanges] at member
  obtain ⟨i, line, rule, stands, -, rfl⟩ := member
  have index : 1 + i - 1 = i := Nat.add_sub_cancel_left 1 i
  refine ⟨Nat.lt_of_lt_of_le Nat.one_pos (Nat.le_add_right 1 i), ?_, ?_⟩
  · rw [index, stands]
  · rw [index, getElem?_patch_harden, getElem?_scanTexts, stands]
    rfl

theorem insertion_harden {change : Change}
    (member : change ∈ (harden config content).report.insertions) :
    0 < change.line ∧ change.line ≤ (Document.ofText content).lines.length + 1 ∧
      ((harden config content).report.patch (Document.ofText content).lines)[change.line - 1]? =
        some change.after := by
  have point := UserBlock.insertionPoint_le (Document.ofText content).lines
  have front : ((scanTexts config (Document.ofText content).lines .initial).take
      (UserBlock.insertionPoint (Document.ofText content).lines)).length =
        UserBlock.insertionPoint (Document.ofText content).lines := by
    rw [List.length_take, length_scanTexts, Nat.min_eq_left point]
  rw [insertions_harden] at member
  split at member
  · cases member
  next undeclared =>
    rw [List.mem_singleton.mp member]
    refine ⟨Nat.succ_pos _, Nat.succ_le_succ point, ?_⟩
    rw [patch_harden, if_neg undeclared, Nat.add_sub_cancel,
      List.getElem?_append_right (Nat.le_of_eq front), front, Nat.sub_self]
    rfl

theorem getElem?_patch_harden_of_unnamed {i : Nat}
    (unnamed : ∀ change ∈ (harden config content).report.rewrites, change.line ≠ i + 1) :
    ((harden config content).report.patch (Document.ofText content).lines)[
        (harden config content).report.place i]? = (Document.ofText content).lines[i]? := by
  rw [getElem?_patch_harden, getElem?_scanTexts_of_unnamed config content unnamed]

end Harden

theorem Report.place_lt_place (report : Report) {i j : Nat} (before : i < j) :
    report.place i < report.place j := by
  have fewer : report.insertions.countP (·.line ≤ i + 1) ≤
      report.insertions.countP (·.line ≤ j + 1) := by
    apply List.countP_mono_left
    intro insertion _ early
    simp only [decide_eq_true_eq] at early ⊢
    omega
  unfold place
  omega

/-- The report is an exact patch: its rewrites name entries of the input and quote them, it inserts
one entry at most, and the patched lines, joined, are the output. Each entry that no rewrite names
stands unchanged at its place, and none is lost, duplicated or moved past another. -/
theorem harden_patch (config : Config) (content : String) :
    let lines := (Document.ofText content).lines
    let report := (harden config content).report
    let patched := report.patch lines
    Document.joinLines patched = (harden config content).content ∧
    (∀ change ∈ report.rewrites, 0 < change.line ∧
      lines[change.line - 1]? = some change.before ∧
      patched[report.place (change.line - 1)]? = some change.after) ∧
    (∀ change ∈ report.insertions, 0 < change.line ∧ change.line ≤ lines.length + 1 ∧
      patched[change.line - 1]? = some change.after) ∧
    report.insertions.length ≤ 1 ∧
    patched.length = lines.length + report.insertions.length ∧
    (∀ i, (∀ change ∈ report.rewrites, change.line ≠ i + 1) →
      patched[report.place i]? = lines[i]?) ∧
    (∀ i j, i < j → report.place i < report.place j) := by
  intro lines report patched
  have few : report.insertions.length ≤ 1 := by
    rw [insertions_harden]
    split <;> simp
  exact ⟨joinLines_patch_harden config content, fun change => rewrite_harden config content,
    fun change => insertion_harden config content, few, length_patch_harden config content,
    fun i => getElem?_patch_harden_of_unnamed config content, fun i j => report.place_lt_place⟩

end Hardening

import Hardening.Proofs.ScanEvents

/-!
# What the rules recognise in their own output

If the cleanup commands have no line feed, the first physical line of an emitted entry begins as the
input line did, and all further ones begin with the indentation of a chained command, which no rule
recognises. So a scan of the output meets the same events as the scan of the input.
-/
namespace Hardening

namespace Instruction

theorem inert_of_lineStart {line : String} (chained : Text.leads Config.lineStart line = true) :
    Inert line :=
  inert_of_apart chained (by decide)

theorem Inert.find?_eq_none {line : String} (inert : Inert line) :
    BaseImage.Floating.find? line = none := by
  cases found : BaseImage.Floating.find? line with
  | none => rfl
  | some parts =>
    have begins := BaseImage.Floating.leads_of_find? found
    rw [inert BaseImage.fromKeyword (by decide)] at begins
    cases begins

end Instruction

theorem UserBlock.find?_eq_none (config : Config) :
    ∀ line ∈ UserBlock.lines config, BaseImage.Floating.find? line = none := by
  intro line member
  rcases List.mem_cons.mp member with rfl | second
  · have declares : LineRule.noteUser.recognises (creation config) = true :=
      declaresUser_creation config
    have other : LineRule.pinBase.recognises (creation config) = false :=
      LineRule.recognises_unique declares (by decide)
    simpa [LineRule.recognises] using other
  · rw [List.mem_singleton.mp second]
    exact (inert_switch config).find?_eq_none

/-- The lines of a chain of commands without line feeds: one for each command. -/
theorem lines_append_chained {front : String} (single : '\n' ∉ front.toList) {commands : List String}
    (singles : ∀ command ∈ commands, '\n' ∉ command.toList) :
    ∃ more back, (Document.ofText (front ++ Config.chained commands)).lines =
        (front ++ more) :: back ∧
      ∀ line ∈ back, Text.leads Config.lineStart line = true := by
  induction commands generalizing front with
  | nil => exact ⟨"", [], by simpa using Document.lines_ofText_of_single single, nofun⟩
  | cons command commands ih =>
    have start : '\n' ∉ Config.lineStart.toList := by decide
    have close : '\n' ∉ Config.lineEnd.toList := by decide
    obtain ⟨more, back, lines, chained⟩ :=
      ih (Text.single_append start (singles command List.mem_cons_self))
        fun other member => singles other (List.mem_cons_of_mem _ member)
    refine ⟨Config.lineEnd, (Config.lineStart ++ command ++ more) :: back, ?_, ?_⟩
    · rw [Config.append_chained_cons, Document.lines_ofText_append, lines,
        Document.lines_ofText_of_single (Text.single_append single close)]
      rfl
    · intro line member
      rcases List.mem_cons.mp member with rfl | later
      · exact (Text.leads_iff _ _).mpr ⟨command ++ more, String.append_assoc⟩
      · exact chained line later

section Accepted

variable {config : Config} (accepted : config.Accepted)
  (singles : ∀ command ∈ config.packageCleanup, '\n' ∉ command.toList)

include accepted singles

/-- The physical lines of an emitted entry: the first begins as the input line, the others are
inert, and none floats. -/
theorem lines_emitted {line : String} (single : '\n' ∉ line.toList) (state : ScanState) :
    ∃ first back, (Document.ofText (emitted config line state)).lines = first :: back ∧
      (∀ lead ∈ Instruction.triggerLeads, Text.leads lead first = Text.leads lead line) ∧
      BaseImage.Floating.find? first = none ∧ ∀ other ∈ back, Instruction.Inert other := by
  by_cases cleanup : ruleFor line state = some .cleanPackageCache
  · obtain ⟨-, installs⟩ := (ruleFor_eq_cleanPackageCache_iff line state).mp cleanup
    obtain ⟨more, back, lines, chained⟩ := lines_append_chained single singles
    have still := Text.leads_append _ _ more installs
    rw [emitted_of_cleanPackageCache cleanup, Config.cleanupSuffix_eq]
    exact ⟨line ++ more, back, lines, Instruction.leads_congr (by decide) installs still,
      BaseImage.Floating.find?_of_installs still,
      fun other member => Instruction.inert_of_lineStart (chained other member)⟩
  · have one : '\n' ∉ (emitted config line state).toList :=
      single_emitted accepted single fun due => absurd due cleanup
    exact ⟨_, [], Document.lines_ofText_of_single one, leads_emitted config line state,
      find?_emitted accepted line state, nofun⟩

variable {lines : List String} (single : ∀ line ∈ lines, '\n' ∉ line.toList) (state : ScanState)

include single

theorem find?_scanLines :
    ∀ line ∈ scanLines config lines state, BaseImage.Floating.find? line = none := by
  induction lines generalizing state with
  | nil => nofun
  | cons line lines ih =>
    obtain ⟨first, back, own, -, settled, inert⟩ :=
      lines_emitted accepted singles (single line List.mem_cons_self) state
    intro physical member
    rw [scanLines_cons, own] at member
    rcases List.mem_append.mp member with here | later
    · rcases List.mem_cons.mp here with rfl | behind
      · exact settled
      · exact (inert physical behind).find?_eq_none
    · exact ih (fun other within => single other (List.mem_cons_of_mem _ within)) _ physical later

theorem scanEvents_scanLines : scanEvents (scanLines config lines state) = scanEvents lines := by
  induction lines generalizing state with
  | nil => rfl
  | cons line lines ih =>
    obtain ⟨first, back, own, same, -, inert⟩ :=
      lines_emitted accepted singles (single line List.mem_cons_self) state
    have silent : scanEvents back = [] := by
      rw [scanEvents, List.filterMap_eq_nil_iff]
      exact fun other member => ScanEvent.of?_of_inert (inert other member)
    have entry : scanEvents (first :: back) = scanEvents [line] := by
      rw [← List.singleton_append, scanEvents_append, silent, List.append_nil, scanEvents,
        scanEvents, List.filterMap_cons, List.filterMap_cons, ScanEvent.of?_congr same]
    rw [scanLines_cons, own, scanEvents_append, entry,
      ih (fun other within => single other (List.mem_cons_of_mem _ within)) (state.after line),
      ← scanEvents_append, List.singleton_append]

end Accepted

end Hardening

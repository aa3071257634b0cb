import Hardening.Proofs.OutputSize

/-!
# The events of a scan

Of all lines a scan takes note only of declared users, index refreshes and package installs. The
order of these events decides whether a user is declared and how many cleanups are reported; other
lines in between make no difference.
-/
namespace Hardening

namespace Instruction

/-- The line has none of the beginnings that hardening looks for. -/
def Inert (line : String) : Prop :=
  ∀ lead ∈ triggerLeads, Text.leads lead line = false

theorem inert_of_apart {start line : String} (begins : Text.leads start line = true)
    (apart : ∀ lead ∈ triggerLeads, Text.leads lead start = false ∧ Text.leads start lead = false) :
    Inert line := by
  intro lead trigger
  obtain ⟨shorter, longer⟩ := apart lead trigger
  rw [Bool.eq_false_iff]
  intro too
  -- Of two beginnings of one line the shorter begins the longer.
  rcases Text.leads_comparable too begins with h | h
  · rw [shorter] at h
    cases h
  · rw [longer] at h
    cases h

theorem declaresUser_congr {line text : String}
    (same : ∀ lead ∈ triggerLeads, Text.leads lead text = Text.leads lead line) :
    declaresUser text = declaresUser line := by
  apply Bool.eq_iff_iff.mpr
  rw [declaresUser_iff, declaresUser_iff]
  have trigger (lead : String) (own : lead ∈ userCreationLeads) : lead ∈ triggerLeads :=
    List.mem_append_right _ own
  constructor
  · rintro ⟨lead, own, begins⟩
    exact ⟨lead, own, (same lead (trigger lead own)).symm.trans begins⟩
  · rintro ⟨lead, own, begins⟩
    exact ⟨lead, own, (same lead (trigger lead own)).trans begins⟩

end Instruction

theorem UserBlock.declaresUser_creation (config : Config) :
    Instruction.declaresUser (creation config) = true := by
  have begins : Text.leads "RUN groupadd" (creation config) = true := by
    unfold creation
    iterate 5 apply Text.leads_append
    decide
  rw [Instruction.declaresUser_iff]
  exact ⟨_, List.mem_cons_self, begins⟩

theorem UserBlock.inert_switch (config : Config) : Instruction.Inert (switch config) :=
  Instruction.inert_of_apart ((Text.leads_iff "USER " _).mpr ⟨config.user, rfl⟩) (by decide)

/-- What the scan takes note of. -/
inductive ScanEvent where
  | userDeclared
  | indexRefreshed
  | packagesInstalled
  deriving Repr, DecidableEq

def ScanEvent.of? (line : String) : Option ScanEvent :=
  if Instruction.declaresUser line then some userDeclared
  else if Instruction.refreshesIndex line then some indexRefreshed
  else if Instruction.installsPackages line then some packagesInstalled
  else none

/-- What the scan takes note of in a list of lines, in their order. -/
def scanEvents (lines : List String) : List ScanEvent :=
  lines.filterMap ScanEvent.of?

theorem scanEvents_append (front back : List String) :
    scanEvents (front ++ back) = scanEvents front ++ scanEvents back :=
  List.filterMap_append

namespace ScanEvent

theorem of?_congr {line text : String}
    (same : ∀ lead ∈ Instruction.triggerLeads, Text.leads lead text = Text.leads lead line) :
    of? text = of? line := by
  have refreshes : Instruction.refreshesIndex text = Instruction.refreshesIndex line :=
    same Instruction.indexRefreshLead (by decide)
  have installs : Instruction.installsPackages text = Instruction.installsPackages line :=
    same Instruction.packageInstallLead (by decide)
  rw [of?, of?, Instruction.declaresUser_congr same, refreshes, installs]

theorem of?_eq_userDeclared_iff (line : String) :
    of? line = some userDeclared ↔ Instruction.declaresUser line = true := by
  unfold of?
  split
  next declares => simp [declares]
  next silent => split <;> simp_all

theorem of?_of_inert {line : String} (inert : Instruction.Inert line) : of? line = none := by
  have undeclared : Instruction.declaresUser line ≠ true := by
    rw [Ne, Instruction.declaresUser_iff]
    rintro ⟨lead, own, begins⟩
    rw [inert lead (List.mem_append_right _ own)] at begins
    cases begins
  have closed : Instruction.refreshesIndex line = false := inert _ (by decide)
  have idle : Instruction.installsPackages line = false := inert _ (by decide)
  simp [of?, undeclared, closed, idle]

theorem scanEvents_userBlock (config : Config) :
    scanEvents (UserBlock.lines config) = [userDeclared] := by
  have first : of? (UserBlock.creation config) = some userDeclared :=
    (of?_eq_userDeclared_iff _).mpr (UserBlock.declaresUser_creation config)
  have second : of? (UserBlock.switch config) = none :=
    of?_of_inert (UserBlock.inert_switch config)
  simp [scanEvents, UserBlock.lines, first, second]

/-- How many cleanups the events call for, if the install block is open or closed before them. -/
def cleanups : Bool → List ScanEvent → Nat
  | _, [] => 0
  | opened, userDeclared :: events => cleanups opened events
  | _, indexRefreshed :: events => cleanups true events
  | opened, packagesInstalled :: events => opened.toNat + cleanups false events

theorem cleanups_filter (opened : Bool) (events : List ScanEvent) :
    cleanups opened (events.filter (· ≠ userDeclared)) = cleanups opened events := by
  induction events generalizing opened with
  | nil => rfl
  | cons event events ih =>
    cases event with
    | userDeclared => simpa [cleanups] using ih opened
    | indexRefreshed => simpa [cleanups] using ih true
    | packagesInstalled => simpa [cleanups] using ih false

end ScanEvent

theorem any_declaresUser_eq (lines : List String) :
    lines.any Instruction.declaresUser = decide (ScanEvent.userDeclared ∈ scanEvents lines) := by
  apply Bool.eq_iff_iff.mpr
  simp [scanEvents, ScanEvent.of?_eq_userDeclared_iff]

private theorem cleanupCount_line (config : Config) (number : Nat) (line : String)
    (state : ScanState) :
    cleanupCount ((ruleFor line state).toList.map
        (⟨·, number, line, emitted config line state⟩)) =
      (state.installOpen && Instruction.installsPackages line).toNat := by
  have due := ruleFor_eq_cleanPackageCache_iff line state
  rw [← Bool.and_eq_true] at due
  by_cases cleanup : ruleFor line state = some .cleanPackageCache
  · rw [due.mp cleanup, cleanup]
    simp [cleanupCount]
  · rw [Bool.eq_false_iff.mpr fun open_install => cleanup (due.mpr open_install)]
    cases applies : ruleFor line state with
    | none => simp [cleanupCount]
    | some rule =>
      have other : rule ≠ .cleanPackageCache := by
        rintro rfl
        exact cleanup applies
      simp [cleanupCount, other]

/-- The reported cleanups are those that the events call for. -/
theorem cleanupCount_scanChanges (config : Config) (number : Nat) (lines : List String)
    (state : ScanState) : cleanupCount (scanChanges config number lines state) =
      ScanEvent.cleanups state.installOpen (scanEvents lines) := by
  induction lines generalizing number state with
  | nil => rfl
  | cons line lines ih =>
    have first := cleanupCount_line config number line state
    have later := ih (number + 1) (state.after line)
    have events : scanEvents (line :: lines) =
        (ScanEvent.of? line).toList ++ scanEvents lines := by
      rw [scanEvents, List.filterMap_cons]
      cases ScanEvent.of? line <;> rfl
    rw [scanChanges_cons, cleanupCount, List.countP_append, ← cleanupCount, ← cleanupCount, first,
      later, events]
    -- A line is of one kind only, so the event decides what becomes of the install block.
    by_cases declares : Instruction.declaresUser line = true
    · have noted : LineRule.noteUser.recognises line = true := declares
      have closed : LineRule.openInstall.recognises line = false :=
        LineRule.recognises_unique noted (by decide)
      have idle : LineRule.cleanCache.recognises line = false :=
        LineRule.recognises_unique noted (by decide)
      simp_all [LineRule.recognises, ScanEvent.of?, ScanEvent.cleanups, ScanState.after]
    · by_cases refreshes : Instruction.refreshesIndex line = true
      · have noted : LineRule.openInstall.recognises line = true := refreshes
        have idle : LineRule.cleanCache.recognises line = false :=
          LineRule.recognises_unique noted (by decide)
        simp_all [LineRule.recognises, ScanEvent.of?, ScanEvent.cleanups, ScanState.after]
      · cases installs : Instruction.installsPackages line <;>
          simp_all [ScanEvent.of?, ScanEvent.cleanups, ScanState.after]

end Hardening

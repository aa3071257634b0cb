import Hardening.Proofs.LineTriggers

/-!
# What classification makes of a line

One rule at most acts on a line. `classify_eq` says which text is emitted, which change is reported
and what the scan remembers; the rest of the theory rests on this equation. No rewrite brings a line
into or out of a trigger, and no configured text decides what is changed.
-/
namespace Hardening

open BaseImage (Floating fromKeyword)

theorem BaseImage.Floating.find?_of_installs {line : String}
    (installs : Instruction.installsPackages line = true) : find? line = none := by
  have own : Instruction.packageInstallLead ∈ LineRule.cleanCache.leads := List.mem_cons_self
  have other : LineRule.pinBase.recognises line = false :=
    LineRule.not_recognises_of_leads own installs (by decide)
  simpa [LineRule.recognises] using other

/-- The rule that changes a line. It does not depend on any configured text. -/
def ruleFor (line : String) (state : ScanState) : Option Rule :=
  if (Floating.find? line).isSome then some .pinBaseImage
  else if state.installOpen && Instruction.installsPackages line then some .cleanPackageCache
  else none

/-- The text that a line is emitted as. -/
def emitted (config : Config) (line : String) (state : ScanState) : String :=
  match Floating.find? line with
  | some parts => parts.pinned (config.tagFor parts.image)
  | none =>
    if state.installOpen && Instruction.installsPackages line then line ++ config.cleanupSuffix
    else line

/-- What the scan remembers after a line. The two facts do not depend on each other. -/
def ScanState.after (state : ScanState) (line : String) : ScanState where
  userDeclared := state.userDeclared || Instruction.declaresUser line
  installOpen :=
    Instruction.refreshesIndex line || (state.installOpen && !Instruction.installsPackages line)

/-- Classification in one equation: the text, the change and the state after a line. -/
theorem classify_eq (config : Config) (line : String) (state : ScanState) :
    classify config line state =
      (⟨emitted config line state, (ruleFor line state).toList⟩, state.after line) := by
  obtain ⟨declared, opened⟩ := state
  -- Either one rule recognises the line and the three others are out, or all four are.
  by_cases known : ∃ rule : LineRule, rule.recognises line = true
  · obtain ⟨rule, recognised⟩ := known
    obtain ⟨lead, own, begins⟩ := LineRule.leads_of_recognises recognised
    have others (other : LineRule) (differ : other ≠ rule) : other.recognises line = false :=
      LineRule.not_recognises_of_leads own begins differ
    rw [classify, classifyBy_of_recognises config true (by decide) (by cases rule <;> decide)
      recognised]
    cases rule with
    | pinBase =>
      have silent := others .noteUser (by decide)
      have closed := others .openInstall (by decide)
      have idle := others .cleanCache (by decide)
      obtain ⟨parts, found⟩ := Option.isSome_iff_exists.mp recognised
      simp_all [LineRule.recognises, LineRule.apply, emitted, ruleFor, ScanState.after]
    | noteUser =>
      have fixed := others .pinBase (by decide)
      have closed := others .openInstall (by decide)
      have idle := others .cleanCache (by decide)
      simp_all [LineRule.recognises, LineRule.apply, emitted, ruleFor, ScanState.after,
        ScanState.declareUser]
    | openInstall =>
      have fixed := others .pinBase (by decide)
      have silent := others .noteUser (by decide)
      have idle := others .cleanCache (by decide)
      simp_all [LineRule.recognises, LineRule.apply, emitted, ruleFor, ScanState.after,
        ScanState.openInstall]
    | cleanCache =>
      have fixed := others .pinBase (by decide)
      have silent := others .noteUser (by decide)
      have closed := others .openInstall (by decide)
      cases opened <;>
        simp_all [LineRule.recognises, LineRule.apply, emitted, ruleFor, ScanState.after,
          ScanState.closeInstall]
  · have unknown (rule : LineRule) : rule.recognises line = false := by
      simpa using fun recognised => known ⟨rule, recognised⟩
    have fixed := unknown .pinBase
    have silent := unknown .noteUser
    have closed := unknown .openInstall
    have idle := unknown .cleanCache
    rw [classify, classifyBy_of_idle config true fun rule _ => unknown rule]
    simp_all [LineRule.recognises, emitted, ruleFor, ScanState.after]

theorem ruleFor_eq_pinBaseImage_iff (line : String) (state : ScanState) :
    ruleFor line state = some .pinBaseImage ↔ (Floating.find? line).isSome = true := by
  unfold ruleFor
  split
  next floats => simp [floats]
  · split <;> simp_all

theorem ruleFor_eq_cleanPackageCache_iff (line : String) (state : ScanState) :
    ruleFor line state = some .cleanPackageCache ↔
      state.installOpen = true ∧ Instruction.installsPackages line = true := by
  unfold ruleFor
  split
  next floats =>
    -- A floating line begins with `FROM`, so it is no install and the right side is false too.
    have idle : Instruction.installsPackages line = true → False := by
      intro installs
      simp [Floating.find?_of_installs installs] at floats
    simpa using fun _ => idle
  · split <;> simp_all

theorem ruleFor_ne_insertNonRootUser (line : String) (state : ScanState) :
    ruleFor line state ≠ some .insertNonRootUser := by
  unfold ruleFor
  split
  · simp
  · split <;> simp

theorem emitted_of_pinBaseImage {line : String} {parts : Floating}
    (found : Floating.find? line = some parts) (config : Config) (state : ScanState) :
    emitted config line state = parts.pinned (config.tagFor parts.image) := by
  simp only [emitted, found]

theorem emitted_of_cleanPackageCache {line : String} {state : ScanState}
    (due : ruleFor line state = some .cleanPackageCache) (config : Config) :
    emitted config line state = line ++ config.cleanupSuffix := by
  obtain ⟨opened, installs⟩ := (ruleFor_eq_cleanPackageCache_iff line state).mp due
  simp [emitted, Floating.find?_of_installs installs, opened, installs]

theorem emitted_of_unchanged {line : String} {state : ScanState} (kept : ruleFor line state = none)
    (config : Config) : emitted config line state = line := by
  have fixed : Floating.find? line = none := by
    cases found : Floating.find? line with
    | none => rfl
    | some parts => simp [ruleFor, found] at kept
  have idle : (state.installOpen && Instruction.installsPackages line) = false := by
    simpa [ruleFor, fixed] using kept
  simp [emitted, fixed, idle]

/-- No rewrite brings a line into or out of a trigger, whatever texts are configured. -/
theorem leads_emitted (config : Config) (line : String) (state : ScanState) :
    ∀ lead ∈ Instruction.triggerLeads,
      Text.leads lead (emitted config line state) = Text.leads lead line := by
  unfold emitted
  split
  next parts found =>
    have trigger : fromKeyword ∈ Instruction.triggerLeads := by decide
    exact Instruction.leads_congr trigger (Floating.leads_of_find? found)
      (Floating.leads_pinned parts _)
  · split
    next due =>
      have trigger : Instruction.packageInstallLead ∈ Instruction.triggerLeads := by decide
      have installs := (Bool.and_eq_true _ _ ▸ due).2
      exact Instruction.leads_congr trigger installs (Text.leads_append _ _ _ installs)
    · exact fun _ _ => rfl

theorem copiesFiles_emitted (config : Config) (line : String) (state : ScanState) :
    Instruction.copiesFiles (emitted config line state) = Instruction.copiesFiles line :=
  leads_emitted config line state _ (by decide)

end Hardening

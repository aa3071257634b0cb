import Hardening.Proofs.FloatingGrammar
import Hardening.Scan

/-!
# What the rules recognise in a line

Every rule looks for beginnings of its own, and a line has at most one of all these beginnings. So
one rule at most recognises a line, and what becomes of the line does not depend on where this rule
stands among the others.
-/
namespace Hardening

open BaseImage (Floating fromKeyword)

namespace Instruction

/-- The beginnings that hardening looks for. -/
def triggerLeads : List String :=
  [fromKeyword, copyLead, indexRefreshLead, packageInstallLead] ++ userCreationLeads

private theorem triggerLeads_apart :
    ∀ lead ∈ triggerLeads, ∀ other ∈ triggerLeads, Text.leads lead other = true → lead = other := by
  decide

/-- A line has at most one of the beginnings. -/
theorem triggerLead_unique {lead other line : String} (trigger : lead ∈ triggerLeads)
    (another : other ∈ triggerLeads) (begins : Text.leads lead line = true)
    (too : Text.leads other line = true) : lead = other := by
  rcases Text.leads_comparable begins too with shorter | longer
  · exact triggerLeads_apart lead trigger other another shorter
  · exact (triggerLeads_apart other another lead trigger longer).symm

theorem leads_congr {lead line text : String} (trigger : lead ∈ triggerLeads)
    (before : Text.leads lead line = true) (after : Text.leads lead text = true) :
    ∀ other ∈ triggerLeads, Text.leads other text = Text.leads other line := by
  intro other another
  apply Bool.eq_iff_iff.mpr
  constructor
  · intro too
    rw [← triggerLead_unique trigger another after too, before]
  · intro too
    rw [← triggerLead_unique trigger another before too, after]

end Instruction

namespace BaseImage.Floating

theorem leads_line (parts : Floating) : Text.leads fromKeyword parts.line = true := by
  rw [Text.leads_iff]
  exact ⟨parts.gap ++ parts.image ++ latestTag ++ parts.rest, by simp [line, String.append_assoc]⟩

theorem leads_pinned (parts : Floating) (tag : String) :
    Text.leads fromKeyword (parts.pinned tag) = true := by
  rw [Text.leads_iff]
  exact ⟨parts.gap ++ parts.image ++ ":" ++ tag ++ parts.rest, by
    simp [pinned, String.append_assoc]⟩

theorem leads_of_find? {line : String} {parts : Floating} (found : find? line = some parts) :
    Text.leads fromKeyword line = true := by
  rw [← (find?_sound found).2]
  exact leads_line parts

end BaseImage.Floating

namespace LineRule

/-- The beginnings of the lines that a rule acts on. -/
def leads : LineRule → List String
  | pinBase => [fromKeyword]
  | noteUser => Instruction.userCreationLeads
  | openInstall => [Instruction.indexRefreshLead]
  | cleanCache => [Instruction.packageInstallLead]

/-- The rule recognises the line; whether it then acts may depend on the state. -/
def recognises : LineRule → String → Bool
  | pinBase, line => (Floating.find? line).isSome
  | noteUser, line => Instruction.declaresUser line
  | openInstall, line => Instruction.refreshesIndex line
  | cleanCache, line => Instruction.installsPackages line

theorem mem_triggerLeads {rule : LineRule} {lead : String} (own : lead ∈ rule.leads) :
    lead ∈ Instruction.triggerLeads := by
  revert lead
  cases rule <;> decide

private theorem leads_disjoint {rule other : LineRule} {lead : String} (own : lead ∈ rule.leads)
    (too : lead ∈ other.leads) : rule = other := by
  revert lead
  cases rule <;> cases other <;> decide

theorem leads_of_recognises {rule : LineRule} {line : String}
    (recognised : rule.recognises line = true) :
    ∃ lead ∈ rule.leads, Text.leads lead line = true := by
  cases rule with
  | pinBase =>
    obtain ⟨parts, found⟩ := Option.isSome_iff_exists.mp recognised
    exact ⟨fromKeyword, List.mem_cons_self, Floating.leads_of_find? found⟩
  | noteUser => exact (Instruction.declaresUser_iff line).mp recognised
  | openInstall => exact ⟨_, List.mem_cons_self, recognised⟩
  | cleanCache => exact ⟨_, List.mem_cons_self, recognised⟩

theorem not_recognises_of_leads {rule other : LineRule} {lead line : String}
    (own : lead ∈ rule.leads) (begins : Text.leads lead line = true) (differ : other ≠ rule) :
    other.recognises line = false := by
  rw [Bool.eq_false_iff]
  intro recognised
  obtain ⟨otherLead, theirs, too⟩ := leads_of_recognises recognised
  have same := Instruction.triggerLead_unique (mem_triggerLeads own) (mem_triggerLeads theirs)
    begins too
  exact differ (leads_disjoint theirs (same ▸ own))

/-- One rule at most recognises a line. -/
theorem recognises_unique {rule other : LineRule} {line : String}
    (recognised : rule.recognises line = true) (differ : other ≠ rule) :
    other.recognises line = false := by
  obtain ⟨lead, own, begins⟩ := leads_of_recognises recognised
  exact not_recognises_of_leads own begins differ

theorem apply_of_not_recognises {rule : LineRule} {line : String}
    (other : rule.recognises line = false) (config : Config) (state : ScanState) :
    rule.apply config line state = { text := line, state } := by
  cases rule with
  | pinBase =>
    have none : Floating.find? line = none := by simpa [recognises] using other
    simp [apply, none]
  | noteUser => simp_all [apply, recognises]
  | openInstall => simp_all [apply, recognises]
  | cleanCache => simp_all [apply, recognises]

theorem leads_apply {rule : LineRule} {lead line : String} (own : lead ∈ rule.leads)
    (begins : Text.leads lead line = true) (config : Config) (state : ScanState) :
    Text.leads lead (rule.apply config line state).text = true := by
  cases rule with
  | pinBase =>
    simp only [apply]
    cases found : Floating.find? line with
    | none => exact begins
    | some parts =>
      rw [List.mem_singleton.mp own]
      exact Floating.leads_pinned parts _
  | noteUser => exact begins
  | openInstall =>
    simp only [apply]
    split <;> exact begins
  | cleanCache =>
    simp only [apply]
    split
    · exact Text.leads_append _ _ _ begins
    · exact begins

end LineRule

section Classification

variable (config : Config) (stops : Bool)

theorem classifyBy_of_idle {rules : List LineRule} {line : String}
    (idle : ∀ rule ∈ rules, rule.recognises line = false) (state : ScanState) :
    classifyBy config stops rules line state = (⟨line, []⟩, state) := by
  induction rules with
  | nil => rfl
  | cons rule rules ih =>
    rw [classifyBy, LineRule.apply_of_not_recognises (idle rule List.mem_cons_self),
      ih fun other member => idle other (List.mem_cons_of_mem _ member)]
    simp

/-- The one rule that recognises a line decides alone what becomes of it, wherever it stands. -/
theorem classifyBy_of_recognises {rules : List LineRule} (once : rules.Nodup) {rule : LineRule}
    (member : rule ∈ rules) {line : String} (recognised : rule.recognises line = true)
    (state : ScanState) :
    classifyBy config stops rules line state =
      (⟨(rule.apply config line state).text, (rule.apply config line state).change.toList⟩,
        (rule.apply config line state).state) := by
  obtain ⟨lead, own, begins⟩ := LineRule.leads_of_recognises recognised
  induction rules with
  | nil => cases member
  | cons first rules ih =>
    obtain ⟨absent, once⟩ := List.nodup_cons.mp once
    by_cases same : first = rule
    · subst same
      -- The rules behind see the rewritten line, which begins as before.
      have idle : ∀ other ∈ rules,
          other.recognises (first.apply config line state).text = false := by
        intro other later
        exact LineRule.not_recognises_of_leads own (LineRule.leads_apply own begins config state)
          (fun equal => absent (equal ▸ later))
      rw [classifyBy, classifyBy_of_idle config stops idle]
      simp
    · have later : rule ∈ rules := (List.mem_cons.mp member).resolve_left (Ne.symm same)
      rw [classifyBy, LineRule.apply_of_not_recognises
        (LineRule.not_recognises_of_leads own begins same), ih once later]
      simp

end Classification

end Hardening

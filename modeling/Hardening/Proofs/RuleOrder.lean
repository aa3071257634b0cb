import Hardening.Proofs.Classification

/-!
# The order of the rules

A rule that acts on a line recognises it, and then no other rule recognises the line, as it was or
as it was rewritten. So the rules may look at a line in any order, and it makes no difference if the
rules behind an index refresh look at the line as well.
-/
namespace Hardening

namespace LineRule

/-- A rule that changes the text or the state, or ends the evaluation, recognises the line. -/
theorem recognises_of_acts {rule : LineRule} {config : Config} {line : String} {state : ScanState}
    (acts : rule.apply config line state ≠ { text := line, state }) :
    rule.recognises line = true := by
  cases recognised : rule.recognises line with
  | true => rfl
  | false => exact absurd (apply_of_not_recognises recognised config state) acts

/-- A line that one rule acts on is left alone by every other rule, before and after. -/
theorem apply_other_of_acts {rule other : LineRule} {config : Config} {line : String}
    {state : ScanState} (acts : rule.apply config line state ≠ { text := line, state })
    (differ : other ≠ rule) (again : ScanState) :
    other.apply config line again = { text := line, state := again } ∧
      other.apply config (rule.apply config line state).text again =
        { text := (rule.apply config line state).text, state := again } := by
  obtain ⟨lead, own, begins⟩ := leads_of_recognises (recognises_of_acts acts)
  -- The rewritten line begins as before, so it is out of the other triggers for the same reason.
  have still := leads_apply own begins config state
  constructor
  · exact apply_of_not_recognises (not_recognises_of_leads own begins differ) config again
  · exact apply_of_not_recognises (not_recognises_of_leads own still differ) config again

end LineRule

/-- Two lists of the same rules, each once, make the same of a line, and a final effect may stop the
one and not the other. -/
theorem classifyBy_eq_of_perm (config : Config) {rules others : List LineRule}
    (same : rules.Perm others) (once : rules.Nodup) (stops stopped : Bool) (line : String)
    (state : ScanState) :
    classifyBy config stops rules line state = classifyBy config stopped others line state := by
  -- No two rules recognise the same line: both lists hold the one that does, or neither has any.
  by_cases known : ∃ rule ∈ rules, LineRule.recognises rule line = true
  · obtain ⟨rule, member, recognised⟩ := known
    rw [classifyBy_of_recognises config stops once member recognised,
      classifyBy_of_recognises config stopped (same.nodup once) (same.mem_iff.mp member) recognised]
  · have idle (rule : LineRule) (member : rule ∈ rules) : rule.recognises line = false := by
      simpa using fun recognised => known ⟨rule, member, recognised⟩
    rw [classifyBy_of_idle config stops idle, classifyBy_of_idle config stopped]
    intro rule member
    exact idle rule (same.mem_iff.mpr member)

theorem length_changedBy_classify (config : Config) (line : String) (state : ScanState) :
    (classify config line state).1.changedBy.length ≤ 1 := by
  rw [classify_eq]
  exact Option.length_toList_le

/-- The rules make the same of a line in any order, whether or not an index refresh keeps the later
ones away from it: the same text, the same changes, one at most, and the same state. Where one of
them acts, no other does, on the line or on what becomes of it. -/
theorem classify_anyOrder (config : Config) {order : List LineRule}
    (every : order.Perm LineRule.inOrder) (stops : Bool) (line : String) (state : ScanState) :
    classifyBy config stops order line state = classify config line state ∧
    (classify config line state).1.changedBy.length ≤ 1 ∧
    ∀ rule other : LineRule, rule.apply config line state ≠ { text := line, state } →
      other ≠ rule → ∀ again : ScanState,
        other.apply config line again = { text := line, state := again } ∧
        other.apply config (rule.apply config line state).text again =
          { text := (rule.apply config line state).text, state := again } := by
  have once : order.Nodup := every.symm.nodup (by decide)
  refine ⟨classifyBy_eq_of_perm config every once stops true line state,
    length_changedBy_classify config line state, ?_⟩
  intro rule other acts differ again
  exact LineRule.apply_other_of_acts acts differ again

/-- A cleanup command that declares a user is taken for none, even if the rules run backwards. -/
theorem classify_anyOrder_backwards :
    let config : Config := { packageCleanup := ["true\nRUN adduser app"] }
    let order : List LineRule := [.cleanCache, .openInstall, .noteUser, .pinBase]
    order.Perm LineRule.inOrder ∧
      classifyBy config false order "RUN apt-get install curl" { installOpen := true } =
        (⟨"RUN apt-get install curl \\\n    && true\nRUN adduser app", [.cleanPackageCache]⟩,
          { userDeclared := false, installOpen := false }) := by
  intro config order
  have every : order.Perm LineRule.inOrder := by decide
  refine ⟨every, ?_⟩
  rw [(classify_anyOrder config every false _ _).1]
  decide +kernel

end Hardening

import Hardening.Config.Check
import Hardening.Proofs.Classification

/-!
# Pinning is complete and final

An accepted configuration yields tags that are single words, hold no colon and are not `latest`. A
floating line gets such a tag and does not float any more; lines that do not float keep their base.
-/
namespace Hardening

open BaseImage (Floating fromKeyword)

/-- The stock configuration passes its own check. -/
theorem Config.check_stock : stock.check = .ok () := rfl

/-- Whatever the table says about a reference, the tag is one that the check has let through. -/
theorem Config.tagFor_accepted {config : Config} (accepted : config.Accepted) (reference : String) :
    TagAccepted (config.tagFor reference) := by
  unfold tagFor BaseImage.tagFor
  cases found : config.baseImageTags.find? (·.image = BaseImage.imageName reference) with
  | none => exact accepted.default_tag
  | some rule => exact (accepted.rules rule (List.mem_of_find?_eq_some found)).2.2

theorem Config.TagAccepted.chars {tag : String} (accepted : TagAccepted tag) :
    (∀ c ∈ tag.toList, Text.isBlank c = false) ∧ ':' ∉ tag.toList ∧ tag ≠ "latest" := by
  obtain ⟨word, pinned⟩ := accepted
  simp only [isPinnedTag, Bool.and_eq_true, Bool.not_eq_true', decide_eq_true_eq] at pinned
  refine ⟨((Text.isWord_iff tag).mp word).2, ?_, pinned.2⟩
  simpa using pinned.1

/-- Whatever is emitted, its base image does not float. -/
theorem find?_emitted {config : Config} (accepted : config.Accepted) (line : String)
    (state : ScanState) : Floating.find? (emitted config line state) = none := by
  cases found : Floating.find? line with
  | some parts =>
    obtain ⟨solid, bare, pinned⟩ := (Config.tagFor_accepted accepted parts.image).chars
    rw [emitted_of_pinBaseImage found]
    exact Floating.find?_pinned (Floating.find?_sound found).1 solid bare pinned
  | none =>
    simp only [emitted, found]
    split
    next due =>
      have installs := (Bool.and_eq_true _ _ ▸ due).2
      exact Floating.find?_of_installs (Text.leads_append _ _ _ installs)
    · exact found

/-- A line that floats is emitted with the tag of its image in place of `latest`; every other line
is not pinned, and is emitted as it is if it begins with `FROM`. No emitted line floats, so none is
pinned again, in whatever state it is seen. -/
theorem classify_pinBase (config : Config) (valid : config.check = .ok ()) (line : String)
    (state : ScanState) :
    (∀ parts : Floating, parts.WellFormed →
      line = "FROM" ++ parts.gap ++ parts.image ++ ":latest" ++ parts.rest →
      (classify config line state).1 =
        { text := "FROM" ++ parts.gap ++ parts.image ++ ":" ++ config.tagFor parts.image ++
            parts.rest
          changedBy := [.pinBaseImage] }) ∧
    ((∀ parts : Floating, parts.WellFormed →
        line ≠ "FROM" ++ parts.gap ++ parts.image ++ ":latest" ++ parts.rest) →
      .pinBaseImage ∉ (classify config line state).1.changedBy ∧
      (Text.leads "FROM" line = true → (classify config line state).1.text = line)) ∧
    (∀ parts : Floating, parts.WellFormed → (classify config line state).1.text ≠
      "FROM" ++ parts.gap ++ parts.image ++ ":latest" ++ parts.rest) ∧
    Floating.find? (classify config line state).1.text = none ∧
    (∀ again : ScanState, .pinBaseImage ∉
      (classify config (classify config line state).1.text again).1.changedBy) := by
  -- No emitted line floats, whichever rule it was emitted by: the last three parts follow from it.
  have settled := find?_emitted ((Config.check_eq_ok_iff config).mp valid) line state
  simp only [classify_eq, Option.mem_toList]
  refine ⟨?_, ?_, ?_, settled, ?_⟩
  · intro parts formed written
    have found : Floating.find? line = some parts :=
      (Floating.find?_eq_some_iff line parts).mpr ⟨formed, written.symm⟩
    rw [emitted_of_pinBaseImage found]
    simp [ruleFor, found, Floating.pinned, fromKeyword]
  · intro unwritten
    have fixed : Floating.find? line = none :=
      (Floating.find?_eq_none_iff line).mpr fun parts formed written =>
        unwritten parts formed written.symm
    refine ⟨by simp [ruleFor_eq_pinBaseImage_iff, fixed], ?_⟩
    intro begins
    have own : "FROM" ∈ LineRule.pinBase.leads := List.mem_cons_self
    have idle : LineRule.cleanCache.recognises line = false :=
      LineRule.not_recognises_of_leads own begins (by decide)
    have kept : Instruction.installsPackages line = false := idle
    simp [emitted, fixed, kept]
  · intro parts formed written
    exact (Floating.find?_eq_none_iff _).mp settled parts formed written.symm
  · intro again
    simp [ruleFor_eq_pinBaseImage_iff, settled]

/-- Of several tags only the last one counts, and the registry's port is no tag. -/
theorem classify_pinBase_registry :
    Config.stock.check = .ok () ∧
    (⟨" ", "localhost:5000/a:latest/python", " AS base"⟩ : Floating).WellFormed ∧
    (classify .stock "FROM localhost:5000/a:latest/python:latest AS base" .initial).1 =
      ⟨"FROM localhost:5000/a:latest/python:3.9-slim AS base", [.pinBaseImage]⟩ := by
  have formed :
      (⟨" ", "localhost:5000/a:latest/python", " AS base"⟩ : Floating).WellFormed := by
    obtain ⟨image_ne, image_solid⟩ := (Text.isWord_iff "localhost:5000/a:latest/python").mp rfl
    refine ⟨by decide, (Text.isBlankText_iff " ").mp rfl, image_ne, image_solid, ?_⟩
    rintro c ⟨⟩
    rfl
  refine ⟨Config.check_stock, formed, ?_⟩
  exact (classify_pinBase .stock Config.check_stock _ .initial).1 _ formed rfl

end Hardening

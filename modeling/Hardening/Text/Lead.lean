/-!
# Leading and trailing parts of a text

Instructions are recognised by how a line begins, file names by how they begin or end. Both tests
are literal and case-sensitive.
-/
namespace Hardening.Text

/-- The text `s` begins with `lead`. -/
def leads (lead s : String) : Bool :=
  lead.toList.isPrefixOf s.toList

theorem leads_iff (lead s : String) : leads lead s = true ↔ ∃ rest, s = lead ++ rest := by
  rw [leads, List.isPrefixOf_iff_prefix]
  constructor
  · rintro ⟨rest, h⟩
    exact ⟨String.ofList rest, String.toList_inj.mp (by simp [h])⟩
  · rintro ⟨rest, rfl⟩
    exact ⟨rest.toList, by simp⟩

/-- Text put behind a line does not change how a long enough beginning reads. -/
theorem leads_append (lead s more : String) (h : leads lead s = true) :
    leads lead (s ++ more) = true := by
  obtain ⟨rest, rfl⟩ := (leads_iff lead s).mp h
  exact (leads_iff _ _).mpr ⟨rest ++ more, by rw [String.append_assoc]⟩

/-- Of two beginnings of one text, one is a beginning of the other. -/
theorem leads_comparable {lead other s : String} (begins : leads lead s = true)
    (too : leads other s = true) : leads lead other = true ∨ leads other lead = true := by
  have first := List.isPrefixOf_iff_prefix.mp begins
  have second := List.isPrefixOf_iff_prefix.mp too
  rcases List.prefix_or_prefix_of_prefix first second with shorter | longer
  · exact Or.inl (List.isPrefixOf_iff_prefix.mpr shorter)
  · exact Or.inr (List.isPrefixOf_iff_prefix.mpr longer)

/-- The text `s` ends with `tail`. -/
def trails (tail s : String) : Bool :=
  tail.toList.isSuffixOf s.toList

theorem trails_iff (tail s : String) : trails tail s = true ↔ ∃ front, s = front ++ tail := by
  rw [trails, List.isSuffixOf_iff_suffix]
  constructor
  · rintro ⟨front, h⟩
    exact ⟨String.ofList front, String.toList_inj.mp (by simp [h])⟩
  · rintro ⟨front, rfl⟩
    exact ⟨front.toList, by simp⟩

end Hardening.Text

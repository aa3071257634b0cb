import Hardening.Text.Markup

/-!
# Escaped texts

Characters with an entity are written as that, and all others as themselves. No character is written
as the beginning of another, so a text is determined by what is written for it.
-/
namespace Hardening.Text

/-- The characters that have an entity. -/
def entityChars : List Char := ['<', '>', '"', '&', '\'', '\x60', '=']

theorem escapeChar_of_not_mem {c : Char} (plain : c ∉ entityChars) : escapeChar c = [c] := by
  unfold escapeChar entity?
  split
  next entity found =>
    split at found
    -- The seven characters of the table are in the list; in the last case there is no entity.
    case h_8 => cases found
    all_goals exact absurd (by decide) plain
  · rfl

private theorem entities_apart {c d : Char} (first : c ∈ entityChars) (second : d ∈ entityChars)
    (begins : escapeChar c <+: escapeChar d) : c = d := by
  -- Decided along the list: a quantifier over characters would be tried out on all of them.
  have all : entityChars.all (fun c => entityChars.all fun d =>
      (escapeChar c).isPrefixOf (escapeChar d) → c = d) = true := by decide
  have checked := List.all_eq_true.mp (List.all_eq_true.mp all c first) d second
  exact of_decide_eq_true checked (List.isPrefixOf_iff_prefix.mpr begins)

private theorem head?_entities {c : Char} (entity : c ∈ entityChars) :
    (escapeChar c).head? = some '&' := by
  have all : entityChars.all (fun c => (escapeChar c).head? = some '&') = true := by decide
  exact of_decide_eq_true (List.all_eq_true.mp all c entity)

theorem head?_escapeChar (c : Char) :
    (escapeChar c).head? = some (if c ∈ entityChars then '&' else c) := by
  by_cases entity : c ∈ entityChars
  · rw [if_pos entity, head?_entities entity]
  · rw [if_neg entity, escapeChar_of_not_mem entity]
    rfl

theorem eq_of_escapeChar_begins {c d : Char} (begins : escapeChar c <+: escapeChar d) : c = d := by
  have heads : (if c ∈ entityChars then '&' else c) = if d ∈ entityChars then '&' else d := by
    obtain ⟨more, written⟩ := begins
    have head := head?_escapeChar d
    rw [← written, List.head?_append, head?_escapeChar c] at head
    exact Option.some.inj head
  -- An entity begins with an ampersand, which is never written as itself.
  have ampersand : '&' ∈ entityChars := by decide
  by_cases first : c ∈ entityChars
  · by_cases second : d ∈ entityChars
    · exact entities_apart first second begins
    · rw [if_pos first, if_neg second] at heads
      exact absurd (heads ▸ ampersand) second
  · by_cases second : d ∈ entityChars
    · rw [if_neg first, if_pos second] at heads
      exact absurd (heads ▸ ampersand) first
    · rwa [if_neg first, if_neg second] at heads

theorem escapeChar_cancel {c d : Char} {rest more : List Char}
    (same : escapeChar c ++ rest = escapeChar d ++ more) : c = d ∧ rest = more := by
  have first : escapeChar c <+: escapeChar c ++ rest := List.prefix_append _ _
  have second : escapeChar d <+: escapeChar c ++ rest := same ▸ List.prefix_append _ _
  -- Of two beginnings of one text the shorter begins the longer.
  have equal : c = d := by
    rcases List.prefix_or_prefix_of_prefix first second with shorter | longer
    · exact eq_of_escapeChar_begins shorter
    · exact (eq_of_escapeChar_begins longer).symm
  subst equal
  exact ⟨rfl, List.append_cancel_left same⟩

private theorem flatMap_escapeChar_inj {text other : List Char}
    (same : text.flatMap escapeChar = other.flatMap escapeChar) : text = other := by
  -- Every character leaves something, so the shorter text cannot be written as the longer one.
  have filled (c : Char) (rest : List Char) : escapeChar c ++ rest ≠ [] := by
    intro empty
    have head := head?_escapeChar c
    rw [(List.append_eq_nil_iff.mp empty).1] at head
    cases head
  induction text generalizing other with
  | nil =>
    cases other with
    | nil => rfl
    | cons d other => exact absurd same.symm (filled d _)
  | cons c text ih =>
    cases other with
    | nil => exact absurd same (filled c _)
    | cons d other =>
      obtain ⟨rfl, rest⟩ := escapeChar_cancel same
      rw [ih rest]

theorem escape_inj {text other : String} (same : escape text = escape other) : text = other :=
  String.toList_inj.mp (flatMap_escapeChar_inj (String.ofList_injective same))

theorem escape_of_plain {value : String} (plain : ∀ c ∈ value.toList, c ∉ entityChars) :
    escape value = value := by
  apply String.toList_inj.mp
  rw [escape, String.toList_ofList]
  generalize value.toList = text at plain ⊢
  induction text with
  | nil => rfl
  | cons c text ih =>
    rw [List.flatMap_cons, escapeChar_of_not_mem (plain c List.mem_cons_self),
      ih fun other member => plain other (List.mem_cons_of_mem _ member)]
    rfl

end Hardening.Text

/-!
# Patterns

A pattern is tried at each place of a text, from left to right, and at one place in all the ways in
which it can be read there. The ways have an order: a run of characters takes as many as it can
before it takes fewer, and of two alternatives the first one goes first. The first way at the first
place is what is found. Places are told by the number of bytes in front of them.
-/
namespace Hardening.Text

/-- What a part of a text can be required to read like. -/
inductive Pattern where
  /-- Nothing stands in front. -/
  | start
  /-- Nothing follows. -/
  | finish
  | word (text : String)
  /-- One character of a class. -/
  | one (within : Char → Bool)
  /-- Characters of a class, at least one and as many as possible. -/
  | run (within : Char → Bool)
  | both (first second : Pattern)
  /-- The first pattern, or else the second one. -/
  | either (first second : Pattern)
  /-- The part of the text that this pattern reads is told apart. -/
  | group (inner : Pattern)

namespace Pattern

/-- A place in a text, on the way of a pattern through it. -/
structure Cursor where
  before : List Char
  after : List Char
  /-- Where the group began and ended, once it has been read. -/
  group : Option (Nat × Nat) := none
  deriving Repr, DecidableEq

namespace Cursor

/-- Number of bytes in front. -/
def offset (cursor : Cursor) : Nat :=
  (String.ofList cursor.before).utf8ByteSize

/-- The place behind some characters. -/
def advance (cursor : Cursor) (taken rest : List Char) : Cursor :=
  { cursor with before := cursor.before ++ taken, after := rest }

end Cursor

/-- The ways to take characters of a class from the front, the longest first. -/
def runs (within : Char → Bool) : List Char → List (List Char × List Char)
  | [] => []
  | c :: text =>
    if within c then (runs within text).map (fun way => (c :: way.1, way.2)) ++ [([c], text)]
    else []

/-- The places that a pattern can lead to, in the order of preference. -/
def ways : Pattern → Cursor → List Cursor
  | start, cursor => if cursor.before = [] then [cursor] else []
  | finish, cursor => if cursor.after = [] then [cursor] else []
  | word text, cursor =>
    if text.toList.isPrefixOf cursor.after then
      [cursor.advance text.toList (cursor.after.drop text.length)]
    else []
  | one within, cursor =>
    match cursor.after with
    | [] => []
    | c :: rest => if within c then [cursor.advance [c] rest] else []
  | run within, cursor => (runs within cursor.after).map fun way => cursor.advance way.1 way.2
  | both first second, cursor => (ways first cursor).flatMap (ways second)
  | either first second, cursor => ways first cursor ++ ways second cursor
  | group inner, cursor =>
    (ways inner cursor).map fun last => { last with group := some (cursor.offset, last.offset) }

/-- Where a pattern was found in a text, in bytes. -/
structure Found where
  start : Nat
  stop : Nat
  /-- Where its group began and ended. -/
  group : Option (Nat × Nat)
  deriving Repr, DecidableEq

/-- What is found at one place. -/
def foundAt? (pattern : Pattern) (cursor : Cursor) : Option Found :=
  (pattern.ways cursor).head?.map fun last => ⟨cursor.offset, last.offset, last.group⟩

/-- What is found at a place or at a later one. -/
def foundFrom? (pattern : Pattern) (before : List Char) : List Char → Option Found
  | [] => pattern.foundAt? { before, after := [] }
  | c :: after =>
    (pattern.foundAt? { before, after := c :: after }).or
      (foundFrom? pattern (before ++ [c]) after)

/-- What is found in a text. -/
def search? (pattern : Pattern) (text : String) : Option Found :=
  pattern.foundFrom? [] text.toList

theorem mem_runs_iff (within : Char → Bool) (text taken rest : List Char) :
    (taken, rest) ∈ runs within text ↔
      taken ≠ [] ∧ (∀ c ∈ taken, within c = true) ∧ text = taken ++ rest := by
  induction text generalizing taken with
  | nil =>
    simp only [runs, List.not_mem_nil, false_iff]
    rintro ⟨filled, -, cut⟩
    exact filled (List.append_eq_nil_iff.mp cut.symm).1
  | cons first text ih =>
    by_cases inside : within first = true
    · simp only [runs, if_pos inside, List.mem_append, List.mem_map, List.mem_singleton,
        Prod.mk.injEq]
      constructor
      · rintro (⟨⟨more, back⟩, longer, rfl, rfl⟩ | ⟨rfl, rfl⟩)
        · obtain ⟨-, all, rfl⟩ := (ih more).mp longer
          exact ⟨List.cons_ne_nil _ _, List.forall_mem_cons.mpr ⟨inside, all⟩, rfl⟩
        · exact ⟨List.cons_ne_nil _ _, by simpa using inside, rfl⟩
      · rintro ⟨filled, all, cut⟩
        cases taken with
        | nil => exact absurd rfl filled
        | cons c more =>
          obtain ⟨rfl, rfl⟩ := List.cons.inj cut
          -- The run stops at the first character, or it goes on behind it.
          by_cases last : more = []
          · exact Or.inr ⟨by rw [last], by rw [last]; rfl⟩
          · have tail := (ih more).mpr ⟨last, (List.forall_mem_cons.mp all).2, rfl⟩
            exact Or.inl ⟨(more, rest), tail, rfl, rfl⟩
    · simp only [runs, if_neg inside, List.not_mem_nil, false_iff]
      rintro ⟨filled, all, cut⟩
      cases taken with
      | nil => exact filled rfl
      | cons c more =>
        obtain ⟨rfl, -⟩ := List.cons.inj cut
        exact inside (all first List.mem_cons_self)

section Ways

variable {cursor next : Cursor}

theorem mem_ways_start : next ∈ start.ways cursor ↔ cursor.before = [] ∧ next = cursor := by
  simp [ways]

theorem mem_ways_finish : next ∈ finish.ways cursor ↔ cursor.after = [] ∧ next = cursor := by
  simp [ways]

theorem mem_ways_word {text : String} : next ∈ (word text).ways cursor ↔
    ∃ rest, cursor.after = text.toList ++ rest ∧ next = cursor.advance text.toList rest := by
  unfold ways
  split
  next begins =>
    obtain ⟨rest, cut⟩ := List.isPrefixOf_iff_prefix.mp begins
    have dropped : cursor.after.drop text.length = rest := by
      rw [← cut, String.length]
      exact List.drop_left
    rw [List.mem_singleton, dropped, ← cut]
    simp
  next differs =>
    simp only [List.not_mem_nil, false_iff]
    rintro ⟨rest, cut, -⟩
    exact differs (List.isPrefixOf_iff_prefix.mpr ⟨rest, cut.symm⟩)

theorem mem_ways_one {within : Char → Bool} : next ∈ (one within).ways cursor ↔
    ∃ c rest, within c = true ∧ cursor.after = c :: rest ∧ next = cursor.advance [c] rest := by
  unfold ways
  split
  next ended => simp [ended]
  next c rest goes =>
    split
    next inside =>
      rw [List.mem_singleton]
      constructor
      · rintro rfl
        exact ⟨c, rest, inside, goes, rfl⟩
      · rintro ⟨d, more, -, cut, rfl⟩
        obtain ⟨rfl, rfl⟩ := List.cons.inj (goes.symm.trans cut)
        rfl
    next outside =>
      simp only [List.not_mem_nil, false_iff]
      rintro ⟨d, more, inside, cut, -⟩
      obtain ⟨rfl, rfl⟩ := List.cons.inj (goes.symm.trans cut)
      exact outside inside

theorem mem_ways_run {within : Char → Bool} : next ∈ (run within).ways cursor ↔
    ∃ taken rest, taken ≠ [] ∧ (∀ c ∈ taken, within c = true) ∧ cursor.after = taken ++ rest ∧
      next = cursor.advance taken rest := by
  simp only [ways, List.mem_map, Prod.exists, mem_runs_iff]
  constructor
  · rintro ⟨taken, rest, ⟨filled, inside, cut⟩, rfl⟩
    exact ⟨taken, rest, filled, inside, cut, rfl⟩
  · rintro ⟨taken, rest, filled, inside, cut, rfl⟩
    exact ⟨taken, rest, ⟨filled, inside, cut⟩, rfl⟩

theorem mem_ways_both {first second : Pattern} : next ∈ (both first second).ways cursor ↔
    ∃ middle ∈ first.ways cursor, next ∈ second.ways middle := by
  simp [ways]

theorem mem_ways_either {first second : Pattern} : next ∈ (either first second).ways cursor ↔
    next ∈ first.ways cursor ∨ next ∈ second.ways cursor := by
  simp [ways]

theorem mem_ways_group {inner : Pattern} : next ∈ (group inner).ways cursor ↔
    ∃ last ∈ inner.ways cursor,
      next = { last with group := some (cursor.offset, last.offset) } := by
  simp only [ways, List.mem_map, @eq_comm _ next]

end Ways

section Start

variable (pattern : Pattern)

theorem foundAt?_start {before : List Char} (moved : before ≠ []) (after : List Char) :
    (both start pattern).foundAt? { before, after } = none := by
  simp [foundAt?, ways, moved]

theorem foundFrom?_start {before : List Char} (moved : before ≠ []) (after : List Char) :
    (both start pattern).foundFrom? before after = none := by
  -- What is in front only grows, so no later place is the start either.
  induction after generalizing before with
  | nil => exact foundAt?_start pattern moved []
  | cons c after ih =>
    have further : before ++ [c] ≠ [] := List.append_ne_nil_of_left_ne_nil moved [c]
    rw [foundFrom?, foundAt?_start pattern moved, ih further, Option.or_none]

/-- A pattern that begins at the start of the text is found there or nowhere. -/
theorem search?_start (text : String) : (both start pattern).search? text =
    (both start pattern).foundAt? { before := [], after := text.toList } := by
  unfold search?
  cases text.toList with
  | nil => rfl
  | cons c after =>
    have later : (both start pattern).foundFrom? ([] ++ [c]) after = none :=
      foundFrom?_start pattern (List.cons_ne_nil _ _) after
    rw [foundFrom?, later, Option.or_none]

end Start

end Pattern
end Hardening.Text

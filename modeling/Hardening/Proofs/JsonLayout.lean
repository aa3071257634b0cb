import Hardening.Proofs.JsonScalars

/-!
# Indented values of JSON

The indented layout of a value is read back as that value, whatever follows it, as long as its numbers
are natural numbers of 64 bits.
-/
namespace Hardening.Json

mutual

/-- All numbers in the value are natural numbers of 64 bits, and all parts denote something. -/
def Plain : Json → Prop
  | .number value => ∃ n < UInt64.size, value = { whole := n }
  | .array items => PlainItems items
  | .object fields => PlainFields fields
  | .unreadable => False
  | _ => True

def PlainItems : List Json → Prop
  | [] => True
  | item :: items => Plain item ∧ PlainItems items

def PlainFields : List (String × Json) → Prop
  | [] => True
  | field :: fields => Plain field.2 ∧ PlainFields fields

end

theorem plainItems_iff (items : List Json) : PlainItems items ↔ ∀ item ∈ items, item.Plain := by
  induction items with
  | nil => simp [PlainItems]
  | cons item items ih => simp [PlainItems, ih]

theorem plain_nat {n : Nat} (fits : n < UInt64.size) : (nat n).Plain :=
  ⟨n, fits, rfl⟩

theorem depthItems_le {items : List Json} {bound : Nat}
    (shallow : ∀ item ∈ items, item.depth ≤ bound) : depthItems items ≤ bound := by
  induction items with
  | nil => exact Nat.zero_le _
  | cons item items ih =>
    rw [depthItems]
    exact Nat.max_le.mpr ⟨shallow item List.mem_cons_self,
      ih fun other member => shallow other (List.mem_cons_of_mem _ member)⟩

mutual

/-- How many steps into its parts a value has to be read. -/
def steps : Json → Nat
  | .array items => stepsOfItems items + 1
  | .object fields => stepsOfFields fields + 1
  | _ => 1

def stepsOfItems : List Json → Nat
  | [] => 0
  | item :: items => max (steps item) (stepsOfItems items) + 1

def stepsOfFields : List (String × Json) → Nat
  | [] => 0
  | field :: fields => max (steps field.2) (stepsOfFields fields) + 1

end

mutual

theorem readable_of_plain : ∀ value : Json, value.Plain → value.readable = true
  | .null, _ | .bool _, _ | .number _, _ | .string _, _ => by simp [readable]
  | .array items, plain => by
    rw [readable]
    exact readableItems_of_plain items plain
  | .object fields, plain => by
    rw [readable]
    exact readableFields_of_plain fields plain
  | .unreadable, plain => plain.elim

theorem readableItems_of_plain : ∀ items : List Json, PlainItems items → readableItems items = true
  | [], _ => by simp [readableItems]
  | item :: items, plain => by
    rw [readableItems, readable_of_plain item plain.1, readableItems_of_plain items plain.2]
    rfl

theorem readableFields_of_plain :
    ∀ fields : List (String × Json), PlainFields fields → readableFields fields = true
  | [], _ => by simp [readableFields]
  | (name, value) :: fields, plain => by
    rw [readableFields, readable_of_plain value plain.1, readableFields_of_plain fields plain.2]
    rfl

end

section Gaps

theorem skipGap_cons {c : Char} (rest : List Char) (visible : isGap c = false) :
    skipGap (c :: rest) = c :: rest := by
  simp [skipGap, visible]

theorem not_isGap_of_isDigit {c : Char} (digit : c.isDigit = true) : isGap c = false := by
  cases gap : isGap c with
  | false => rfl
  | true =>
    simp only [isGap, Bool.or_eq_true, decide_eq_true_eq] at gap
    rcases gap with ((rfl | rfl) | rfl) | rfl <;> cases digit

theorem skipGap_append {gap : List Char} (all : ∀ c ∈ gap, isGap c = true) (rest : List Char) :
    skipGap (gap ++ rest) = skipGap rest :=
  List.dropWhile_append_of_pos all

theorem isGap_newLine {level : Nat} {c : Char} (member : c ∈ newLine level) : isGap c = true := by
  rcases List.mem_cons.mp member with rfl | space
  · rfl
  · rw [List.eq_of_mem_replicate space]
    rfl

variable (fuel : Nat) {gap : List Char} (all : ∀ c ∈ gap, isGap c = true) (rest : List Char)

include all

theorem readValue_append : readValue fuel (gap ++ rest) = readValue fuel rest := by
  cases fuel with
  | zero => rfl
  | succ fuel => rw [readValue, readValue, skipGap_append all]

theorem readItems_append : readItems fuel (gap ++ rest) = readItems fuel rest := by
  cases fuel with
  | zero => rfl
  | succ fuel => rw [readItems, readItems, readValue_append fuel all]

theorem readFields_append : readFields fuel (gap ++ rest) = readFields fuel rest := by
  cases fuel with
  | zero => rfl
  | succ fuel => rw [readFields, readFields, skipGap_append all]

end Gaps

section Scalars

variable (fuel : Nat) (rest : List Char)

theorem readValue_string (text : String) :
    readValue (fuel + 1) (Quoted.write text.toList ++ rest) = some (.string text, rest) := by
  have written : Quoted.write text.toList ++ rest =
      '"' :: (text.toList.flatMap Quoted.escape ++ '"' :: rest) := by
    simp [Quoted.write]
  rw [written, readValue, skipGap_cons _ rfl]
  simp [Quoted.readUnits_write, ofUnits, Quoted.ofUnits?_toNat]

theorem readValue_natural {n : Nat} (fits : n < UInt64.size) (ends : Number.Ends rest) :
    readValue (fuel + 1) (Text.digits n ++ rest) = some (.number { whole := n }, rest) := by
  have starts (c : Char) (tail : List Char) (same : Text.digits n ++ rest = c :: tail) :
      c.isDigit = true := Text.isDigit_of_digits_append same
  have gapless : skipGap (Text.digits n ++ rest) = Text.digits n ++ rest := by
    cases run : Text.digits n ++ rest with
    | nil => rfl
    | cons c tail => exact skipGap_cons tail (not_isGap_of_isDigit (starts c tail run))
  rw [readValue, gapless]
  split
  -- A number begins with a digit, and no other value does.
  next same => exact absurd (starts _ _ same) (by decide)
  next same => exact absurd (starts _ _ same) (by decide)
  next same => exact absurd (starts _ _ same) (by decide)
  next same => exact absurd (starts _ _ same) (by decide)
  next same => exact absurd (starts _ _ same) (by decide)
  next same => exact absurd (starts _ _ same) (by decide)
  next =>
    rw [Number.read_digits n ends]
    simp [ofNumber, Number.inRange_natural fits]

end Scalars

/-- A value does not begin with a blank or like the end of a list. -/
theorem first_indented {value : Json} (plain : value.Plain) (level : Nat) :
    ∃ c tail, indented level value = c :: tail ∧ isGap c = false ∧ c ≠ ']' := by
  cases value with
  | null => exact ⟨'n', _, rfl, rfl, by decide⟩
  | bool value =>
    cases value
    · exact ⟨'f', _, rfl, rfl, by decide⟩
    · exact ⟨'t', _, rfl, rfl, by decide⟩
  | number value =>
    obtain ⟨n, -, rfl⟩ := plain
    cases run : Text.digits n with
    | nil => exact absurd run (Text.digits_ne_nil n)
    | cons c tail =>
      have digit : c.isDigit = true := Text.isDigit_digits (by rw [run]; exact List.mem_cons_self)
      refine ⟨c, tail, (Number.write_natural n).trans run, not_isGap_of_isDigit digit, ?_⟩
      rintro rfl
      cases digit
  | string value => exact ⟨'"', _, rfl, rfl, by decide⟩
  | array items => cases items <;> exact ⟨'[', _, rfl, rfl, by decide⟩
  | object fields => cases fields <;> exact ⟨'{', _, rfl, rfl, by decide⟩
  | unreadable => exact plain.elim

section Reads

/-- With so much fuel values are read back from their layout. -/
def ReadsValues (fuel : Nat) : Prop :=
  ∀ value level rest, Plain value → Number.Ends rest → value.steps ≤ fuel →
    readValue fuel (indented level value ++ rest) = some (value, rest)

def ReadsItems (fuel : Nat) : Prop :=
  ∀ item items level outer rest, PlainItems (item :: items) → stepsOfItems (item :: items) ≤ fuel →
    readItems fuel (indented level item ++ (indentedItems level items ++
      (newLine outer ++ ']' :: rest))) = some (item :: items, rest)

/-- The name of a field is read as its code points. -/
def unitsOf (field : String × Json) : List Nat × Json :=
  (field.1.toList.map Char.toNat, field.2)

def ReadsFields (fuel : Nat) : Prop :=
  ∀ field fields level outer rest, PlainFields (field :: fields) →
    stepsOfFields (field :: fields) ≤ fuel →
    readFields fuel (Quoted.write field.1.toList ++ (':' :: ' ' :: (indented level field.2 ++
      (indentedFields level fields ++ (newLine outer ++ '}' :: rest))))) =
        some ((field :: fields).map unitsOf, rest)

variable {fuel : Nat}

private theorem ends_items (level outer : Nat) (items : List Json) (rest : List Char) :
    Number.Ends (indentedItems level items ++ (newLine outer ++ ']' :: rest)) := by
  intro c starts
  cases items <;> cases starts <;> decide

private theorem ends_fields (level outer : Nat) (fields : List (String × Json)) (rest : List Char) :
    Number.Ends (indentedFields level fields ++ (newLine outer ++ '}' :: rest)) := by
  intro c starts
  cases fields <;> cases starts <;> decide

theorem readsItems_succ (values : ReadsValues fuel) (others : ReadsItems fuel) :
    ReadsItems (fuel + 1) := by
  intro item items level outer rest plain enough
  obtain ⟨plainItem, plainItems⟩ := plain
  simp only [stepsOfItems] at enough
  have first := values item level _ plainItem (ends_items level outer items rest) (by omega)
  rw [readItems, first]
  cases items with
  | nil =>
    have close : skipGap (newLine outer ++ ']' :: rest) = ']' :: rest := by
      rw [skipGap_append fun _ => isGap_newLine, skipGap_cons rest rfl]
    simp [indentedItems, close]
  | cons next items =>
    have more := others next items level outer rest plainItems (by omega)
    have comma : skipGap (indentedItems level (next :: items) ++ (newLine outer ++ ']' :: rest)) =
        ',' :: (newLine level ++ (indented level next ++ (indentedItems level items ++
          (newLine outer ++ ']' :: rest)))) := by
      rw [indentedItems]
      simp only [List.cons_append, List.append_assoc]
      exact skipGap_cons _ rfl
    simp [comma, readItems_append fuel fun _ => isGap_newLine, more]

theorem readsFields_succ (values : ReadsValues fuel) (others : ReadsFields fuel) :
    ReadsFields (fuel + 1) := by
  intro field fields level outer rest plain enough
  obtain ⟨plainField, plainFields⟩ := plain
  simp only [stepsOfFields] at enough
  have first := values field.2 level _ plainField (ends_fields level outer fields rest) (by omega)
  have space : ∀ c ∈ [' '], isGap c = true := by
    intro c member
    rw [List.mem_singleton.mp member]
    rfl
  have second := (readValue_append fuel space _).trans first
  rw [List.singleton_append] at second
  have named := Quoted.readUnits_write field.1.toList
  rw [Quoted.write, List.cons_append, List.cons_append, List.append_assoc, readFields,
    skipGap_cons _ rfl]
  simp only [List.singleton_append, named, Option.bind_eq_bind, Option.bind_some]
  rw [skipGap_cons _ rfl]
  simp only [second, Option.bind_some]
  cases fields with
  | nil =>
    have close : skipGap (newLine outer ++ '}' :: rest) = '}' :: rest := by
      rw [skipGap_append fun _ => isGap_newLine, skipGap_cons rest rfl]
    simp [indentedFields, close, unitsOf]
  | cons next fields =>
    have more := others next fields level outer rest plainFields (by omega)
    have comma : skipGap (indentedFields level (next :: fields) ++ (newLine outer ++ '}' :: rest)) =
        ',' :: (newLine level ++ (Quoted.write next.1.toList ++ (':' :: ' ' ::
          (indented level next.2 ++ (indentedFields level fields ++
            (newLine outer ++ '}' :: rest)))))) := by
      rw [indentedFields]
      simp only [List.cons_append, List.nil_append, List.append_assoc]
      exact skipGap_cons _ rfl
    simp [comma, readFields_append fuel fun _ => isGap_newLine, more, unitsOf]

private theorem readValue_bracket (fuel : Nat) (rest : List Char) :
    readValue (fuel + 1) ('[' :: rest) = match skipGap rest with
      | ']' :: rest => some (.array [], rest)
      | rest => (readItems fuel rest).map fun (items, rest) => (.array items, rest) := by
  rw [readValue, skipGap_cons _ rfl]
  rfl

private theorem readValue_brace (fuel : Nat) (rest : List Char) :
    readValue (fuel + 1) ('{' :: rest) = match skipGap rest with
      | '}' :: rest => some (.object [], rest)
      | rest => (readFields fuel rest).map fun (fields, rest) => (ofFields fields, rest) := by
  rw [readValue, skipGap_cons _ rfl]
  rfl

theorem ofFields_unitsOf (fields : List (String × Json)) :
    ofFields (fields.map unitsOf) = .object fields := by
  have named : (fields.map unitsOf).mapM ofField? = some fields := by
    induction fields with
    | nil => rfl
    | cons field fields ih =>
      rw [List.map_cons, List.mapM_cons, ih]
      simp [ofField?, unitsOf, Quoted.ofUnits?_toNat]
  rw [ofFields, named]

theorem readsValues_succ (items : ReadsItems fuel) (fields : ReadsFields fuel) :
    ReadsValues (fuel + 1) := by
  intro value level rest plain ends enough
  cases value with
  | null =>
    change readValue (fuel + 1) ('n' :: 'u' :: 'l' :: 'l' :: rest) = _
    rw [readValue, skipGap_cons _ rfl]
    rfl
  | bool value =>
    cases value with
    | false =>
      change readValue (fuel + 1) ('f' :: 'a' :: 'l' :: 's' :: 'e' :: rest) = _
      rw [readValue, skipGap_cons _ rfl]
      rfl
    | true =>
      change readValue (fuel + 1) ('t' :: 'r' :: 'u' :: 'e' :: rest) = _
      rw [readValue, skipGap_cons _ rfl]
      rfl
  | number value =>
    obtain ⟨n, fits, rfl⟩ := plain
    rw [indented, Number.write_natural]
    exact readValue_natural fuel rest fits ends
  | string value =>
    rw [indented]
    exact readValue_string fuel rest value
  | array all =>
    cases all with
    | nil =>
      change readValue (fuel + 1) ('[' :: ']' :: rest) = _
      rw [readValue_bracket, skipGap_cons _ rfl]
      rfl
    | cons item others =>
      simp only [steps] at enough
      have listed := items item others (level + 1) level rest plain (by omega)
      obtain ⟨c, tail, starts, visible, unclosed⟩ := first_indented plain.1 (level + 1)
      rw [indented]
      simp only [List.cons_append, List.append_assoc, List.nil_append]
      rw [readValue_bracket, skipGap_append fun _ => isGap_newLine]
      -- The first item does not begin with the bracket that would end the array.
      rw [starts, List.cons_append] at listed ⊢
      rw [skipGap_cons _ visible]
      split
      next same => exact absurd (List.cons.inj same).1 unclosed
      next =>
        rw [listed]
        rfl
  | object all =>
    cases all with
    | nil =>
      change readValue (fuel + 1) ('{' :: '}' :: rest) = _
      rw [readValue_brace, skipGap_cons _ rfl]
      rfl
    | cons field others =>
      simp only [steps] at enough
      have listed := fields field others (level + 1) level rest plain (by omega)
      rw [indented]
      simp only [List.cons_append, List.append_assoc, List.nil_append]
      rw [readValue_brace, skipGap_append fun _ => isGap_newLine]
      -- The first name begins with a quote, so the object does not end here.
      rw [Quoted.write, List.cons_append, List.cons_append] at listed ⊢
      rw [skipGap_cons _ rfl]
      split
      next same => cases same
      next =>
        rw [listed, ← ofFields_unitsOf]
        rfl
  | unreadable => exact plain.elim

theorem reads (fuel : Nat) : ReadsValues fuel ∧ ReadsItems fuel ∧ ReadsFields fuel := by
  -- The three readers call one another with one step less, so they go through together.
  induction fuel with
  | zero =>
    refine ⟨?_, ?_, ?_⟩
    · intro value level rest plain ends enough
      cases value <;> simp [steps] at enough
    · intro item items level outer rest plain enough
      simp [stepsOfItems] at enough
    · intro field fields level outer rest plain enough
      simp [stepsOfFields] at enough
  | succ fuel ih =>
    obtain ⟨values, items, fields⟩ := ih
    exact ⟨readsValues_succ items fields, readsItems_succ values items,
      readsFields_succ values fields⟩

end Reads

mutual

/-- Every step takes a character of the layout. -/
theorem steps_le : ∀ (value : Json) (level : Nat), value.Plain →
    value.steps ≤ (indented level value).length
  | .null, _, _ => by simp [steps, indented]
  | .bool value, _, _ => by cases value <;> simp [steps, indented]
  | .number value, _, plain => by
    obtain ⟨n, -, rfl⟩ := plain
    have filled := List.length_pos_iff.mpr (Text.digits_ne_nil n)
    rw [indented, Number.write_natural]
    exact filled
  | .string value, _, _ => by simp [steps, indented, Quoted.write]
  | .array [], _, _ => by simp [steps, stepsOfItems, indented]
  | .array (item :: items), level, plain => by
    have first := steps_le item (level + 1) plain.1
    have others := stepsOfItems_le items (level + 1) plain.2
    simp only [steps, stepsOfItems, indented, List.length_append, List.length_cons]
    omega
  | .object [], _, _ => by simp [steps, stepsOfFields, indented]
  | .object ((name, value) :: fields), level, plain => by
    have first := steps_le value (level + 1) plain.1
    have others := stepsOfFields_le fields (level + 1) plain.2
    simp only [steps, stepsOfFields, indented, List.length_append, List.length_cons]
    omega
  | .unreadable, _, plain => plain.elim

theorem stepsOfItems_le : ∀ (items : List Json) (level : Nat), PlainItems items →
    stepsOfItems items ≤ (indentedItems level items).length
  | [], _, _ => Nat.zero_le _
  | item :: items, level, plain => by
    have first := steps_le item level plain.1
    have others := stepsOfItems_le items level plain.2
    simp only [stepsOfItems, indentedItems, List.length_append, List.length_cons]
    omega

theorem stepsOfFields_le : ∀ (fields : List (String × Json)) (level : Nat), PlainFields fields →
    stepsOfFields fields ≤ (indentedFields level fields).length
  | [], _, _ => Nat.zero_le _
  | (name, value) :: fields, level, plain => by
    have first := steps_le value level plain.1
    have others := stepsOfFields_le fields level plain.2
    simp only [stepsOfFields, indentedFields, List.length_append, List.length_cons]
    omega

end

/-- A value is read back from its text. -/
theorem ofText?_pretty {value : Json} (plain : value.Plain) : ofText? value.pretty = some value := by
  have text : value.pretty.toList = indented 0 value := String.toList_ofList
  have length : value.pretty.length = (indented 0 value).length := by
    rw [← text, String.length_toList]
  -- The fuel is measured by the text, the steps by the layout that is the text.
  have enough : value.steps ≤ 2 * value.pretty.length + 2 := by
    have steps := steps_le value 0 plain
    omega
  have read := (reads (2 * value.pretty.length + 2)).1 value 0 [] plain nofun enough
  rw [List.append_nil] at read
  rw [ofText?, text, read]
  rfl

end Hardening.Json

import Mathlib.Data.List.Nodup
import Hardening.Proofs.EntryPaths
import Hardening.Proofs.TreeGrowth

/-!
# Files of a directory

Listing a directory names its files, each once. With the directory's path in front, a name is enough
to say what reading and writing come to: nothing but the entry itself and the length of its path
matters.
-/
namespace Hardening.Files.Tree

open Hardening.Files.Path (IsName)

/-- No two entries stand at one location, and locations are made of names. -/
structure WellFormed (tree : Tree) : Prop where
  unique : (tree.entries.map Prod.fst).Nodup
  named : ∀ entry ∈ tree.entries, ∀ name ∈ entry.1, IsName name

instance (tree : Tree) : Decidable tree.WellFormed :=
  decidable_of_iff ((tree.entries.map Prod.fst).Nodup ∧
      ∀ entry ∈ tree.entries, ∀ name ∈ entry.1, IsName name)
    ⟨fun ⟨unique, named⟩ => ⟨unique, named⟩, fun ⟨unique, named⟩ => ⟨unique, named⟩⟩

theorem childOf_eq_some_iff (location : Location) (entry : Location × Node) (name : String)
    (node : Node) :
    childOf location entry = some (name, node) ↔ entry = (location ++ [name], node) := by
  obtain ⟨place, found⟩ := entry
  constructor
  · intro picked
    unfold childOf at picked
    split at picked
    next last up turned =>
      split at picked
      next same =>
        cases picked
        rw [← same, ← List.reverse_cons, ← turned, List.reverse_reverse]
      next => cases picked
    next => cases picked
  · intro same
    cases same
    simp [childOf]

theorem mem_children (tree : Tree) (location : Location) (name : String) (node : Node) :
    (name, node) ∈ tree.children location ↔ (location ++ [name], node) ∈ tree.entries := by
  simp [children, childOf_eq_some_iff]

theorem pairwise_children {tree : Tree} (wellFormed : tree.WellFormed) (location : Location) :
    (tree.children location).Pairwise (·.1 ≠ ·.1) := by
  refine List.Pairwise.filterMap _ ?_ (List.pairwise_map.mp wellFormed.unique)
  intro entry other differ child picked child' picked' same
  rw [(childOf_eq_some_iff ..).mp picked, (childOf_eq_some_iff ..).mp picked', same] at differ
  exact differ rfl

theorem mem_entries_iff {tree : Tree} (wellFormed : tree.WellFormed) {location : Location}
    (named : location ≠ []) (node : Node) :
    (location, node) ∈ tree.entries ↔ tree.get? location = some node := by
  rw [get?, if_neg named, Option.map_eq_some_iff]
  constructor
  · intro member
    cases found : tree.entries.find? (·.1 = location) with
    | none =>
      have other := List.find?_eq_none.mp found _ member
      simp at other
    | some entry =>
      -- The first entry at the location is the only one.
      have same : entry.1 = location := by simpa using List.find?_some found
      refine ⟨entry, rfl, ?_⟩
      have once := List.inj_on_of_nodup_map wellFormed.unique (List.mem_of_find?_eq_some found)
        member same
      rw [once]
  · rintro ⟨entry, found, rfl⟩
    obtain rfl : entry.1 = location := by simpa using List.find?_some found
    exact List.mem_of_find?_eq_some found

theorem fileName?_eq_some_iff (entry : String × Node) (name : String) :
    fileName? entry = some name ↔ ∃ bytes, entry = (name, .file bytes) := by
  obtain ⟨own, node⟩ := entry
  cases node <;> simp [fileName?]

/-- A path leads to one place. -/
theorem lookup_unique {tree : Tree} {path : String} {place other : Location} {node found : Node}
    (one : tree.lookup path = .ok (place, node)) (two : tree.lookup path = .ok (other, found)) :
    place = other :=
  congrArg Prod.fst (Except.ok.inj (one.symm.trans two))

theorem listFiles_of_lookup {tree : Tree} {path : String} {place : Location}
    (found : tree.lookup path = .ok (place, .directory)) :
    ∃ names, tree.listFiles path = .ok names := by
  rw [listFiles, found]
  exact ⟨_, rfl⟩

theorem listFiles_eq_ok {tree : Tree} {path : String} {names : List String}
    (wellFormed : tree.WellFormed) (listed : tree.listFiles path = .ok names) :
    ∃ place, tree.lookup path = .ok (place, .directory) ∧ names.Nodup ∧
      (∀ name ∈ names, IsName name) ∧
      ∀ name, name ∈ names ↔ ∃ bytes, tree.get? (place ++ [name]) = some (.file bytes) := by
  unfold listFiles at listed
  cases found : tree.lookup path with
  | error cause => simp [found, bind, Except.bind] at listed
  | ok target =>
    obtain ⟨place, node⟩ := target
    cases node with
    | file bytes => simp [found, bind, Except.bind, throw, throwThe, MonadExceptOf.throw] at listed
    | directory =>
      simp only [found, bind, Except.bind, pure, Except.pure, Except.ok.injEq] at listed
      subst listed
      have member : ∀ name, name ∈ (tree.children place).filterMap fileName? ↔
          ∃ bytes, tree.get? (place ++ [name]) = some (.file bytes) := by
        intro name
        simp only [← mem_entries_iff wellFormed (List.concat_ne_nil _ _), ← mem_children,
          List.mem_filterMap, fileName?_eq_some_iff]
        constructor
        · rintro ⟨_, within, bytes, rfl⟩
          exact ⟨bytes, within⟩
        · rintro ⟨bytes, within⟩
          exact ⟨_, within, bytes, rfl⟩
      -- Neither sorting nor leaving out the directories makes a name come twice.
      refine ⟨place, rfl, ?_, ?_, ?_⟩
      · rw [(List.mergeSort_perm _ _).nodup_iff]
        refine List.Pairwise.filterMap _ ?_ (pairwise_children wellFormed place)
        intro child other differ name picked name' picked' same
        obtain ⟨_, rfl⟩ := (fileName?_eq_some_iff ..).mp picked
        obtain ⟨_, rfl⟩ := (fileName?_eq_some_iff ..).mp picked'
        exact differ same
      · intro name within
        obtain ⟨bytes, stands⟩ := (member name).mp (List.mem_mergeSort.mp within)
        rw [← mem_entries_iff wellFormed (List.concat_ne_nil _ _)] at stands
        exact wellFormed.named _ stands name (by simp)
      · intro name
        rw [List.mem_mergeSort]
        exact member name

/-- What there is to read at a node. -/
def readNode : Option Node → Except OsError String
  | none => .error .notFound
  | some .directory => .error .isDirectory
  | some (.file bytes) =>
    match String.fromUTF8? bytes with
    | some text => .ok text
    | none => .error .notUtf8

section Entry

variable {tree : Tree} {directory name : String} {place : Location}
  (found : tree.lookup directory = .ok (place, .directory)) (named : IsName name)

include found named

theorem lookup_join : tree.lookup (Path.join directory name) =
    if (Path.join directory name).utf8ByteSize > Path.maxLength then .error .nameTooLong
    else match tree.get? (place ++ [name]) with
      | some node => .ok (place ++ [name], node)
      | none => .error .notFound := by
  obtain ⟨walk, walked, followed, stands⟩ := (lookup_directory_iff ..).mp found
  -- A name is not one of the dots and is short, so the last step only asks for the entry.
  have stepped : tree.step place name =
      if (tree.get? (place ++ [name])).isSome then .ok (place ++ [name]) else .error .notFound := by
    simp [step, stands, named.ne_here, named.ne_up, Nat.not_lt.mpr named.short]
  have further : tree.follow [] (walk.segments ++ [name]) = tree.step place name := by
    change List.foldlM tree.step [] (walk.segments ++ [name]) = _
    rw [List.foldlM_append, show List.foldlM tree.step [] walk.segments = .ok place from followed]
    exact bind_pure (tree.step place name)
  rw [lookup, Path.walk?_join walked named]
  split
  · rfl
  · simp only [locate, further, stepped, bind, Except.bind]
    cases node : tree.get? (place ++ [name]) with
    | none => rfl
    | some found => simp [node, pure, Except.pure]

theorem readText_join : tree.readText (Path.join directory name) =
    if (Path.join directory name).utf8ByteSize > Path.maxLength then .error .nameTooLong
    else readNode (tree.get? (place ++ [name])) := by
  rw [readText, lookup_join found named]
  split
  · rfl
  · cases tree.get? (place ++ [name]) with
    | none => rfl
    | some node =>
      cases node with
      | directory => rfl
      | file bytes =>
        simp only [bind, Except.bind, readNode]
        cases String.fromUTF8? bytes <;> rfl

theorem writable_join : tree.writable (Path.join directory name) =
    if (Path.join directory name).utf8ByteSize > Path.maxLength then .error .nameTooLong
    else if tree.get? (place ++ [name]) = some .directory then .error .isDirectory
    else .ok (place ++ [name]) := by
  obtain ⟨walk, walked, followed, stands⟩ := (lookup_directory_iff ..).mp found
  rw [writable, Path.walk?_join walked named]
  split
  · rfl
  · have fits := Nat.not_lt.mpr named.short
    simp only [bind, Except.bind, List.getLast?_concat, List.dropLast_concat, followed, stands]
    simp [named.ne_here, named.ne_up, fits, throw, throwThe, MonadExceptOf.throw, pure,
      Except.pure]

end Entry

end Hardening.Files.Tree

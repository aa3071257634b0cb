import Hardening.Files.Tree

/-!
# Paths of directory entries

The path of an entry is walked like the path of its directory, however that is spelled, and then one
segment further. So what a path of an entry leads to is known from where its directory is.
-/
namespace Hardening.Files

namespace Path

/-- A text that can name an entry of a directory. -/
structure IsName (name : String) : Prop where
  filled : name ≠ ""
  ne_here : name ≠ "."
  ne_up : name ≠ ".."
  unslashed : '/' ∉ name.toList
  proper : '\x00' ∉ name.toList
  short : name.utf8ByteSize ≤ 255

instance (name : String) : Decidable (IsName name) :=
  decidable_of_iff (name ≠ "" ∧ name ≠ "." ∧ name ≠ ".." ∧ '/' ∉ name.toList ∧
      '\x00' ∉ name.toList ∧ name.utf8ByteSize ≤ 255)
    ⟨fun ⟨filled, here, up, unslashed, proper, short⟩ =>
        ⟨filled, here, up, unslashed, proper, short⟩,
      fun ⟨filled, here, up, unslashed, proper, short⟩ =>
        ⟨filled, here, up, unslashed, proper, short⟩⟩

/-- There is exactly one slash between a directory and a name, unless the directory is not named. -/
theorem join_cases (directory name : String) :
    directory = "" ∧ join directory name = name ∨
      ∃ front, (directory = front ∨ directory = front ++ "/") ∧
        join directory name = front ++ "/" ++ name := by
  by_cases unnamed : directory = ""
  · exact Or.inl ⟨unnamed, by simp [join, unnamed]⟩
  · right
    by_cases slashed : directory.toList.getLast? = some '/'
    · obtain ⟨front, written⟩ := List.getLast?_eq_some_iff.mp slashed
      have ends : directory = String.ofList front ++ "/" :=
        String.toList_inj.mp (by rw [written]; simp)
      exact ⟨String.ofList front, Or.inr ends, by simp [join, slashed, ← ends]⟩
    · exact ⟨directory, Or.inl rfl, by simp [join, unnamed, slashed]⟩

theorem le_utf8ByteSize_join (directory name : String) :
    directory.utf8ByteSize + name.utf8ByteSize ≤ (join directory name).utf8ByteSize := by
  unfold join
  split
  · exact Nat.le_of_eq String.utf8ByteSize_append.symm
  · rw [String.utf8ByteSize_append, String.utf8ByteSize_append]
    omega

theorem segments_append (front back : String) :
    segments (front ++ "/" ++ back) = segments front ++ segments back := by
  simp [segments, List.splitOn_append_cons_self]

theorem segments_of_name {name : String} (named : IsName name) : segments name = [name] := by
  have visible : name.toList ≠ [] := by simpa using named.filled
  simp [segments, List.splitOn_eq_singleton named.unslashed, visible]

theorem segments_join (directory : String) {name : String} (named : IsName name) :
    segments (join directory name) = segments directory ++ [name] := by
  rcases join_cases directory name with ⟨rfl, joined⟩ | ⟨front, rfl | rfl, joined⟩
  · rw [joined, segments_of_name named]
    rfl
  · rw [joined, segments_append, segments_of_name named]
  · have ends := segments_append front ""
    rw [String.append_empty] at ends
    rw [joined, segments_append, ends, segments_of_name named]
    simp [segments]

/-- The walk of an entry's path is that of its directory and one segment more, unless the path is
too long to be looked up. -/
theorem walk?_join {directory name : String} {walk : Walk} (walked : walk? directory = .ok walk)
    (named : IsName name) :
    walk? (join directory name) =
      if (join directory name).utf8ByteSize > maxLength then .error .nameTooLong
      else .ok ⟨walk.segments ++ [name], false⟩ := by
  -- A path that has a walk is proper and has a segment or a slash to it.
  have known : '\x00' ∉ directory.toList ∧ walk.segments = segments directory := by
    unfold walk? at walked
    split at walked
    · cases walked
    next proper =>
      split at walked
      · cases walked
      · split at walked
        · cases walked
        · cases walked
          exact ⟨by simpa using proper, rfl⟩
  have proper : '\x00' ∉ (join directory name).toList := by
    rcases join_cases directory name with ⟨rfl, joined⟩ | ⟨front, rfl | rfl, joined⟩ <;>
      simp_all [named.proper]
  have filled : join directory name ≠ "" := by
    rcases join_cases directory name with ⟨-, joined⟩ | ⟨front, -, joined⟩ <;>
      simp [joined, named.filled]
  have last : (join directory name).toList.getLast? ≠ some '/' := by
    have visible : name.toList ≠ [] := by simpa using named.filled
    have unslashed : name.toList.getLast? ≠ some '/' := fun ends =>
      named.unslashed (List.mem_of_getLast? ends)
    rcases join_cases directory name with ⟨-, joined⟩ | ⟨front, -, joined⟩
    · rwa [joined]
    · rwa [joined, String.toList_append, List.getLast?_append,
        List.getLast?_eq_some_getLast visible, Option.some_or, ← List.getLast?_eq_some_getLast]
  simp [walk?, proper, filled, last, segments_join directory named, known.2]

end Path
end Hardening.Files

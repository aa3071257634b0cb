import Hardening.Files.Tree

/-!
# Growing trees

Making directories takes nothing away from a tree, and neither does writing files where no directory
is. So a path that leads to a directory goes on leading there, whatever is made meanwhile.
-/
namespace Hardening.Files.Tree

/-- Nothing has disappeared, and what was a directory is one. -/
structure Extends (before after : Tree) : Prop where
  present : ∀ {location}, (before.get? location).isSome → (after.get? location).isSome
  directory : ∀ {location},
    before.get? location = some .directory → after.get? location = some .directory

/-- Nothing but directories has been added. -/
structure AddsDirectories (before after : Tree) : Prop where
  directory : ∀ {location},
    before.get? location = some .directory → after.get? location = some .directory
  file : ∀ {location bytes},
    after.get? location = some (.file bytes) ↔ before.get? location = some (.file bytes)

namespace AddsDirectories

theorem refl (tree : Tree) : tree.AddsDirectories tree := ⟨id, Iff.rfl⟩

theorem trans {first second third : Tree} (earlier : first.AddsDirectories second)
    (later : second.AddsDirectories third) : first.AddsDirectories third :=
  ⟨fun stands => later.directory (earlier.directory stands), later.file.trans earlier.file⟩

theorem set {tree : Tree} {location : Location} (named : location ≠ [])
    (free : tree.get? location = none) :
    tree.AddsDirectories (tree.set location .directory) := by
  constructor
  · intro other stands
    by_cases same : other = location
    · rw [same, get?_set_self tree location .directory named]
    · rwa [get?_set_of_ne tree location other .directory same]
  · intro other bytes
    by_cases same : other = location
    · simp [same, get?_set_self tree location .directory named, free]
    · rw [get?_set_of_ne tree location other .directory same]

theorem grown {before after : Tree} (adds : before.AddsDirectories after) :
    before.Extends after := by
  refine ⟨fun {location} present => ?_, adds.directory⟩
  obtain ⟨node, stands⟩ := Option.isSome_iff_exists.mp present
  cases node with
  | directory => rw [adds.directory stands]; rfl
  | file bytes => rw [adds.file.mpr stands]; rfl

end AddsDirectories

/-- A step leads out of a directory, and to something if it is by a name. -/
theorem step_eq_ok_iff (tree : Tree) (here place : Location) (segment : String) :
    tree.step here segment = .ok place ↔ tree.get? here = some .directory ∧
      (segment = "." ∧ place = here ∨ segment = ".." ∧ place = here.dropLast ∨
        segment ≠ "." ∧ segment ≠ ".." ∧ segment.utf8ByteSize ≤ 255 ∧
          (tree.get? (here ++ [segment])).isSome ∧ place = here ++ [segment]) := by
  unfold step
  split
  next stands => grind
  next stands => simp [stands]
  next missing => simp [missing]

theorem follow_cons (tree : Tree) (here place : Location) (segment : String)
    (segments : List String) :
    tree.follow here (segment :: segments) = .ok place ↔
      ∃ next, tree.step here segment = .ok next ∧ tree.follow next segments = .ok place := by
  rw [follow, List.foldlM_cons]
  cases tree.step here segment <;> simp [bind, Except.bind, follow]

theorem follow_append (tree : Tree) (here place : Location) (front back : List String) :
    tree.follow here (front ++ back) = .ok place ↔
      ∃ next, tree.follow here front = .ok next ∧ tree.follow next back = .ok place := by
  rw [follow, List.foldlM_append]
  change (tree.follow here front >>= _) = _ ↔ _
  cases tree.follow here front <;> simp [bind, Except.bind, follow]

/-- A walk ends at a directory. -/
def LeadsTo (tree : Tree) (walk : Walk) (place : Location) : Prop :=
  tree.follow [] walk.segments = .ok place ∧ tree.get? place = some .directory

theorem locate_eq_ok_iff (tree : Tree) (walk : Walk) (place : Location) :
    tree.locate walk = .ok place ∧ tree.get? place = some .directory ↔ tree.LeadsTo walk place := by
  unfold locate LeadsTo
  cases followed : tree.follow [] walk.segments with
  | error cause => simp [bind, Except.bind]
  | ok location =>
    simp only [bind, Except.bind, Except.ok.injEq]
    constructor
    · rintro ⟨located, stands⟩
      split at located
      · cases located
      · cases located
        exact ⟨rfl, stands⟩
    · rintro ⟨rfl, stands⟩
      simp [stands, pure, Except.pure]

theorem lookup_directory_iff (tree : Tree) (path : String) (place : Location) :
    tree.lookup path = .ok (place, .directory) ↔
      ∃ walk, Path.walk? path = .ok walk ∧ tree.LeadsTo walk place := by
  unfold lookup
  cases walked : Path.walk? path with
  | error cause => simp [bind, Except.bind]
  | ok walk =>
    simp only [bind, Except.bind, Except.ok.injEq, exists_eq_left', ← locate_eq_ok_iff]
    cases tree.locate walk with
    | error cause => simp
    | ok location =>
      simp only [Except.ok.injEq]
      cases node : tree.get? location <;>
        simp [pure, Except.pure, throw, throwThe, MonadExceptOf.throw] <;> grind

theorem resolve_of_lookup {tree : Tree} {path : String} {place : Location} {node : Node}
    (found : tree.lookup path = .ok (place, node)) : tree.resolve path = .ok place := by
  rw [resolve, found]
  rfl

/-- The empty path leads nowhere. -/
theorem resolve_empty (tree : Tree) : tree.resolve "" = .error .notFound := rfl

section Extends

variable {before after : Tree} (grown : before.Extends after)

include grown

theorem follow_of_extends {here place : Location} {segments : List String}
    (followed : before.follow here segments = .ok place) :
    after.follow here segments = .ok place := by
  induction segments generalizing here with
  | nil => exact followed
  | cons segment segments ih =>
    -- Each step asks for a directory to leave and for something to go to, and both are still there.
    obtain ⟨next, stepped, further⟩ := (follow_cons ..).mp followed
    obtain ⟨stands, led⟩ := (step_eq_ok_iff ..).mp stepped
    refine (follow_cons ..).mpr ⟨next, (step_eq_ok_iff ..).mpr ⟨grown.directory stands, ?_⟩,
      ih further⟩
    rcases led with here' | up | ⟨notHere, notUp, short, present, rfl⟩
    · exact Or.inl here'
    · exact Or.inr (Or.inl up)
    · exact Or.inr (Or.inr ⟨notHere, notUp, short, grown.present present, rfl⟩)

theorem leadsTo_of_extends {walk : Walk} {place : Location} (leads : before.LeadsTo walk place) :
    after.LeadsTo walk place :=
  ⟨follow_of_extends grown leads.1, grown.directory leads.2⟩

theorem lookup_of_extends {path : String} {place : Location}
    (found : before.lookup path = .ok (place, .directory)) :
    after.lookup path = .ok (place, .directory) := by
  obtain ⟨walk, walked, leads⟩ := (lookup_directory_iff ..).mp found
  exact (lookup_directory_iff ..).mpr ⟨walk, walked, leadsTo_of_extends grown leads⟩

end Extends

theorem leadsTo_of_isDirectory {tree : Tree} {walk : Walk} (stands : tree.isDirectory walk = true) :
    ∃ place, tree.LeadsTo walk place := by
  unfold isDirectory at stands
  split at stands
  next place located =>
    exact ⟨place, (locate_eq_ok_iff ..).mp ⟨located, by simpa using stands⟩⟩
  next => cases stands

/-- A made directory is where its walk leads, and the only thing added. -/
theorem makeDirectory_eq_ok {tree made : Tree} {walk : Walk}
    (done : tree.makeDirectory walk = .ok made) :
    tree.AddsDirectories made ∧ ∃ place, made.LeadsTo walk place := by
  unfold makeDirectory at done
  split at done
  next => cases done
  next last ends =>
    obtain ⟨front, written⟩ := List.getLast?_eq_some_iff.mp ends
    rw [written, List.dropLast_concat] at done
    cases followed : tree.follow [] front with
    | error cause => simp [followed, bind, Except.bind] at done
    | ok parent =>
      simp only [followed, bind, Except.bind] at done
      split at done
      next stands =>
        obtain ⟨⟨notHere, notUp⟩, short, free, rfl⟩ : (last ≠ "." ∧ last ≠ "..") ∧
            last.utf8ByteSize ≤ 255 ∧ ¬(tree.get? (parent ++ [last])).isSome ∧
            tree.set (parent ++ [last]) .directory = made := by
          simp only [throw, throwThe, MonadExceptOf.throw, pure, Except.pure] at done
          grind
        -- The way to the parent is as before, and the new directory is one step behind it.
        have named : parent ++ [last] ≠ [] := List.concat_ne_nil _ _
        have adds := AddsDirectories.set named (Option.not_isSome_iff_eq_none.mp free)
        have self := get?_set_self tree (parent ++ [last]) .directory named
        have stepped := (step_eq_ok_iff (tree.set (parent ++ [last]) .directory) parent
          (parent ++ [last]) last).mpr ⟨adds.directory stands,
            Or.inr (Or.inr ⟨notHere, notUp, short, by rw [self]; rfl, rfl⟩)⟩
        refine ⟨adds, parent ++ [last], ?_, self⟩
        rw [written, follow_append]
        exact ⟨parent, follow_of_extends adds.grown followed,
          (follow_cons ..).mpr ⟨_, stepped, rfl⟩⟩
      next => cases done
      next => cases done

/-- Making the directories on the way adds directories only, and so does making the last one. -/
theorem makeAfter_spec {ancestors : Tree → Except OsError Unit × Tree}
    (adds : ∀ tree : Tree, tree.AddsDirectories (ancestors tree).2) (walk : Walk) (tree : Tree) :
    tree.AddsDirectories (makeAfter walk ancestors tree).2 ∧
      ((makeAfter walk ancestors tree).1 = .ok () →
        ∃ place, (makeAfter walk ancestors tree).2.LeadsTo walk place) := by
  unfold makeAfter
  split
  next made done =>
    exact ⟨(makeDirectory_eq_ok done).1, fun _ => (makeDirectory_eq_ok done).2⟩
  -- The directory on the way was missing, so it is made first.
  next =>
    have way := adds tree
    split
    next cause made stopped =>
      rw [stopped] at way
      exact ⟨way, nofun⟩
    next between cleared =>
      rw [cleared] at way
      split
      next made done =>
        obtain ⟨further, leads⟩ := makeDirectory_eq_ok done
        exact ⟨way.trans further, fun _ => leads⟩
      next =>
        refine ⟨way, fun fine => leadsTo_of_isDirectory ?_⟩
        split at fine
        · assumption
        · cases fine
  -- The directory could not be made, which is fine if it is there.
  next =>
    refine ⟨.refl tree, fun fine => leadsTo_of_isDirectory ?_⟩
    split at fine
    · assumption
    · cases fine

theorem addsDirectories_makeComponents (components : List String) (tree : Tree) :
    tree.AddsDirectories (makeComponents components tree).2 := by
  induction components generalizing tree with
  | nil => exact .refl tree
  | cons last up ih => exact (makeAfter_spec ih ⟨(last :: up).reverse, false⟩ tree).1

theorem addsDirectories_makeDirectories (tree : Tree) (path : String) :
    tree.AddsDirectories (tree.makeDirectories path).2 := by
  unfold makeDirectories
  split
  · exact .refl tree
  · split
    · exact .refl tree
    · exact (makeAfter_spec (addsDirectories_makeComponents _) _ tree).1

/-- A directory that has been made, with those on its way, is where its path leads. -/
theorem lookup_makeDirectories {tree made : Tree} {path : String} (named : path ≠ "")
    (done : tree.makeDirectories path = (.ok (), made)) :
    ∃ place, made.lookup path = .ok (place, .directory) := by
  rw [makeDirectories, if_neg named] at done
  cases walked : Path.walk? path with
  | error cause => simp [walked] at done
  | ok walk =>
    rw [walked] at done
    have spec := (makeAfter_spec (addsDirectories_makeComponents
      (Path.components path).dropLast.reverse) walk tree).2
    dsimp only at done
    rw [done] at spec
    obtain ⟨place, leads⟩ := spec rfl
    exact ⟨place, (lookup_directory_iff ..).mpr ⟨walk, walked, leads⟩⟩

end Hardening.Files.Tree

import Hardening.Files.Tree

/-!
# Access to files and to standard output

The commands reach files and standard output through six operations, so they run on a tree held in
memory as well as on a real system.
-/
namespace Hardening.Files

/-- The operations on files and standard output that the commands use. -/
structure Access (m : Type → Type) where
  readText : String → m (Except OsError String)
  writeText : String → String → m (Except OsError Unit)
  /-- The names of the regular files in a directory, in order. -/
  listFiles : String → m (Except OsError (List String))
  /-- Makes a directory and those it lies in. -/
  makeDirectories : String → m (Except OsError Unit)
  /-- The names on the way from the root to where a path leads. -/
  resolve : String → m (Except OsError Location)
  /-- Puts a text on standard output and flushes it. -/
  print : String → m (Except OsError Unit)

namespace Access

/-- Access to a tree held as state. Standard output takes every text. -/
def tree : Access (StateM Tree) where
  readText path := do return (← get).readText path
  writeText path content := do
    match (← get).writeText path content with
    | .ok changed =>
      set changed
      return .ok ()
    | .error cause => return .error cause
  listFiles path := do return (← get).listFiles path
  makeDirectories path := do
    let (result, changed) := (← get).makeDirectories path
    set changed
    return result
  resolve path := do return (← get).resolve path
  print _ := return .ok ()

/-- The same files with a standard output that takes some texts and refuses others. -/
def printing [Monad m] (files : Access m) (takes : String → Except OsError Unit) : Access m :=
  { files with print := fun text => return takes text }

section Tree

variable (files : Tree) (path : String)

@[simp] theorem run_readText : (tree.readText path).run files = pure (files.readText path, files) :=
  rfl

@[simp] theorem run_writeText (content : String) :
    (tree.writeText path content).run files = match files.writeText path content with
      | .ok changed => pure (.ok (), changed)
      | .error cause => pure (.error cause, files) := by
  simp only [tree, StateT.run_bind, StateT.run_get, pure_bind]
  cases files.writeText path content <;> rfl

@[simp] theorem run_listFiles :
    (tree.listFiles path).run files = pure (files.listFiles path, files) := rfl

@[simp] theorem run_makeDirectories :
    (tree.makeDirectories path).run files = pure (files.makeDirectories path) := rfl

@[simp] theorem run_resolve : (tree.resolve path).run files = pure (files.resolve path, files) := rfl

@[simp] theorem run_print (text : String) : (tree.print text).run files = pure (.ok (), files) := rfl

end Tree

section Printing

variable [Monad m] (files : Access m) (takes : String → Except OsError Unit) (path : String)

@[simp] theorem readText_printing : (files.printing takes).readText path = files.readText path :=
  rfl

@[simp] theorem writeText_printing (content : String) :
    (files.printing takes).writeText path content = files.writeText path content := rfl

@[simp] theorem print_printing (text : String) :
    (files.printing takes).print text = pure (takes text) := rfl

end Printing

end Access
end Hardening.Files

import Hardening.Proofs.BatchFiles

/-!
# Exit status and partial output

A command that stops has, with one exception, left nothing behind: what can go wrong goes wrong
before its only write, and a write that fails writes nothing. The exception is the report, which is
written after the output. The status 2 is reserved for a submission without content. Standard output
may refuse a text; a command that cannot put out its result there stops like any other.
-/
namespace Hardening.Command

open Files

/-- The configuration of a run: the stock one, or what the named file holds. -/
inductive Loads (tree : Tree) : Option String → Config → Prop
  | stock : Loads tree none .stock
  | file {path text : String} {config : Config} (read : tree.readText path = .ok text)
      (valid : Config.load text = .ok config) : Loads tree (some path) config

/-- A content has been put out, in a file or on a standard output that takes it. -/
inductive PutOut (takes : String → Except OsError Unit) (tree : Tree) (content : String) :
    Option String → String → Tree → Prop
  | printed (taken : takes content = .ok ()) : PutOut takes tree content none content tree
  /-- The path `-` stands for standard output. -/
  | dashed (taken : takes content = .ok ()) : PutOut takes tree content (some "-") content tree
  | filed {path : String} {after : Tree} (named : path ≠ "-")
      (written : tree.writeText path content = .ok after) :
      PutOut takes tree content (some path) "" after

theorem Loads.unique {tree : Tree} {path : Option String} {config other : Config}
    (one : Loads tree path config) (two : Loads tree path other) : config = other := by
  cases one with
  | stock =>
    cases two
    rfl
  | file read valid =>
    cases two with
    | file readToo validToo =>
      cases read.symm.trans readToo
      exact Except.ok.inj (valid.symm.trans validToo)

/-- A submission that is there and has no content. -/
def IsBlank (source : Except OsError String) : Prop :=
  ∃ text, source = .ok text ∧ Text.isBlankText text = true

section Steps

variable (tree : Tree) (input : Except OsError String) (takes : String → Except OsError Unit)
  (stamp : Stamp)

end Steps

/-- How the work on one submission ends. -/
inductive Ends (takes : String → Except OsError Unit) (tree : Tree) (config : Config)
    (source : Except OsError String) : Action → Outcome → Tree → Prop
  | blank {action : Action} {logs : List Log.Line} (blank : IsBlank source) :
    Ends takes tree config source action
      (.stopped (.refused (.invalidInput missingContent)) "" logs) tree
  | stopped {action : Action} {trouble : Trouble} {logs : List Log.Line}
      (filled : ¬ IsBlank source) (other : trouble.isInvalidInput = false) :
    Ends takes tree config source action (.stopped trouble "" logs) tree
  /-- The output is out, but the report is not. -/
  | unreported {input report text stdout : String} {out : Option String} {hardened : Hardened}
      {after : Tree} {cause : OsError} {logs : List Log.Line} (filled : ¬ IsBlank source)
      (read : source = .ok text) (accepted : hardenChecked config text = .ok hardened)
      (output : PutOut takes tree hardened.content out stdout after)
      (stuck : after.writable report = .error cause) :
    Ends takes tree config source (.harden input out (some report))
      (.stopped (.badReport report cause) stdout logs) after
  | done {action : Action} {stdout : String} {after : Tree} {logs : List Log.Line}
      (filled : ¬ IsBlank source) :
    Ends takes tree config source action (.success stdout logs) after

namespace Ends

variable {takes : String → Except OsError Unit} {tree after : Tree} {config : Config}
  {source : Except OsError String} {action : Action} {outcome : Outcome}
  (ends : Ends takes tree config source action outcome after)

include ends

end Ends

section Submission

variable (tree : Tree) (input : Except OsError String) (takes : String → Except OsError Unit)
  (stamp : Stamp) (config : Config)

end Submission

section Counts

variable (tree : Tree) (takes : String → Except OsError Unit)

end Counts

section Request

variable (tree : Tree) (input : Except OsError String) (takes : String → Except OsError Unit)
  (stamp : Stamp) (order : List Nat)

end Request

end Hardening.Command

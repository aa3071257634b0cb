import Hardening.Digest
import Hardening.Harden
import Hardening.Text.Markup

/-!
# Comparisons

A comparison shows a build file before and after hardening, with abbreviated digests and the list
of changes, as plain text or as a page of HTML. In the page every value is escaped; in the plain
text the two documents stand as they are. Values are never expanded again.
-/
namespace Hardening

/-- A change as it is displayed. -/
structure ShownChange where
  line : Nat
  rule : String
  description : String
  after : String
  deriving Repr, DecidableEq

/-- What a comparison shows. -/
structure Comparison where
  /-- The text before hardening. -/
  source : String
  hardened : String
  sourceDigest : String
  hardenedDigest : String
  changeCount : Nat
  changes : List ShownChange
  deriving Repr, DecidableEq

def Change.shown (change : Change) : ShownChange where
  line := change.line
  rule := change.rule.name
  description := change.rule.description
  after := change.after

namespace Comparison

open Text (Piece)
open Text.Piece

/-- Compares a text with its hardened form. -/
def of (source : String) (hardened : Hardened) : Comparison where
  source := source
  hardened := hardened.content
  sourceDigest := Digest.short source
  hardenedDigest := Digest.short hardened.content
  changeCount := hardened.report.changes.length
  changes := hardened.report.changes.map Change.shown

def number (n : Nat) : Piece :=
  escaped (toString n)

/-- A change in the plain text. -/
def textLine (change : ShownChange) : List Piece := [
  fixed "line ", number change.line, fixed ": ", escaped change.description, fixed "\n"]

/-- The plain text. -/
def textPieces (view : Comparison) : List Piece :=
  [fixed "=== Original Dockerfile (", escaped view.sourceDigest, fixed ") ===\n",
    verbatim view.source, fixed "\n\n",
    fixed "=== Hardened Dockerfile (", escaped view.hardenedDigest, fixed ") ===\n",
    verbatim view.hardened, fixed "\n\n",
    fixed "=== Changes (", number view.changeCount, fixed ") ===\n"] ++
  view.changes.flatMap textLine ++
  if view.changes.isEmpty then [fixed "No changes were needed.\n"] else []

/-- A change in the page. -/
def htmlItem (change : ShownChange) : List Piece := [
  fixed "      <li>line ", number change.line, fixed ": ", escaped change.description,
  fixed "<pre><code>", escaped change.after, fixed "</code></pre></li>\n"]

def htmlHead : String :=
  "<!DOCTYPE html>\n" ++
  "<html lang=\"en\">\n" ++
  "<head>\n" ++
  "  <meta charset=\"utf-8\">\n" ++
  "  <title>Hardened Dockerfile</title>\n" ++
  "</head>\n" ++
  "<body>\n" ++
  "  <h1>Dockerfile hardening result</h1>\n"

/-- The pieces of the page in front of the list of changes. -/
def htmlDocuments (view : Comparison) : List Piece := [
  fixed htmlHead,
  fixed "  <section>\n    <h2>Original <small>", escaped view.sourceDigest,
  fixed "</small></h2>\n    <pre><code>", escaped view.source,
  fixed "</code></pre>\n  </section>\n",
  fixed "  <section>\n    <h2>Hardened <small>", escaped view.hardenedDigest,
  fixed "</small></h2>\n    <pre><code>", escaped view.hardened,
  fixed "</code></pre>\n  </section>\n",
  fixed "  <section>\n    <h2>Changes (", number view.changeCount, fixed ")</h2>\n    <ul>\n"]

def htmlFoot : String :=
  "    </ul>\n  </section>\n</body>\n</html>\n"

/-- The page. -/
def htmlPieces (view : Comparison) : List Piece :=
  view.htmlDocuments ++ view.changes.flatMap htmlItem ++ [fixed htmlFoot]

def text (view : Comparison) : String :=
  render view.textPieces

def html (view : Comparison) : String :=
  render view.htmlPieces

end Comparison
end Hardening

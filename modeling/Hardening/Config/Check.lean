import Hardening.Config
import Hardening.Text.Blank
import Hardening.Failure

/-!
# Accepted configurations

A configuration is accepted when its names and tags are single words, no tag floats, table entries
are bare image names, and no cleanup command is blank. The check reports the first fault in a fixed
order; `check_eq_ok_iff` says that it passes exactly the accepted configurations.
-/
namespace Hardening.Config

open BaseImage (TagRule)

/-- What is wrong with a configuration. -/
inductive Fault where
  | notOneWord (field value : String)
  | imageNotBare (image : String)
  | tagNotPinned (tag : String)
  | blankCleanup
  deriving Repr, DecidableEq

namespace Fault

def message : Fault → String
  | notOneWord field value => field ++ " must be a single non-empty word, got '" ++ value ++ "'"
  | imageNotBare image =>
    "base_image_tags.image must be a bare image name, got '" ++ image ++ "'"
  | tagNotPinned tag => "'" ++ tag ++ "' is not a pinned tag"
  | blankCleanup => "package_cleanup entries must not be empty"

end Fault

/-- The word `latest` is the floating tag written without its colon. -/
def isPinnedTag (tag : String) : Bool :=
  !tag.toList.contains ':' && tag ≠ "latest"

/-- An image name without registry, namespace or tag. -/
def isBareImage (image : String) : Bool :=
  !image.toList.contains '/' && !image.toList.contains ':'

def checkWord (field value : String) : Except Fault Unit :=
  if Text.isWord value then .ok () else .error (.notOneWord field value)

def checkTag (tag : String) : Except Fault Unit := do
  checkWord "tag" tag
  if isPinnedTag tag then .ok () else .error (.tagNotPinned tag)

def checkBare (image : String) : Except Fault Unit :=
  if isBareImage image then .ok () else .error (.imageNotBare image)

def checkRule (rule : TagRule) : Except Fault Unit := do
  checkWord "base_image_tags.image" rule.image
  checkBare rule.image
  checkTag rule.tag

def checkCleanup (commands : List String) : Except Fault Unit :=
  if commands.any Text.isBlankText then .error .blankCleanup else .ok ()

def checkRules : List TagRule → Except Fault Unit
  | [] => .ok ()
  | rule :: rules => do
    checkRule rule
    checkRules rules

/-- Reports the first fault: user, group, default tag, then the table in order, then the cleanup
commands. -/
def check (config : Config) : Except Fault Unit := do
  checkWord "user" config.user
  checkWord "group" config.group
  checkTag config.defaultTag
  checkRules config.baseImageTags
  checkCleanup config.packageCleanup

/-- A tag that a pinned line can carry. -/
def TagAccepted (tag : String) : Prop :=
  Text.isWord tag = true ∧ isPinnedTag tag = true

/-- The configurations that the check lets through. -/
structure Accepted (config : Config) : Prop where
  user_word : Text.isWord config.user = true
  group_word : Text.isWord config.group = true
  default_tag : TagAccepted config.defaultTag
  rules : ∀ rule ∈ config.baseImageTags,
    Text.isWord rule.image = true ∧ isBareImage rule.image = true ∧ TagAccepted rule.tag
  cleanup : ∀ command ∈ config.packageCleanup, Text.isBlankText command = false

theorem checkWord_eq_ok_iff (field value : String) :
    checkWord field value = .ok () ↔ Text.isWord value = true := by
  unfold checkWord
  split <;> simp_all

theorem bind_eq_ok_iff (first second : Except Fault Unit) :
    (do first; second) = .ok () ↔ first = .ok () ∧ second = .ok () := by
  cases first <;> simp [bind, Except.bind]

theorem checkTag_eq_ok_iff (tag : String) : checkTag tag = .ok () ↔ TagAccepted tag := by
  unfold checkTag TagAccepted
  rw [bind_eq_ok_iff, checkWord_eq_ok_iff]
  split <;> simp_all

theorem checkBare_eq_ok_iff (image : String) : checkBare image = .ok () ↔ isBareImage image = true := by
  unfold checkBare
  split <;> simp_all

theorem checkRule_eq_ok_iff (rule : TagRule) :
    checkRule rule = .ok () ↔
      Text.isWord rule.image = true ∧ isBareImage rule.image = true ∧ TagAccepted rule.tag := by
  unfold checkRule
  rw [bind_eq_ok_iff, checkWord_eq_ok_iff, bind_eq_ok_iff, checkBare_eq_ok_iff,
    checkTag_eq_ok_iff]

theorem checkRules_eq_ok_iff (rules : List TagRule) :
    checkRules rules = .ok () ↔ ∀ rule ∈ rules, checkRule rule = .ok () := by
  induction rules with
  | nil => simp [checkRules]
  | cons rule rules ih => rw [checkRules, bind_eq_ok_iff, ih]; simp

theorem checkCleanup_eq_ok_iff (commands : List String) :
    checkCleanup commands = .ok () ↔ ∀ command ∈ commands, Text.isBlankText command = false := by
  unfold checkCleanup
  split <;> simp_all

theorem check_eq_ok_iff (config : Config) : check config = .ok () ↔ Accepted config := by
  unfold check
  simp only [bind_eq_ok_iff, checkWord_eq_ok_iff, checkTag_eq_ok_iff, checkRules_eq_ok_iff,
    checkRule_eq_ok_iff, checkCleanup_eq_ok_iff]
  exact ⟨fun ⟨user, group, default, rules, cleanup⟩ => ⟨user, group, default, rules, cleanup⟩,
    fun ⟨user, group, default, rules, cleanup⟩ => ⟨user, group, default, rules, cleanup⟩⟩

/-- Passes an accepted configuration on. -/
def validated (config : Config) : Except Failure Config :=
  match check config with
  | .ok () => .ok config
  | .error fault => .error (.config fault.message)

end Hardening.Config

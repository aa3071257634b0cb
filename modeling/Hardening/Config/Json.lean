import Hardening.Config
import Hardening.Json.Value

/-!
# Configurations as JSON

A configuration is read from an object with any of its fields, or from an array with its first
fields by position; what is missing has its stock value. A tag rule needs both its fields. Nothing
is checked beyond the kinds of the values.
-/
namespace Hardening

namespace BaseImage.TagRule

def toJson (rule : TagRule) : Json :=
  .object [("image", .string rule.image), ("tag", .string rule.tag)]

def ofJson? : Json → Option TagRule
  | .array [image, tag] => do return ⟨← image.string?, ← tag.string?⟩
  | .object fields => do
    return ⟨← (← Json.require? fields "image").string?, ← (← Json.require? fields "tag").string?⟩
  | _ => none

end BaseImage.TagRule

namespace Config

def toJson (config : Config) : Json :=
  .object [
    ("user", .string config.user),
    ("group", .string config.group),
    ("base_image_tags", .array (config.baseImageTags.map BaseImage.TagRule.toJson)),
    ("default_tag", .string config.defaultTag),
    ("package_cleanup", .strings config.packageCleanup)]

/-- Reads a value if it is there, and takes the given one if not. -/
def orStock (read : Json → Option α) (default : α) : Option Json → Option α
  | none => some default
  | some value => read value

def tagRules? (value : Json) : Option (List BaseImage.TagRule) := do
  (← value.array?).mapM BaseImage.TagRule.ofJson?

def commands? (value : Json) : Option (List String) := do
  (← value.array?).mapM Json.string?

def ofParts? (user group tags default cleanup : Option Json) : Option Config := do
  return {
    user := ← orStock Json.string? stock.user user
    group := ← orStock Json.string? stock.group group
    baseImageTags := ← orStock tagRules? stock.baseImageTags tags
    defaultTag := ← orStock Json.string? stock.defaultTag default
    packageCleanup := ← orStock commands? stock.packageCleanup cleanup }

def ofJson? : Json → Option Config
  | .array items =>
    if items.length ≤ 5 then
      ofParts? items[0]? items[1]? items[2]? items[3]? items[4]?
    else
      none
  | .object fields => do
    ofParts? (← Json.field? fields "user") (← Json.field? fields "group")
      (← Json.field? fields "base_image_tags") (← Json.field? fields "default_tag")
      (← Json.field? fields "package_cleanup")
  | _ => none

end Config
end Hardening

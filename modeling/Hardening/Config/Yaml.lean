import Hardening.Config.Check
import Hardening.Yaml.Node

/-!
# Configurations as YAML

A configuration is read from a mapping with any of its fields; scalars are taken as written,
whatever they look like, and a list that is left empty has no items. Unknown fields are left aside,
known ones may appear once. A blank text and a document without content are the stock
configuration. A document whose values are reached through too many aliases is refused. What has been
read is checked.
-/
namespace Hardening.Config

open Yaml (Node Loading)

/-- A scalar as text. -/
def yamlText (document : Yaml.Document) (node : Node) : Loading String := do
  match ← document.resolve node with
  | .scalar text _ => return text
  | _ => failure

/-- The items of a list. -/
def yamlItems (document : Yaml.Document) (node : Node) : Loading (List Node) := do
  match ← document.resolve node with
  | .sequence items => return items
  | node => if node.isAbsent then return [] else failure

/-- The entries of a mapping by the texts of their keys. -/
def yamlFields (document : Yaml.Document) (node : Node) : Loading (List (String × Node)) := do
  match ← document.resolve node with
  | .mapping entries =>
    entries.mapM fun (key, value) => do return (← yamlText document key, value)
  | node => if node.isAbsent then return [] else failure

/-- The value of a field, if it appears once; `some none` if it does not appear. -/
def yamlField? (fields : List (String × Node)) (name : String) : Option (Option Node) :=
  match fields.filter (·.1 = name) with
  | [] => some none
  | [field] => some (some field.2)
  | _ => none

def yamlTagRule (document : Yaml.Document) (node : Node) : Loading BaseImage.TagRule := do
  let fields ← yamlFields document node
  return {
    image := ← yamlText document (← (← yamlField? fields "image"))
    tag := ← yamlText document (← (← yamlField? fields "tag")) }

/-- Reads a field if it is there, and takes the given value if not. -/
def yamlOrStock (read : Node → Loading α) (default : α) : Option Node → Loading α
  | none => return default
  | some node => read node

def ofYamlNode (document : Yaml.Document) (root : Node) : Loading Config := do
  let fields ← yamlFields document root
  let text := yamlText document
  let list {α : Type} (read : Node → Loading α) (node : Node) : Loading (List α) := do
    (← yamlItems document node).mapM read
  return {
    user := ← yamlOrStock text stock.user (← yamlField? fields "user")
    group := ← yamlOrStock text stock.group (← yamlField? fields "group")
    baseImageTags := ← yamlOrStock (list (yamlTagRule document)) stock.baseImageTags
      (← yamlField? fields "base_image_tags")
    defaultTag := ← yamlOrStock text stock.defaultTag (← yamlField? fields "default_tag")
    packageCleanup := ← yamlOrStock (list text) stock.packageCleanup
      (← yamlField? fields "package_cleanup") }

/-- Reads a configuration without checking it. -/
def ofYaml? (text : String) : Option Config :=
  if Text.isBlankText text then
    some stock
  else do
    let document ← Yaml.Document.ofText? text
    match document.root with
    | none => some stock
    | some root => (ofYamlNode document root).run' document.maxJumps

/-- Reads a configuration and checks it. -/
def load (text : String) : Except Failure Config :=
  match ofYaml? text with
  | some config => validated config
  | none => .error .yaml

end Hardening.Config

/-!
# Tags for base images

An ordered table gives image names their tags; the first entry with a name decides, and a default
tag stands in for names without one. Registries and namespaces before the name do not matter.
-/
namespace Hardening.BaseImage

/-- A tag for one image name. -/
structure TagRule where
  /-- Compared with the last path component of a reference. -/
  image : String
  /-- Takes the place of the floating tag. -/
  tag : String
  deriving Repr, DecidableEq

/-- The part of a reference after its last slash. -/
def imageName (reference : String) : String :=
  String.ofList ((reference.toList.splitOn '/').getLast?.getD [])

/-- The tag for a reference: that of the first rule with its image name, else the default. -/
def tagFor (rules : List TagRule) (default : String) (reference : String) : String :=
  ((rules.find? (·.image = imageName reference)).map TagRule.tag).getD default

end Hardening.BaseImage

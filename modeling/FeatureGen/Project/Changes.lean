import FeatureGen.Project.Basic

/-!
# What has changed in a project

A run gives a new project; `changes` lists what has to be written so that the old one becomes it.
-/

namespace FeatureGen.Project

/-- What stands in a project and did not stand there before, with directories before what is in
them. -/
def changes (before after : Project) : List (Path × Node) :=
  match after.descendants (Path.ofString "/") with
  | .error _ => []
  | .ok found => found.filter fun (path, node) => before.tree.get? path.names != some node

end FeatureGen.Project

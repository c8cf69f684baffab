import ServerConfig.Toml.Document

/-!
# What the readers of TOML documents leave

Every reader leaves an end of the text it was given.  For the parts of a
document that have no failures of their own, `Leaves` says no more than that;
of the digits of a number it is also known where they stood.
-/

namespace ServerConfig.Toml

end ServerConfig.Toml

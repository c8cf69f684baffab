import ServerConfig.Binary64
import ServerConfig.Entries

/-!
# JSON values

Integers and floating-point numbers are kept apart, floating-point numbers
include the non-finite ones, and the members of an object keep their order.
-/

namespace ServerConfig

inductive Json where
  | null
  | bool (value : Bool)
  | integer (value : Int)
  | float (value : Binary64)
  | string (value : String)
  | array (items : List Json)
  | object (members : List (String × Json))
deriving Inhabited, Repr, BEq

namespace Json

/-- Members of an object in order, each name once. -/
abbrev Members := Entries Json

end Json

end ServerConfig

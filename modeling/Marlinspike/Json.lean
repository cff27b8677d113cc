import Mathlib.Data.Rat.Defs
import Marlinspike.PyDict

/-! Values as `json.loads` returns them; a `bool` is also an `int`. -/
namespace Marlinspike

inductive Json where
  | null
  | bool (b : Bool)
  | int (i : Int)
  | float (r : Rat)
  | str (s : String)
  | arr (items : List Json)
  | obj (items : List (String × Json))

namespace Json

/-- `isinstance(v, int)`, and its value as an integer. -/
def asInt : Json → Option Int
  | .bool b => some (if b then 1 else 0)
  | .int i => some i
  | _ => none

def asStr : Json → Option String
  | .str s => some s
  | _ => none

/-- `bool(v)`. -/
def truthy : Json → Bool
  | .null => false
  | .bool b => b
  | .int i => i ≠ 0
  | .float r => r ≠ 0
  | .str s => s ≠ ""
  | .arr items => !items.isEmpty
  | .obj items => !items.isEmpty

end Json
end Marlinspike

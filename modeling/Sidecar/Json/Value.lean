import Sidecar.Json.Number
/-! Request values: null, booleans, numbers, strings, arrays and objects.

An object holds one entry per key, in byte order of the keys; adding an entry whose key is
already there replaces that entry's value (`insertEntry`). -/
namespace Sidecar.Json

inductive Value where
  | null
  | bool (b : Bool)
  | num (n : Number)
  | str (s : String)
  | arr (xs : Array Value)
  | obj (entries : Array (String × Value))
deriving Inhabited

/-- Adds an entry to an object's entries, keeping the keys in order and each key once. -/
def insertEntry (entries : Array (String × Value)) (k : String) (v : Value) :
    Array (String × Value) :=
  let (lo, hi) := (entries.toList.filter (·.1 != k)).partition fun e => decide (e.1 < k)
  (lo ++ [(k, v)] ++ hi).toArray

/-- The value of a key of an object, an explicit null included; none for a missing key or a
value that is not an object. -/
def Value.field? (j : Value) (k : String) : Option Value :=
  match j with
  | .obj entries => (entries.find? (·.1 == k)).map (·.2)
  | _ => none

/-- The number of a value that is an unsigned integer of at most 64 bits. -/
def Value.asNat? : Value → Option Nat
  | .num (.unsigned n) => some n
  | _ => none

def Value.asFloat? : Value → Option Float
  | .num n => some n.toFloat
  | _ => none

def Value.asText? : Value → Option String
  | .str s => some s
  | _ => none

def Value.asBool? : Value → Option Bool
  | .bool b => some b
  | _ => none

end Sidecar.Json

/-
  Data of JavaScript: what a parsed JSON text is made of, and buffers of bytes.
-/
import NovaLabs.Lib.JsString
import Mathlib.Data.Rat.Defs

namespace Lib

/-- An object lists its fields in their order. -/
inductive JsData
  | null
  | bool (b : Bool)
  | number (n : ℚ)
  | string (s : JsString)
  | buffer (bytes : List UInt8)
  | array (items : List JsData)
  | object (fields : List (JsString × JsData))

namespace JsData

/-- An index as a key. -/
def indexKey (i : ℕ) : JsString := (Nat.toDigits 10 i).map codeUnit

/-- The items of an array with their keys. -/
def indexed (items : List JsData) : List (JsString × JsData) :=
  items.zipIdx.map fun (item, i) => (indexKey i, item)

/-- `Object.entries`, of an object. -/
def entries : JsData → List (JsString × JsData)
  | array items => indexed items
  | buffer bytes => indexed (bytes.map fun b => number b.toNat)
  | object fields => fields
  | null | bool _ | number _ | string _ => []

end JsData

end Lib

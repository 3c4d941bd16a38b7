import Windhawk.Js.Builtins

/-! The stores the TypeScript sources write through: INI files as the `ini` module parses
them, and registry values as `native-reg` reads and writes them. -/

set_option autoImplicit false

namespace Windhawk.Js

abbrev IniFile := Object (Object String)

/-- A registry value: `REG_SZ`, or `REG_DWORD` holding a 32-bit unsigned number. -/
inductive RegValue where
  | sz (value : String)
  | dword (value : Int)
  deriving DecidableEq, Repr

def RegValue.sz? : RegValue → Option String
  | .sz value => some value
  | .dword _ => none

def RegValue.dword? : RegValue → Option Int
  | .dword value => some value
  | .sz _ => none

/-- `setValueDWORD`, which stores the number as 32 bits. The callers write numbers that
fit: booleans as 0 or 1, settings after `>>> 0`, and clock readings. -/
def setValueDWORD (value : Int) : RegValue := .dword (toUint32 value)

/-- The writers' `typeof value === 'number' ? setValueDWORD : setValueSZ`; `NaN`, which no
codec writes, becomes 0 as `ToUint32` makes it. -/
def RegValue.ofScalar : Scalar → RegValue
  | .str value => .sz value
  | .num value => setValueDWORD value
  | .nan => setValueDWORD 0

theorem toUint32_of_lt {value : Int} (low : 0 ≤ value) (high : value < 2 ^ 32) :
    toUint32 value = value :=
  Int.emod_eq_of_lt low high

theorem dword_setValueDWORD {value : Int} (low : 0 ≤ value) (high : value < 2 ^ 32) :
    (setValueDWORD value).dword? = some value := by
  simp [setValueDWORD, RegValue.dword?, toUint32_of_lt low high]

end Windhawk.Js

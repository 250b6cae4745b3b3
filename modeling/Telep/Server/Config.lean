import Mathlib.Algebra.GroupWithZero.Nat
import Mathlib.Data.Rat.Defs

/-!
# Limits and thresholds of the server (`config.h`)
-/

namespace Telep

/-- Bytes per message, including the line feed. -/
abbrev maxLine : Nat := 1024
abbrev maxArgs : Nat := 8
abbrev maxNodeId : Nat := 16
abbrev maxVars : Nat := 8
abbrev maxVarName : Nat := 8

abbrev maxNodes : Nat := 64
/-- Slots of the alert ring. -/
abbrev maxAlerts : Nat := 128
/-- Seconds without telemetry after which a node is inactive. -/
abbrev activeTimeout : Int := 15
abbrev sessionLimit : Nat := 65536

instance : NeZero maxAlerts := ⟨Nat.succ_ne_zero 127⟩

instance : NeZero sessionLimit := ⟨Nat.succ_ne_zero 65535⟩

/-! A value above its threshold raises the alert `<VAR>_HIGH`. -/

def tempMax : ℚ := 40
def humMax : ℚ := 85
def powerMax : ℚ := 500
def vibMax : ℚ := 7

end Telep

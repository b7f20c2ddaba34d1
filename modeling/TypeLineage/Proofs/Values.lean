import Mathlib.Tactic.Common
import TypeLineage.Setting.Value

/-!
# Equality of configuration values

Values are compared part by part, so that it can be decided what a file holds.
-/

namespace TypeLineage.Value

mutual

/-- Compares values part by part. -/
def same : Value → Value → Bool
  | .null, .null => true
  | .flag a, .flag b => a = b
  | .integer m, .integer n => m = n
  | .real x, .real y => x = y
  | .text s, .text t => s = t
  | .moment m, .moment n => m = n
  | .list vs, .list ws => sameItems vs ws
  | .table es, .table fs => sameEntries es fs
  | _, _ => false

def sameItems : List Value → List Value → Bool
  | [], [] => true
  | v :: vs, w :: ws => same v w && sameItems vs ws
  | _, _ => false

def sameEntries : List (String × Value) → List (String × Value) → Bool
  | [], [] => true
  | (k, v) :: es, (l, w) :: fs => k = l && same v w && sameEntries es fs
  | _, _ => false

end

mutual

theorem same_iff : ∀ {v w : Value}, same v w = true ↔ v = w
  | .null, w | .flag _, w | .integer _, w | .real _, w | .text _, w | .moment _, w => by
    cases w <;> simp [same]
  | .list vs, w => by
    cases w <;> simp [same, sameItems_iff]
  | .table es, w => by
    cases w <;> simp [same, sameEntries_iff]

theorem sameItems_iff : ∀ {vs ws : List Value}, sameItems vs ws = true ↔ vs = ws
  | [], ws => by
    cases ws <;> simp [sameItems]
  | v :: vs, ws => by
    cases ws <;> simp [sameItems, same_iff, sameItems_iff]

theorem sameEntries_iff : ∀ {es fs : List (String × Value)}, sameEntries es fs = true ↔ es = fs
  | [], fs => by
    cases fs <;> simp [sameEntries]
  | (k, v) :: es, fs => by
    cases fs <;> simp [sameEntries, same_iff, sameEntries_iff, Prod.ext_iff]

end

instance : DecidableEq Value := fun _ _ =>
  decidable_of_iff _ same_iff

end TypeLineage.Value

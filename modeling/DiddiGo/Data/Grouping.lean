import Mathlib.Data.List.Dedup
import Mathlib.Order.Lattice

/-!
# Groups and dictionaries

`GROUP BY` with `ORDER BY` the same key, and dictionaries that keep the order in which their keys were first set.
-/

namespace DiddiGo.Data

variable {ρ κ ν : Type}

/-- `SELECT key, … GROUP BY key ORDER BY key`: the keys, each with its rows. -/
def groupBy [LinearOrder κ] (key : ρ → κ) (rows : List ρ) : List (κ × List ρ) :=
  ((rows.map key).dedup.mergeSort (· ≤ ·)).map fun k => (k, rows.filter fun row => key row = k)

/-- A dictionary: its items, in the order of insertion. -/
abbrev Dict (κ ν : Type) := List (κ × ν)

namespace Dict

/-- The dictionary with the keys `ks` and the values that `f` gives them. -/
def tabulate (ks : List κ) (f : κ → ν) : Dict κ ν := ks.map fun k => (k, f k)

variable [DecidableEq κ]

/-- `d.get(k)`. -/
def get (d : Dict κ ν) (k : κ) : Option ν := (d.find? fun item => item.1 = k).map Prod.snd

/-- `d[k] = v`. -/
def set (d : Dict κ ν) (k : κ) (v : ν) : Dict κ ν :=
  if d.any fun item => item.1 = k then d.map fun item => if item.1 = k then (k, v) else item else d ++ [(k, v)]

end Dict

end DiddiGo.Data

import Mathlib.Algebra.BigOperators.Group.List.Basic
import Mathlib.Data.List.Nodup

/-!
# Keyed tables

A database table with a primary key: a list of rows in insertion order whose keys are pairwise
distinct. Inserting a row whose key is taken leaves the table as it is (`ON CONFLICT DO NOTHING`);
updating rewrites the row with the given key and may not change that key.
-/

namespace DiddiGo.Data

/-- Rows of type `ρ` are identified by a key of type `κ`. -/
class Keyed (ρ : Type) (κ : outParam Type) where
  /-- The primary key of a row. -/
  key : ρ → κ

/-- A proof that `f` keeps the key, at its stated type. -/
theorem Keyed.kept {ρ κ : Type} [Keyed ρ κ] {f : ρ → ρ}
    (h : ∀ r, Keyed.key (f r) = Keyed.key r) : ∀ r, Keyed.key (f r) = Keyed.key r := h

/-- A table: rows with pairwise distinct keys. -/
structure Table (ρ : Type) {κ : Type} [Keyed ρ κ] where
  /-- The rows, oldest first. -/
  rows : List ρ
  /-- The primary key is unique. -/
  nodup : (rows.map Keyed.key).Nodup

namespace Table

variable {ρ κ : Type} [Keyed ρ κ] [DecidableEq κ]

/-- The table without rows. -/
def empty : Table ρ := ⟨[], by simp⟩

/-- The row with key `k`. -/
def find? (t : Table ρ) (k : κ) : Option ρ := t.rows.find? fun r => Keyed.key r = k

/-- Append `r`, unless its key is taken. -/
def insert (t : Table ρ) (r : ρ) : Table ρ :=
  if h : (t.find? (Keyed.key r)).isSome then t
  else ⟨t.rows ++ [r], by
    have hr : ∀ x ∈ t.rows, Keyed.key x ≠ Keyed.key r := by simpa [find?] using h
    rw [List.map_append, List.nodup_append]
    refine ⟨t.nodup, by simp, fun a ha b hb => ?_⟩
    obtain ⟨x, hx, rfl⟩ := List.mem_map.mp ha
    obtain rfl : b = Keyed.key r := by simpa using hb
    exact hr x hx⟩

/-- Rewrite the row with key `k` by `f`, which keeps the key. -/
def update (t : Table ρ) (k : κ) (f : ρ → ρ)
    (hf : ∀ r, Keyed.key (f r) = Keyed.key r := by exact Keyed.kept fun _ => rfl) : Table ρ :=
  ⟨t.rows.map fun r => if Keyed.key r = k then f r else r, by
    have h : (t.rows.map fun r => if Keyed.key r = k then f r else r).map Keyed.key
        = t.rows.map Keyed.key := by
      rw [List.map_map]
      refine List.map_congr_left fun r _ => ?_
      by_cases hk : Keyed.key r = k <;> simp [hk, hf]
    rw [h]; exact t.nodup⟩

/-- Rewrite every row with `p` by `f`, which keeps the key. -/
def updateWhere (t : Table ρ) (p : ρ → Bool) (f : ρ → ρ)
    (hf : ∀ r, Keyed.key (f r) = Keyed.key r := by exact Keyed.kept fun _ => rfl) : Table ρ :=
  ⟨t.rows.map fun r => if p r then f r else r, by
    have h : (t.rows.map fun r => if p r then f r else r).map Keyed.key = t.rows.map Keyed.key := by
      rw [List.map_map]
      refine List.map_congr_left fun r _ => ?_
      by_cases hp : p r = true <;> simp [hp, hf]
    rw [h]; exact t.nodup⟩

/-- The sum of `g` over all rows. -/
def sum {M : Type} [Add M] [Zero M] (t : Table ρ) (g : ρ → M) : M := (t.rows.map g).sum

end Table

end DiddiGo.Data

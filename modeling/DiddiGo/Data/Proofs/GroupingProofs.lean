import DiddiGo.Data.Grouping
import Mathlib.Data.List.Nodup
import Mathlib.Tactic.SplitIfs

/-!
# Groups and dictionaries

The keys of groups are strictly increasing. A loop that sets a dictionary at distinct keys puts the new keys behind
those that are there.
-/

namespace DiddiGo.Data

variable {ρ κ ν : Type}

/-! ## Groups -/

section

variable [LinearOrder κ] {key : ρ → κ} {rows : List ρ}

/-- The keys of the groups. -/
def groupKeys (key : ρ → κ) (rows : List ρ) : List κ := (rows.map key).dedup.mergeSort (· ≤ ·)

theorem groupBy_eq (key : ρ → κ) (rows : List ρ) :
    groupBy key rows = (groupKeys key rows).map fun k => (k, rows.filter fun row => key row = k) := rfl

theorem mem_groupKeys {k : κ} : k ∈ groupKeys key rows ↔ ∃ row ∈ rows, key row = k := by
  unfold groupKeys
  rw [List.mem_mergeSort, List.mem_dedup, List.mem_map]

theorem nodup_groupKeys (key : ρ → κ) (rows : List ρ) : (groupKeys key rows).Nodup :=
  (List.mergeSort_perm _ _).nodup_iff.mpr (List.nodup_dedup _)

theorem sorted_groupKeys (key : ρ → κ) (rows : List ρ) : (groupKeys key rows).Pairwise (· < ·) := by
  have htrans (a b c : κ) (hab : decide (a ≤ b) = true) (hbc : decide (b ≤ c) = true) : decide (a ≤ c) = true :=
    decide_eq_true (le_trans (of_decide_eq_true hab) (of_decide_eq_true hbc))
  have htotal (a b : κ) : (decide (a ≤ b) || decide (b ≤ a)) = true := by
    rcases le_total a b with h | h
    · rw [decide_eq_true h, Bool.true_or]
    · rw [decide_eq_true h, Bool.or_true]
  have hle : (groupKeys key rows).Pairwise fun a b => decide (a ≤ b) = true :=
    List.pairwise_mergeSort htrans htotal _
  refine (hle.and (nodup_groupKeys key rows)).imp fun {a b} h => ?_
  exact lt_of_le_of_ne (of_decide_eq_true h.1) h.2

end

/-! ## Dictionaries -/

namespace Dict

variable [DecidableEq κ] {ks xs : List κ} {f : κ → ν} {k : κ} {v : ν}

theorem get_tabulate (ks : List κ) (f : κ → ν) (k : κ) : get (tabulate ks f) k = if k ∈ ks then some (f k) else none := by
  induction ks with
  | nil => rfl
  | cons x ks ih =>
    unfold get tabulate at ih ⊢
    rw [List.map_cons, List.find?_cons]
    by_cases hx : x = k
    · subst hx
      simp
    · simp only [decide_eq_false hx, ih, List.mem_cons, Ne.symm hx, false_or]

theorem set_tabulate_of_mem (h : k ∈ ks) :
    set (tabulate ks f) k v = tabulate ks fun x => if x = k then v else f x := by
  have hany : (tabulate ks f).any (fun item => decide (item.1 = k)) = true := by
    refine List.any_eq_true.mpr ⟨(k, f k), List.mem_map_of_mem h, decide_eq_true rfl⟩
  unfold set
  rw [if_pos hany]
  unfold tabulate
  rw [List.map_map]
  refine List.map_congr_left fun x _ => ?_
  by_cases hx : x = k
  · subst hx
    simp
  · simp [hx]

theorem set_tabulate_of_notMem (h : k ∉ ks) :
    set (tabulate ks f) k v = tabulate (ks ++ [k]) fun x => if x = k then v else f x := by
  have hany : ¬ (tabulate ks f).any (fun item => decide (item.1 = k)) = true := by
    intro hany
    obtain ⟨item, hitem, hkey⟩ := List.any_eq_true.mp hany
    obtain ⟨x, hx, rfl⟩ := List.mem_map.mp hitem
    exact h (of_decide_eq_true hkey ▸ hx)
  unfold set
  rw [if_neg hany]
  unfold tabulate
  rw [List.map_append, List.map_singleton]
  dsimp only
  rw [if_pos rfl]
  congr 1
  refine List.map_congr_left fun x hx => ?_
  have hne : x ≠ k := fun he => h (he ▸ hx)
  rw [if_neg hne]

omit [DecidableEq κ] in
theorem tabulate_congr {g : κ → ν} (h : ∀ k ∈ ks, f k = g k) : tabulate ks f = tabulate ks g :=
  List.map_congr_left fun k hk => by rw [h k hk]

/-- A loop that sets distinct keys, each to a value that depends on what the key has had. -/
theorem foldl_set_tabulate (g : κ → Option ν → ν) (hxs : xs.Nodup) :
    xs.foldl (fun d k => set d k (g k (get d k))) (tabulate ks f) =
      tabulate (ks ++ xs.filter fun k => k ∉ ks) fun k =>
        if k ∈ xs then g k (if k ∈ ks then some (f k) else none) else f k := by
  induction xs generalizing ks f with
  | nil => simp
  | cons x xs ih =>
    obtain ⟨hx, hxs⟩ := List.nodup_cons.mp hxs
    rw [List.foldl_cons, get_tabulate]
    by_cases hmem : x ∈ ks
    · rw [if_pos hmem, set_tabulate_of_mem hmem, ih hxs, List.filter_cons_of_neg (by simpa using hmem)]
      refine tabulate_congr fun k _ => ?_
      by_cases hk : k = x
      · subst hk
        simp [hx, hmem]
      · simp [hk]
    · rw [if_neg hmem, set_tabulate_of_notMem hmem, ih hxs, List.filter_cons_of_pos (by simpa using hmem)]
      have hfilter : (xs.filter fun k => k ∉ ks ++ [x]) = xs.filter fun k => k ∉ ks := by
        refine List.filter_congr fun k hk => ?_
        have hne : k ≠ x := fun he => hx (he ▸ hk)
        simp [hne]
      rw [hfilter, List.append_assoc, List.singleton_append]
      refine tabulate_congr fun k _ => ?_
      by_cases hk : k = x
      · subst hk
        simp [hx, hmem]
      · simp [hk]

end Dict

end DiddiGo.Data

import DiddiGo.Data.Table
import Mathlib.Algebra.Group.Basic
import Mathlib.Algebra.BigOperators.Group.Finset.Piecewise
import Mathlib.Tactic.Abel

/-!
# Lookup and sum rules for keyed tables

Every rule is about `find?` and `sum` after an `insert` or an `update`; with them nothing else
about the list of rows is needed.
-/

namespace DiddiGo.Data.Table

variable {ρ κ : Type} [Keyed ρ κ] [DecidableEq κ]

@[simp] theorem find?_empty (k : κ) : (empty : Table ρ).find? k = none := rfl

theorem key_of_find? {t : Table ρ} {k : κ} {r : ρ} (h : t.find? k = some r) : Keyed.key r = k := by
  simpa using List.find?_some h

theorem mem_of_find? {t : Table ρ} {k : κ} {r : ρ} (h : t.find? k = some r) : r ∈ t.rows :=
  List.mem_of_find?_eq_some h

theorem find?_key_of_mem {t : Table ρ} {r : ρ} (h : r ∈ t.rows) :
    t.find? (Keyed.key r) = some r := by
  obtain ⟨rows, nodup⟩ := t
  simp only [find?] at *
  induction rows with
  | nil => simp at h
  | cons x xs ih =>
    simp only [List.map_cons, List.nodup_cons] at nodup
    rcases List.mem_cons.mp h with rfl | h
    · simp
    · have hx : Keyed.key x ≠ Keyed.key r :=
        fun hk => nodup.1 (hk ▸ List.mem_map_of_mem h)
      simp [hx, ih nodup.2 h]

theorem mem_iff_find? {t : Table ρ} {r : ρ} : r ∈ t.rows ↔ t.find? (Keyed.key r) = some r :=
  ⟨find?_key_of_mem, mem_of_find?⟩

omit [DecidableEq κ] in
/-- A page of a listing shows every row at most once. -/
theorem nodup_page (t : Table ρ) (p : ρ → Bool) (le : ρ → ρ → Bool) (n : ℕ) :
    ((((t.rows.filter p).mergeSort le).take n).map Keyed.key).Nodup := by
  have hpage : List.Sublist ((((t.rows.filter p).mergeSort le).take n).map Keyed.key)
      (((t.rows.filter p).mergeSort le).map Keyed.key) := (List.take_sublist _ _).map _
  have hsorted : (((t.rows.filter p).mergeSort le).map Keyed.key).Perm
      ((t.rows.filter p).map Keyed.key) := (List.mergeSort_perm _ _).map _
  have hrows : ((t.rows.filter p).map Keyed.key).Nodup :=
    (List.filter_sublist.map _).nodup t.nodup
  exact hpage.nodup (hsorted.nodup_iff.mpr hrows)

omit [DecidableEq κ] in
theorem mem_of_mem_page {t : Table ρ} {p : ρ → Bool} {le : ρ → ρ → Bool} {n : ℕ} {r : ρ}
    (h : r ∈ ((t.rows.filter p).mergeSort le).take n) : r ∈ t.rows ∧ p r = true := by
  have hsorted := List.mem_of_mem_take h
  exact List.mem_filter.mp ((List.mergeSort_perm _ _).mem_iff.mp hsorted)

/-- A table has at most one row with a key. -/
theorem filter_key (t : Table ρ) (k : κ) :
    (t.rows.filter fun r => Keyed.key r = k) = (t.find? k).toList := by
  have hhead : (t.rows.filter fun r => Keyed.key r = k).head? = t.find? k := List.head?_filter
  have hkeys : ((t.rows.filter fun r => Keyed.key r = k).map Keyed.key).Nodup :=
    t.nodup.sublist (List.filter_sublist.map _)
  have hall : ∀ r ∈ t.rows.filter fun r => Keyed.key r = k, Keyed.key r = k := fun r hr => by
    simpa using (List.mem_filter.mp hr).2
  rw [← hhead]
  match hl : t.rows.filter fun r => Keyed.key r = k with
  | [] => rfl
  | [_] => rfl
  | a :: b :: l =>
    rw [hl] at hkeys hall
    simp [hall a, hall b] at hkeys

theorem length_filter_key (t : Table ρ) (k : κ) :
    (t.rows.filter fun r => Keyed.key r = k).length = if (t.find? k).isSome then 1 else 0 := by
  rw [filter_key]
  cases t.find? k <;> rfl

/-! ## `insert` -/

theorem find?_insert (t : Table ρ) (r : ρ) (k : κ) :
    (t.insert r).find? k = (t.find? k).or (if Keyed.key r = k then some r else none) := by
  unfold insert
  split_ifs with h hk hk
  · subst hk
    rw [Option.or_of_isSome h]
  · simp
  · simp [find?, List.find?_append, hk]
  · simp [find?, List.find?_append, hk]

theorem find?_insert_self {t : Table ρ} {r : ρ} (h : t.find? (Keyed.key r) = none) :
    (t.insert r).find? (Keyed.key r) = some r := by
  simp [find?_insert, h]

theorem find?_insert_of_ne (t : Table ρ) {r : ρ} {k : κ} (h : Keyed.key r ≠ k) :
    (t.insert r).find? k = t.find? k := by
  simp [find?_insert, h]

theorem find?_insert_of_some {t : Table ρ} (r : ρ) {k : κ} {x : ρ} (h : t.find? k = some x) :
    (t.insert r).find? k = some x := by
  simp [find?_insert, h]

theorem insert_of_some {t : Table ρ} {r x : ρ} (h : t.find? (Keyed.key r) = some x) :
    t.insert r = t := by
  simp [insert, h]

theorem rows_insert {t : Table ρ} {r : ρ} (h : t.find? (Keyed.key r) = none) :
    (t.insert r).rows = t.rows ++ [r] := by
  simp [insert, h]

theorem rows_prefix_insert (t : Table ρ) (r : ρ) : t.rows <+: (t.insert r).rows := by
  unfold insert
  split_ifs
  · exact List.prefix_rfl
  · exact List.prefix_append _ _

theorem mem_insert {t : Table ρ} {r x : ρ} (h : x ∈ (t.insert r).rows) : x ∈ t.rows ∨ x = r := by
  cases hr : t.find? (Keyed.key r) with
  | none => simpa [rows_insert hr] using h
  | some y => rw [insert_of_some hr] at h; exact Or.inl h

/-! ## `update` -/

theorem find?_update (t : Table ρ) (k : κ) (f : ρ → ρ) (hf : ∀ r, Keyed.key (f r) = Keyed.key r)
    (k' : κ) :
    (t.update k f hf).find? k' = if k' = k then (t.find? k').map f else t.find? k' := by
  obtain ⟨rows, nodup⟩ := t
  simp only [update, find?]
  clear nodup
  induction rows with
  | nil => simp
  | cons x xs ih =>
    have hx : Keyed.key (if Keyed.key x = k then f x else x) = Keyed.key x := by
      split_ifs <;> simp [hf]
    by_cases hk : Keyed.key x = k'
    · subst hk
      simp only [List.map_cons, List.find?_cons, hx, decide_true]
      split_ifs <;> rfl
    · simp only [List.map_cons, List.find?_cons, hx, hk, decide_false, ih]

theorem find?_update_self {t : Table ρ} {k : κ} {r : ρ} (f : ρ → ρ)
    (hf : ∀ r, Keyed.key (f r) = Keyed.key r) (h : t.find? k = some r) :
    (t.update k f hf).find? k = some (f r) := by
  simp [find?_update, h]

theorem find?_update_of_ne (t : Table ρ) {k k' : κ} (f : ρ → ρ)
    (hf : ∀ r, Keyed.key (f r) = Keyed.key r) (h : k' ≠ k) :
    (t.update k f hf).find? k' = t.find? k' := by
  simp [find?_update, h]

theorem update_of_none {t : Table ρ} {k : κ} (f : ρ → ρ)
    (hf : ∀ r, Keyed.key (f r) = Keyed.key r) (h : t.find? k = none) : t.update k f hf = t := by
  have hne : ∀ x ∈ t.rows, Keyed.key x ≠ k := by simpa [find?] using h
  have hrows : (t.rows.map fun r => if Keyed.key r = k then f r else r) = t.rows := by
    conv_rhs => rw [← List.map_id t.rows]
    exact List.map_congr_left fun r hr => by simp [hne r hr]
  obtain ⟨rows, nodup⟩ := t
  simpa [update] using hrows

/-- Only what the update makes of the row with the key counts. -/
theorem update_congr {t : Table ρ} {k : κ} {r : ρ} {f g : ρ → ρ}
    {hf : ∀ r, Keyed.key (f r) = Keyed.key r} {hg : ∀ r, Keyed.key (g r) = Keyed.key r}
    (h : t.find? k = some r) (hr : f r = g r) : t.update k f hf = t.update k g hg := by
  have hrows : (t.rows.map fun x => if Keyed.key x = k then f x else x)
      = t.rows.map fun x => if Keyed.key x = k then g x else x := by
    refine List.map_congr_left fun x hx => ?_
    by_cases hk : Keyed.key x = k
    · have hx := find?_key_of_mem hx
      rw [hk, h] at hx
      obtain rfl := Option.some.inj hx
      rw [hr]
    · rw [if_neg hk, if_neg hk]
  unfold update
  congr 1

/-- The second of two updates of a row covers the first one. -/
theorem update_update {t : Table ρ} {k : κ} {f g : ρ → ρ} {hf : ∀ r, Keyed.key (f r) = Keyed.key r}
    {hg : ∀ r, Keyed.key (g r) = Keyed.key r} (h : ∀ r, g (f r) = g r) :
    (t.update k f hf).update k g hg = t.update k g hg := by
  have hrows : (((t.rows.map fun x => if Keyed.key x = k then f x else x)).map
      fun x => if Keyed.key x = k then g x else x)
      = t.rows.map fun x => if Keyed.key x = k then g x else x := by
    rw [List.map_map]
    refine List.map_congr_left fun x _ => ?_
    by_cases hk : Keyed.key x = k
    · simp only [Function.comp_apply, hk, if_true, hf, h]
    · simp only [Function.comp_apply, hk, if_false]
  unfold update
  congr 1

/-! ## Updates of several rows -/

theorem find?_updateWhere (t : Table ρ) (p : ρ → Bool) (f : ρ → ρ) (hf : ∀ r, Keyed.key (f r) = Keyed.key r) (k : κ) :
    (t.updateWhere p f hf).find? k = (t.find? k).map fun r => if p r then f r else r := by
  have hkey : ∀ r, Keyed.key (if p r then f r else r) = Keyed.key r := by
    intro r
    split_ifs
    · exact hf r
    · rfl
  unfold find? updateWhere
  rw [List.find?_map]
  congr 2
  funext r
  simp only [Function.comp_apply, hkey]

omit [DecidableEq κ] in
/-- Rows that are not counted may be rewritten. -/
theorem filter_updateWhere {t : Table ρ} {p q : ρ → Bool} {f : ρ → ρ} {hf : ∀ r, Keyed.key (f r) = Keyed.key r}
    (h : ∀ r ∈ t.rows, p r = true → q r = false ∧ q (f r) = false) :
    (t.updateWhere p f hf).rows.filter q = t.rows.filter q := by
  have hrows : ∀ l : List ρ, (∀ r ∈ l, p r = true → q r = false ∧ q (f r) = false) →
      (l.map fun r => if p r then f r else r).filter q = l.filter q := by
    intro l hl
    induction l with
    | nil => rfl
    | cons r l ih =>
      have hrest := ih fun r' hr' => hl r' (List.mem_cons_of_mem r hr')
      rw [List.map_cons, List.filter_cons, List.filter_cons, hrest]
      by_cases hp : p r = true
      · obtain ⟨hq, hqf⟩ := hl r List.mem_cons_self hp
        simp only [hp, hq, hqf, if_true, Bool.false_eq_true, if_false]
      · simp only [hp, Bool.false_eq_true, if_false]
  exact hrows t.rows h

theorem update_eq_updateWhere (t : Table ρ) (k : κ) (f : ρ → ρ) (hf : ∀ r, Keyed.key (f r) = Keyed.key r) :
    t.update k f hf = t.updateWhere (fun r => decide (Keyed.key r = k)) f hf := by
  unfold update updateWhere
  simp only [decide_eq_true_eq]

theorem filter_update {t : Table ρ} {k : κ} {r : ρ} {q : ρ → Bool} {f : ρ → ρ}
    {hf : ∀ r, Keyed.key (f r) = Keyed.key r} (hr : t.find? k = some r) (hq : q r = false) (hqf : q (f r) = false) :
    (t.update k f hf).rows.filter q = t.rows.filter q := by
  rw [update_eq_updateWhere]
  refine filter_updateWhere fun r' hr' hk => ?_
  have hfound := find?_key_of_mem hr'
  rw [of_decide_eq_true hk, hr] at hfound
  obtain rfl := Option.some.inj hfound
  exact ⟨hq, hqf⟩

/-- A row that is not counted may be inserted. -/
theorem filter_insert (t : Table ρ) {r : ρ} {q : ρ → Bool} (hq : q r = false) :
    (t.insert r).rows.filter q = t.rows.filter q := by
  unfold insert
  split_ifs with h
  · rfl
  · rw [List.filter_append, List.filter_cons, hq]
    simp

/-! ## Sums -/

variable {M : Type}

omit [DecidableEq κ] in
@[simp] theorem sum_empty [AddCommMonoid M] (g : ρ → M) : (empty : Table ρ).sum g = 0 := rfl

theorem sum_insert [AddCommMonoid M] {t : Table ρ} {r : ρ} (g : ρ → M)
    (h : t.find? (Keyed.key r) = none) : (t.insert r).sum g = t.sum g + g r := by
  simp [sum, rows_insert h]

theorem sum_update [AddCommGroup M] {t : Table ρ} {k : κ} {r : ρ} (f : ρ → ρ)
    (hf : ∀ r, Keyed.key (f r) = Keyed.key r) (g : ρ → M) (h : t.find? k = some r) :
    (t.update k f hf).sum g = t.sum g - g r + g (f r) := by
  obtain ⟨rows, nodup⟩ := t
  simp only [update, find?, sum] at *
  induction rows with
  | nil => simp at h
  | cons x xs ih =>
    simp only [List.map_cons, List.nodup_cons] at nodup
    by_cases hx : Keyed.key x = k
    · obtain rfl : x = r := by simpa [List.find?_cons, hx] using h
      have hne : ∀ y ∈ xs, Keyed.key y ≠ k := fun y hy hk =>
        nodup.1 (hx ▸ hk ▸ List.mem_map_of_mem hy)
      have hxs : (xs.map fun r => if Keyed.key r = k then f r else r) = xs := by
        conv_rhs => rw [← List.map_id xs]
        exact List.map_congr_left fun y hy => by simp [hne y hy]
      simp only [List.map_cons, hx, if_true, hxs, List.sum_cons]
      abel
    · have h' : xs.find? (fun r => Keyed.key r = k) = some r := by
        simpa [List.find?_cons, hx] using h
      simp only [List.map_cons, hx, if_false, List.sum_cons, ih nodup.2 h']
      abel

/-- An update that keeps `g` keeps its sum. -/
theorem sum_update_of_eq [AddCommMonoid M] (t : Table ρ) (k : κ) (f : ρ → ρ)
    (hf : ∀ r, Keyed.key (f r) = Keyed.key r) {g : ρ → M} (hg : ∀ r, g (f r) = g r) :
    (t.update k f hf).sum g = t.sum g := by
  unfold update sum
  rw [List.map_map]
  refine congrArg List.sum (List.map_congr_left fun r _ => ?_)
  rw [Function.comp_apply]
  split_ifs
  · exact hg r
  · rfl

omit [DecidableEq κ] in
/-- The rows with `p` apart. -/
theorem sum_filter_add [AddCommMonoid M] (t : Table ρ) (p : ρ → Bool) (g : ρ → M) :
    t.sum g = t.sum (fun r => if p r then 0 else g r) + ((t.rows.filter p).map g).sum := by
  unfold sum
  induction t.rows with
  | nil => simp
  | cons r rows ih =>
    rw [List.map_cons, List.sum_cons, ih, List.map_cons, List.sum_cons, List.filter_cons]
    split_ifs
    · rw [List.map_cons, List.sum_cons, zero_add, add_left_comm]
    · rw [add_assoc]

omit [DecidableEq κ] in
theorem sum_congr [AddCommMonoid M] {t : Table ρ} {g g' : ρ → M}
    (h : ∀ r ∈ t.rows, g r = g' r) : t.sum g = t.sum g' := by
  unfold sum
  rw [List.map_congr_left h]

/-- A sum over a list, by the key that its members refer to, if they do. -/
theorem sum_by_key {α β : Type} [AddCommMonoid M] [DecidableEq β] (key : α → Option β) (f : α → M) {ks : List β} (hks : ks.Nodup) {l : List α}
    (hl : ∀ a ∈ l, ∀ k, key a = some k → k ∈ ks) :
    (l.map f).sum = ((l.filter fun a => key a = none).map f).sum +
      (ks.map fun k => ((l.filter fun a => key a = some k).map f).sum).sum := by
  induction l with
  | nil => simp
  | cons a l ih =>
    rw [List.forall_mem_cons] at hl
    rw [List.map_cons, List.sum_cons, ih hl.2]
    cases hkey : key a with
    | none => simp [hkey, add_assoc]
    | some k₀ =>
      have hsplit : ∀ k, (((a :: l).filter fun a => key a = some k).map f).sum
          = (if k₀ = k then f a else 0) + ((l.filter fun a => key a = some k).map f).sum := by
        intro k
        rw [List.filter_cons, hkey]
        by_cases hk : k₀ = k
        · simp [hk]
        · simp [hk]
      have hone : (ks.map fun k => if k₀ = k then f a else 0).sum = f a := by
        rw [← List.sum_toFinset _ hks, Finset.sum_ite_eq, if_pos (List.mem_toFinset.mpr (hl.1 k₀ hkey))]
      simp only [hsplit, List.sum_map_add, hone]
      rw [List.filter_cons_of_neg (by simp [hkey])]
      exact add_left_comm _ _ _

end DiddiGo.Data.Table

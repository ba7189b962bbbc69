import DiddiGo.Transactions.Proofs.RelyGuaranteeProofs
import DiddiGo.Transactions.Proofs.StagesProofs
import DiddiGo.Transactions.UniqueKeys

/-!
# Unique keys stay unique

A program that only reads, claims keys that are free, and removes entries of keys that it locks.
-/

namespace DiddiGo.Transactions

variable {S : Signature} {M : Machine S} {α : Type}

namespace Index

open RelyGuarantee

variable {X : Index S} {T T' : X.Key → Prop} {P : Point M} {i : M.Proc}

theorem Safe.mono (h : X.Safe T P) (hT : ∀ k, T' k → T k) : X.Safe T' P :=
  ⟨h.inv, fun k hk => h.untouched k (hk.imp (hT k) id), h.unique⟩

theorem safe_start {s : Shared M} (h : X.Unique s.db) : X.Safe T (Point.start s) where
  inv := h
  untouched _ _ _ := rfl
  unique _ hheld := hheld.elim

/-- What is known of the keys survives the others, more locks, and changes that leave the index alone. -/
theorem stage_safe : (X.discipline M).Stage i X.Harmless (X.Safe T) where
  interfere {P s} h hs :=
    ⟨hs.inv, h.untouched, fun k hheld db hdb => h.unique k hheld db (hdb.trans (hs.same _ hheld k rfl).symm)⟩
  hold {P held} h hmore := by
    refine ⟨h.inv, fun k hk => h.untouched k (hk.imp_right fun hnot hheld => hnot (hmore _ hheld)), fun k _ db hdb => ?_⟩
    by_cases hheld : P.held (X.row k)
    · exact h.unique k hheld db hdb
    · change (X.entries k (P.pending db)).length ≤ 1
      rw [h.untouched k (Or.inr hheld), hdb]
      exact h.inv k
  write {P f} h hf := by
    refine ⟨h.inv, fun k hk db => (hf k _).trans (h.untouched k hk db), fun k hheld db hdb => ?_⟩
    change (X.entries k (f (P.pending db))).length ≤ 1
    rw [hf]
    exact h.unique k hheld db hdb

/-- A process that fails changes nothing. -/
theorem ends_error (e : S.Err) (P : Point M) : (X.discipline M).Ends i (.error e) P :=
  fun _ hs => ⟨hs.inv, trivial, fun _ _ _ _ => rfl⟩

/-- A process whose changes are safe may return. -/
theorem Safe.ends (h : X.Safe T P) (a : M.Out) : (X.discipline M).Ends i (.ok a) P := by
  intro s hs
  have hs' := stage_safe.interfere h hs
  refine ⟨fun k => ?_, trivial, fun r hheld k hk => (hs'.untouched k (Or.inr (hk ▸ hheld)) s.db).symm⟩
  by_cases hheld : P.held (X.row k)
  · exact hs'.unique k hheld s.db rfl
  · have hk := hs'.untouched k (Or.inr hheld) s.db
    exact Nat.le_trans (Nat.le_of_eq (congrArg List.length hk)) (hs.inv k)

/-- A statement that claims the key `k`, which is visibly free and has not been touched. -/
theorem Safe.claim {k : X.Key} {rs : List S.Row} {patch : S.State → S.State} {s : Shared M} (h : X.Safe T P)
    (hs : (X.discipline M).Interferes i P s) (hk : T k) (hrow : X.row k ∈ rs)
    (hfree : X.entries k (P.pending s.db) = [])
    (hself : ∀ db, (X.entries k (patch db)).length ≤ (X.entries k db).length + 1)
    (hother : ∀ k' db, k' ≠ k → X.entries k' (patch db) = X.entries k' db) :
    X.Safe (fun k' => T k' ∧ k' ≠ k)
      { shared := s, held := fun r => r ∈ rs ∨ P.held r, pending := patch ∘ P.pending } := by
  have hs' := stage_safe.interfere h hs
  have hmore : X.Safe T { P.withShared s with held := fun r => r ∈ rs ∨ P.held r } :=
    stage_safe.hold (i := i) hs' fun _ => Or.inr
  have hempty : X.entries k s.db = [] := (hs'.untouched k (Or.inl hk) s.db).symm.trans hfree
  refine ⟨hs.inv, fun k' hk' db => ?_, fun k' hheld db hdb => ?_⟩
  · have hne : k' ≠ k := by
      rintro rfl
      rcases hk' with ⟨-, hne⟩ | hnot
      · exact hne rfl
      · exact hnot (Or.inl hrow)
    refine (hother k' _ hne).trans (h.untouched k' ?_ db)
    exact hk'.imp And.left fun hnot hheld => hnot (Or.inr hheld)
  · by_cases hkk : k' = k
    · subst hkk
      have hbound := hself (P.pending db)
      rw [h.untouched k' (Or.inl hk), hdb, hempty] at hbound
      exact hbound
    · change (X.entries k' (patch (P.pending db))).length ≤ 1
      rw [hother k' _ hkk]
      exact hmore.unique k' hheld db hdb

/-- A statement that removes entries of keys that it locks. -/
theorem Safe.shrink {rs : List S.Row} {patch : S.State → S.State} {s : Shared M} (h : X.Safe T P)
    (hs : (X.discipline M).Interferes i P s)
    (hless : ∀ k db, (X.entries k (patch db)).length ≤ (X.entries k db).length)
    (hother : ∀ k db, X.row k ∉ rs → X.entries k (patch db) = X.entries k db) :
    X.Safe (fun k => T k ∧ X.row k ∉ rs)
      { shared := s, held := fun r => r ∈ rs ∨ P.held r, pending := patch ∘ P.pending } := by
  have hs' := stage_safe.interfere h hs
  have hmore : X.Safe T { P.withShared s with held := fun r => r ∈ rs ∨ P.held r } :=
    stage_safe.hold (i := i) hs' fun _ => Or.inr
  refine ⟨hs.inv, fun k hk db => ?_, fun k hheld db hdb => ?_⟩
  · have hnot : X.row k ∉ rs := by
      rcases hk with ⟨-, hnot⟩ | hnot
      · exact hnot
      · exact fun hmem => hnot (Or.inl hmem)
    refine (hother k _ hnot).trans (h.untouched k ?_ db)
    exact hk.imp And.left fun hnot hheld => hnot (Or.inr hheld)
  · exact Nat.le_trans (hless k _) (hmore.unique k hheld db hdb)

/-- A program that is safe from its start on. -/
theorem verified_of_safe {p : Prog S M.Out} {s : Shared M}
    (h : (X.discipline M).wpOk i p (fun _ => X.Safe T) (Point.start s)) : (X.discipline M).Verified i p s := by
  refine wp_mono (wpOk_iff.mp h) fun r P hr => ?_
  cases r with
  | ok a => exact (hr a rfl).ends a
  | error e => exact ends_error e P

end Index

end DiddiGo.Transactions

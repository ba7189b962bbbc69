import DiddiGo.Transactions.RelyGuarantee

/-!
# Unique keys under concurrency

A unique index has at most one entry for each key. A statement that adds or removes an entry locks its key, and adds
none to a key that is visibly taken.
-/

namespace DiddiGo.Transactions

variable {S : Signature}

/-- The entries of an index. -/
structure Index (S : Signature) where
  Key : Type
  Entry : Type
  entries : Key → S.State → List Entry
  /-- The lock on a key. -/
  row : Key → S.Row

namespace Index

variable (X : Index S) {M : Machine S}

/-- A key has at most one entry. -/
def Unique (db : S.State) : Prop := ∀ k, (X.entries k db).length ≤ 1

/-- The changes leave the index alone. -/
def Harmless (f : S.State → S.State) : Prop := ∀ k db, X.entries k (f db) = X.entries k db

/-- Keys are unique, and what a process has locked stays as it is. -/
def discipline (M : Machine S) : RelyGuarantee M where
  inv s := X.Unique s.db
  rely _ _ _ := True
  guar _ _ _ := True
  same r db db' := ∀ k, X.row k = r → X.entries k db = X.entries k db'
  rely_refl _ _ := trivial
  rely_trans _ _ _ _ _ _ := trivial
  rely_of_guar _ _ _ _ _ _ := trivial
  same_refl _ _ _ _ := rfl
  same_trans _ _ _ _ h h' k hk := (h k hk).trans (h' k hk)

/-- What the process has changed keeps the keys unique; it has touched no key in `T`. -/
structure Safe (T : X.Key → Prop) (P : Point M) : Prop where
  inv : X.Unique P.shared.db
  untouched : ∀ k, T k ∨ ¬ P.held (X.row k) → ∀ db, X.entries k (P.pending db) = X.entries k db
  unique : ∀ k, P.held (X.row k) → ∀ db, X.entries k db = X.entries k P.shared.db →
    (X.entries k (P.pending db)).length ≤ 1

end Index

end DiddiGo.Transactions

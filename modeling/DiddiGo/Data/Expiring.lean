import Mathlib.Logic.Function.Basic
import Mathlib.Order.Lattice
import Mathlib.Tactic.SplitIfs

/-!
# Keys that expire

A key is set together with the instant from which it is gone; setting it again replaces that instant. A lock is such
a key that holds a token: whoever takes it writes the token, and whoever gives it back deletes it only if the token
is still there.
-/

namespace DiddiGo.Data

variable {κ τ : Type}

/-- The keys that were set, with the instants from which they are gone. -/
abbrev Expiring (κ τ : Type) := κ → Option τ

namespace Expiring

/-- `EXISTS key`. -/
def alive [LinearOrder τ] (m : Expiring κ τ) (k : κ) (now : τ) : Bool := (m k).any fun expiry => now < expiry

theorem alive_of_some [LinearOrder τ] {m : Expiring κ τ} {k : κ} {expiry now : τ} (h : m k = some expiry) :
    m.alive k now = decide (now < expiry) := by
  unfold alive
  rw [h]
  rfl

variable [DecidableEq κ]

/-- `SET key EX`: the key is there until `expiry`. -/
def set (m : Expiring κ τ) (k : κ) (expiry : τ) : Expiring κ τ := Function.update m k (some expiry)

/-- `DEL key`. -/
def del (m : Expiring κ τ) (k : κ) : Expiring κ τ := Function.update m k none

variable {m : Expiring κ τ} {k k' : κ} {expiry : τ}

@[simp] theorem set_self : m.set k expiry k = some expiry := Function.update_self ..

@[simp] theorem set_of_ne (h : k' ≠ k) : m.set k expiry k' = m k' := Function.update_of_ne h ..

@[simp] theorem del_self : m.del k k = none := Function.update_self ..

@[simp] theorem del_of_ne (h : k' ≠ k) : m.del k k' = m k' := Function.update_of_ne h ..

end Expiring

/-! ## Locks -/

/-- A lock that was taken. -/
structure Lease (κ : Type) where
  token : κ
  /-- The instant from which it is gone. -/
  expiry : Nat
  deriving DecidableEq, Repr

/-- What the key of a lock holds. -/
abbrev Lock (κ : Type) := Option (Lease κ)

namespace Lock

variable {κ : Type}

/-- `GET key`. -/
def holder (lock : Lock κ) (now : Nat) : Option κ := (lock.filter fun lease => now < lease.expiry).map (·.token)

/-- `SET key token NX EX ttl`. -/
def take (lock : Lock κ) (token : κ) (now ttl : Nat) : Lock κ :=
  if (lock.holder now).isSome then lock else some { token := token, expiry := now + ttl }

/-- `DEL key` if the key still holds the token. -/
def giveBack [DecidableEq κ] (lock : Lock κ) (token : κ) (now : Nat) : Lock κ :=
  if lock.holder now = some token then none else lock

variable {lock : Lock κ} {token token' : κ} {now ttl : Nat}

theorem holder_eq_some : lock.holder now = some token ↔ ∃ lease, lock = some lease ∧ now < lease.expiry ∧
    lease.token = token := by
  unfold holder
  rw [Option.map_eq_some_iff]
  constructor
  · rintro ⟨lease, hlease, rfl⟩
    obtain ⟨hlock, hnow⟩ := Option.filter_eq_some_iff.mp hlease
    exact ⟨lease, hlock, of_decide_eq_true hnow, rfl⟩
  · rintro ⟨lease, rfl, hnow, rfl⟩
    exact ⟨lease, Option.filter_eq_some_iff.mpr ⟨rfl, decide_eq_true hnow⟩, rfl⟩

theorem holder_of_lt {lease : Lease κ} (h : now < lease.expiry) : holder (some lease) now = some lease.token :=
  holder_eq_some.mpr ⟨lease, rfl, h, rfl⟩

theorem take_of_held (h : (lock.holder now).isSome = true) : lock.take token now ttl = lock := if_pos h

theorem take_of_free (h : ¬ (lock.holder now).isSome = true) :
    lock.take token now ttl = some { token := token, expiry := now + ttl } := if_neg h

/-- A lock that is held stays with its holder. -/
theorem holder_take (h : lock.holder now = some token) : (lock.take token' now ttl).holder now = some token := by
  rw [take_of_held (by rw [h]; rfl)]
  exact h

/-- What a lock holds after a take was there before, or is the new lease. -/
theorem mem_take {lease : Lease κ} (h : lock.take token now ttl = some lease) :
    lock = some lease ∨ lease = { token := token, expiry := now + ttl } := by
  unfold take at h
  split_ifs at h
  · exact Or.inl h
  · exact Or.inr (Option.some.inj h).symm

variable [DecidableEq κ]

/-- Whoever has another token gives nothing back. -/
theorem giveBack_of_ne (h : lock.holder now ≠ some token) : lock.giveBack token now = lock := if_neg h

theorem giveBack_self (h : lock.holder now = some token) : lock.giveBack token now = none := if_pos h

/-- What a lock holds after a release was there before. -/
theorem mem_giveBack {lease : Lease κ} (h : lock.giveBack token now = some lease) : lock = some lease := by
  unfold giveBack at h
  split_ifs at h
  exact h

end Lock

end DiddiGo.Data

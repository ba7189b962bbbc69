import DiddiGo.Rides.Changes
import DiddiGo.Rides.Concurrency
import DiddiGo.Transactions.Accumulation
import DiddiGo.Transactions.Stages

/-!
# Supplements under concurrency

Drivers propose supplements and passengers decide them at the same time. A decision locks the row of the
ride, and what that lock protects is the total as well as the supplements it is the sum of.
-/

namespace DiddiGo.Rides

open Transactions

/-- The total of every ride is the sum of the supplements that its passenger accepted. -/
def RideDb.Billed (db : RideDb) : Prop :=
  ∀ r ∈ db.rides.rows, r.supplementsTotal = db.acceptedSupplements r.id

/-- `s'` is a later version of the supplement: it changes only by being decided, once. -/
def RideSupplement.Later (s s' : RideSupplement) : Prop :=
  s' = s ∨ s.status = .pending ∧ s'.status ≠ .pending ∧
    s' = { s with status := s'.status, decidedByUserId := s'.decidedByUserId, decidedAt := s'.decidedAt }

/-- What requests about supplements may do to the database. -/
structure SupplementsLater (db db' : RideDb) : Prop where
  rides : ∀ id, ∃ total, db'.rides.find? id = (db.rides.find? id).map fun r => r.withSupplements total
  supplements : ∀ id s, db.supplements.find? id = some s → ∃ s', db'.supplements.find? id = some s' ∧ s.Later s'

/-- The request proposes or decides a supplement. -/
def RideOp.aboutSupplement : RideOp → Bool
  | addSupplement .. | decideSupplement .. => true
  | _ => false

/-- What the lock on a row protects. -/
def sameSupplements : Row → RideDb → RideDb → Prop
  | .ride id, db, db' => db.rides.find? id = db'.rides.find? id ∧
      db.acceptedSupplements id = db'.acceptedSupplements id
  | .supplement id, db, db' => db.supplements.find? id = db'.supplements.find? id
  | _, _, _ => True

/-- The request is a decision that was taken before: the supplement is decided like this, the ride is
under way, and the actor may decide. -/
def RideCall.Repeats (c : RideCall) (db : RideDb) : Prop :=
  ∃ rideId supplementId accepted ride s, c.op = .decideSupplement rideId supplementId accepted ∧
    db.ride? rideId = some ride ∧ ride.UnderWay ∧
    (c.actor.isAdmin = true ∨ ride.passengerUserId = c.actor.userId) ∧
    db.supplements.find? supplementId = some s ∧ s.rideId = rideId ∧
    s.status = if accepted then .accepted else .disputed

variable {Proc World : Type} {σ : Scenario Proc World}

/-! ## The discipline -/

/-- The process has no changes. -/
def Unchanged (P : Point σ.machine) : Prop := ∀ db, P.pending db = db

/-- The process has read the ride. -/
structure HasRead (read : Ride) (P : Point σ.machine) : Prop where
  unchanged : Unchanged P
  row : ∃ row total, P.shared.db.rides.find? read.id = some row ∧ read = row.toDomain.withSupplements total

/-- The process has locked the ride and the supplement, which is still to be decided. -/
structure HasLocked (read : Ride) (s : RideSupplement) (P : Point σ.machine) : Prop where
  row : ∃ row total, P.shared.db.rides.find? read.id = some row ∧ read = row.toDomain.withSupplements total
  heldRide : P.held (.ride read.id)
  heldSupplement : P.held (.supplement s.id)
  found : P.shared.db.supplements.find? s.id = some s
  rideId : s.rideId = read.id
  pending : s.status = .pending

/-- The supplement is decided in the changes of the process. -/
structure HasDecided (read : Ride) (s : RideSupplement) (decision : SupplementStatus) (userId : UUID)
    (now : DateTime) (P : Point σ.machine) : Prop extends HasLocked read s P where
  decided : ∀ db, P.pending db = db.decideSupplement s.id decision userId now

/-- The changes of a process that decides: the supplement and the new total. -/
def RideDb.settleSupplement (db : RideDb) (s : RideSupplement) (decision : SupplementStatus) (userId : UUID)
    (now : DateTime) (loaded ride : Ride) : RideDb :=
  (db.decideSupplement s.id decision userId now).flushRide loaded ride

/-- The process has nothing more to do than to commit. -/
structure HasSettled (read : Ride) (s : RideSupplement) (decision : SupplementStatus) (userId : UUID)
    (now : DateTime) (P : Point σ.machine) : Prop extends HasLocked read s P where
  settled : ∃ loaded, P.shared.db.rides.find? read.id = some loaded ∧ ∀ db, P.pending db =
    db.settleSupplement s decision userId now loaded (read.withSupplements
      ((P.shared.db.decideSupplement s.id decision userId now).acceptedSupplements read.id))

/-- The changes of a process that proposes: a supplement that is still to be decided. -/
def HasProposed (P : Point σ.machine) : Prop :=
  ∃ s : RideSupplement, s.status = .pending ∧ P.held (.supplement s.id) ∧
    ∀ db, P.pending db = { db with supplements := db.supplements.insert s }

theorem RideSupplement.Later.refl (s : RideSupplement) : s.Later s := Or.inl rfl

theorem RideSupplement.Later.trans {s s' s'' : RideSupplement} (h : s.Later s') (h' : s'.Later s'') :
    s.Later s'' := by
  rcases h with rfl | ⟨hpending, hdecided, heq⟩
  · exact h'
  rcases h' with rfl | ⟨hpending', -, -⟩
  · exact Or.inr ⟨hpending, hdecided, heq⟩
  · exact absurd hpending' hdecided

theorem SupplementsLater.refl (db : RideDb) : SupplementsLater db db where
  rides id := by
    cases h : db.rides.find? id with
    | none => exact ⟨0, rfl⟩
    | some r => exact ⟨r.supplementsTotal, rfl⟩
  supplements _ s h := ⟨s, h, .refl s⟩

theorem SupplementsLater.trans {db db' db'' : RideDb} (h : SupplementsLater db db')
    (h' : SupplementsLater db' db'') : SupplementsLater db db'' where
  rides id := by
    obtain ⟨total, htotal⟩ := h.rides id
    obtain ⟨total', htotal'⟩ := h'.rides id
    refine ⟨total', ?_⟩
    rw [htotal', htotal, Option.map_map]
    rfl
  supplements id s hs := by
    obtain ⟨s', hs', hlater⟩ := h.supplements id s hs
    obtain ⟨s'', hs'', hlater'⟩ := h'.supplements id s' hs'
    exact ⟨s'', hs'', hlater.trans hlater'⟩

/-- The discipline. -/
def supplementDiscipline (σ : Scenario Proc World) : RelyGuarantee σ.machine where
  inv s := s.db.Billed
  rely _ s s' := SupplementsLater s.db s'.db
  guar _ s s' := SupplementsLater s.db s'.db
  same := sameSupplements
  rely_refl _ _ := .refl _
  rely_trans _ _ _ _ h h' := h.trans h'
  rely_of_guar _ _ _ _ _ h := h
  same_refl k db := by cases k <;> simp [sameSupplements]
  same_trans k db db' db'' h h' := by
    cases k with
    | ride id => exact ⟨h.1.trans h'.1, h.2.trans h'.2⟩
    | supplement id => exact Eq.trans h h'
    | _ => trivial

section

variable [DecidableEq Proc]

/-- What the requests of a run owe to the supplements: `c` is where it begins and `c'` where it ends. -/
structure SupplementsAddUp (c : Config σ.machine) (ms : List (Move σ.machine)) (c' : Config σ.machine) :
    Prop where
  /-- The total of every ride is the sum of its accepted supplements. -/
  total : ∀ r ∈ c'.shared.db.rides.rows, r.supplementsTotal = c'.shared.db.acceptedSupplements r.id
  /-- Every supplement is decided at most once, and does not change afterwards. -/
  once : ∀ before later c₁, ms = before ++ later → c.run before = some c₁ →
    ∀ id s, c₁.shared.db.supplements.find? id = some s →
      ∃ s', c'.shared.db.supplements.find? id = some s' ∧ s.Later s'
  /-- A request that starts after the same decision succeeds, and changes nothing. -/
  repeats : ∀ before later c₁ i, ms = before ++ later → c.run before = some c₁ →
    c₁.task i = c.task i → (σ.call i).Repeats c₁.shared.db →
    LeavesAlone i c₁ later ∧ ∀ e, (i, Except.error e) ∉ c'.shared.log

end

end DiddiGo.Rides

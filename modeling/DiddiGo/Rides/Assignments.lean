import DiddiGo.Rides.Changes
import DiddiGo.Rides.Concurrency
import DiddiGo.Transactions.Stages

/-!
# Accepting at the same time

Several drivers accept rides at once. The claim of a ride in Redis has one holder, and whoever holds it
finds the ride as it was offered; the unique index on active drivers decides between two rides.
-/

namespace DiddiGo.Rides

open Data (Table)
open Transactions

/-- The ride that the request accepts. -/
def RideCall.acceptedRide (c : RideCall) : Option UUID :=
  match c.op with
  | .accept rideId => some rideId
  | _ => none

/-- What the claim of a ride can become by the command `q` of process `i`: `SET NX` takes it if it is free,
`DEL` gives it up. -/
inductive ClaimStep {Proc : Type} (i : Proc) (q : Query) (holder holder' : UUID → Option Proc) (rideId : UUID) :
    Prop
  | kept (h : holder' rideId = holder rideId)
  | taken {userId : UUID} (hq : q = .claim rideId userId) (hfree : holder rideId = none)
      (h : holder' rideId = some i)
  | released (hq : q = .releaseClaim rideId ∨ q = .clear rideId) (h : holder' rideId = none)

variable {Proc World : Type} {σ : Scenario Proc World}

/-- Redis keeps the claims of rides; no claim expires during the run. A command takes effect when Redis
receives it, or not at all. -/
structure ClaimStore (σ : Scenario Proc World) where
  /-- The request that has claimed a ride. -/
  holder : World → UUID → Option Proc
  receives : ∀ w i q rideId, ClaimStep i q (holder w) (holder (σ.receives w i q)) rideId
  answers : ∀ w i q a w', σ.answers w i q a = some w' → ∀ rideId, holder w' rideId = holder w rideId
  /-- Who is told that it has won has the claim. -/
  won : ∀ w i rideId userId w', σ.answers w i (.claim rideId userId) (.ok (.flag true)) = some w' →
    holder w rideId = some i

/-- The row of a ride after the driver was assigned to it: `row` was offered before. -/
structure Assigns (c : RideCall) (db : RideDb) (row row' : Ride) : Prop where
  offered : row.status = .requested
  assigned : ∃ profile vehicle, db.profileOf c.actor.userId = some profile ∧ profile.status = .active ∧
    profile.isReviewAccount = row.isReviewAccount ∧
    vehicle ∈ db.vehicles.rows ∧ vehicle.driverId = profile.id ∧ vehicle.active = true ∧
    row' = ((row.toDomain.assign profile.id vehicle.id).enter .matched c.clock.now).storedOver row

/-- The ride `id` keeps the driver `d` from other rides. -/
def RideDb.Drives (db : RideDb) (d id : UUID) : Prop :=
  ∃ r, db.rides.find? id = some r ∧ r.activeDriver = some d

/-- A driver has one active ride at most. -/
def RideDb.SoleDrivers (db : RideDb) : Prop := ∀ d id id', db.Drives d id → db.Drives d id' → id = id'

/-! ## The discipline -/

/-- Process `i` has accepted the ride `rideId`: it holds the claim, and the row is the one it wrote. -/
structure HasWon (claims : ClaimStore σ) (db₀ : RideDb) (i : Proc) (rideId : UUID) (s : Shared σ.machine) :
    Prop where
  accepts : (σ.call i).acceptedRide = some rideId
  logged : (i, Except.ok ()) ∈ s.log
  holds : claims.holder s.world rideId = some i
  row : ∃ row row', db₀.rides.find? rideId = some row ∧ s.db.rides.find? rideId = some row' ∧
    Assigns (σ.call i) db₀ row row'

/-- What the locks on rows and keys protect. -/
def sameDriver : Row → RideDb → RideDb → Prop
  | .ride id, db, db' => db.rides.find? id = db'.rides.find? id
  | .activeDriver d, db, db' => ∀ id, db.Drives d id ↔ db'.Drives d id
  | _, _, _ => True

/-- What holds between any two steps of a run that starts with `db₀`. -/
structure AcceptInv (claims : ClaimStore σ) (db₀ : RideDb) (s : Shared σ.machine) : Prop where
  /-- A ride is as it was, or a request has accepted it. -/
  rows : ∀ id, s.db.rides.find? id = db₀.rides.find? id ∨ ∃ j, HasWon claims db₀ j id s
  /-- A request that succeeded has accepted its ride. -/
  successes : ∀ j id, (j, Except.ok ()) ∈ s.log → (σ.call j).acceptedRide = some id →
    HasWon claims db₀ j id s
  sole : s.db.SoleDrivers
  profiles : s.db.profiles = db₀.profiles
  vehicles : s.db.vehicles = db₀.vehicles

/-- What process `j` may do to the claim and the row of a ride: nothing to those of another holder. -/
structure AcceptGuar (claims : ClaimStore σ) (j : Proc) (s s' : Shared σ.machine) (id : UUID) : Prop where
  row : claims.holder s.world id ≠ some j → s'.db.rides.find? id = s.db.rides.find? id
  claim : claims.holder s'.world id = claims.holder s.world id ∨
    claims.holder s.world id = none ∧ claims.holder s'.world id = some j ∨
    claims.holder s.world id = some j ∧ claims.holder s'.world id = none

/-- What process `i` relies on: the rides that it holds stay as they are, and its claims its own. -/
structure AcceptRely (claims : ClaimStore σ) (i : Proc) (s s' : Shared σ.machine) : Prop where
  row : ∀ id, claims.holder s.world id = some i → s'.db.rides.find? id = s.db.rides.find? id
  claim : ∀ id, claims.holder s'.world id = some i ↔ claims.holder s.world id = some i
  log : ∀ r, (i, r) ∈ s'.log ↔ (i, r) ∈ s.log

/-- The discipline of requests that accept rides. -/
def acceptDiscipline (claims : ClaimStore σ) (db₀ : RideDb) : RelyGuarantee σ.machine where
  inv := AcceptInv claims db₀
  rely := AcceptRely claims
  guar j s s' := (∀ id, AcceptGuar claims j s s' id) ∧ ∀ i r, i ≠ j → ((i, r) ∈ s'.log ↔ (i, r) ∈ s.log)
  same := sameDriver
  rely_refl _ _ := ⟨fun _ _ => rfl, fun _ => Iff.rfl, fun _ => Iff.rfl⟩
  rely_trans _ _ _ _ h h' :=
    ⟨fun id hid => (h'.row id ((h.claim id).mpr hid)).trans (h.row id hid),
      fun id => (h'.claim id).trans (h.claim id), fun r => (h'.log r).trans (h.log r)⟩
  rely_of_guar i j s s' hij h := by
    refine ⟨fun id hid => (h.1 id).row fun hj => hij (Option.some.inj (hid.symm.trans hj)), fun id => ?_,
      fun r => h.2 i r hij⟩
    rcases (h.1 id).claim with hsame | ⟨hfree, htaken⟩ | ⟨hheld, hreleased⟩
    · rw [hsame]
    · rw [hfree, htaken]
      exact ⟨fun hj => absurd (Option.some.inj hj).symm hij, nofun⟩
    · rw [hheld, hreleased]
      exact ⟨nofun, fun hj => absurd (Option.some.inj hj).symm hij⟩
  same_refl k db := by cases k <;> simp [sameDriver]
  same_trans k db db' db'' h h' := by
    cases k with
    | ride id => exact Eq.trans h h'
    | activeDriver d => exact fun id => (h id).trans (h' id)
    | _ => trivial

/-! ## Stages -/

/-- The process has written nothing and has not ended. -/
structure LooksOn (i : Proc) (P : Point σ.machine) : Prop where
  unchanged : ∀ db, P.pending db = db
  running : ∀ r, (i, r) ∉ P.shared.log

/-- The process has claimed the ride. -/
structure HoldsClaim (claims : ClaimStore σ) (i : Proc) (rideId : UUID) (P : Point σ.machine) : Prop where
  holds : claims.holder P.shared.world rideId = some i
  running : ∀ r, (i, r) ∉ P.shared.log

/-- The driver is assigned in its changes: `row` was the row of the ride. -/
structure HasAssigned (claims : ClaimStore σ) (i : Proc) (row ride : Ride) (d : UUID) (P : Point σ.machine) :
    Prop extends HoldsClaim claims i row.id P where
  heldRide : P.held (.ride row.id)
  heldDriver : P.held (.activeDriver d)
  free : ∀ id, id ≠ row.id → ¬ P.shared.db.Drives d id
  rides : ∀ db, (P.pending db).rides = (db.flushRide row ride).rides
  profiles : ∀ db, (P.pending db).profiles = db.profiles
  vehicles : ∀ db, (P.pending db).vehicles = db.vehicles

section

variable [DecidableEq Proc]

/-- What requests that accept rides lead to: `c` is where the run begins and `c'` where it ends. -/
structure AcceptsAgree (c c' : Config σ.machine) : Prop where
  /-- A ride is accepted once. -/
  once : ∀ i j id, (i, Except.ok ()) ∈ c'.shared.log → (j, Except.ok ()) ∈ c'.shared.log →
    (σ.call i).acceptedRide = some id → (σ.call j).acceptedRide = some id → i = j
  /-- Who succeeds has got the ride, which was waiting for a driver. -/
  assigned : ∀ i id, (i, Except.ok ()) ∈ c'.shared.log → (σ.call i).acceptedRide = some id →
    ∃ row row', c.shared.db.rides.find? id = some row ∧ c'.shared.db.rides.find? id = some row' ∧
      Assigns (σ.call i) c.shared.db row row'
  /-- A ride that no request has accepted is as it was. -/
  untouched : ∀ id, (∀ i, (i, Except.ok ()) ∈ c'.shared.log → (σ.call i).acceptedRide ≠ some id) →
    c'.shared.db.rides.find? id = c.shared.db.rides.find? id
  /-- No driver has two active rides. -/
  sole : c'.shared.db.SoleDrivers

end

end DiddiGo.Rides

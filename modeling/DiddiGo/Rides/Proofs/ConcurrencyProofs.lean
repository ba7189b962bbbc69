import DiddiGo.Rides.Concurrency
import DiddiGo.Rides.Proofs.RideDbProofs
import DiddiGo.Transactions.Proofs.GuardingProofs

/-!
# Ride requests in a stage

What ride code reads and checks leaves its process in every stage.
-/

namespace DiddiGo.Rides

open Transactions Prog RelyGuarantee

variable {Proc World : Type} {σ : Scenario Proc World} {R : RelyGuarantee σ.machine} {i : Proc}
  {harmless : (RideDb → RideDb) → Prop} {J : Point σ.machine → Prop}

section

variable (hJ : R.Stage i harmless J)

include hJ

theorem stays_loadRide (rideId : UUID) : R.Stays i J (loadRide rideId) := by
  refine (Stays.select hJ _).bind fun o => ?_
  cases o with
  | some ride => exact .ret _
  | none => exact .raise _

theorem stays_isAssignedDriver (ride : Ride) (userId : UUID) : R.Stays i J (isAssignedDriver ride userId) := by
  unfold isAssignedDriver
  cases ride.driverId with
  | none => exact .ret _
  | some driverId => exact (Stays.select hJ _).bind fun _ => .ret _

theorem stays_checkDriver (ride : Ride) (actor : Actor) (message : String) :
    R.Stays i J (checkDriver ride actor message) := by
  unfold checkDriver
  by_cases hadmin : actor.isAdmin = true
  · rw [if_pos hadmin]
    exact .ret _
  · rw [if_neg hadmin]
    exact (stays_isAssignedDriver hJ ride actor.userId).bind fun _ => .raiseIf _ _

theorem stays_requireBusinessDriver (actor : Actor) : R.Stays i J (requireBusinessDriver actor) := by
  unfold requireBusinessDriver
  by_cases hadmin : actor.isAdmin = true
  · rw [if_pos hadmin]
    exact .ret _
  rw [if_neg hadmin]
  refine (Stays.select hJ _).bind fun o => ?_
  cases o with
  | none => exact .raise _
  | some profile => exact .raiseIf _ _

theorem stays_requireActiveRideForDriver (rideId : UUID) (actor : Actor) (action : String) :
    R.Stays i J (requireActiveRideForDriver rideId actor action) :=
  (stays_loadRide hJ rideId).bind fun ride => (stays_checkDriver hJ ride actor _).bind fun _ =>
    (Stays.raiseIf _ _).bind fun _ => .ret _

/-! ### Failures included -/

theorem remains_isAssignedDriver (ride : Ride) (userId : UUID) :
    R.Remains i J (isAssignedDriver ride userId) := by
  unfold isAssignedDriver
  cases ride.driverId with
  | none => exact .ret _
  | some driverId => exact (Remains.select hJ _).bind fun _ => .ret _

theorem remains_checkParticipant (ride : Ride) (actor : Actor) : R.Remains i J (checkParticipant ride actor) := by
  refine Remains.bind ?_ fun _ => .raiseIf _ _
  unfold isParticipant
  by_cases h : ride.passengerUserId = actor.userId
  · rw [if_pos h]
    exact .ret _
  · rw [if_neg h]
    exact remains_isAssignedDriver hJ ride actor.userId

end

theorem stays_supplementAmount (type : String) (amount : Option Decimal) :
    R.Stays i J (supplementAmount type amount) := by
  unfold supplementAmount
  cases supplementFixedAmounts.lookup type with
  | some fixed => exact (Stays.raiseIf _ _).bind fun _ => .ret _
  | none =>
    refine (Stays.raiseIf _ _).bind fun _ => ?_
    split
    · exact .ret _
    · exact .raise _

theorem stays_supplementLabel (type : String) (label : Option String) :
    R.Stays i J (supplementLabel type label) := by
  unfold supplementLabel
  by_cases hother : type = "other"
  · rw [if_pos hother]
    exact (Stays.raiseIf _ _).bind fun _ => .ret _
  · rw [if_neg hother]
    exact .ret _

/-! ### Results -/

theorem ok_mem_log_append {s : Shared σ.machine} {j : Proc} {result : Except Err Unit}
    (h : j = i → result ≠ .ok ()) :
    (j, Except.ok ()) ∈ s.log ++ [(i, result)] ↔ (j, Except.ok ()) ∈ s.log := by
  refine ⟨fun hmem => ?_, List.mem_append_left _⟩
  rcases List.mem_append.mp hmem with hmem | hmem
  · exact hmem
  · obtain ⟨hji, hok⟩ := Prod.mk.inj (List.mem_singleton.mp hmem)
    exact absurd hok.symm (h hji)

end DiddiGo.Rides

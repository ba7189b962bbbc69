import DiddiGo.Data.Proofs.TableProofs
import DiddiGo.Rides.Changes

/-!
# Rides in the database

What a flushed ride object leaves in its row when nobody else writes it, and what each change of the
database leaves in the tables.
-/

namespace DiddiGo.Rides

open Data (Json Keyed Table)

@[simp] theorem key_ride (r : Ride) : Keyed.key r = r.id := rfl

@[simp] theorem column_self {α : Type} [DecidableEq α] (loaded new : α) :
    column loaded new loaded = new := by
  unfold column
  split_ifs with h
  · exact h.symm
  · rfl

namespace Ride

@[simp] theorem toDomain_toDomain (r : Ride) : r.toDomain.toDomain = r.toDomain := rfl

@[simp] theorem id_toDomain (r : Ride) : r.toDomain.id = r.id := rfl

/-- A row that did not change since it was loaded gets all columns of the object. -/
theorem flush_self (row r : Ride) : flush row r row = r.storedOver row := by
  simp only [flush, column_self]
  rfl

namespace SameTrip

variable {r r' r'' : Ride}

theorem refl (r : Ride) : SameTrip r r := ⟨rfl, rfl, rfl⟩

theorem trans (h : SameTrip r r') (h' : SameTrip r' r'') : SameTrip r r'' :=
  ⟨h'.id.trans h.id, h'.pickup.trans h.pickup, h'.dropoff.trans h.dropoff⟩

end SameTrip

/-- An object of the same trip, written over its row, is loaded as it was. -/
theorem toDomain_storedOver {r row : Ride} (h : SameTrip row.toDomain r) :
    (r.storedOver row).toDomain = r.toDomain := by
  unfold storedOver toDomain
  have hid : r.id = row.id := h.id
  have hpickup : r.pickupLocation = row.pickupLocation := h.pickup
  have hdropoff : r.dropoffLocation = row.dropoffLocation := h.dropoff
  rw [← hid, ← hpickup, ← hdropoff]
  simp

theorem key_storedOver (r row : Ride) : Keyed.key (r.storedOver row) = Keyed.key row := rfl

theorem storedOver_storedOver {r r' row : Ride} (h : SameTrip r r') :
    r'.storedOver (r.storedOver row) = r'.storedOver row := by
  unfold storedOver
  simp only [h.pickup, h.dropoff, ← Option.or_assoc, Option.or_self]

end Ride

namespace RideDb

variable {db : RideDb} {r r' row : Ride} {id : UUID}

theorem ride?_eq_some : db.ride? id = some r ↔ ∃ row, db.rides.find? id = some row ∧ row.toDomain = r :=
  Option.map_eq_some_iff

theorem id_of_ride? (h : db.ride? id = some r) : r.id = id := by
  obtain ⟨row, hrow, rfl⟩ := ride?_eq_some.mp h
  exact Table.key_of_find? hrow

theorem toDomain_of_ride? (h : db.ride? id = some r) : r.toDomain = r := by
  obtain ⟨row, hrow, rfl⟩ := ride?_eq_some.mp h
  rfl

theorem ride?_id (h : db.ride? id = some r) : db.ride? r.id = some r := by
  rw [id_of_ride? h]
  exact h

theorem statusHistory_of_ride? (h : db.ride? id = some r) : r.statusHistory = [] := by
  obtain ⟨row, hrow, rfl⟩ := ride?_eq_some.mp h
  rfl

/-! ## Writing a ride -/

/-- Flushing the object of an unchanged row. -/
theorem flushRide_eq_put (h : db.rides.find? r.id = some row) : db.flushRide row r = db.put r := by
  unfold flushRide put
  congr 1
  exact Table.update_congr h (Ride.flush_self row r)

theorem find?_put (x : UUID) :
    (db.put r).rides.find? x =
      if x = r.id then (db.rides.find? x).map fun row => r.storedOver row else db.rides.find? x :=
  Table.find?_update db.rides r.id _ r.key_storedOver x

/-- The ride that was written, and the others. -/
theorem ride?_put (h : db.ride? r.id = some r) (ht : Ride.SameTrip r r') (x : UUID) :
    (db.put r').ride? x = if x = r.id then some r'.toDomain else db.ride? x := by
  obtain ⟨row, hrow, hr⟩ := ride?_eq_some.mp h
  unfold ride?
  rw [find?_put, ht.id]
  by_cases hx : x = r.id
  · rw [if_pos hx, if_pos hx, hx, hrow, Option.map_some, Option.map_some]
    rw [Ride.toDomain_storedOver (hr ▸ ht)]
  · rw [if_neg hx, if_neg hx]

theorem ride?_put_self (h : db.ride? r.id = some r) (ht : Ride.SameTrip r r') :
    (db.put r').ride? r.id = some r'.toDomain := by
  rw [ride?_put h ht, if_pos rfl]

theorem ride?_put_of_ne (h : db.ride? r.id = some r) (ht : Ride.SameTrip r r') {x : UUID}
    (hx : x ≠ r.id) : (db.put r').ride? x = db.ride? x := by
  rw [ride?_put h ht, if_neg hx]

/-- Of two writes of a ride the second one counts. -/
theorem put_put (h : Ride.SameTrip r r') : (db.put r).put r' = db.put r' := by
  unfold put
  congr 1
  rw [← h.id]
  exact @Table.update_update _ _ _ _ _ _ _ _ r.key_storedOver r'.key_storedOver fun row =>
    Ride.storedOver_storedOver h

@[simp] theorem rides_move (ts : List RideStatusTransition) (es : List PriorityEvent) :
    (db.move r ts es).rides = (db.put r).rides := rfl

@[simp] theorem ride?_move (ts : List RideStatusTransition) (es : List PriorityEvent) (x : UUID) :
    (db.move r ts es).ride? x = (db.put r).ride? x := rfl

@[simp] theorem supplements_move (ts : List RideStatusTransition) (es : List PriorityEvent) :
    (db.move r ts es).supplements = db.supplements := rfl

@[simp] theorem profiles_move (ts : List RideStatusTransition) (es : List PriorityEvent) :
    (db.move r ts es).profiles = db.profiles := rfl

theorem logged_nil (db : RideDb) : db.logged [] = db := by
  simp [logged]

theorem withEvents_nil (db : RideDb) : db.withEvents [] = db := by
  simp [withEvents]

/-- A write that records nothing. -/
theorem move_nil (r : Ride) : db.move r [] [] = db.put r := by
  unfold move
  rw [logged_nil, withEvents_nil]

/-- A write whose outcome is not recorded. -/
theorem move_logged (r : Ride) (ts : List RideStatusTransition) :
    db.move r ts [] = (db.put r).logged ts := by
  unfold move
  rw [withEvents_nil]

/-! ## Unique keys -/

theorem conflicts_toDomain {r x : Ride} : r.Conflicts x.toDomain ↔ r.Conflicts x := Iff.rfl

theorem conflicts_storedOver {r row x : Ride} : (r.storedOver row).Conflicts x ↔ r.Conflicts x :=
  Iff.rfl

/-- A check of the unique keys that finds nothing. -/
theorem admits_of_conflict (h : db.conflict r = false) : db.Admits r := by
  intro id r' hr' hid hc
  obtain ⟨row, hrow, rfl⟩ := ride?_eq_some.mp hr'
  have hne : row.id ≠ r.id := by
    rw [show row.id = id from Table.key_of_find? hrow]
    exact hid
  have hnone := List.any_eq_false.mp h row (Table.mem_of_find? hrow)
  exact hnone (by simp [hne, conflicts_toDomain.mp hc])

theorem admits_of_flushed (h : db.rides.find? r.id = some row)
    (hc : db.conflict (db.flushed row r) = false) : db.Admits r := by
  have hflushed : db.flushed row r = r.storedOver row := by
    unfold flushed
    rw [h, Option.getD_some, Ride.flush_self]
  rw [hflushed] at hc
  have hid : row.id = r.id := Table.key_of_find? h
  intro id r' hr' hne hcf
  exact admits_of_conflict hc id r' hr' (by rw [show (r.storedOver row).id = row.id from rfl, hid]; exact hne)
    (conflicts_storedOver.mpr hcf)

/-- Only the other rides count. -/
theorem admits_congr {db' : RideDb} (h : ∀ id, id ≠ r.id → db'.ride? id = db.ride? id)
    (hr : db'.Admits r) : db.Admits r :=
  fun x r' hr' hid => hr x r' ((h x hid).trans hr') hid

/-! ## A new ride -/

theorem ride?_createRide {quoteId : UUID} {now : DateTime} (h : db.ride? r.id = none) (x : UUID) :
    (db.createRide r quoteId now).ride? x = if x = r.id then some r.toDomain else db.ride? x := by
  have hnone : db.rides.find? r.id = none := by simpa [ride?] using h
  change ((db.rides.insert r.toDomain).find? x).map Ride.toDomain = _
  by_cases hx : x = r.id
  · have hself : (db.rides.insert r.toDomain).find? r.id = some r.toDomain :=
      Table.find?_insert_self hnone
    rw [if_pos hx, hx, hself]
    rfl
  · have hne : Keyed.key r.toDomain ≠ x := fun h => hx h.symm
    rw [if_neg hx, Table.find?_insert_of_ne _ hne]
    rfl

end RideDb

end DiddiGo.Rides

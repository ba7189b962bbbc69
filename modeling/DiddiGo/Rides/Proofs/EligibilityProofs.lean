import DiddiGo.Rides.Search
import DiddiGo.Rides.Proofs.SearchProofs

/-!
# Who is offered a ride, and who gets it

Neither the search nor the accept looks at the papers of the vehicle, and the accept does not look at what the
search has checked. As long as the answers would be the same, the rules hold in every run.
-/

namespace DiddiGo.Rides

open Transactions Prog

variable {env : Env} {m : Matching} {s : Search} {rideId userId : UUID} {clock : Clock} {ride : Ride}
  {w : Dispatching} {db : RideDb}

/-- Whoever passes `_can_take_ride` with an approved vehicle may drive the ride. -/
theorem mayDrive_of_canTake (hcan : w.canTake env db ride userId = true) (hverified : db.DrivesVerified userId) :
    ∃ profile vehicle, db.profileOf userId = some profile ∧
      (db.vehicles.rows.find? fun v => v.driverId = profile.id ∧ v.active) = some vehicle ∧
      profile.userId = userId ∧ MayDrive env w db ride profile vehicle := by
  unfold Dispatching.canTake at hcan
  cases hprofile : db.profileOf userId with
  | none =>
    rw [hprofile] at hcan
    cases hcan
  | some profile =>
    rw [hprofile, Option.any_some, decide_eq_true_iff] at hcan
    obtain ⟨hcohort, hactive, hcan⟩ := hcan
    cases hvehicle : db.vehicles.rows.find? fun v => v.driverId = profile.id ∧ v.active with
    | none =>
      rw [hvehicle] at hcan
      cases hcan
    | some vehicle =>
      rw [hvehicle, Option.any_some, decide_eq_true_iff] at hcan
      obtain ⟨hblocked, hbalance, hcategory, hcomfort⟩ := hcan
      have huser : profile.userId = userId := by
        have hfind := List.find?_some hprofile
        simpa using hfind
      have hdrives : vehicle.driverId = profile.id ∧ vehicle.active := by
        have hfind := List.find?_some hvehicle
        simpa using hfind
      exact ⟨profile, vehicle, rfl, hvehicle, huser,
        { known := List.mem_of_find?_eq_some hprofile, active := hactive, cohort := hcohort
          onFile := List.mem_of_find?_eq_some hvehicle, owned := hdrives.1, inUse := hdrives.2
          verified := hverified profile hprofile vehicle hvehicle, category := hcategory, comfort := hcomfort
          unblocked := hblocked, solvent := hbalance }⟩

theorem MayDrive.congr {w' : Dispatching} {profile : DriverProfile} {vehicle : Vehicle}
    (h : MayDrive env w db ride profile vehicle) (houtside : w'.outside = w.outside) :
    MayDrive env w' db ride profile vehicle :=
  { h with unblocked := by rw [houtside]; exact h.unblocked, solvent := by rw [houtside]; exact h.solvent }

/-- The drivers of a wave that is opened. -/
theorem Searching.mayDrive {d : MatchingDispatch} {w' : Dispatching} {db' : RideDb}
    (h : Searching env m w db ride clock d w' db') (hnew : d.newWave = true)
    (hverified : ride.status = .requested → ∀ pickup, ride.pickupLocation = some pickup →
      ∀ u ∈ w.found m ride pickup, u ∉ w.tried ride.id → w.canTake env db ride u → db.DrivesVerified u) :
    ∀ u ∈ d.driverUserIds, ∃ profile vehicle, profile.userId = u ∧ MayDrive env w db ride profile vehicle := by
  intro u hu
  cases h with
  | idle hs => cases hnew
  | waits hs hoffers => cases hnew
  | lost hs hwhy hfree => exact absurd hu List.not_mem_nil
  | opened hs hbudget hcommission hoffers hcandidates =>
    obtain ⟨pickup, hpickup, hfound, huntried, hcan⟩ := Dispatching.mem_candidates hu
    obtain ⟨profile, vehicle, -, -, huser, hmay⟩ :=
      mayDrive_of_canTake hcan (hverified hs pickup hpickup u hfound huntried hcan)
    exact ⟨profile, vehicle, huser, hmay⟩

/-- The wave of a matching step is what the engine says. -/
theorem Search.of_waves_dispatched {answered : List UUID} {wave : Wave}
    {r : Except Err MatchingDispatch × Dispatching × RideDb}
    (h : (s.dispatched m answered r).waves = s.waves ++ [wave]) :
    ∃ d w' db', r = (.ok d, w', db') ∧ d.newWave = true ∧ wave.drivers = d.driverUserIds := by
  have hgrows : s.waves ≠ s.waves ++ [wave] := fun h => by simpa using congrArg List.length h
  obtain ⟨e | d, w', db'⟩ := r
  · exact absurd h hgrows
  · unfold dispatched at h
    dsimp only at h
    by_cases hnew : d.newWave ∧ d.driverUserIds ≠ []
    · rw [if_pos hnew] at h
      obtain rfl := List.singleton_inj.mp (List.append_cancel_left h)
      exact ⟨d, w', db', rfl, hnew.1, rfl⟩
    · rw [if_neg hnew] at h
      exact absurd h hgrows

namespace SearchStep

/-- A wave that is opened consists of drivers who may drive the ride. -/
theorem mayDrive_of_wave {step : SearchStep} {wave : Wave} (hpossible : step.Possible s)
    (hverified : step.FindsVerified env rideId s) (h : (step.after env rideId s).waves = s.waves ++ [wave]) :
    ∀ u ∈ wave.drivers, ∃ ride profile vehicle, s.db.ride? rideId = some ride ∧ profile.userId = u ∧
      MayDrive env s.world s.db ride profile vehicle := by
  obtain ⟨hdistinct, hsize⟩ := hpossible
  have hgrows : s.waves ≠ s.waves ++ [wave] := fun h => by simpa using congrArg List.length h
  cases step with
  | tryMatch m clock =>
    obtain ⟨d, w', db', hreq, hnew, hdrivers⟩ := Search.of_waves_dispatched h
    rcases (serves_search env rideId clock s.world s.db (hsize m rfl) hdistinct).request_cases
      with ⟨d', w'', _, db'', hreq', rfl, ride, hr, hd⟩ | ⟨e, w'', db'', hreq', -⟩
    · cases hreq.symm.trans hreq'
      obtain rfl := RideDb.id_of_ride? hr
      rw [hdrivers]
      exact fun u hu => ⟨ride, (hd.mayDrive hnew (hverified ride hr) u hu).imp fun _ ⟨v, h⟩ => ⟨v, hr, h⟩⟩
    · cases hreq.symm.trans hreq'
  | decline m userId clock =>
    obtain ⟨d, w', db', hreq, hnew, hdrivers⟩ := Search.of_waves_dispatched h
    rcases (serves_decline env rideId userId clock s.world s.db (hsize m rfl) hdistinct).request_cases
      with ⟨d', w'', _, db'', hreq', rfl, hd⟩ | ⟨e, w'', db'', hreq', -⟩
    · cases hreq.symm.trans hreq'
      rw [hdrivers]
      cases hd with
      | stays hmem hrest => cases hnew
      | @late ride _ _ _ hr hs hnone hd =>
        obtain rfl := RideDb.id_of_ride? hr
        exact fun u hu => ⟨ride, (hd.mayDrive hnew (hverified ride hr) u hu).imp fun _ ⟨v, h⟩ => ⟨v, hr, h⟩⟩
      | @last ride _ _ _ hr hs hmem hrest hd =>
        -- who is left out of the wave that is over does not matter to the search
        obtain rfl := RideDb.id_of_ride? hr
        exact fun u hu => ⟨ride, (hd.mayDrive hnew (hverified ride hr) u hu).imp fun _ ⟨v, huser, h⟩ =>
          ⟨v, hr, huser, h.congr rfl⟩⟩
    · cases hreq.symm.trans hreq'
  | expire m clock =>
    obtain ⟨d, w', db', hreq, hnew, hdrivers⟩ := Search.of_waves_dispatched h
    rcases (serves_advanceExpiredOffer env rideId clock s.world s.db (hsize m rfl) hdistinct).request_cases
      with ⟨d', w'', _, db'', hreq', rfl, hd⟩ | ⟨e, w'', db'', hreq', hfalse⟩
    · cases hreq.symm.trans hreq'
      rw [hdrivers]
      rcases hd with ⟨-, hold, -⟩ | ⟨ride, hr, -, hd⟩
      · rw [hold] at hnew
        cases hnew
      · obtain rfl := RideDb.id_of_ride? hr
        exact fun u hu => ⟨ride, (hd.mayDrive hnew (hverified ride hr) u hu).imp fun _ ⟨v, h⟩ => ⟨v, hr, h⟩⟩
    · exact hfalse.elim
  | _ => exact absurd h hgrows

/-- A driver who gets the ride may drive it with the vehicle that is recorded. -/
theorem mayDrive_of_accept {now : DateTime} {matched : Ride}
    (hverified : (SearchStep.accept userId now).FindsVerified env rideId s)
    (hok : (serveRequest Dispatching.serve (Rides.accept rideId userId now) (s.world, s.db)).1 = .ok matched) :
    ∃ profile vehicle, profile.userId = userId ∧ matched.driverId = some profile.id ∧
      matched.vehicleId = some vehicle.id ∧ MayDrive env s.world s.db matched profile vehicle := by
  rcases (serves_accept rideId userId now s.world s.db).request_cases
    with ⟨d, w', _, db', hreq, rfl, ride, profile, vehicle, hd⟩ | ⟨e, w', db', hreq, -⟩
  · rw [hreq] at hok
    obtain rfl := Except.ok.inj hok
    obtain ⟨hcan, hdrives⟩ := hverified ride hd.found hd.requested hd.holds
    obtain ⟨profile', vehicle', hprofile, hvehicle, huser, hmay⟩ := mayDrive_of_canTake hcan hdrives
    obtain rfl := Option.some.inj (hd.known.symm.trans hprofile)
    obtain rfl := Option.some.inj (hd.equipped.symm.trans hvehicle)
    rw [hd.assigned]
    exact ⟨profile, vehicle, huser, rfl, rfl, { hmay with }⟩
  · rw [hreq] at hok
    cases hok

end SearchStep

/-- In every run whose steps find the drivers' vehicles approved, and in which a driver who accepts can still
take the ride, everybody who is offered the ride or gets it may drive it at that moment. -/
theorem offersToEligible_run (env : Env) (rideId : UUID) (steps : List SearchStep) (s : Search)
    (hsteps : EachStep (SearchStep.after env rideId) SearchStep.Possible steps s)
    (hverified : EachStep (SearchStep.after env rideId) (SearchStep.FindsVerified env rideId) steps s) :
    EachStep (SearchStep.after env rideId) (SearchStep.OffersToEligible env rideId) steps s := by
  induction steps generalizing s with
  | nil => exact trivial
  | cons step steps ih =>
    refine ⟨⟨fun wave hwave => SearchStep.mayDrive_of_wave hsteps.1 hverified.1 hwave, ?_⟩,
      ih _ hsteps.2 hverified.2⟩
    rintro userId now matched rfl hok
    exact SearchStep.mayDrive_of_accept hverified.1 hok

/-! A vehicle whose papers are rejected while its driver is online. -/

/-- The ride, and the driver with his vehicle in this state. -/
def oneVehicle (status : VehicleVerificationStatus) : RideDb where
  rides := .insert .empty { id := 1, passengerUserId := 2, pickupLocation := some ⟨0, 0⟩ }
  profiles := .insert .empty { id := 3, userId := 4, status := .active }
  vehicles := .insert .empty { id := 5, driverId := 3, verificationStatus := status }

/-- The papers are rejected, a driver is sought, and the driver accepts. -/
def papersRejected : List SearchStep :=
  [.elsewhere lonePool (oneVehicle .rejected), .tryMatch plainMatching { now := 1 }, .accept 4 2]

/-- The search and the accept, with papers that stay approved. -/
def papersApproved : List SearchStep := [.tryMatch plainMatching { now := 1 }, .accept 4 2]

/-- The driver is offered the ride and gets it with the vehicle whose papers were rejected. -/
theorem papersRejected_offered :
    ¬ EachStep (SearchStep.after plainEnv 1) (SearchStep.OffersToEligible plainEnv 1) papersRejected
        { world := lonePool, db := oneVehicle .active } ∧
      ((runSteps (SearchStep.after plainEnv 1) papersRejected { world := lonePool, db := oneVehicle .active }).db.ride?
        1).map (fun r => (r.status, r.driverId, r.vehicleId)) = some (.matched, some 3, some 5) := by
  refine ⟨fun h => ?_, by decide +kernel⟩
  have hwave : ((SearchStep.tryMatch plainMatching { now := 1 }).after plainEnv 1
      { world := lonePool, db := oneVehicle .rejected }).waves = [] ++ [⟨[4], 5⟩] := by
    decide +kernel
  obtain ⟨ride, profile, vehicle, -, -, hmay⟩ := h.2.1.1 _ hwave 4 List.mem_cons_self
  have hvehicle := List.mem_singleton.mp hmay.onFile
  have hverified := hmay.verified
  rw [hvehicle] at hverified
  cases hverified

/-- After the search. -/
def papersSearched : Search :=
  (SearchStep.tryMatch plainMatching { now := 1 }).after plainEnv 1 { world := lonePool, db := oneVehicle .active }

theorem offersToEligible_run_papersApproved :
    EachStep (SearchStep.after plainEnv 1) (SearchStep.OffersToEligible plainEnv 1) papersApproved
      { world := lonePool, db := oneVehicle .active } := by
  have hdrives : ∀ db : RideDb, db.vehicles.rows = (oneVehicle .active).vehicles.rows → ∀ u, db.DrivesVerified u := by
    intro db hrows u p hp v hv
    have hmem := List.mem_of_find?_eq_some hv
    rw [hrows] at hmem
    rw [List.mem_singleton.mp hmem]
  have hall : ((papersSearched.db.ride? 1).all fun r => papersSearched.world.canTake plainEnv papersSearched.db r 4) =
      true := by
    decide +kernel
  have hoffered : ∀ r, papersSearched.db.ride? 1 = some r →
      papersSearched.world.canTake plainEnv papersSearched.db r 4 = true := fun r hr => by
    rw [hr] at hall
    exact hall
  refine offersToEligible_run plainEnv 1 papersApproved _ ⟨⟨?_, ?_⟩, ⟨?_, ?_⟩, trivial⟩ ⟨?_, ?_, trivial⟩
  · exact RideDb.distinct_of_conflict (by decide +kernel)
  · rintro m h
    rw [← Option.some.inj h]
    decide
  · exact RideDb.distinct_of_conflict (by decide +kernel)
  · exact fun _ h => nomatch h
  · exact fun ride hr hs pickup hpickup u hu huntried hcan => hdrives _ rfl u
  · exact fun ride hr hs hmem => ⟨hoffered ride hr, hdrives _ (by decide +kernel) 4⟩

end DiddiGo.Rides

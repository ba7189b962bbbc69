import DiddiGo.Rides.Proofs.MatchingProofs

/-!
# The waves of a search

What one matching step preserves, and from it, by induction, what holds in every run: nobody is offered the
ride twice, and only a driver of the last wave can have it.
-/

namespace DiddiGo.Rides

open Transactions Prog

variable {env : Env} {m : Matching} {s : Search} {rideId userId : UUID} {users : List UUID} {clock : Clock}
  {ride : Ride}

theorem hasStatus_iff {db : RideDb} {status : RideStatus} (hr : db.ride? rideId = some ride) :
    db.HasStatus rideId status ↔ ride.status = status := by
  constructor
  · rintro ⟨r, hr', hs⟩
    rw [hr] at hr'
    obtain rfl := Option.some.inj hr'
    exact hs
  · exact fun hs => ⟨ride, hr, hs⟩

/-- The status of the ride that was written. -/
theorem hasStatus_put {db : RideDb} {r : Ride} {ts : List RideStatusTransition} {status : RideStatus}
    (hr : db.ride? ride.id = some ride) (ht : Ride.SameTrip ride r) :
    ((db.put r).logged ts).HasStatus ride.id status ↔ r.status = status := by
  have hput : ((db.put r).logged ts).ride? ride.id = some r.toDomain := RideDb.ride?_put_self hr ht
  rw [hasStatus_iff hput]
  rfl

/-- A driver who can take a ride has a profile. -/
theorem exists_profile_of_canTake {w : Dispatching} {db : RideDb} (h : w.canTake env db ride userId = true) :
    ∃ p ∈ db.profiles.rows, p.userId = userId := by
  unfold Dispatching.canTake at h
  cases hp : db.profileOf userId with
  | none =>
    rw [hp] at h
    cases h
  | some p =>
    unfold RideDb.profileOf at hp
    exact ⟨p, List.mem_of_find?_eq_some hp, by simpa using List.find?_some hp⟩

namespace Search

theorem Fresh.orderly (h : s.Fresh rideId) : s.Orderly rideId users where
  distinct := h.distinct
  sizes := by rw [h.waves]; exact fun _ h => absurd h List.not_mem_nil
  nodup := by unfold offered; rw [h.waves]; exact List.nodup_nil
  known := by unfold offered; rw [h.waves]; exact List.nil_subset _
  tried := fun _ => by unfold offered; rw [h.tried, h.waves]; rfl
  holders := fun _ u hu => by rw [h.offers] at hu; exact absurd hu List.not_mem_nil

/-- Only whether the ride is requested, and what is kept for it, matters. -/
theorem Orderly.congr {w : Dispatching} {db : RideDb} (h : s.Orderly rideId users) (hdistinct : db.Distinct)
    (hkept : db.HasStatus rideId .requested → s.db.HasStatus rideId .requested ∧
      w.offers rideId ⊆ s.world.offers rideId ∧ w.tried rideId = s.world.tried rideId) :
    ({ s with world := w, db := db } : Search).Orderly rideId users where
  distinct := hdistinct
  sizes := h.sizes
  nodup := h.nodup
  known := h.known
  tried := fun hr => (hkept hr).2.2.trans (h.tried (hkept hr).1)
  holders := fun hr u hu => h.holders (hkept hr).1 u ((hkept hr).2.1 hu)

/-- Drivers answer, and fewer can still accept. -/
theorem Orderly.answer {w : Dispatching} {answered : List UUID} (h : s.Orderly rideId users)
    (htried : w.tried rideId = s.world.tried rideId)
    (hoffers : ∀ u ∈ w.offers rideId, u ∈ s.world.offers rideId ∧ u ∉ answered) :
    ({ s with world := w, declined := s.declined ++ answered } : Search).Orderly rideId users := by
  refine ⟨h.distinct, h.sizes, h.nodup, h.known, fun hreq => htried.trans (h.tried hreq), fun hreq u hu => ?_⟩
  obtain ⟨hlapsed, hdeclined, hlast⟩ := h.holders hreq u (hoffers u hu).1
  refine ⟨hlapsed, fun hmem => ?_, hlast⟩
  exact (List.mem_append.mp hmem).elim hdeclined (hoffers u hu).2

/-- A search that goes on from an orderly state. -/
theorem Orderly.searching {answered : List UUID} {d : MatchingDispatch} {w' : Dispatching} {db' : RideDb}
    (h : s.Orderly ride.id users) (hr : s.db.ride? ride.id = some ride)
    (husers : ∀ p ∈ s.db.profiles.rows, p.userId ∈ users)
    (hanswered : ∀ u ∈ s.world.offers ride.id, u ∉ answered)
    (hd : Searching env m s.world s.db ride clock d w' db') :
    (s.dispatched m answered (.ok d, w', db')).Orderly ride.id users := by
  have hunmoved : ({ s with declined := s.declined ++ answered } : Search).Orderly ride.id users :=
    h.answer rfl fun u hu => ⟨hu, hanswered u hu⟩
  unfold dispatched
  cases hd with
  | idle hs =>
    dsimp only
    rw [if_neg fun h => Bool.false_ne_true h.1]
    exact hunmoved
  | waits hs hoffers =>
    dsimp only
    rw [if_neg fun h => Bool.false_ne_true h.1]
    exact hunmoved
  | lost hs hwhy hfree =>
    dsimp only
    rw [if_neg fun h => h.2 rfl]
    have ht : Ride.SameTrip ride (ride.enter .noDriverFound clock.gaveUpAt) := ⟨rfl, rfl, rfl⟩
    refine hunmoved.congr ((h.distinct.put hr ht hfree).congr fun _ => rfl) fun hreq => ?_
    rw [hasStatus_put hr ht] at hreq
    cases hreq
  | opened hs hbudget hcommission hoffers hcandidates =>
    dsimp only
    rw [if_pos ⟨rfl, hcandidates⟩]
    have hrequested : s.db.HasStatus ride.id .requested := (hasStatus_iff hr).mpr hs
    have htried := h.tried hrequested
    set wave := s.world.candidates env m s.db ride clock with hwave
    have hnodup : wave.Nodup := Dispatching.nodup_candidates
    have hnew : ∀ u ∈ wave, u ∉ s.offered := fun u hu => by
      obtain ⟨_, _, _, huntried, _⟩ := Dispatching.mem_candidates hu
      rwa [htried] at huntried
    have hoffered : ∀ limit : Nat, (s.waves ++ [Wave.mk wave limit]).flatMap Wave.drivers = s.offered ++ wave :=
      fun limit => by
        rw [List.flatMap_append]
        simp [offered]
    exact
      { distinct := h.distinct
        sizes := fun x hx => by
          rcases List.mem_append.mp hx with hx | hx
          · exact h.sizes x hx
          · obtain rfl := List.mem_singleton.mp hx
            exact ⟨List.length_pos_iff.mpr hcandidates, Dispatching.length_candidates_le⟩
        nodup := by
          unfold offered
          rw [hoffered]
          refine List.nodup_append.mpr ⟨h.nodup, hnodup, fun a ha b hb hab => hnew b hb (hab ▸ ha)⟩
        known := by
          unfold offered
          rw [hoffered]
          refine List.append_subset.mpr ⟨h.known, fun u hu => ?_⟩
          obtain ⟨_, _, _, _, hcan⟩ := Dispatching.mem_candidates hu
          obtain ⟨p, hp, rfl⟩ := exists_profile_of_canTake hcan
          exact husers p hp
        tried := fun _ => by
          unfold offered
          rw [hoffered, Dispatching.tried_openOffers, htried, sadd_of_disjoint hnodup hnew]
        holders := fun _ u hu => by
          rw [Dispatching.offers_openOffers, sadd_nil hnodup] at hu
          exact ⟨rfl, List.not_mem_nil, _, List.getLast?_concat, hu⟩ }

/-- A search that finds the wave over opens another one or is given up. -/
theorem progress_searching {answered : List UUID} {d : MatchingDispatch} {w' : Dispatching} {db' : RideDb}
    (hr : s.db.ride? ride.id = some ride) (hs : ride.status = .requested)
    (hover : s.world.offers ride.id = []) (hd : Searching env m s.world s.db ride clock d w' db') :
    (s.dispatched m answered (.ok d, w', db')).waves.length = s.waves.length + 1 ∨
      (s.dispatched m answered (.ok d, w', db')).db.HasStatus ride.id .noDriverFound := by
  unfold dispatched
  cases hd with
  | idle hs' => exact absurd hs hs'
  | waits hs' hoffers => exact absurd hover hoffers
  | lost hs' hwhy hfree =>
    dsimp only
    rw [if_neg fun h => h.2 rfl]
    have ht : Ride.SameTrip ride (ride.enter .noDriverFound clock.gaveUpAt) := ⟨rfl, rfl, rfl⟩
    exact Or.inr ((hasStatus_put hr ht).mpr rfl)
  | opened hs' hbudget hcommission hoffers hcandidates =>
    dsimp only
    rw [if_pos ⟨rfl, hcandidates⟩]
    exact Or.inl (by rw [List.length_append, List.length_singleton])

end Search

/-! ## One step -/

/-- The search by the request that created the ride. -/
theorem serves_search (env : Env) (rideId : UUID) (clock : Clock) (w : Dispatching) {base : RideDb}
    (cur : RideDb) (hsize : 0 < m.config.offerWaveSize) (hdistinct : cur.Distinct) :
    Serves Dispatching.serve (fun w' base' => w' = w ∧ base' = base ∧ cur.ride? rideId = none)
      (fun d w' base' cur' => base' = base ∧ ∃ ride, cur.ride? rideId = some ride ∧
        Searching env m w cur ride clock d w' cur')
      (do
        let ride ← loadRide rideId
        tryMatch env m ride clock) w base cur := by
  refine serves_loadRide (fun hnone => ⟨rfl, rfl, hnone⟩) fun ride hr => ?_
  obtain rfl := RideDb.id_of_ride? hr
  refine (serves_tryMatch hr hsize fun hfree => absurd (admits_lost hdistinct hr) hfree).mono (fun _ _ h => h) ?_
  rintro d w' _ db' ⟨rfl, h⟩
  exact ⟨rfl, ride, hr, h⟩

namespace SearchStep

/-- One step keeps the search orderly. -/
theorem orderly_after (env : Env) {step : SearchStep} (h : s.Orderly rideId users)
    (hallowed : step.Allowed rideId users s) : (step.after env rideId s).Orderly rideId users := by
  obtain ⟨husers, hstep⟩ := hallowed
  cases step with
  | tryMatch m clock =>
    dsimp only [after]
    rcases (serves_search env rideId clock s.world s.db (hstep m rfl) h.distinct).request_cases
      with ⟨d, w', _, db', hreq, rfl, ride, hr, hd⟩ | ⟨e, w', db', hreq, rfl, rfl, -⟩
    · rw [hreq]
      obtain rfl := RideDb.id_of_ride? hr
      exact h.searching hr husers (fun _ _ => List.not_mem_nil) hd
    · rw [hreq]
      exact h
  | decline m userId clock =>
    dsimp only [after]
    rcases (serves_decline env rideId userId clock s.world s.db (hstep m rfl) h.distinct).request_cases
      with ⟨d, w', _, db', hreq, rfl, hd⟩ | ⟨e, w', db', hreq, rfl, rfl⟩
    · rw [hreq]
      cases hd with
      | stays hmem hrest =>
        dsimp only [Search.dispatched]
        rw [if_neg fun h => Bool.false_ne_true h.1]
        refine h.answer rfl fun u hu => ?_
        rw [Dispatching.offers_removeOffer, List.mem_filter] at hu
        exact ⟨hu.1, fun hmem => of_decide_eq_true hu.2 (List.mem_singleton.mp hmem)⟩
      | late hr hs hnone hd =>
        obtain rfl := RideDb.id_of_ride? hr
        refine h.searching hr husers (fun u hu => ?_) hd
        rw [hnone] at hu
        exact absurd hu List.not_mem_nil
      | @last ride _ _ _ hr hs hmem hrest hd =>
        obtain rfl := RideDb.id_of_ride? hr
        have hempty : ((s.world.removeOffer ride.id userId).deleteOffers ride.id).offers ride.id = [] :=
          Dispatching.offers_deleteOffers
        have hover : ({ s with world := (s.world.removeOffer ride.id userId).deleteOffers ride.id } :
            Search).Orderly ride.id users := h.congr h.distinct fun hreq => ⟨hreq, by simp, rfl⟩
        refine hover.searching hr husers (fun u hu => ?_) hd
        rw [hempty] at hu
        exact absurd hu List.not_mem_nil
    · rw [hreq]
      exact h
  | accept userId now =>
    dsimp only [after]
    rcases (serves_accept rideId userId now s.world s.db).request_cases
      with ⟨d, w', _, db', hreq, rfl, ride, profile, vehicle, hd⟩ | ⟨e, w', db', hreq, rfl, claim, rfl⟩
    · rw [hreq]
      obtain rfl := RideDb.id_of_ride? hd.found
      have ht : Ride.SameTrip ride d := by
        rw [hd.assigned]
        exact ⟨rfl, rfl, rfl⟩
      rw [hd.stored]
      refine h.congr ((h.distinct.put hd.found ht hd.free).congr fun _ => rfl) fun hr => ?_
      rw [hasStatus_put hd.found ht, hd.assigned] at hr
      cases hr
    · rw [hreq]
      exact h.congr h.distinct fun hr => ⟨hr, List.Subset.refl _, rfl⟩
  | expire m clock =>
    dsimp only [after]
    rcases (serves_advanceExpiredOffer env rideId clock s.world s.db (hstep m rfl) h.distinct).request_cases
      with ⟨d, w', _, db', hreq, rfl, hd⟩ | ⟨e, w', db', hreq, hfalse⟩
    · rw [hreq]
      rcases hd with ⟨-, hold, rfl, rfl⟩ | ⟨ride, hr, -, hd⟩
      · dsimp only [Search.dispatched]
        rw [if_neg fun h => by rw [hold] at h; exact Bool.false_ne_true h.1]
        exact h.answer rfl fun u hu => ⟨hu, List.not_mem_nil⟩
      · obtain rfl := RideDb.id_of_ride? hr
        exact h.searching hr husers (fun _ _ => List.not_mem_nil) hd
    · exact hfalse.elim
  | lapse =>
    refine ⟨h.distinct, h.sizes, h.nodup, h.known, h.tried, fun _ u hu => ?_⟩
    rw [after, Dispatching.offers_deleteOffers] at hu
    exact absurd hu List.not_mem_nil
  | elsewhere world db =>
    obtain ⟨hdistinct, hkept⟩ := hstep
    refine h.congr hdistinct fun hr => ?_
    obtain ⟨hr', hoffers, htried⟩ := hkept hr
    exact ⟨hr', fun u hu => hoffers ▸ hu, htried⟩

/-- A step that goes on when the wave is over. -/
theorem progress_after (env : Env) {step : SearchStep}
    (hstep : step ∈ [SearchStep.tryMatch m clock, .expire m clock])
    (h : s.Orderly rideId users) (hallowed : step.Allowed rideId users s)
    (hreq : s.db.HasStatus rideId .requested) (hover : s.world.offers rideId = []) :
    (step.after env rideId s).waves.length = s.waves.length + 1 ∨
      (step.after env rideId s).db.HasStatus rideId .noDriverFound := by
  obtain ⟨ride, hr, hs⟩ := hreq
  have hid := RideDb.id_of_ride? hr
  subst hid
  rcases List.mem_cons.mp hstep with rfl | hstep
  · dsimp only [after]
    rcases (serves_search env ride.id clock s.world s.db (hallowed.2 m rfl) h.distinct).request_cases
      with ⟨d, w', _, db', hreq, rfl, ride', hr', hd⟩ | ⟨e, w', db', hreq, rfl, rfl, hnone⟩
    · rw [hreq]
      obtain rfl := Option.some.inj (hr.symm.trans hr')
      exact Search.progress_searching hr hs hover hd
    · rw [hr] at hnone
      cases hnone
  · obtain rfl := List.mem_singleton.mp hstep
    dsimp only [after]
    rcases (serves_advanceExpiredOffer env ride.id clock s.world s.db (hallowed.2 m rfl) h.distinct).request_cases
      with ⟨d, w', _, db', hreq, rfl, hd⟩ | ⟨e, w', db', hreq, hfalse⟩
    · rw [hreq]
      rcases hd with ⟨hidle, -⟩ | ⟨ride', hr', -, hd⟩
      · rw [hr] at hidle
        exact absurd (hidle.resolve_left (not_not.mpr hover)) (Option.some_ne_none _)
      · obtain rfl := Option.some.inj (hr.symm.trans hr')
        exact Search.progress_searching hr hs hover hd
    · exact hfalse.elim

end SearchStep

/-! ## Whole runs -/

/-- Nobody is offered the ride twice, so there are at most as many waves as drivers. -/
theorem Search.Orderly.length_waves_le (h : s.Orderly rideId users) : s.waves.length ≤ users.length := by
  have hlength : s.waves.length ≤ s.offered.length := by
    unfold Search.offered
    rw [List.length_flatMap]
    have hsum := List.length_le_sum_of_one_le (s.waves.map fun wave => wave.drivers.length) fun n hn => by
      obtain ⟨wave, hwave, rfl⟩ := List.mem_map.mp hn
      exact (h.sizes wave hwave).1
    rwa [List.length_map] at hsum
  exact hlength.trans (List.subperm_of_subset h.nodup h.known).length_le

theorem Search.Orderly.disciplined (h : s.Orderly rideId users) : Disciplined env rideId users s := by
  refine ⟨(List.nodup_flatMap.mp h.nodup).2, h.sizes, h.nodup, fun userId now matched hok => ?_,
    h.length_waves_le, ?_⟩
  · rcases (serves_accept rideId userId now s.world s.db).request_cases
      with ⟨d, w', _, db', hreq, rfl, ride, profile, vehicle, hd⟩ | ⟨e, w', db', hreq, -⟩
    · exact h.holders ⟨ride, hd.found, hd.requested⟩ userId hd.holds
    · rw [hreq] at hok
      cases hok
  · intro hreq hover m clock step hstep hallowed
    rcases SearchStep.progress_after env hstep h hallowed hreq hover with hopened | hlost
    · have hnext := (SearchStep.orderly_after env h hallowed).length_waves_le
      exact Or.inl ⟨hopened, by omega⟩
    · exact Or.inr hlost

/-- Every run of complete matching steps is disciplined. -/
theorem disciplined_runSearch (env : Env) (rideId : UUID) (users : List UUID) (steps : List SearchStep)
    (s : Search) (hfresh : s.Fresh rideId)
    (hsteps : EachStep (SearchStep.after env rideId) (SearchStep.Allowed rideId users) steps s) :
    Disciplined env rideId users (runSteps (SearchStep.after env rideId) steps s) := by
  have horderly : (runSteps (SearchStep.after env rideId) steps s).Orderly rideId users :=
    inv_runSteps hsteps hfresh.orderly fun step t hallowed ht => SearchStep.orderly_after env ht hallowed
  exact horderly.disciplined

/-! A driver who is alone and does not answer. -/

/-- One ride and one driver. -/
def loneDriver : RideDb where
  rides := .insert .empty { id := 1, passengerUserId := 2, pickupLocation := some ⟨0, 0⟩ }
  profiles := .insert .empty { id := 3, userId := 4, status := .active }
  vehicles := .insert .empty { id := 5, driverId := 3 }

/-- The driver is present and available, and everything is near. -/
def lonePool : Dispatching where
  locations := (({} : Locations).updatePosition 4 ⟨0, 0⟩ none 0).setAvailable 4 true 0
  now := 1
  outside := { distanceKm := fun _ _ => 0 }

/-- The settings as they are. -/
def plainEnv : Env := Sample.env

/-- The matching engine of the timer. -/
def plainMatching : Matching := { config := dispatchConfigFromSettings Sample.env.settings, routing := false, priority := false }

/-- The wave of the driver expires, and then there is nobody left. -/
def loneSteps : List SearchStep := [.tryMatch plainMatching { now := 1 }, .lapse, .expire plainMatching { now := 2 }]

theorem disciplined_loneDriver :
    EachStep (SearchStep.after plainEnv 1) (SearchStep.Allowed 1 [4]) loneSteps
        { world := lonePool, db := loneDriver } ∧
      Disciplined plainEnv 1 [4]
        (runSteps (SearchStep.after plainEnv 1) loneSteps { world := lonePool, db := loneDriver }) := by
  have hfresh : ({ world := lonePool, db := loneDriver } : Search).Fresh 1 :=
    ⟨rfl, rfl, rfl, RideDb.distinct_of_conflict (by decide +kernel)⟩
  have hsearches : ∀ m' : Matching, some plainMatching = some m' → 0 < m'.config.offerWaveSize := fun m' h => by
    rw [← Option.some.inj h]
    decide
  have hsteps : EachStep (SearchStep.after plainEnv 1) (SearchStep.Allowed 1 [4]) loneSteps
      { world := lonePool, db := loneDriver } :=
    ⟨⟨by decide +kernel, hsearches⟩, ⟨by decide +kernel, fun _ h => nomatch h⟩,
      ⟨by decide +kernel, hsearches⟩, trivial⟩
  exact ⟨hsteps, disciplined_runSearch plainEnv 1 [4] loneSteps _ hfresh hsteps⟩

end DiddiGo.Rides

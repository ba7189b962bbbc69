import DiddiGo.Rides.Dispatching
import DiddiGo.Rides.Proofs.LocationsProofs
import DiddiGo.Rides.Proofs.RideDbProofs
import Mathlib.Data.List.Dedup

/-!
# What a search comes to

Each part of a search finds what its pure counterpart says, and changes neither Redis nor the database.
-/

namespace DiddiGo.Rides

open Transactions Prog

/-! ## Sets -/

section

variable {s members : List UUID}

theorem sadd_nil (h : members.Nodup) : sadd [] members = members := by
  unfold sadd
  rw [h.dedup]
  simp

theorem mem_sadd {u : UUID} : u ∈ sadd s members ↔ u ∈ s ∨ u ∈ members := by
  unfold sadd
  rw [List.mem_append, List.mem_filter, List.mem_dedup, decide_eq_true_iff]
  tauto

theorem nodup_sadd (hs : s.Nodup) : (sadd s members).Nodup := by
  unfold sadd
  refine List.nodup_append.mpr ⟨hs, (List.nodup_dedup members).filter _, fun a ha b hb hab => ?_⟩
  exact of_decide_eq_true (List.mem_filter.mp hb).2 (hab ▸ ha)

/-- New members are appended. -/
theorem sadd_of_disjoint (h : members.Nodup) (hd : ∀ u ∈ members, u ∉ s) : sadd s members = s ++ members := by
  unfold sadd
  rw [h.dedup, List.filter_eq_self.mpr fun u hu => decide_eq_true (hd u hu)]

end

namespace Dispatching

variable {w : Dispatching} {env : Env} {m : Matching} {db : RideDb} {ride : Ride} {rideId userId : UUID}

/-! ## Redis -/

@[simp] theorem offers_openOffers (members : List UUID) :
    (w.openOffers rideId members).offers rideId = sadd [] members := Function.update_self ..

@[simp] theorem tried_openOffers (members : List UUID) :
    (w.openOffers rideId members).tried rideId = sadd (w.tried rideId) members := Function.update_self ..

@[simp] theorem offers_removeOffer :
    (w.removeOffer rideId userId).offers rideId = (w.offers rideId).filter (· ≠ userId) :=
  Function.update_self ..

@[simp] theorem offers_deleteOffers : (w.deleteOffers rideId).offers rideId = [] := Function.update_self ..

@[simp] theorem offers_clear : (w.clear rideId).offers rideId = [] := Function.update_self ..

@[simp] theorem tried_clear : (w.clear rideId).tried rideId = [] := Function.update_self ..

/-- Questions about drivers are answered from their keys. -/
theorem answerIn : w.locations.AnswerIn w.outside.distanceKm w.now serve w := by
  intro q r h
  cases q <;> first | exact absurd h.symm (by exact Option.some_ne_none r) | skip
  all_goals
    dsimp only [serve]
    rw [h]

theorem finds_currentOffers (nth : Nat) :
    Finds serve (currentOffers rideId nth) w db (w.offers rideId) := by
  unfold currentOffers
  refine .bind (finds_askFor rfl rfl) ?_
  by_cases hnone : w.offers rideId = []
  · rw [if_pos hnone]
    rw [hnone]
    exact .ret
  · rw [if_neg hnone]
    exact finds_askFor rfl rfl

/-! ## Eligibility -/

theorem finds_canTakeRide : Finds serve (canTakeRide env userId ride) w db (w.canTake env db ride userId) := by
  unfold canTakeRide canTake
  refine .bind (.select _) ?_
  cases hprofile : db.profileOf userId with
  | none => exact .ret
  | some profile =>
    rw [Option.any_some]
    by_cases hcohort : profile.isReviewAccount = ride.isReviewAccount
    swap
    · simp only [hcohort, ne_eq, not_false_eq_true, if_true, false_and, decide_false]
      exact .ret
    by_cases hstatus : profile.status = .active
    swap
    · simp only [hcohort, hstatus, ne_eq, not_true_eq_false, not_false_eq_true, if_true, if_false, false_and,
        and_false, decide_false]
      exact .ret
    simp only [hcohort, hstatus, ne_eq, not_true_eq_false, if_false, true_and]
    refine .bind (.select _) ?_
    cases hvehicle : db.vehicles.rows.find? fun v => v.driverId = profile.id ∧ v.active with
    | none =>
      simp only [Option.any_none, Bool.false_eq_true, decide_false]
      exact .ret
    | some vehicle =>
      rw [Option.any_some]
      refine .bind (finds_askFor rfl rfl) ?_
      by_cases hblocked : w.outside.blocked profile.id = true
      · simp only [hblocked, if_true, Bool.true_eq_false, false_and, decide_false, Bool.false_eq_true]
        exact .ret
      simp only [hblocked, Bool.false_eq_true, if_false]
      refine .bind (finds_askFor rfl rfl) ?_
      by_cases hbalance : w.outside.balance profile.id < env.settings.driverMinBalance
      · simp only [hbalance, if_true, not_le.mpr hbalance, false_and, and_false, decide_false,
          Bool.false_eq_true]
        exact .ret
      simp only [hbalance, if_false, not_lt.mp hbalance, true_and]
      by_cases hcategory : vehicle.category = ride.vehicleCategory
      · simp only [hcategory, not_true_eq_false, if_false, true_and, decide_eq_true_eq]
        simp only [Bool.not_eq_true] at hblocked
        simp only [Bool.decide_eq_true]
        exact .ret
      · simp only [hcategory, not_false_eq_true, if_true, false_and, decide_false, Bool.false_eq_true]
        exact .ret

/-- The loop over the drivers that were found. -/
theorem finds_eligibleDrivers {tried : List UUID} {size : Nat} (nearby : List UUID) {eligible : List UUID}
    (hsize : eligible.length < size) :
    Finds serve (eligibleDrivers env ride tried size nearby eligible) w db
      ((eligible ++ nearby.filter fun u => u ∉ tried ∧ w.canTake env db ride u).take size) := by
  induction nearby generalizing eligible with
  | nil =>
    rw [List.filter_nil, List.append_nil, List.take_of_length_le hsize.le]
    exact .ret
  | cons u nearby ih =>
    unfold eligibleDrivers
    by_cases htried : u ∈ tried
    · rw [if_pos htried, List.filter_cons_of_neg (by simp [htried])]
      exact ih hsize
    · rw [if_neg htried]
      refine .bind finds_canTakeRide ?_
      by_cases hcan : w.canTake env db ride u = true
      · rw [if_pos hcan, List.filter_cons_of_pos (by simp [htried, hcan])]
        have hcons : ∀ rest : List UUID, eligible ++ u :: rest = (eligible ++ [u]) ++ rest := by simp
        rw [hcons (List.filter _ _)]
        by_cases hfull : size ≤ (eligible ++ [u]).length
        · have hlength : (eligible ++ [u]).length = size := by
            rw [List.length_append] at hfull ⊢
            simp only [List.length_singleton] at hfull ⊢
            omega
          rw [if_pos hfull, List.take_append_of_le_length hlength.ge, List.take_of_length_le hlength.le]
          exact .ret
        · rw [if_neg hfull]
          exact ih (Nat.not_le.mp hfull)
      · rw [if_neg hcan, List.filter_cons_of_neg (by simp [hcan])]
        exact ih hsize

/-! ## Ranking -/

theorem finds_priorityBonuses (userIds : List UUID) (now : DateTime) :
    Finds serve (priorityBonuses m userIds now) w db (w.bonuses m db userIds now) := by
  unfold priorityBonuses bonuses
  by_cases h : m.priority = false ∨ userIds = []
  · rw [if_pos h, if_pos h]
    exact .ret
  · rw [if_neg h, if_neg h]
    refine .bind (.select _) (.bind (.ask rfl) ?_)
    dsimp only
    cases w.outside.scores _ now <;> exact .ret

/-- Looking a listed key up in the pairs that `f` gives. -/
theorem lookup_pairs {β : Type} (f : UUID → Option β) {userIds : List UUID} (hmem : userId ∈ userIds) :
    (userIds.filterMap fun u => (f u).map fun p => (u, p)).lookup userId = f userId := by
  induction userIds with
  | nil => exact absurd hmem List.not_mem_nil
  | cons u userIds ih =>
    by_cases hu : userId = u
    · subst hu
      cases hf : f userId with
      | some p =>
        rw [List.filterMap_cons, hf, Option.map_some]
        exact List.lookup_cons_self
      | none =>
        refine List.lookup_eq_none_iff.mpr fun q hq => ?_
        obtain ⟨v, -, hv⟩ := List.mem_filterMap.mp hq
        obtain ⟨p, hp, rfl⟩ := Option.map_eq_some_iff.mp hv
        rw [bne_iff_ne]
        rintro rfl
        rw [hf] at hp
        exact absurd hp.symm (Option.some_ne_none p)
    · have hrest := ih ((List.mem_cons.mp hmem).resolve_left hu)
      cases hf : f u with
      | none =>
        rw [List.filterMap_cons, hf, Option.map_none]
        exact hrest
      | some p =>
        rw [List.filterMap_cons, hf, Option.map_some, List.lookup_cons, beq_false_of_ne hu]
        exact hrest

theorem finds_driverEta (pickup : GeoPoint) {userIds : List UUID} (hmem : userId ∈ userIds) :
    Finds serve (driverEta pickup (userIds.filterMap fun u =>
      (w.locations.positionOf (UUID.str u)).map fun p => (u, p)) userId) w db (w.etaOf pickup userId) := by
  unfold driverEta etaOf
  rw [lookup_pairs _ hmem]
  cases w.locations.positionOf (UUID.str userId) with
  | none => exact .ret
  | some origin =>
    refine .bind (.ask rfl) ?_
    rw [Option.bind_some]
    cases w.outside.eta userId origin pickup <;> exact .ret

theorem finds_driverEtas (pickup : GeoPoint) {userIds us : List UUID} (hsub : us ⊆ userIds) :
    Finds serve (driverEtas pickup (userIds.filterMap fun u =>
      (w.locations.positionOf (UUID.str u)).map fun p => (u, p)) us) w db
      (us.map fun u => (u, w.etaOf pickup u)) := by
  induction us with
  | nil => exact .ret
  | cons u us ih =>
    obtain ⟨hu, hus⟩ := List.cons_subset.mp hsub
    exact .bind (finds_driverEta pickup hu) (.bind (ih hus) .ret)

theorem finds_rankByEta {pickup : GeoPoint} (hpickup : ride.pickupLocation = some pickup)
    (eligible : List UUID) (now : DateTime) :
    Finds serve (rankByEta env m ride eligible now) w db (w.rank env m db pickup eligible now) := by
  unfold rankByEta rank
  rw [hpickup]
  dsimp only
  by_cases hplain : m.routing = false ∨ env.settings.matchingEtaRankingEnabled = false ∨ eligible.length ≤ 1
  · rw [if_pos hplain, if_pos hplain]
    exact .ret
  · rw [if_neg hplain, if_neg hplain]
    refine .bind (.ask rfl) (.bind (finds_driverEtas pickup (List.Subset.refl _)) ?_)
    split_ifs with hnone
    · exact .ret
    · exact .bind (finds_priorityBonuses _ _) .ret

theorem finds_nextCandidates (hsize : 0 < m.config.offerWaveSize) (clock : Clock) :
    Finds serve (nextCandidates env m ride clock) w db (w.candidates env m db ride clock) := by
  unfold nextCandidates candidates
  cases hpickup : ride.pickupLocation with
  | none => exact .ret
  | some pickup =>
    refine .bind (finds_askFor rfl rfl) (.bind (Locations.finds_searchDrivers answerIn (by decide)) ?_)
    change Finds serve (if w.found m ride pickup = [] then _ else _) w db _
    by_cases hnone : w.found m ride pickup = []
    · rw [if_pos hnone]
      have hshort : w.shortlist env m db ride pickup = [] := by
        unfold shortlist
        rw [hnone, List.filter_nil, List.take_nil]
      dsimp only
      rw [hshort, rank, if_pos (Or.inr (Or.inr (by simp))), List.take_nil]
      exact .ret
    · rw [if_neg hnone]
      refine .bind (finds_eligibleDrivers _ (hsize.trans_le (le_max_left _ _))) ?_
      exact .bind (finds_rankByEta hpickup _ _) .ret

/-! ## The next wave -/

/-- Drivers with a known travel time, then the others, are all of them. -/
theorem timed_untimed_perm (etas : List (UUID × Option Int)) :
    ((etas.filterMap fun (userId, eta) => eta.map fun n => (userId, n)).map Prod.fst ++
      (etas.filter fun (_, eta) => eta.isNone).map Prod.fst).Perm (etas.map Prod.fst) := by
  induction etas with
  | nil => exact List.Perm.refl _
  | cons e etas ih =>
    obtain ⟨u, eta⟩ := e
    cases eta with
    | some n => exact ih.cons u
    | none => exact List.perm_middle.trans (ih.cons u)

/-- Ranking changes the order only. -/
theorem rank_perm (pickup : GeoPoint) (eligible : List UUID) (now : DateTime) :
    (w.rank env m db pickup eligible now).Perm eligible := by
  unfold rank
  by_cases hplain : m.routing = false ∨ env.settings.matchingEtaRankingEnabled = false ∨ eligible.length ≤ 1
  · rw [if_pos hplain]
  · rw [if_neg hplain]
    extract_lets etas timed untimed bonuses score
    have hsorted : (timed.mergeSort fun a b => score a ≤ score b).Perm timed := List.mergeSort_perm _ _
    have hall : (timed.map Prod.fst ++ untimed).Perm (etas.map Prod.fst) := timed_untimed_perm etas
    have hetas : etas.map Prod.fst = eligible := by
      rw [List.map_map]
      exact List.map_id _
    rw [hetas] at hall
    by_cases hnone : timed = []
    · rw [if_pos hnone]
    · rw [if_neg hnone]
      exact ((hsorted.map Prod.fst).append_right untimed).trans hall

theorem nodup_found (pickup : GeoPoint) : (w.found m ride pickup).Nodup := by
  unfold found Locations.nearby Locations.geosearch
  refine List.Nodup.sublist (List.take_sublist _ _) ?_
  refine List.Nodup.filterMap (fun a a' u ha ha' => ?_) (List.Nodup.filter _ ?_)
  · rw [← UUID.str_of_ofString ha, ← UUID.str_of_ofString ha']
  · rw [List.map_take]
    refine List.Nodup.sublist (List.take_sublist _ _) ?_
    have hperm := (List.mergeSort_perm (w.locations.positions.filter fun p =>
      w.outside.distanceKm pickup p.2 ≤ radiusKm m.config (w.tried ride.id).length)
      fun p q => w.outside.distanceKm pickup p.2 ≤ w.outside.distanceKm pickup q.2).map Prod.fst
    exact hperm.nodup_iff.mpr (Locations.nodup_filter w.locations.nodup _)

theorem mem_shortlist {pickup : GeoPoint} (h : userId ∈ w.shortlist env m db ride pickup) :
    userId ∈ w.found m ride pickup ∧ userId ∉ w.tried ride.id ∧ w.canTake env db ride userId := by
  obtain ⟨hfound, huntried⟩ := List.mem_filter.mp (List.mem_of_mem_take h)
  exact ⟨hfound, of_decide_eq_true huntried⟩

variable {clock : Clock}

theorem length_candidates_le : (w.candidates env m db ride clock).length ≤ m.config.offerWaveSize := by
  unfold candidates
  cases ride.pickupLocation with
  | none => exact Nat.zero_le _
  | some pickup => exact List.length_take_le _ _

theorem mem_candidates (h : userId ∈ w.candidates env m db ride clock) :
    ∃ pickup, ride.pickupLocation = some pickup ∧ userId ∈ w.found m ride pickup ∧
      userId ∉ w.tried ride.id ∧ w.canTake env db ride userId := by
  unfold candidates at h
  cases hpickup : ride.pickupLocation with
  | none =>
    rw [hpickup] at h
    exact absurd h List.not_mem_nil
  | some pickup =>
    rw [hpickup] at h
    exact ⟨pickup, rfl, mem_shortlist ((rank_perm _ _ _).mem_iff.mp (List.mem_of_mem_take h))⟩

theorem nodup_candidates : (w.candidates env m db ride clock).Nodup := by
  unfold candidates
  cases ride.pickupLocation with
  | none => exact List.nodup_nil
  | some pickup =>
    refine List.Nodup.sublist (List.take_sublist _ _) ((rank_perm _ _ _).nodup_iff.mpr ?_)
    exact List.Nodup.sublist (List.take_sublist _ _) ((nodup_found pickup).filter _)

/-- There is no candidate exactly if no driver that was found is untried and can take the ride. -/
theorem candidates_eq_nil {pickup : GeoPoint} (hpickup : ride.pickupLocation = some pickup)
    (hsize : 0 < m.config.offerWaveSize) :
    w.candidates env m db ride clock = [] ↔
      ∀ u ∈ w.found m ride pickup, u ∉ w.tried ride.id → w.canTake env db ride u = false := by
  unfold candidates
  rw [hpickup]
  dsimp only
  rw [List.take_eq_nil_iff, or_iff_right hsize.ne']
  have hnil : (w.rank env m db pickup (w.shortlist env m db ride pickup) clock.rankedAt).length =
      (w.shortlist env m db ride pickup).length := (rank_perm _ _ _).length_eq
  rw [← List.length_eq_zero_iff, hnil, List.length_eq_zero_iff, shortlist, List.take_eq_nil_iff,
    or_iff_right (hsize.trans_le (le_max_left _ _)).ne', List.filter_eq_nil_iff]
  simp only [decide_eq_true_eq, not_and, Bool.not_eq_true]

end Dispatching

end DiddiGo.Rides

import DiddiGo.Rides.Coverage
import DiddiGo.Rides.Proofs.CoverageProofs

/-!
# When the two policies are one

A policy is told apart from another one by a pool of drivers at one place.
-/

namespace DiddiGo.Rides

open Transactions Prog

variable {env : Env} {m m' : Matching} {cfg : DispatchConfig} {w : Dispatching} {db : RideDb} {ride : Ride}
  {rideId userId : UUID} {clock : Clock}

/-! ## From one state -/

/-- Policies with the same budget and the same candidates do the same. -/
theorem serve_tryMatch_congr {base : RideDb} (hsize : 0 < m.config.offerWaveSize)
    (hsize' : 0 < m'.config.offerWaveSize)
    (hbudget : searchBudgetExceeded m.config ride clock.searchedAt =
      searchBudgetExceeded m'.config ride clock.searchedAt)
    (hcandidates : w.candidates env m db ride clock = w.candidates env m' db ride clock) :
    (tryMatch env m ride clock).serve Dispatching.serve w base db =
      (tryMatch env m' ride clock).serve Dispatching.serve w base db := by
  unfold tryMatch
  by_cases hs : ride.status = .requested
  swap
  · rw [if_pos hs, if_pos hs]
  rw [if_neg (not_not.mpr hs), if_neg (not_not.mpr hs), hbudget]
  by_cases hexceeded : searchBudgetExceeded m'.config ride clock.searchedAt = true
  · rw [if_pos hexceeded, if_pos hexceeded]
  rw [if_neg hexceeded, if_neg hexceeded]
  by_cases hcommission : commissionTooHigh env.settings ride = true
  · rw [if_pos hcommission, if_pos hcommission]
  rw [if_neg hcommission, if_neg hcommission, serve_bind, serve_bind, Dispatching.finds_currentOffers 2 base]
  dsimp only
  by_cases hover : w.offers ride.id = []
  swap
  · rw [if_pos hover, if_pos hover]
  rw [if_neg (not_not.mpr hover), if_neg (not_not.mpr hover), serve_bind, serve_bind,
    Dispatching.finds_nextCandidates hsize clock base, Dispatching.finds_nextCandidates hsize' clock base,
    hcandidates]

theorem serve_advance_of_over {base : RideDb} (hr : db.ride? rideId = some ride) (hover : w.offers rideId = []) :
    (advanceExpiredOffer env m rideId clock).serve Dispatching.serve w base db =
      (tryMatch env m ride clock).serve Dispatching.serve w base db := by
  have hfind : Finds Dispatching.serve (findRideById rideId) w db (db.ride? rideId) := .select _
  unfold advanceExpiredOffer
  rw [serve_bind, Dispatching.finds_currentOffers 0 base]
  dsimp only
  rw [if_neg (not_not.mpr hover), serve_bind, hfind base, hr]

theorem serve_decline_of_over {base : RideDb} (hr : db.ride? rideId = some ride) (hs : ride.status = .requested)
    (hover : w.offers rideId = []) :
    (decline env m rideId userId clock).serve Dispatching.serve w base db =
      (tryMatch env m ride clock).serve Dispatching.serve w base db := by
  unfold decline
  rw [serve_bind, finds_loadActiveRide hr hs base]
  dsimp only
  rw [serve_bind, Dispatching.finds_currentOffers 0 base]
  unfold apiErrorIf Prog.raiseIf
  dsimp only
  rw [if_neg fun h => h.1 hover, ret_bind, serve_bind, serve_declineOffer, if_pos hover]
  rfl

theorem radiusKm_eq (n : Nat) : Dispatching.radiusKm cfg n = cfg.radiusAfter (n / cfg.offerWaveSize) := by
  unfold Dispatching.radiusKm DispatchConfig.radiusAfter
  rw [mul_comm]

/-- Without ranking, the wave is made of the first drivers that were found. -/
theorem candidates_of_unranked {pickup : GeoPoint} (hpickup : ride.pickupLocation = some pickup)
    (hunranked : m.routing = false ∨ env.settings.matchingEtaRankingEnabled = false) :
    w.candidates env m db ride clock =
      ((w.found m ride pickup).filter fun u => u ∉ w.tried ride.id ∧ w.canTake env db ride u).take
        m.config.offerWaveSize := by
  unfold Dispatching.candidates Dispatching.rank
  rw [hpickup]
  dsimp only
  rw [if_pos (hunranked.imp_right Or.inl)]
  unfold Dispatching.shortlist
  rw [List.take_take, min_eq_left (le_max_left _ _)]

/-- Policies that agree give the same candidates. -/
theorem Agrees.candidates (h : Agrees env cfg) :
    w.candidates env (timerMatching env) db ride clock =
      w.candidates env (requestMatching cfg) db ride clock := by
  cases hpickup : ride.pickupLocation with
  | none =>
    unfold Dispatching.candidates
    rw [hpickup]
  | some pickup =>
    have hradius : ∀ n, Dispatching.radiusKm (timerMatching env).config n =
        Dispatching.radiusKm (requestMatching cfg).config n := fun n => by
      rw [radiusKm_eq, radiusKm_eq]
      change (dispatchConfigFromSettings env.settings).radiusAfter _ = cfg.radiusAfter _
      rw [h.radius]
      congr 2
      exact h.waveSize.symm
    have hfound : w.found (timerMatching env) ride pickup = w.found (requestMatching cfg) ride pickup := by
      unfold Dispatching.found
      rw [hradius]
    rw [candidates_of_unranked hpickup (Or.inl rfl), candidates_of_unranked hpickup (Or.inr h.ranking), hfound]
    congr 1
    exact h.waveSize.symm

theorem searchBudgetExceeded_max (now : DateTime) :
    searchBudgetExceeded cfg ride now =
      match ride.requestedAt with
      | none => false
      | some requestedAt => decide (0 < max 0 cfg.searchBudgetSeconds ∧
          seconds (max 0 cfg.searchBudgetSeconds) < now - requestedAt) := by
  unfold searchBudgetExceeded
  cases ride.requestedAt with
  | none => rfl
  | some requestedAt =>
    dsimp only
    by_cases hpos : 0 < cfg.searchBudgetSeconds
    · rw [max_eq_right hpos.le]
    · rw [max_eq_left (not_lt.mp hpos)]
      simp [hpos]

theorem Agrees.samePolicy (h : Agrees env cfg) (hsize : 0 < cfg.offerWaveSize) : SamePolicy env cfg := by
  intro rideId userId clock w db ride hr hs hover
  have hid := RideDb.id_of_ride? hr
  subst hid
  have hbudget : searchBudgetExceeded (timerMatching env).config ride clock.searchedAt =
      searchBudgetExceeded (requestMatching cfg).config ride clock.searchedAt := by
    rw [searchBudgetExceeded_max, searchBudgetExceeded_max]
    have hmax : max 0 (timerMatching env).config.searchBudgetSeconds =
        max 0 (requestMatching cfg).config.searchBudgetSeconds := h.budget.symm
    rw [hmax]
  have hcongr : ∀ base, (tryMatch env (timerMatching env) ride clock).serve Dispatching.serve w base db =
      (tryMatch env (requestMatching cfg) ride clock).serve Dispatching.serve w base db := fun base =>
    serve_tryMatch_congr (Nat.succ_pos 4) hsize hbudget h.candidates
  unfold serveRequest
  dsimp only
  rw [serve_advance_of_over hr hover, serve_decline_of_over hr hs hover, hcongr]
  exact ⟨rfl, rfl⟩

/-! ## Telling policies apart -/

/-- Whom the next wave is made of. -/
def nextWave (env : Env) (m : Matching) (w : Dispatching) (db : RideDb) (ride : Ride) (clock : Clock) :
    List UUID :=
  if searchBudgetExceeded m.config ride clock.searchedAt then [] else w.candidates env m db ride clock

theorem nextWave_of_within (h : searchBudgetExceeded m.config ride clock.searchedAt = false) :
    nextWave env m w db ride clock = w.candidates env m db ride clock := by
  unfold nextWave
  rw [h]
  rfl

theorem drivers_tryMatch (m : Matching) (clock : Clock) (hsize : 0 < m.config.offerWaveSize) (hdistinct : db.Distinct)
    (hr : db.ride? ride.id = some ride) (hs : ride.status = .requested)
    (hcommission : commissionTooHigh env.settings ride = false) (hover : w.offers ride.id = []) :
    (serveRequest Dispatching.serve (tryMatch env m ride clock) (w, db)).1.map MatchingDispatch.driverUserIds =
      .ok (nextWave env m w db ride clock) := by
  have hserves : Serves Dispatching.serve (fun _ _ => False)
      (fun d w' base' cur' => base' = db ∧ Searching env m w db ride clock d w' cur')
      (tryMatch env m ride clock) w db db :=
    serves_tryMatch hr hsize fun hfree => absurd (admits_lost hdistinct hr) hfree
  rcases hserves.request_cases with ⟨d, w', _, db', hreq, -, hd⟩ | ⟨_, _, _, _, hfalse⟩
  swap
  · exact hfalse.elim
  rw [hreq]
  unfold nextWave
  cases hd with
  | idle hs' => exact absurd hs hs'
  | waits hs' hoffers => exact absurd hover hoffers
  | lost hs' hwhy hfree =>
    rcases hwhy with hbudget | hcommission' | ⟨-, hnone⟩
    · rw [if_pos hbudget]
      rfl
    · rw [hcommission] at hcommission'
      cases hcommission'
    · rw [hnone, ite_self]
      rfl
  | opened hs' hbudget hcommission hoffers hcandidates =>
    rw [hbudget]
    rfl

/-- The policies make the same waves. -/
theorem SamePolicy.nextWave_eq (h : SamePolicy env cfg) (hsize : 0 < cfg.offerWaveSize) (hdistinct : db.Distinct)
    (hr : db.ride? ride.id = some ride) (hs : ride.status = .requested)
    (hcommission : commissionTooHigh env.settings ride = false) (hover : w.offers ride.id = []) :
    nextWave env (timerMatching env) w db ride clock = nextWave env (requestMatching cfg) w db ride clock := by
  have hsame := (h ride.id 0 clock w db ride hr hs hover).1
  have htimer : serveRequest Dispatching.serve (advanceExpiredOffer env (timerMatching env) ride.id clock) (w, db) =
      serveRequest Dispatching.serve (tryMatch env (timerMatching env) ride clock) (w, db) := by
    unfold serveRequest
    dsimp only
    rw [serve_advance_of_over hr hover]
  have hdrivers := drivers_tryMatch (timerMatching env) clock (Nat.succ_pos 4) hdistinct hr hs
    hcommission hover
  rw [← htimer, hsame, drivers_tryMatch (requestMatching cfg) clock hsize hdistinct hr hs hcommission hover] at hdrivers
  exact (Except.ok.inj hdrivers).symm

/-- A ride that waits for a driver. -/
def crowdRide (requestedAt : Option DateTime) : Ride :=
  { id := 1000, passengerUserId := 1001, pickupLocation := some ⟨0, 0⟩, requestedAt := requestedAt }

/-- The ride and twenty-five drivers. -/
def crowdDb (requestedAt : Option DateTime) : RideDb where
  rides := .insert .empty (crowdRide requestedAt)
  profiles := ⟨(List.range 25).map fun i => { id := i, userId := i, status := .active }, by decide⟩
  vehicles := ⟨(List.range 25).map fun i => { id := i, driverId := i }, by decide⟩

/-- So many drivers are at the distance `d` from everywhere; so many others were tried. -/
def crowd (env : Env) (size : Nat) (d : ℚ) (tried : Nat) (eta : UUID → Option Int) : Dispatching where
  tried := fun _ => (List.range tried).map (· + 1000)
  locations :=
    { positions := (List.range size).map fun i => (UUID.str i, ⟨0, 0⟩)
      nodup := by
        rw [List.map_map]
        exact List.nodup_range.map UUID.str_injective
      seen := fun _ => some 1
      available := fun _ => some 1 }
  now := 0
  outside :=
    { distanceKm := fun _ _ => d
      balance := fun _ => env.settings.driverMinBalance
      eta := fun u _ _ => eta u }

variable {size tried : Nat} {d : ℚ} {eta : UUID → Option Int} {requestedAt : Option DateTime}

theorem inRange_crowd : (crowd env size d tried eta).inRange m (crowdRide requestedAt) ⟨0, 0⟩ =
    if d ≤ Dispatching.radiusKm m.config tried then (List.range size).map UUID.str else [] := by
  have htried : ((crowd env size d tried eta).tried (crowdRide requestedAt).id).length = tried := by
    simp [crowd]
  have hdistance : ∀ p q, (crowd env size d tried eta).outside.distanceKm p q = d := fun _ _ => rfl
  unfold Dispatching.inRange Locations.inRange
  simp only [htried, hdistance]
  by_cases hd : d ≤ Dispatching.radiusKm m.config tried
  · rw [if_pos hd, List.filter_eq_self.mpr fun _ _ => decide_eq_true hd,
      List.mergeSort_of_pairwise (List.pairwise_of_forall fun _ _ => decide_eq_true le_rfl)]
    exact List.map_map
  · rw [if_neg hd, List.filter_eq_nil_iff.mpr fun _ _ h => hd (of_decide_eq_true h), List.mergeSort_nil]
    rfl

theorem found_crowd (hsize : size ≤ 25) :
    (crowd env size d tried eta).found m (crowdRide requestedAt) ⟨0, 0⟩ =
      if d ≤ Dispatching.radiusKm m.config tried then List.range size else [] := by
  have hmarked : ∀ member, (crowd env size d tried eta).locations.marked (crowd env size d tried eta).now true
      member = true := fun _ => rfl
  rw [Dispatching.found_eq, inRange_crowd]
  by_cases hd : d ≤ Dispatching.radiusKm m.config tried
  · have hread : ((List.range size).map UUID.str).filterMap UUID.ofString = List.range size := by
      rw [List.filterMap_map]
      exact (List.filterMap_congr fun u _ => UUID.ofString_str u).trans List.filterMap_some
    have hall : ((List.range size).map UUID.str).length ≤ maxCandidates * 4 := by
      rw [List.length_map, List.length_range]
      exact hsize.trans (by decide)
    rw [if_pos hd, if_pos hd, List.take_of_length_le hall, List.filter_eq_self.mpr fun member _ => hmarked member,
      hread]
    exact List.take_of_length_le (List.length_range.trans_le hsize)
  · rw [if_neg hd, if_neg hd]
    rfl

theorem canTake_crowd {u : UUID} (hu : u < 25) :
    (crowd env size d tried eta).canTake env (crowdDb requestedAt) (crowdRide requestedAt) u = true := by
  have hprofiles : ∀ u < 25, (crowdDb none).profileOf u = some { id := u, userId := u, status := .active } := by
    decide
  have hvehicles : ∀ u < 25, ((crowdDb none).vehicles.rows.find? fun v => v.driverId = u ∧ v.active) =
      some { id := u, driverId := u } := by
    decide
  have hprofile : (crowdDb requestedAt).profileOf u = some { id := u, userId := u, status := .active } :=
    hprofiles u hu
  have hvehicle : ((crowdDb requestedAt).vehicles.rows.find? fun v => v.driverId = u ∧ v.active) =
      some { id := u, driverId := u } := hvehicles u hu
  unfold Dispatching.canTake
  rw [hprofile, Option.any_some]
  dsimp only
  rw [hvehicle, Option.any_some]
  simp [crowd, crowdRide, comfortCanServe, comfortRank]

/-- The shortlist of a crowd. -/
theorem shortlist_crowd (hsize : size ≤ 25) :
    (crowd env size d tried eta).shortlist env m (crowdDb requestedAt) (crowdRide requestedAt) ⟨0, 0⟩ =
      if d ≤ Dispatching.radiusKm m.config tried then
        (List.range size).take (max m.config.offerWaveSize m.config.etaShortlistSize)
      else [] := by
  unfold Dispatching.shortlist
  rw [found_crowd hsize]
  by_cases hd : d ≤ Dispatching.radiusKm m.config tried
  · rw [if_pos hd, if_pos hd, List.filter_eq_self.mpr fun u hu => ?_]
    have hu : u < 25 := (List.mem_range.mp hu).trans_le hsize
    refine decide_eq_true ⟨fun htried => ?_, canTake_crowd hu⟩
    obtain ⟨i, -, hi⟩ := List.mem_map.mp htried
    have hfar : 1000 ≤ u := hi ▸ Nat.le_add_left 1000 i
    exact absurd (hfar.trans_lt hu) (by decide)
  · rw [if_neg hd, if_neg hd, List.filter_nil, List.take_nil]

theorem length_candidates_crowd (hsize : size ≤ 25) :
    ((crowd env size d tried eta).candidates env m (crowdDb requestedAt) (crowdRide requestedAt) clock).length =
      if d ≤ Dispatching.radiusKm m.config tried then min m.config.offerWaveSize size else 0 := by
  change (((crowd env size d tried eta).rank env m (crowdDb requestedAt) ⟨0, 0⟩ _ _).take _).length = _
  rw [List.length_take, (Dispatching.rank_perm ..).length_eq, shortlist_crowd hsize]
  by_cases hd : d ≤ Dispatching.radiusKm m.config tried
  · rw [if_pos hd, if_pos hd, List.length_take, List.length_range, ← min_assoc, min_eq_left (le_max_left _ _)]
  · rw [if_neg hd, if_neg hd]
    exact Nat.min_zero _

/-- A travel time for each of two drivers: the second one is faster. -/
def secondFaster (u : UUID) : Option Int := some (if u = 0 then 10 else 0)

theorem etaOf_crowd {u : UUID} (hu : u < 2) :
    (crowd env 2 d tried secondFaster).etaOf ⟨0, 0⟩ u = secondFaster u := by
  have hposition : ∀ u < 2, ((List.range 2).map fun i => (UUID.str i, (⟨0, 0⟩ : GeoPoint))).lookup (UUID.str u) =
      some ⟨0, 0⟩ := by
    decide +kernel
  have hlookup : (crowd env 2 d tried secondFaster).locations.positionOf (UUID.str u) = some ⟨0, 0⟩ := hposition u hu
  unfold Dispatching.etaOf
  rw [hlookup]
  rfl

/-- Ranked by their travel times, the two drivers change places. -/
theorem rank_crowd (hrouting : m.routing = true) (hranking : env.settings.matchingEtaRankingEnabled = true)
    (now : DateTime) :
    (crowd env 2 d tried secondFaster).rank env m (crowdDb requestedAt) ⟨0, 0⟩ [0, 1] now = [1, 0] := by
  have hplain : ¬ (m.routing = false ∨ env.settings.matchingEtaRankingEnabled = false ∨ [0, 1].length ≤ 1) := by
    simp [hrouting, hranking]
  have hbonuses : (crowd env 2 d tried secondFaster).bonuses m (crowdDb requestedAt) [0, 1] now = [] := by
    unfold Dispatching.bonuses
    exact ite_self _
  have hetas : [0, 1].map (fun u => (u, (crowd env 2 d tried secondFaster).etaOf ⟨0, 0⟩ u)) =
      [(0, some 10), (1, some 0)] := by
    rw [List.map_cons, List.map_singleton, etaOf_crowd (by decide), etaOf_crowd (by decide)]
    rfl
  unfold Dispatching.rank
  rw [if_neg hplain, hetas]
  simp [hbonuses, List.mergeSort, List.MergeSort.Internal.splitInTwo]

theorem candidates_two (m : Matching) (hfive : m.config.offerWaveSize = 5) (hd : d ≤ Dispatching.radiusKm m.config 0) :
    (crowd env 2 d 0 secondFaster).candidates env m (crowdDb requestedAt) (crowdRide requestedAt) clock =
      ((crowd env 2 d 0 secondFaster).rank env m (crowdDb requestedAt) ⟨0, 0⟩ [0, 1] clock.rankedAt).take 5 := by
  have hlength : (List.range 2).length ≤ max m.config.offerWaveSize m.config.etaShortlistSize := by
    rw [hfive, List.length_range]
    exact le_max_of_le_left (by decide)
  have hshort : (crowd env 2 d 0 secondFaster).shortlist env m (crowdDb requestedAt) (crowdRide requestedAt) ⟨0, 0⟩ =
      [0, 1] := by
    rw [shortlist_crowd (by decide), if_pos hd, List.take_of_length_le hlength]
    rfl
  change (Dispatching.rank _ _ _ _ _ _ _).take _ = _
  rw [hshort, hfive]

/-- A radius that is not larger than the first one of either policy. -/
def commonRadius (env : Env) (cfg : DispatchConfig) : ℚ :=
  min (Dispatching.radiusKm (timerMatching env).config 0) (Dispatching.radiusKm cfg 0)

theorem commonRadius_le_timer (env : Env) (cfg : DispatchConfig) :
    commonRadius env cfg ≤ Dispatching.radiusKm (timerMatching env).config 0 := min_le_left _ _

theorem commonRadius_le_stored (env : Env) (cfg : DispatchConfig) :
    commonRadius env cfg ≤ Dispatching.radiusKm cfg 0 := min_le_right _ _

/-- The timer takes the two drivers as they were found. -/
theorem nextWave_timer_two :
    nextWave env (timerMatching env) (crowd env 2 (commonRadius env cfg) 0 secondFaster) (crowdDb none)
      (crowdRide none) { now := 0 } = [0, 1] := by
  have hunranked : (timerMatching env).routing = false := rfl
  rw [nextWave_of_within rfl, candidates_two (timerMatching env) rfl (commonRadius_le_timer env cfg)]
  unfold Dispatching.rank
  rw [if_pos (Or.inl hunranked)]
  rfl

/-- A request ranks them. -/
theorem nextWave_stored_two (hfive : cfg.offerWaveSize = 5)
    (hranking : env.settings.matchingEtaRankingEnabled = true) :
    nextWave env (requestMatching cfg) (crowd env 2 (commonRadius env cfg) 0 secondFaster) (crowdDb none)
      (crowdRide none) { now := 0 } = [1, 0] := by
  have hrouted : (requestMatching cfg).routing = true := rfl
  rw [nextWave_of_within rfl, candidates_two (requestMatching cfg) hfive (commonRadius_le_stored env cfg),
    rank_crowd hrouted hranking]
  rfl

/-- Only its budget ends the search for the nearest driver. -/
theorem nextWave_crowd_eq_nil (env : Env) (m : Matching) (eta : UUID → Option Int) (requestedAt : Option DateTime)
    (clock : Clock) (hsize : 0 < m.config.offerWaveSize) (hd : d ≤ Dispatching.radiusKm m.config 0) :
    nextWave env m (crowd env 1 d 0 eta) (crowdDb requestedAt) (crowdRide requestedAt) clock = [] ↔
      searchBudgetExceeded m.config (crowdRide requestedAt) clock.searchedAt = true := by
  cases hbudget : searchBudgetExceeded m.config (crowdRide requestedAt) clock.searchedAt with
  | true =>
    refine iff_of_true ?_ rfl
    unfold nextWave
    rw [hbudget]
    rfl
  | false =>
    refine iff_of_false (fun hnil => ?_) Bool.false_ne_true
    rw [nextWave_of_within hbudget, ← List.length_eq_zero_iff, length_candidates_crowd (by decide), if_pos hd] at hnil
    omega

namespace SamePolicy

variable (h : SamePolicy env cfg) (hsize : 0 < cfg.offerWaveSize)

include h hsize

/-- The policies make the same waves of a crowd. -/
theorem nextWave_crowd (size : Nat) (d : ℚ) (tried : Nat) (eta : UUID → Option Int)
    (requestedAt : Option DateTime) (clock : Clock) :
    nextWave env (timerMatching env) (crowd env size d tried eta) (crowdDb requestedAt)
      (crowdRide requestedAt) clock =
    nextWave env (requestMatching cfg) (crowd env size d tried eta) (crowdDb requestedAt) (crowdRide requestedAt)
      clock := by
  have hdistinct : (crowdDb requestedAt).Distinct := RideDb.distinct_of_conflict fun r hr => by
    obtain rfl := List.mem_singleton.mp hr
    rfl
  have hcommission : commissionTooHigh env.settings (crowdRide requestedAt) = false :=
    decide_eq_false fun hhigh => Bool.false_ne_true hhigh.2
  exact h.nextWave_eq hsize hdistinct rfl rfl hcommission rfl

/-- Without a budget, the waves are equally long. -/
theorem length_crowd (d : ℚ) (tried : Nat) (hcrowd : size ≤ 25) :
    (if d ≤ Dispatching.radiusKm (timerMatching env).config tried then min 5 size else 0) =
      if d ≤ Dispatching.radiusKm cfg tried then min cfg.offerWaveSize size else 0 := by
  have hwave := h.nextWave_crowd hsize size d tried (fun _ => none) none { now := 0 }
  have hlength := congrArg List.length hwave
  rw [nextWave_of_within rfl, nextWave_of_within rfl, length_candidates_crowd hcrowd,
    length_candidates_crowd hcrowd] at hlength
  exact hlength

theorem waveSize : cfg.offerWaveSize = 5 := by
  have hlength := h.length_crowd hsize (commonRadius env cfg) 0 (le_refl 25)
  rw [if_pos (commonRadius_le_timer env cfg), if_pos (commonRadius_le_stored env cfg)] at hlength
  omega

theorem radius (n : Nat) : cfg.radiusAfter n = (dispatchConfigFromSettings env.settings).radiusAfter n := by
  have hfive := h.waveSize hsize
  have hcfg : Dispatching.radiusKm cfg (n * 5) = cfg.radiusAfter n := by
    rw [radiusKm_eq, hfive, Nat.mul_div_cancel n (by decide)]
  have htimer : Dispatching.radiusKm (timerMatching env).config (n * 5) =
      (dispatchConfigFromSettings env.settings).radiusAfter n := by
    rw [radiusKm_eq]
    exact congrArg _ (Nat.mul_div_cancel n (by decide))
  -- one driver at the larger radius is found by both
  have hlength := h.length_crowd hsize
    (max (cfg.radiusAfter n) ((dispatchConfigFromSettings env.settings).radiusAfter n)) (n * 5)
    (Nat.one_le_ofNat : 1 ≤ 25)
  rw [hcfg, htimer, hfive] at hlength
  rcases le_total (cfg.radiusAfter n) ((dispatchConfigFromSettings env.settings).radiusAfter n) with hle | hle
  · rw [max_eq_right hle, if_pos le_rfl] at hlength
    by_contra hne
    rw [if_neg fun hge => hne (hle.antisymm hge)] at hlength
    cases hlength
  · rw [max_eq_left hle, if_pos le_rfl] at hlength
    by_contra hne
    rw [if_neg fun hge => hne (hge.antisymm hle)] at hlength
    cases hlength

/-- The budgets end a search at the same times. -/
theorem budget_crowd (t : DateTime) : searchBudgetExceeded (timerMatching env).config (crowdRide (some 0)) t =
    searchBudgetExceeded cfg (crowdRide (some 0)) t := by
  have hwave := h.nextWave_crowd hsize 1 (commonRadius env cfg) 0 (fun _ => none) (some 0) { now := t }
  have htimer := nextWave_crowd_eq_nil env (timerMatching env) (fun _ => none) (some 0) { now := t } (Nat.succ_pos 4)
    (commonRadius_le_timer env cfg)
  have hstored := nextWave_crowd_eq_nil env (requestMatching cfg) (fun _ => none) (some 0) { now := t } hsize
    (commonRadius_le_stored env cfg)
  rw [hwave] at htimer
  exact Bool.eq_iff_iff.mpr (htimer.symm.trans hstored)

theorem budget : max 0 cfg.searchBudgetSeconds = max 0 env.settings.matchingSearchBudgetSeconds := by
  have hsame : ∀ t, (0 < max 0 env.settings.matchingSearchBudgetSeconds ∧
      seconds (max 0 env.settings.matchingSearchBudgetSeconds) < t - 0) ↔
        (0 < max 0 cfg.searchBudgetSeconds ∧ seconds (max 0 cfg.searchBudgetSeconds) < t - 0) := by
    intro t
    have hbudget := h.budget_crowd hsize t
    rw [searchBudgetExceeded_max, searchBudgetExceeded_max] at hbudget
    exact decide_eq_decide.mp hbudget
  have hzero := le_max_left 0 cfg.searchBudgetSeconds
  have hzero' := le_max_left 0 env.settings.matchingSearchBudgetSeconds
  -- just after the smaller budget that counts, one search is over and the other one is not
  have hsmaller := hsame (seconds (max 0 cfg.searchBudgetSeconds) + 1)
  have hsmaller' := hsame (seconds (max 0 env.settings.matchingSearchBudgetSeconds) + 1)
  unfold seconds at hsmaller hsmaller'
  omega

/-- The second driver of the crowd is faster than the first one: only a ranking puts him first. -/
theorem ranking : env.settings.matchingEtaRankingEnabled = false := by
  by_contra hranking
  rw [Bool.not_eq_false] at hranking
  have hfive := h.waveSize hsize
  have hwave := h.nextWave_crowd hsize 2 (commonRadius env cfg) 0 secondFaster none { now := 0 }
  rw [nextWave_timer_two, nextWave_stored_two hfive hranking] at hwave
  cases hwave

end SamePolicy

/-- The policies are one exactly if they agree. -/
theorem samePolicy_iff (env : Env) (cfg : DispatchConfig) (hsize : 0 < cfg.offerWaveSize) :
    SamePolicy env cfg ↔ Agrees env cfg :=
  ⟨fun h => ⟨h.waveSize hsize, h.radius hsize, h.budget hsize, h.ranking hsize⟩, fun h => h.samePolicy hsize⟩

/-! Nothing was stored, and of two drivers at the pickup the second one is faster. -/

/-- What applies as long as no policy is stored. -/
def plainPolicy : DispatchConfig := dispatchConfigFromSettings plainEnv.settings

/-- The wave of the timer and the wave of the requests are in opposite order. -/
theorem plainPolicy_differs :
    nextWave plainEnv (timerMatching plainEnv) (crowd plainEnv 2 (commonRadius plainEnv plainPolicy) 0 secondFaster)
        (crowdDb none) (crowdRide none) { now := 0 } = [0, 1] ∧
      nextWave plainEnv (requestMatching plainPolicy)
        (crowd plainEnv 2 (commonRadius plainEnv plainPolicy) 0 secondFaster) (crowdDb none) (crowdRide none)
        { now := 0 } = [1, 0] ∧
      ¬ SamePolicy plainEnv plainPolicy :=
  ⟨nextWave_timer_two, nextWave_stored_two rfl rfl, fun h => absurd (h.ranking (Nat.succ_pos 4)) (by decide)⟩

theorem samePolicy_iff_plainPolicy : SamePolicy plainEnv plainPolicy ↔ Agrees plainEnv plainPolicy :=
  samePolicy_iff plainEnv plainPolicy (Nat.succ_pos 4)

end DiddiGo.Rides

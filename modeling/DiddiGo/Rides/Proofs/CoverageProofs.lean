import DiddiGo.Rides.Proofs.CommandsProofs
import DiddiGo.Rides.Proofs.SearchProofs

/-!
# The radius of a search

A search asks Redis once, with the radius that follows from the number of drivers tried, which is the one
that is due if all waves were full.
-/

namespace DiddiGo.Rides

open Transactions Prog

variable {α : Type} {env : Env} {m : Matching} {w : Dispatching} {cur : RideDb} {s : Search}
  {rideId userId : UUID} {users : List UUID} {clock : Clock} {ride : Ride} {cfg : DispatchConfig}

/-! ## What is asked -/

theorem radii_of_asks {p : Action α} (h : p.Asks Query.Quiet) :
    (p.queries Dispatching.serve w cur).filterMap Query.radius? = [] :=
  List.filterMap_eq_nil_iff.mpr fun _ hq => (h.mem_queries hq).1

/-! ## The searches of one step -/

/-- What is found without a search, in front of the rest. -/
theorem radii_bind {β : Type} {p : Action β} {f : β → Action α} {b : β} (hp : p.Asks Query.Quiet)
    (hfinds : Finds Dispatching.serve p w cur b) :
    ((p >>= f).queries Dispatching.serve w cur).filterMap Query.radius? =
      ((f b).queries Dispatching.serve w cur).filterMap Query.radius? := by
  rw [hfinds.queries_bind, List.filterMap_append, radii_of_asks hp, List.nil_append]

/-- A search asks once. -/
theorem radii_searchDrivers {location : GeoPoint} {radiusKm : ℚ} {limit : Nat} {requireAvailable : Bool} :
    ((searchDrivers location radiusKm limit requireAvailable).queries Dispatching.serve w cur).filterMap
      Query.radius? = [radiusKm] := by
  have hmembers : Finds Dispatching.serve (askFor Reply.members?
      (.geosearch location radiusKm (if requireAvailable then limit * 4 else limit))) w cur
      (w.locations.geosearch w.outside.distanceKm location radiusKm
        (if requireAvailable then limit * 4 else limit)) := finds_askFor rfl rfl
  unfold searchDrivers
  rw [hmembers.queries_bind, List.filterMap_append]
  generalize w.locations.geosearch w.outside.distanceKm location radiusKm
    (if requireAvailable then limit * 4 else limit) = members
  have hmarkers : (askFor Reply.flags? (.markers members requireAvailable) : Action _).Asks Query.Quiet :=
    asks_askFor ⟨rfl, rfl⟩
  exact congrArg ([radiusKm] ++ ·) (radii_of_asks (Asks.ite (.ret _) (hmarkers.bind fun _ => .ret _)))

theorem radii_nextCandidates {pickup : GeoPoint} (hpickup : ride.pickupLocation = some pickup) :
    ((nextCandidates env m ride clock).queries Dispatching.serve w cur).filterMap Query.radius? =
      [Dispatching.radiusKm m.config (w.tried ride.id).length] := by
  unfold nextCandidates
  rw [hpickup]
  dsimp only
  have htried : Finds Dispatching.serve (askFor Reply.users? (.triedMembers ride.id)) w cur (w.tried ride.id) :=
    finds_askFor rfl rfl
  have hasks : (askFor Reply.users? (.triedMembers ride.id) : Action _).Asks Query.Quiet := asks_askFor ⟨rfl, rfl⟩
  rw [radii_bind hasks htried, Finds.queries_bind (Locations.finds_searchDrivers Dispatching.answerIn (by decide)), List.filterMap_append,
    radii_searchDrivers, radii_of_asks]
  · rfl
  · exact Asks.ite (.ret _) ((asks_eligibleDrivers _ _).bind fun _ => (asks_rankByEta _ _).bind fun _ => .ret _)

/-- `try_match` searches with the radius that follows from the number of drivers tried. -/
theorem radii_tryMatch (hsize : 0 < m.config.offerWaveSize) {pickup : GeoPoint}
    (hpickup : ride.pickupLocation = some pickup) (hsearch : w.Searches env m ride clock) :
    ((tryMatch env m ride clock).queries Dispatching.serve w cur).filterMap Query.radius? =
      [Dispatching.radiusKm m.config (w.tried ride.id).length] := by
  unfold tryMatch
  rw [if_neg (not_not.mpr hsearch.requested), hsearch.budget, if_neg Bool.false_ne_true, hsearch.commission,
    if_neg Bool.false_ne_true, radii_bind (asks_currentOffers 2) (Dispatching.finds_currentOffers 2),
    if_neg (not_not.mpr hsearch.noOffers), Finds.queries_bind (Dispatching.finds_nextCandidates hsize clock),
    List.filterMap_append, radii_nextCandidates hpickup, radii_of_asks, List.append_nil]
  have hopen : ∀ members, (tell (.openOffers ride.id members)).Asks Query.Quiet := fun _ => asks_tell ⟨rfl, rfl⟩
  exact Asks.ite asks_giveUp ((hopen _).bind fun _ => .ret _)

/-- `try_match` does not search otherwise. -/
theorem radii_tryMatch_of_not (h : ¬ (ride.pickupLocation.isSome ∧ w.Searches env m ride clock)) :
    ((tryMatch env m ride clock).queries Dispatching.serve w cur).filterMap Query.radius? = [] := by
  unfold tryMatch
  by_cases hs : ride.status = .requested
  swap
  · rw [if_pos hs]
    rfl
  rw [if_neg (not_not.mpr hs)]
  by_cases hbudget : searchBudgetExceeded m.config ride clock.searchedAt = true
  · rw [if_pos hbudget]
    exact radii_of_asks asks_giveUp
  rw [if_neg hbudget]
  by_cases hcommission : commissionTooHigh env.settings ride = true
  · rw [if_pos hcommission]
    exact radii_of_asks asks_giveUp
  rw [if_neg hcommission, radii_bind (asks_currentOffers 2) (Dispatching.finds_currentOffers 2)]
  by_cases hover : w.offers ride.id = []
  swap
  · rw [if_pos hover]
    rfl
  rw [if_neg (not_not.mpr hover)]
  have hpickup : ride.pickupLocation = none := Option.not_isSome_iff_eq_none.mp fun hsome =>
    h ⟨hsome, hs, Bool.eq_false_of_not_eq_true hbudget, Bool.eq_false_of_not_eq_true hcommission, hover⟩
  unfold nextCandidates
  rw [hpickup]
  exact radii_of_asks asks_giveUp

/-! ## The searches of one step -/

theorem finds_loadRide (hr : cur.ride? rideId = some ride) :
    Finds Dispatching.serve (loadRide rideId) w cur ride := by
  refine .bind (.select _) ?_
  rw [show (cur.rides.find? rideId).map Ride.toDomain = some ride from hr]
  exact .ret

/-- Nothing is asked for a ride that does not exist. -/
theorem queries_loadRide (hr : cur.ride? rideId = none) (f : Ride → Action α) :
    (loadRide rideId >>= f).queries Dispatching.serve w cur = [] := by
  have hload : Leads nobody (fun _ => True) (fun _ _ _ => False) (loadRide rideId) cur cur :=
    .of_bind_ret (leads_loadRide trivial fun r hr' => by rw [hr] at hr'; cases hr')
  exact (silent_loadRide rideId).queries_bind_of_raises hload f

theorem finds_loadActiveRide (hr : cur.ride? rideId = some ride) (hs : ride.status = .requested) :
    Finds Dispatching.serve (loadActiveRide rideId) w cur ride :=
  .bind (finds_loadRide hr) (.raiseIf_bind (by rw [hs]; decide) (.raiseIf_bind (not_not.mpr hs) .ret))

/-- Nothing is asked for a ride that does not wait for a driver. -/
theorem queries_loadActiveRide (h : ∀ ride, cur.ride? rideId = some ride → ride.status ≠ .requested)
    (f : Ride → Action α) : (loadActiveRide rideId >>= f).queries Dispatching.serve w cur = [] := by
  have hload : Leads nobody (fun _ => True) (fun _ _ _ => False) (loadActiveRide rideId) cur cur :=
    .of_bind_ret (leads_loadActiveRide trivial fun r hr hs => absurd hs (h r hr))
  exact (silent_loadActiveRide rideId).queries_bind_of_raises hload f

/-- `decline` searches when the wave is used up. -/
theorem radii_decline (hr : cur.ride? ride.id = some ride) (hs : ride.status = .requested) :
    ((decline env m ride.id userId clock).queries Dispatching.serve w cur).filterMap Query.radius? =
      if w.offers ride.id = [] then
        ((tryMatch env m ride clock).queries Dispatching.serve w cur).filterMap Query.radius?
      else if (w.offers ride.id).filter (· ≠ userId) = [] then
        ((tryMatch env m ride clock).queries Dispatching.serve
          ((w.removeOffer ride.id userId).deleteOffers ride.id) cur).filterMap Query.radius?
      else [] := by
  unfold decline
  rw [radii_bind (.of_silent (silent_loadActiveRide _)) (finds_loadActiveRide hr hs),
    radii_bind (asks_currentOffers 0) (Dispatching.finds_currentOffers 0)]
  unfold apiErrorIf
  rw [queries_raiseIf_bind]
  by_cases hforeign : w.offers ride.id ≠ [] ∧ userId ∉ w.offers ride.id
  · have hkept : (w.offers ride.id).filter (· ≠ userId) = w.offers ride.id :=
      List.filter_eq_self.mpr fun u hu => decide_eq_true fun he => hforeign.2 (he ▸ hu)
    rw [if_pos hforeign, if_neg hforeign.1, hkept, if_neg hforeign.1]
    rfl
  rw [if_neg hforeign, Prog.queries_bind (declineOffer ride.id userId) _ w cur cur, List.filterMap_append,
    radii_of_asks asks_declineOffer, List.nil_append, serve_declineOffer]
  by_cases hoffers : w.offers ride.id = []
  · rw [if_pos hoffers, if_pos hoffers]
    rfl
  rw [if_neg hoffers, if_neg hoffers]
  by_cases hused : (w.offers ride.id).filter (· ≠ userId) = []
  · rw [if_pos hused, if_pos hused]
    rfl
  · rw [if_neg hused, if_neg hused]
    have hrest : (currentOffers ride.id 2 >>= fun remaining =>
        Prog.ret ({ driverUserIds := remaining, newWave := false } : MatchingDispatch)).Asks Query.Quiet :=
      (asks_currentOffers 2).bind fun _ => .ret _
    exact radii_of_asks hrest

theorem radii_advanceExpiredOffer :
    ((advanceExpiredOffer env m rideId clock).queries Dispatching.serve w cur).filterMap Query.radius? =
      if w.offers rideId = [] then
        match cur.ride? rideId with
        | none => []
        | some ride => ((tryMatch env m ride clock).queries Dispatching.serve w cur).filterMap Query.radius?
      else [] := by
  unfold advanceExpiredOffer
  rw [radii_bind (asks_currentOffers 0) (Dispatching.finds_currentOffers 0)]
  by_cases hoffers : w.offers rideId = []
  swap
  · rw [if_pos hoffers, if_neg hoffers]
    rfl
  rw [if_neg (not_not.mpr hoffers), if_pos hoffers]
  have hasks : (findRideById rideId).Asks Query.Quiet := .of_silent (.select _)
  have hfind : Finds Dispatching.serve (findRideById rideId) w cur (cur.ride? rideId) := .select _
  rw [radii_bind hasks hfind]
  cases cur.ride? rideId <;> rfl

namespace SearchStep

theorem radii_of_searches {step : SearchStep} (hm : step.searches = some m) (hsize : 0 < m.config.offerWaveSize)
    (h : step.Searches env rideId s) :
    step.radii env rideId s = [Dispatching.radiusKm m.config (s.world.tried rideId).length] := by
  obtain ⟨ride, hr, hsome, hsearch⟩ := h
  obtain ⟨pickup, hpickup⟩ := Option.isSome_iff_exists.mp hsome
  have hid := RideDb.id_of_ride? hr
  subst hid
  cases step with
  | tryMatch m' clock =>
    obtain rfl := Option.some.inj hm
    refine (radii_bind (.of_silent (silent_loadRide _)) (finds_loadRide hr)).trans ?_
    exact radii_tryMatch hsize hpickup hsearch
  | decline m' userId clock =>
    obtain rfl := Option.some.inj hm
    refine (radii_decline hr hsearch.requested).trans ?_
    have hused : (s.world.offers ride.id).filter (· ≠ userId) = [] := by
      rw [← Dispatching.offers_removeOffer]
      exact hsearch.noOffers
    by_cases hoffers : s.world.offers ride.id = []
    · rw [if_pos hoffers]
      exact radii_tryMatch hsize hpickup { hsearch with noOffers := hoffers }
    · rw [if_neg hoffers, if_pos hused]
      exact radii_tryMatch hsize hpickup { hsearch with noOffers := Dispatching.offers_deleteOffers }
  | expire m' clock =>
    obtain rfl := Option.some.inj hm
    refine radii_advanceExpiredOffer.trans ?_
    have hover : s.world.offers ride.id = [] := hsearch.noOffers
    rw [if_pos hover, hr]
    exact radii_tryMatch hsize hpickup hsearch
  | _ => cases hm

theorem radii_of_not_searches {step : SearchStep} (h : ¬ step.Searches env rideId s) :
    step.radii env rideId s = [] := by
  cases step with
  | tryMatch m clock =>
    cases hr : s.db.ride? rideId with
    | none => exact congrArg _ (queries_loadRide hr _)
    | some ride =>
      have hid := RideDb.id_of_ride? hr
      subst hid
      refine (radii_bind (.of_silent (silent_loadRide _)) (finds_loadRide hr)).trans ?_
      exact radii_tryMatch_of_not fun h' => h ⟨ride, hr, h'⟩
  | decline m userId clock =>
    by_cases hactive : ∃ ride, s.db.ride? rideId = some ride ∧ ride.status = .requested
    swap
    · exact congrArg _ (queries_loadActiveRide (fun ride hr hs => hactive ⟨ride, hr, hs⟩) _)
    obtain ⟨ride, hr, hs⟩ := hactive
    have hid := RideDb.id_of_ride? hr
    subst hid
    have hnot : ∀ w' : Dispatching, w'.offers ride.id = [] → (s.world.offers ride.id).filter (· ≠ userId) = [] →
        ((Rides.tryMatch env m ride clock).queries Dispatching.serve w' s.db).filterMap Query.radius? = [] :=
      fun w' hw' hused => radii_tryMatch_of_not fun ⟨hsome, hsearch⟩ => h ⟨ride, hr, hsome,
        { hsearch with noOffers := Dispatching.offers_removeOffer.trans hused }⟩
    refine (radii_decline hr hs).trans ?_
    by_cases hoffers : s.world.offers ride.id = []
    · rw [if_pos hoffers]
      exact hnot _ hoffers (by rw [hoffers]; rfl)
    rw [if_neg hoffers]
    by_cases hused : (s.world.offers ride.id).filter (· ≠ userId) = []
    · rw [if_pos hused]
      exact hnot _ Dispatching.offers_deleteOffers hused
    · rw [if_neg hused]
  | expire m clock =>
    refine radii_advanceExpiredOffer.trans ?_
    by_cases hoffers : s.world.offers rideId = []
    swap
    · rw [if_neg hoffers]
    rw [if_pos hoffers]
    cases hr : s.db.ride? rideId with
    | none => rfl
    | some ride =>
      have hid := RideDb.id_of_ride? hr
      subst hid
      exact radii_tryMatch_of_not fun h' => h ⟨ride, hr, h'⟩
  | _ => rfl

end SearchStep

/-! ## The radius of a run -/

/-- Waves of at most `size` drivers have that many drivers together only if they were all full. -/
theorem length_flatMap_le {waves : List Wave} {size : Nat} (hle : ∀ wave ∈ waves, wave.drivers.length ≤ size) :
    (waves.flatMap Wave.drivers).length ≤ waves.length * size ∧
      (waves.length * size ≤ (waves.flatMap Wave.drivers).length ↔
        ∀ wave ∈ waves, wave.drivers.length = size) := by
  induction waves with
  | nil => simp
  | cons wave waves ih =>
    obtain ⟨hrest, hfull⟩ := ih fun x hx => hle x (List.mem_cons_of_mem wave hx)
    have hfirst := hle wave List.mem_cons_self
    rw [List.flatMap_cons, List.length_append, List.length_cons, Nat.succ_mul, List.forall_mem_cons, ← hfull]
    omega

/-- The radius that is asked for is the one that is due exactly if the waves were full, or the radius does
not grow any more. -/
theorem radius_eq_iff {n k : Nat} (hstep : 0 ≤ cfg.searchRadiusStepKm) (hle : n / cfg.offerWaveSize ≤ k) :
    Dispatching.radiusKm cfg n = cfg.radiusAfter k ↔
      n / cfg.offerWaveSize = k ∨ cfg.searchRadiusStepKm = 0 ∨
        cfg.searchRadiusMaxKm ≤
          cfg.searchRadiusKm + cfg.searchRadiusStepKm * (n / cfg.offerWaveSize : Nat) := by
  unfold Dispatching.radiusKm DispatchConfig.radiusAfter
  generalize n / cfg.offerWaveSize = j at hle ⊢
  rw [mul_comm (k : ℚ)]
  rcases hle.eq_or_lt with rfl | hlt
  · exact iff_of_true rfl (Or.inl rfl)
  rw [or_iff_right hlt.ne]
  rcases hstep.eq_or_lt with hzero | hpos
  · exact iff_of_true (by rw [← hzero, zero_mul, zero_mul]) (Or.inl hzero.symm)
  rw [or_iff_right hpos.ne']
  have hgrows : cfg.searchRadiusKm + cfg.searchRadiusStepKm * j < cfg.searchRadiusKm + cfg.searchRadiusStepKm * k :=
    by gcongr
  constructor
  · intro heq
    by_contra hbelow
    rw [min_eq_left (not_le.mp hbelow).le] at heq
    exact absurd heq (lt_min hgrows (not_le.mp hbelow)).ne
  · intro hcapped
    rw [min_eq_right hcapped, min_eq_right (hcapped.trans hgrows.le)]

namespace SearchStep

/-- The waves after a step. -/
theorem waves_after (step : SearchStep) :
    (step.after env rideId s).waves = s.waves ∨ ∃ m drivers, step.searches = some m ∧
      (step.after env rideId s).waves = s.waves ++ [⟨drivers, m.config.offerWaveSize⟩] := by
  have hdispatched : ∀ (m : Matching) (answered : List UUID)
      (r : Except Err MatchingDispatch × Dispatching × RideDb),
      (s.dispatched m answered r).waves = s.waves ∨ ∃ drivers,
        (s.dispatched m answered r).waves = s.waves ++ [⟨drivers, m.config.offerWaveSize⟩] := by
    rintro m answered ⟨e | d, w, db⟩
    · exact Or.inl rfl
    · dsimp only [Search.dispatched]
      by_cases hnew : d.newWave ∧ d.driverUserIds ≠ []
      · rw [if_pos hnew]
        exact Or.inr ⟨_, rfl⟩
      · rw [if_neg hnew]
        exact Or.inl rfl
  cases step with
  | tryMatch m clock => exact (hdispatched m _ _).imp_right fun ⟨drivers, h⟩ => ⟨m, drivers, rfl, h⟩
  | decline m userId clock => exact (hdispatched m _ _).imp_right fun ⟨drivers, h⟩ => ⟨m, drivers, rfl, h⟩
  | expire m clock => exact (hdispatched m _ _).imp_right fun ⟨drivers, h⟩ => ⟨m, drivers, rfl, h⟩
  | _ => exact Or.inl rfl

end SearchStep

/-- The search is orderly, and its waves were allowed as many drivers as `cfg` says. -/
structure Search.OrderlyWith (s : Search) (rideId : UUID) (users : List UUID) (cfg : DispatchConfig) : Prop where
  orderly : s.Orderly rideId users
  limits : ∀ wave ∈ s.waves, wave.limit = cfg.offerWaveSize

namespace SearchStep

theorem orderlyWith_after (env : Env) {step : SearchStep} (h : s.OrderlyWith rideId users cfg)
    (hallowed : step.AllowedWith rideId cfg users s) :
    (step.after env rideId s).OrderlyWith rideId users cfg where
  orderly := orderly_after env h.orderly hallowed.1
  limits := by
    intro wave hwave
    have hwaves : (step.after env rideId s).waves = s.waves ∨ ∃ m drivers, step.searches = some m ∧
        (step.after env rideId s).waves = s.waves ++ [⟨drivers, m.config.offerWaveSize⟩] := waves_after step
    rcases hwaves with hsame | ⟨m, drivers, hm, hnew⟩
    · rw [hsame] at hwave
      exact h.limits wave hwave
    · rw [hnew] at hwave
      rcases List.mem_append.mp hwave with hwave | hwave
      · exact h.limits wave hwave
      · rw [List.mem_singleton.mp hwave, hallowed.2 m hm]

/-- A step searches. -/
theorem Searches.requested {step : SearchStep} (h : step.Searches env rideId s) :
    s.db.HasStatus rideId .requested ∧ ∃ m, step.searches = some m := by
  obtain ⟨ride, hr, -, hsearch⟩ := h
  cases step with
  | tryMatch m clock => exact ⟨⟨ride, hr, hsearch.requested⟩, m, rfl⟩
  | decline m userId clock => exact ⟨⟨ride, hr, hsearch.requested⟩, m, rfl⟩
  | expire m clock => exact ⟨⟨ride, hr, hsearch.requested⟩, m, rfl⟩
  | _ => exact hsearch.elim

/-- A wave of an allowed step has room for a driver. -/
theorem Allowed.room {step : SearchStep} (h : step.Allowed rideId users s) (hm : step.searches = some m) :
    0 < m.config.offerWaveSize := by
  cases step with
  | tryMatch _ _ => exact h.2 m hm
  | decline _ _ _ => exact h.2 m hm
  | expire _ _ => exact h.2 m hm
  | _ => cases hm

theorem widensByWave_iff {step : SearchStep} (hradius : 0 ≤ cfg.searchRadiusStepKm)
    (hallowed : step.AllowedWith rideId cfg users s) (h : s.OrderlyWith rideId users cfg) :
    step.WidensByWave env rideId cfg s ↔ step.FindsWavesFull env rideId cfg s := by
  unfold WidensByWave FindsWavesFull
  by_cases hsearch : step.Searches env rideId s
  · obtain ⟨hrequested, m, hm⟩ := hsearch.requested
    have hcfg := hallowed.2 m hm
    have hsize : 0 < cfg.offerWaveSize := hcfg ▸ hallowed.1.room hm
    have hle : ∀ wave ∈ s.waves, wave.drivers.length ≤ cfg.offerWaveSize := fun wave hwave =>
      h.limits wave hwave ▸ (h.orderly.sizes wave hwave).2
    obtain ⟨htotal, hfull⟩ := length_flatMap_le hle
    have hquotient : s.offered.length / cfg.offerWaveSize ≤ s.waves.length :=
      Nat.div_le_of_le_mul (htotal.trans_eq (Nat.mul_comm _ _))
    have hfull' : s.offered.length / cfg.offerWaveSize = s.waves.length ↔
        ∀ wave ∈ s.waves, wave.drivers.length = cfg.offerWaveSize := by
      rw [← hfull, ← Nat.le_div_iff_mul_le hsize]
      exact ⟨Eq.ge, hquotient.antisymm⟩
    rw [radii_of_searches hm (hcfg ▸ hsize) hsearch, hcfg, h.orderly.tried hrequested, List.forall_mem_singleton,
      radius_eq_iff hradius hquotient, hfull']
    exact (imp_iff_right hsearch).symm
  · rw [radii_of_not_searches hsearch]
    exact iff_of_true (fun _ h => absurd h List.not_mem_nil) fun h => absurd h hsearch

end SearchStep

/-- In every run, every search has the radius that is due after the waves that were opened exactly if each
search finds that all waves were full, or that the radius does not grow any more. -/
theorem widensByWave_run_iff (env : Env) (rideId : UUID) (users : List UUID) (cfg : DispatchConfig)
    (steps : List SearchStep) (s : Search) (hradius : 0 ≤ cfg.searchRadiusStepKm) (hfresh : s.Fresh rideId)
    (hsteps : EachStep (SearchStep.after env rideId) (SearchStep.AllowedWith rideId cfg users) steps s) :
    EachStep (SearchStep.after env rideId) (SearchStep.WidensByWave env rideId cfg) steps s ↔
      EachStep (SearchStep.after env rideId) (SearchStep.FindsWavesFull env rideId cfg) steps s := by
  have hstart : s.OrderlyWith rideId users cfg :=
    ⟨hfresh.orderly, by rw [hfresh.waves]; exact fun _ h => absurd h List.not_mem_nil⟩
  exact eachStep_congr hsteps hstart (fun _ _ hallowed h => SearchStep.orderlyWith_after env h hallowed)
    fun _ _ hallowed h => SearchStep.widensByWave_iff hradius hallowed h

/-! One driver is near and declines; another one is six kilometres away. -/

/-- One ride and two drivers. -/
def nearAndFar : RideDb where
  rides := .insert .empty { id := 1, passengerUserId := 2, pickupLocation := some ⟨0, 0⟩ }
  profiles := .insert (.insert .empty { id := 3, userId := 4, status := .active })
    { id := 6, userId := 7, status := .active }
  vehicles := .insert (.insert .empty { id := 5, driverId := 3 }) { id := 8, driverId := 6 }

/-- The second driver is six kilometres from the pickup. -/
def nearAndFarPool : Dispatching where
  locations := ((((({} : Locations).updatePosition 4 ⟨0, 0⟩ none 0).setAvailable 4 true 0).updatePosition 7 ⟨6, 0⟩
    none 0).setAvailable 7 true 0)
  now := 1
  outside := { distanceKm := fun _ p => p.lat }

/-- The driver who is near is offered the ride, and declines. -/
def nearDeclines : List SearchStep :=
  [.tryMatch plainMatching { now := 1 }, .decline plainMatching 4 { now := 2 }]

theorem nearDeclines_allowed :
    EachStep (SearchStep.after plainEnv 1) (SearchStep.AllowedWith 1 plainMatching.config [4, 7]) nearDeclines
      { world := nearAndFarPool, db := nearAndFar } := by
  have hsearches : ∀ m' : Matching, some plainMatching = some m' →
      0 < m'.config.offerWaveSize ∧ m'.config = plainMatching.config := fun m' h => by
    rw [← Option.some.inj h]
    exact ⟨by decide, rfl⟩
  exact ⟨⟨⟨by decide +kernel, fun m' h => (hsearches m' h).1⟩, fun m' h => (hsearches m' h).2⟩,
    ⟨⟨by decide +kernel, fun m' h => (hsearches m' h).1⟩, fun m' h => (hsearches m' h).2⟩, trivial⟩

/-- The second search still has a radius of five kilometres, and the ride is given up. -/
theorem nearDeclines_narrow :
    ¬ EachStep (SearchStep.after plainEnv 1) (SearchStep.WidensByWave plainEnv 1 plainMatching.config) nearDeclines
        { world := nearAndFarPool, db := nearAndFar } ∧
      ((runSteps (SearchStep.after plainEnv 1) nearDeclines { world := nearAndFarPool, db := nearAndFar }).db.ride?
        1).map Ride.status = some .noDriverFound := by
  refine ⟨fun h => ?_, by decide +kernel⟩
  have hsecond := h.2.1
  unfold SearchStep.WidensByWave at hsecond
  revert hsecond
  decide +kernel

theorem widensByWave_run_iff_nearDeclines :
    EachStep (SearchStep.after plainEnv 1) (SearchStep.WidensByWave plainEnv 1 plainMatching.config) nearDeclines
        { world := nearAndFarPool, db := nearAndFar } ↔
      EachStep (SearchStep.after plainEnv 1) (SearchStep.FindsWavesFull plainEnv 1 plainMatching.config) nearDeclines
        { world := nearAndFarPool, db := nearAndFar } :=
  widensByWave_run_iff plainEnv 1 [4, 7] plainMatching.config nearDeclines _ (by decide +kernel)
    ⟨rfl, rfl, rfl, RideDb.distinct_of_conflict (by decide +kernel)⟩ nearDeclines_allowed

/-! ## Giving up -/

namespace Dispatching

variable {db : RideDb} {pickup : GeoPoint}

theorem found_eq : w.found m ride pickup =
    ((((w.inRange m ride pickup).take (maxCandidates * 4)).filter (w.locations.marked w.now true)).filterMap
      UUID.ofString).take maxCandidates := by
  unfold found Locations.nearby Locations.geosearch
  rw [List.map_take]
  rfl

theorem mem_found : userId ∈ w.found m ride pickup ↔
    w.InWindow m ride pickup userId ∧ w.locations.marked w.now true (UUID.str userId) := by
  rw [found_eq]
  refine Locations.mem_window.trans ⟨?_, ?_⟩
  · rintro ⟨nearer, x, farther, hsplit, hmarked, hid, hcount, hlimit⟩
    obtain rfl := UUID.str_of_ofString hid
    exact ⟨⟨nearer, farther, hsplit, hcount, hlimit⟩, hmarked⟩
  · rintro ⟨⟨nearer, farther, hsplit, hcount, hlimit⟩, hmarked⟩
    exact ⟨nearer, _, farther, hsplit, hmarked, UUID.ofString_str userId, hcount, hlimit⟩

/-- A search is given up exactly if there is no candidate. -/
theorem noDriverFound_iff (hsize : 0 < m.config.offerWaveSize) (hdistinct : db.Distinct)
    (hr : db.ride? ride.id = some ride) (hsearch : w.Searches env m ride clock) :
    (serveRequest serve (tryMatch env m ride clock) (w, db)).2.2.HasStatus ride.id .noDriverFound ↔
      w.candidates env m db ride clock = [] := by
  have hserves : Serves serve (fun _ _ => False)
      (fun d w' base' cur' => base' = db ∧ Searching env m w db ride clock d w' cur')
      (tryMatch env m ride clock) w db db :=
    serves_tryMatch hr hsize fun hfree => absurd (admits_lost hdistinct hr) hfree
  rcases hserves.request_cases with ⟨d, w', _, db', hreq, -, hd⟩ | ⟨_, _, _, _, hfalse⟩
  swap
  · exact hfalse.elim
  rw [hreq]
  cases hd with
  | idle hs => exact absurd hsearch.requested hs
  | waits hs hoffers => exact absurd hsearch.noOffers hoffers
  | lost hs hwhy hfree =>
    have ht : Ride.SameTrip ride (ride.enter .noDriverFound clock.gaveUpAt) := ⟨rfl, rfl, rfl⟩
    refine iff_of_true ((hasStatus_put hr ht).mpr rfl) ?_
    rcases hwhy with hbudget | hcommission | ⟨-, hnone⟩
    · rw [hsearch.budget] at hbudget
      cases hbudget
    · rw [hsearch.commission] at hcommission
      cases hcommission
    · exact hnone
  | opened hs hbudget hcommission hoffers hcandidates =>
    refine iff_of_false (fun h => ?_) hcandidates
    rw [hasStatus_iff hr, hs] at h
    cases h

/-- A search that ends without candidates leaves nobody exactly if the window is large enough. -/
theorem givesUpComplete_iff (env : Env) (m : Matching) (w : Dispatching) (db : RideDb) (ride : Ride)
    (clock : Clock) (hsize : 0 < m.config.offerWaveSize) (hdistinct : db.Distinct)
    (hr : db.ride? ride.id = some ride) :
    w.GivesUpComplete env m db ride clock ↔ w.WindowSuffices env m db ride clock := by
  unfold GivesUpComplete WindowSuffices
  refine forall_congr' fun hsearch => ?_
  rw [noDriverFound_iff hsize hdistinct hr hsearch]
  constructor
  · rintro hcomplete pickup hpickup ⟨userId, hunasked⟩
    by_contra hwindow
    refine hcomplete ((candidates_eq_nil hpickup hsize).mpr fun u hfound huntried => ?_) pickup userId hpickup
      hunasked
    obtain ⟨hin, hmarked⟩ := mem_found.mp hfound
    rw [Bool.eq_false_iff]
    intro hcan
    obtain ⟨nearer, farther, hsplit, -⟩ := hin
    have hrange : UUID.str u ∈ w.inRange m ride pickup := by
      rw [hsplit]
      exact List.mem_append_right _ List.mem_cons_self
    exact hwindow ⟨u, ⟨hrange, hmarked, hcan, huntried⟩, (mem_found.mp hfound).1⟩
  · intro hwindow hnone pickup userId hpickup hunasked
    obtain ⟨u, hu, hin⟩ := hwindow pickup hpickup ⟨userId, hunasked⟩
    have hcannot := (candidates_eq_nil hpickup hsize).mp hnone u (mem_found.mpr ⟨hin, hu.marked⟩) hu.untried
    rw [hu.can] at hcannot
    cases hcannot

end Dispatching

/-! Twenty-five drivers at the pickup were offered the ride already; one more waits a kilometre away. -/

/-- The ride and the driver who waits. -/
def oneWaits : RideDb where
  rides := .insert .empty { id := 1, passengerUserId := 2, pickupLocation := some ⟨0, 0⟩ }
  profiles := .insert .empty { id := 3, userId := 4, status := .active }
  vehicles := .insert .empty { id := 5, driverId := 3 }

/-- The others have the identifiers from 100 on. -/
def manyDeclined : Dispatching where
  tried := fun _ => (List.range 25).map (· + 100)
  locations := (((List.range 25).foldl
    (fun (l : Locations) i => (l.updatePosition (i + 100) ⟨0, 0⟩ none 0).setAvailable (i + 100) true 0)
    {}).updatePosition 4 ⟨1, 0⟩ none 0).setAvailable 4 true 0
  now := 1
  outside := { distanceKm := fun _ p => p.lat }

/-- The ride that waits for a driver. -/
def waitingRide : Ride := { id := 1, passengerUserId := 2, pickupLocation := some ⟨0, 0⟩ }

theorem oneWaits_inRange : manyDeclined.inRange plainMatching waitingRide ⟨0, 0⟩ =
    ((List.range 25).map fun i => UUID.str (i + 100)) ++ [UUID.str 4] := by
  unfold Dispatching.inRange Locations.inRange
  rw [List.mergeSort_of_pairwise (by decide +kernel)]
  decide +kernel

/-- The ride is given up although the driver who waits was not offered it. -/
theorem oneWaits_missed :
    ¬ manyDeclined.GivesUpComplete plainEnv plainMatching oneWaits waitingRide { now := 2 } := by
  have hwaits : manyDeclined.Unasked plainEnv plainMatching oneWaits waitingRide ⟨0, 0⟩ 4 := by
    refine ⟨?_, by decide +kernel, by decide +kernel, by decide +kernel⟩
    rw [oneWaits_inRange]
    exact List.mem_append_right _ List.mem_cons_self
  have hfound : manyDeclined.found plainMatching waitingRide ⟨0, 0⟩ = manyDeclined.tried waitingRide.id := by
    rw [Dispatching.found_eq, oneWaits_inRange]
    decide +kernel
  intro h
  refine h ⟨rfl, rfl, rfl, rfl⟩ ?_ ⟨0, 0⟩ 4 rfl hwaits
  rw [Dispatching.noDriverFound_iff (by decide) (RideDb.distinct_of_conflict (by decide +kernel))
    (by decide +kernel) ⟨rfl, rfl, rfl, rfl⟩, Dispatching.candidates_eq_nil rfl (by decide), hfound]
  exact fun u hu huntried => absurd hu huntried

theorem givesUpComplete_iff_oneWaits :
    manyDeclined.GivesUpComplete plainEnv plainMatching oneWaits waitingRide { now := 2 } ↔
      manyDeclined.WindowSuffices plainEnv plainMatching oneWaits waitingRide { now := 2 } :=
  Dispatching.givesUpComplete_iff plainEnv plainMatching manyDeclined oneWaits waitingRide { now := 2 }
    (by decide) (RideDb.distinct_of_conflict (by decide +kernel)) (by decide +kernel)

end DiddiGo.Rides

import DiddiGo.Rides.Ranking
import DiddiGo.Rides.Proofs.DispatchingProofs

/-!
# Laws of the ranking

A driver moves up by his bonus, which is capped, so he never passes one who is nearer by more than the cap.
-/

namespace DiddiGo.Rides

open Transactions Prog

variable {W : Type} {services : Services sig W} {env : Env} {m : Matching} {ride : Ride} {w : W}
  {eligible : List UUID} {etas : List (Option Int)} {points : List (UUID × Int)} {cfg : DispatchConfig}
  {db : RideDb} {now : DateTime}

/-! ## Order by a key -/

section

variable {α : Type} {key : α → Int}

theorem pairwise_mergeSort_key (l : List α) :
    (l.mergeSort fun a b => key a ≤ key b).Pairwise fun a b => key a ≤ key b := by
  have h := @List.pairwise_mergeSort _ (fun a b : α => decide (key a ≤ key b))
    (fun a b c hab hbc => decide_eq_true ((of_decide_eq_true hab).trans (of_decide_eq_true hbc)))
    (fun a b => by simpa using le_total (key a) (key b)) l
  exact h.imp of_decide_eq_true

end

/-! ## Travel times and points -/

theorem length_etaCalls (pickup : GeoPoint) (positions : List (UUID × GeoPoint)) (us : List UUID) (w : W) :
    (etaCalls services pickup positions w us).1.length = us.length := by
  induction us generalizing w with
  | nil => rfl
  | cons u us ih =>
    rw [etaCalls]
    cases positions.lookup u with
    | none => exact congrArg (· + 1) (ih w)
    | some origin => exact congrArg (· + 1) (ih _)

theorem length_etaOutcomes : (etaOutcomes services env m ride w eligible).1.length = eligible.length := by
  unfold etaOutcomes
  cases ride.pickupLocation with
  | none => exact List.length_map _
  | some pickup =>
    dsimp only
    split_ifs
    · exact List.length_map _
    · split
      · exact length_etaCalls _ _ _ _
      · exact List.length_map _

theorem serve_driverEta (pickup : GeoPoint) (positions : List (UUID × GeoPoint)) (u : UUID)
    (base : RideDb) :
    (driverEta pickup positions u).serve services w base db =
      match positions.lookup u with
      | none => (.ok none, w, base, db)
      | some origin =>
        (.ok (etaOfAnswer (services w (.estimate u origin pickup "palh_vtc")).1),
          (services w (.estimate u origin pickup "palh_vtc")).2, base, db) := by
  unfold driverEta
  cases positions.lookup u with
  | none => rfl
  | some origin =>
    have hask : (Prog.ask (.estimate u origin pickup "palh_vtc") : Action Answer).serve services w base db =
        (.ok (services w (.estimate u origin pickup "palh_vtc")).1,
          (services w (.estimate u origin pickup "palh_vtc")).2, base, db) := rfl
    dsimp only
    rw [serve_bind, hask]
    dsimp only
    generalize (services w (.estimate u origin pickup "palh_vtc")) = answer
    obtain ⟨answer, w'⟩ := answer
    cases answer with
    | error e => rfl
    | ok reply => cases reply <;> rfl

theorem serve_driverEtas (pickup : GeoPoint) (positions : List (UUID × GeoPoint)) (us : List UUID) (w : W)
    (base : RideDb) :
    (driverEtas pickup positions us).serve services w base db =
      (.ok (us.zip (etaCalls services pickup positions w us).1),
        (etaCalls services pickup positions w us).2, base, db) := by
  induction us generalizing w with
  | nil => rfl
  | cons u us ih =>
    rw [driverEtas, serve_bind, serve_driverEta, etaCalls]
    cases positions.lookup u with
    | none =>
      dsimp only
      rw [serve_bind, ih]
      rfl
    | some origin =>
      dsimp only
      rw [serve_bind, ih]
      rfl

theorem serve_priorityBonuses (userIds : List UUID) (w : W) (base : RideDb) :
    ∃ w', (priorityBonuses m userIds now).serve services w base db =
      (.ok ((pointsOutcome services m w db userIds now).map fun (u, p) => (u, cappedBonus m.config p)),
        w', base, db) := by
  unfold priorityBonuses pointsOutcome
  split_ifs with hplain
  · exact ⟨w, rfl⟩
  dsimp only
  set profileIds := (db.profiles.rows.filter fun p => p.userId ∈ userIds).map fun p => (p.userId, p.id)
  refine ⟨(services w (.priorityScores (profileIds.map Prod.snd) now)).2, ?_⟩
  rw [serve_bind]
  change (Prog.serve services (Prog.bind (.call (.priorityScores (profileIds.map Prod.snd) now) .ret) _)
    w base db) = _
  rw [Prog.bind, Prog.serve]
  generalize services w (.priorityScores (profileIds.map Prod.snd) now) = answer
  obtain ⟨answer, w'⟩ := answer
  cases answer with
  | error e => rfl
  | ok reply =>
    cases reply with
    | scores points =>
      change (Except.ok _, w', base, db) = (Except.ok _, w', base, db)
      rw [List.map_filterMap]
      simp only [Option.map_map]
      rfl
    | _ => rfl

theorem timed_of_none (h : ∀ eta ∈ etas, eta = none) : timed eligible etas = [] := by
  refine List.filterMap_eq_nil_iff.mpr fun (u, eta) he => ?_
  rw [h eta (List.of_mem_zip he).2]
  rfl

/-- The ranking is what the outcomes of the calls lead to. -/
theorem serve_rankByEta (w : W) (base : RideDb) :
    ∃ w', (rankByEta env m ride eligible now).serve services w base db =
      (.ok (rankOutcome m.config eligible (etaOutcomes services env m ride w eligible).1
        (pointsOutcome services m (etaOutcomes services env m ride w eligible).2 db
          ((timed eligible (etaOutcomes services env m ride w eligible).1).map Prod.fst) now)), w', base, db) := by
  have hplain : rankOutcome m.config eligible (eligible.map fun _ => none) = fun _ => eligible := by
    funext points
    exact if_pos (timed_of_none fun eta heta => (List.mem_map.mp heta).choose_spec.2.symm)
  unfold rankByEta etaOutcomes
  cases ride.pickupLocation with
  | none =>
    rw [hplain]
    exact ⟨w, rfl⟩
  | some pickup =>
    dsimp only
    by_cases hoff : m.routing = false ∨ env.settings.matchingEtaRankingEnabled = false ∨ eligible.length ≤ 1
    · rw [if_pos hoff, if_pos hoff, hplain]
      exact ⟨w, rfl⟩
    rw [if_neg hoff, if_neg hoff]
    change ∃ w', Prog.serve services (Prog.bind (.call (.coordinates eligible) .ret) _) w base db = _
    rw [Prog.bind, Prog.serve]
    generalize services w (.coordinates eligible) = answer
    obtain ⟨answer, w₁⟩ := answer
    cases answer with
    | error e =>
      rw [hplain]
      exact ⟨w₁, rfl⟩
    | ok reply =>
      cases reply with
      | positions positions =>
        change ∃ w', Prog.serve services (driverEtas pickup positions eligible >>= _) w₁ base db = _
        rw [serve_bind, serve_driverEtas]
        dsimp only
        unfold rankOutcome
        change ∃ w', Prog.serve services (if timed eligible _ = [] then _ else _) _ base db = _
        split_ifs with hnone
        · exact ⟨_, rfl⟩
        · obtain ⟨w', hserve⟩ := @serve_priorityBonuses _ services m db now
            ((timed eligible (etaCalls services pickup positions w₁ eligible).1).map Prod.fst)
            (etaCalls services pickup positions w₁ eligible).2 base
          refine ⟨w', ?_⟩
          unfold timed at hserve ⊢
          rw [serve_bind, hserve]
          rfl
      | _ =>
        rw [hplain]
        exact ⟨w₁, rfl⟩

/-! ## Laws -/

theorem timed_untimed_zip (h : etas.length = eligible.length) :
    ((timed eligible etas).map Prod.fst ++ untimed eligible etas).Perm eligible := by
  have hperm := Dispatching.timed_untimed_perm (eligible.zip etas)
  rwa [List.map_fst_zip h.ge] at hperm

theorem untimed_of_timed (hlength : etas.length = eligible.length) (h : timed eligible etas = []) :
    untimed eligible etas = eligible := by
  rw [untimed, List.filter_eq_self.mpr fun e he => ?_, List.map_fst_zip hlength.ge]
  simpa using List.filterMap_eq_nil_iff.mp h e he

theorem lookup_map_snd {β γ : Type} (f : β → γ) (l : List (UUID × β)) (u : UUID) :
    (l.map fun (x, b) => (x, f b)).lookup u = (l.lookup u).map f := by
  induction l with
  | nil => rfl
  | cons p l ih =>
    obtain ⟨x, b⟩ := p
    rw [List.map_cons, List.lookup_cons, List.lookup_cons]
    cases u == x with
    | true => rfl
    | false => exact ih

/-- No bonus is above the cap. -/
theorem rankKey_ge (hcap : 0 ≤ cfg.priorityCapSeconds) (driver : UUID × Int) :
    driver.2 - cfg.priorityCapSeconds ≤ rankKey cfg points driver := by
  unfold rankKey
  rw [lookup_map_snd]
  cases points.lookup driver.1 with
  | none =>
    rw [Option.map_none, Option.getD_none]
    omega
  | some p =>
    rw [Option.map_some, Option.getD_some]
    have h : cappedBonus cfg p ≤ cfg.priorityCapSeconds := min_le_right _ _
    omega

/-- Without negative points there is no malus. -/
theorem rankKey_le (hper : 0 ≤ cfg.prioritySecondsPerPoint) (hcap : 0 ≤ cfg.priorityCapSeconds)
    {driver : UUID × Int} (h : NoMalus points driver.1) : rankKey cfg points driver ≤ driver.2 := by
  unfold rankKey
  rw [lookup_map_snd]
  cases hp : points.lookup driver.1 with
  | none =>
    rw [Option.map_none, Option.getD_none]
    omega
  | some p =>
    rw [Option.map_some, Option.getD_some]
    have hbonus : 0 ≤ cappedBonus cfg p := le_min (mul_nonneg (h p hp) hper) hcap
    omega

theorem rankingLaws_rankOutcome (hlength : etas.length = eligible.length) :
    RankingLaws cfg eligible etas points (rankOutcome cfg eligible etas points) := by
  set order := (timed eligible etas).mergeSort fun a b => rankKey cfg points a ≤ rankKey cfg points b
    with horder
  have hperm : order.Perm (timed eligible etas) := List.mergeSort_perm _ _
  -- with no travel time at all, the sorted list is empty and the others are all drivers
  have hranked : rankOutcome cfg eligible etas points = order.map Prod.fst ++ untimed eligible etas := by
    unfold rankOutcome
    split_ifs with hnone
    · rw [horder, hnone, List.mergeSort_nil, List.map_nil, List.nil_append, untimed_of_timed hlength hnone]
    · rfl
  refine ⟨?_, fun h => ?_, order, hperm, hranked, fun hper hcap => ?_⟩
  · rw [hranked]
    exact ((hperm.map Prod.fst).append_right _).trans (timed_untimed_zip hlength)
  · rw [rankOutcome, if_pos (timed_of_none h)]
  · refine (pairwise_mergeSort_key (timed eligible etas)).imp fun {b a} hab hmalus hfar => ?_
    have hb : b.2 - cfg.priorityCapSeconds ≤ rankKey cfg points b := rankKey_ge hcap b
    have ha : rankKey cfg points a ≤ a.2 := rankKey_le hper hcap hmalus
    omega

/-- Whatever the lookup of the positions, the calls for travel times and the lookup of the points lead to, a
ranking obeys its laws. -/
theorem rankByEta_laws {W : Type} (services : Services sig W) (env : Env) (m : Matching) (ride : Ride)
    (eligible : List UUID) (now : DateTime) (w : W) (base db : RideDb) :
    ∃ ranked w', (rankByEta env m ride eligible now).serve services w base db = (.ok ranked, w', base, db) ∧
      RankingLaws m.config eligible (etaOutcomes services env m ride w eligible).1
        (pointsOutcome services m (etaOutcomes services env m ride w eligible).2 db
          ((timed eligible (etaOutcomes services env m ride w eligible).1).map Prod.fst) now) ranked := by
  obtain ⟨w', hserve⟩ := @serve_rankByEta _ services env m ride eligible db now w base
  exact ⟨_, w', hserve, rankingLaws_rankOutcome length_etaOutcomes⟩

end DiddiGo.Rides

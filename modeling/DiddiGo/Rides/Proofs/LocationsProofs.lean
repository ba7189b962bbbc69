import DiddiGo.Data.Proofs.TextProofs
import DiddiGo.Rides.Locations
import DiddiGo.Transactions.Proofs.ServingProofs

/-!
# What a search for drivers finds

The loop of the search is a filter that stops at the limit, so a driver with both markers is found unless
the members before him use up the window.
-/

namespace DiddiGo.Rides

open Transactions Prog

section

variable {W : Type} {services : Services sig W} {w : W} {db : RideDb} {α : Type}

/-- The services answer, and the part of the reply that is asked for is there. -/
theorem finds_askFor {read : Reply → Option α} {q : Query} {reply : Reply} {a : α}
    (hq : services w q = (.ok reply, w)) (hread : read reply = some a) :
    Finds services (askFor read q) w db a := by
  refine .bind (.ask hq) ?_
  dsimp only
  rw [hread]
  exact .ret

end

/-! ## The loop -/

section

variable {α β : Type} {f : α → List β} {k : Nat}

theorem length_flatMap_const (hf : ∀ a, (f a).length = k) (as : List α) :
    (as.flatMap f).length = as.length * k := by
  induction as with
  | nil => simp
  | cons a as ih => rw [List.flatMap_cons, List.length_append, ih, hf, List.length_cons, Nat.succ_mul, Nat.add_comm]

/-- Blocks of one length, one after the other: each one is found by the index of its origin. -/
theorem window_flatMap (hf : ∀ a, (f a).length = k) (before : List α) (a : α) (after : List α) :
    (((before ++ a :: after).flatMap f).take ((before.length + 1) * k)).drop (before.length * k) = f a := by
  have hbefore := length_flatMap_const hf before
  have hblock : (before.flatMap f ++ f a).length = (before.length + 1) * k := by
    rw [List.length_append, hbefore, hf, Nat.succ_mul]
  rw [List.flatMap_append, List.flatMap_cons, ← List.append_assoc, List.take_left' hblock,
    List.drop_left' hbefore]

end

/-- How many markers a member has. -/
def stride (requireAvailable : Bool) : Nat := if requireAvailable then 2 else 1

section

variable {seen available : String → Bool} {requireAvailable : Bool} {limit : Nat}

theorem length_markerWindow (m : String) :
    (markerWindow seen available requireAvailable m).length = stride requireAvailable := by
  cases requireAvailable <;> rfl

theorem all_markerWindow (m : String) :
    (markerWindow seen available requireAvailable m).all id = hasMarkers seen available requireAvailable m := by
  cases requireAvailable <;> simp [markerWindow, hasMarkers]

/-- The loop of the search, after the members `before`. -/
theorem collectNearby_markers (before members : List String) {found : List UUID}
    (hfound : found.length < limit) :
    collectNearby (stride requireAvailable) limit
        ((before ++ members).flatMap (markerWindow seen available requireAvailable)) before.length members found =
      (found ++ (members.filter (hasMarkers seen available requireAvailable)).filterMap UUID.ofString).take
        limit := by
  induction members generalizing before found with
  | nil =>
    rw [collectNearby, List.filter_nil, List.filterMap_nil, List.append_nil,
      List.take_of_length_le hfound.le]
  | cons m ms ih =>
    have hnext := fun {found} => @ih (before ++ [m]) found
    simp only [List.append_assoc, List.singleton_append, List.length_append, List.length_singleton] at hnext
    rw [collectNearby, window_flatMap length_markerWindow, all_markerWindow]
    by_cases hmarked : hasMarkers seen available requireAvailable m
    · rw [hmarked, List.filter_cons_of_pos hmarked, List.filterMap_cons]
      cases hid : UUID.ofString m with
      | none =>
        simp only [Bool.not_true, Bool.false_eq_true, if_false, if_neg (Nat.not_le.mpr hfound)]
        exact hnext hfound
      | some userId =>
        have hcons : ∀ rest : List UUID, found ++ userId :: rest = (found ++ [userId]) ++ rest := by simp
        by_cases hfull : limit ≤ (found ++ [userId]).length
        · have hlength : (found ++ [userId]).length = limit := by
            rw [List.length_append] at hfull ⊢
            simp only [List.length_singleton] at hfull ⊢
            omega
          simp only [Bool.not_true, Bool.false_eq_true, if_false, if_pos hfull]
          rw [hcons (List.filterMap _ _), List.take_append_of_le_length hlength.ge, List.take_of_length_le hlength.le]
        · simp only [Bool.not_true, Bool.false_eq_true, if_false, if_neg hfull]
          rw [hcons (List.filterMap _ _)]
          exact hnext (Nat.not_le.mp hfull)
    · rw [Bool.not_eq_true] at hmarked
      rw [hmarked, List.filter_cons_of_neg (by rw [hmarked]; exact Bool.false_ne_true)]
      exact hnext hfound

/-- A search for drivers is a filter of the members that it gets. -/
theorem finds_firstMarked {W : Type} {services : Services sig W} {w : W} {db : RideDb} {location : GeoPoint}
    {radiusKm : ℚ} {members : List String} (hlimit : 0 < limit)
    (hmembers : services w (.geosearch location radiusKm (if requireAvailable then limit * 4 else limit)) =
      (.ok (.members members), w))
    (hflags : services w (.markers members requireAvailable) =
      (.ok (.flags (members.flatMap (markerWindow seen available requireAvailable))), w)) :
    Finds services (searchDrivers location radiusKm limit requireAvailable) w db
      (firstMarked seen available requireAvailable limit members) := by
  unfold searchDrivers firstMarked
  refine .bind (finds_askFor hmembers rfl) ?_
  by_cases hnone : members = []
  · subst hnone
    rw [if_pos rfl, List.filter_nil, List.filterMap_nil, List.take_nil]
    exact .ret
  · rw [if_neg hnone]
    refine .bind (finds_askFor hflags rfl) ?_
    have hloop : collectNearby (stride requireAvailable) limit
        (members.flatMap (markerWindow seen available requireAvailable)) 0 members [] = _ :=
      collectNearby_markers [] members hlimit
    rw [List.nil_append] at hloop
    exact hloop ▸ .ret

end

namespace Locations

variable {l : Locations} {distanceKm : GeoPoint → GeoPoint → ℚ} {now : DateTime} {location : GeoPoint}
  {radiusKm : ℚ} {limit : Nat} {requireAvailable : Bool}

/-- A search is a filter of the nearest members. -/
theorem finds_searchDrivers {W : Type} {services : Services sig W} {w : W} {db : RideDb}
    (hl : l.AnswerIn distanceKm now services w) (hlimit : 0 < limit) :
    Finds services (searchDrivers location radiusKm limit requireAvailable) w db
      (l.nearby distanceKm now location radiusKm limit requireAvailable) :=
  finds_firstMarked hlimit (hl (.geosearch _ _ _) _ rfl) (hl (.markers _ _) _ rfl)

/-! ## Who is found -/

/-- Ways to split a list with a head. -/
theorem exists_split_cons {β : Type} {b : β} {l : List β} {P : List β → β → Prop} :
    (∃ as x bs, b :: l = as ++ x :: bs ∧ P as x) ↔ P [] b ∨ ∃ as x bs, l = as ++ x :: bs ∧ P (b :: as) x := by
  constructor
  · rintro ⟨as, x, bs, hsplit, h⟩
    cases as with
    | nil =>
      obtain ⟨rfl, rfl⟩ := List.cons.inj hsplit
      exact Or.inl h
    | cons a as =>
      obtain ⟨rfl, rfl⟩ := List.cons.inj hsplit
      exact Or.inr ⟨as, x, bs, rfl, h⟩
  · rintro (h | ⟨as, x, bs, rfl, h⟩)
    · exact ⟨[], b, l, rfl, h⟩
    · exact ⟨b :: as, x, bs, rfl, h⟩

/-- Who passes a filter between two limits: those who have not too many before them. -/
theorem mem_window {β γ : Type} {p : β → Bool} {f : β → Option γ} {y : γ} {l : List β} {count limit : Nat} :
    y ∈ (((l.take count).filter p).filterMap f).take limit ↔
      ∃ as x bs, l = as ++ x :: bs ∧ p x ∧ f x = some y ∧ as.length < count ∧
        ((as.filter p).filterMap f).length < limit := by
  induction l generalizing count limit with
  | nil => simp
  | cons b l ih =>
    rw [exists_split_cons]
    cases count with
    | zero => simp
    | succ count =>
      rw [List.take_succ_cons]
      by_cases hp : p b
      swap
      · simp only [List.filter_cons_of_neg hp, ih, hp, List.length_cons, Nat.add_lt_add_iff_right,
          Bool.false_eq_true, false_and, false_or]
      cases hf : f b with
      | none =>
        simp only [List.filter_cons_of_pos hp, List.filterMap_cons_none hf, ih, List.length_cons,
          Nat.add_lt_add_iff_right, reduceCtorEq, false_and, and_false, false_or]
      | some z =>
        cases limit with
        | zero => simp
        | succ limit =>
          simp only [List.filter_cons_of_pos hp, List.filterMap_cons_some hf, List.take_succ_cons, List.mem_cons,
            ih, hp, List.length_cons, Nat.add_lt_add_iff_right, Option.some.injEq, List.filter_nil,
            List.filterMap_nil, List.length_nil, Nat.zero_lt_succ, and_true, true_and]
          exact or_congr eq_comm Iff.rfl

/-- The other members that are at most as far from the location as `p`. -/
def nearer (l : Locations) (distanceKm : GeoPoint → GeoPoint → ℚ) (location : GeoPoint)
    (p : String × GeoPoint) : List (String × GeoPoint) :=
  l.positions.filter fun q => q.1 ≠ p.1 ∧ distanceKm location q.2 ≤ distanceKm location p.2

/-- A driver in range with both markers is found unless `limit` members are at most as far away. -/
theorem mem_nearby {p : String × GeoPoint} {userId : UUID} (hp : p ∈ l.positions)
    (hid : UUID.ofString p.1 = some userId)
    (hrange : distanceKm location p.2 ≤ radiusKm) (hmarked : l.marked now requireAvailable p.1)
    (hroom : (l.nearer distanceKm location p).length < limit) :
    userId ∈ l.nearby distanceKm now location radiusKm limit requireAvailable := by
  unfold nearby geosearch
  set inRange := l.positions.filter fun p => distanceKm location p.2 ≤ radiusKm with hinRange
  set sorted := inRange.mergeSort fun p q => distanceKm location p.2 ≤ distanceKm location q.2 with hsorted
  have hperm : sorted.Perm inRange := List.mergeSort_perm _ _
  have hmem : p ∈ sorted := hperm.mem_iff.mpr (List.mem_filter.mpr ⟨hp, decide_eq_true hrange⟩)
  obtain ⟨as, bs, hsplit⟩ := List.append_of_mem hmem
  have hpairwise : sorted.Pairwise fun p q =>
      decide (distanceKm location p.2 ≤ distanceKm location q.2) = true :=
    List.pairwise_mergeSort (fun a b c hab hbc => decide_eq_true
      ((of_decide_eq_true hab).trans (of_decide_eq_true hbc)))
      (fun a b => by simpa using le_total _ _) inRange
  have hnodup : (as ++ p :: bs).Nodup := hsplit ▸ hperm.nodup_iff.mpr ((l.nodup.of_map _).filter _)
  have hbefore : as ⊆ l.nearer distanceKm location p := by
    intro q hq
    rw [hsplit, List.pairwise_append] at hpairwise
    have hle := of_decide_eq_true (hpairwise.2.2 q hq p List.mem_cons_self)
    have hin : q ∈ l.positions :=
      List.mem_of_mem_filter (hperm.mem_iff.mp (hsplit ▸ List.mem_append_left _ hq))
    refine List.mem_filter.mpr ⟨hin, decide_eq_true ⟨fun hsame => ?_, hle⟩⟩
    exact (List.nodup_append.mp hnodup).2.2 q hq p List.mem_cons_self
      (List.inj_on_of_nodup_map l.nodup hin hp hsame)
  have hlength : as.length < limit :=
    (List.subperm_of_subset (List.nodup_append.mp hnodup).1 hbefore).length_le.trans_lt hroom
  rw [hsplit, List.map_take, List.map_append, List.map_cons]
  refine mem_window.mpr ⟨_, _, _, rfl, hmarked, hid, ?_, ?_⟩
  · rw [List.length_map]
    split_ifs <;> omega
  · refine ((List.length_filterMap_le _ _).trans (List.length_filter_le _ _)).trans_lt ?_
    rwa [List.length_map]

end Locations

/-! ## The loop of the search -/

/-- A search returns the first `limit` drivers among the members with the required markers. Each member is
judged by its own markers, and a member that is no identifier changes nothing. -/
theorem searchDrivers_exact {W : Type} {services : Services sig W} {w : W} {location : GeoPoint} {radiusKm : ℚ}
    {limit : Nat} {requireAvailable : Bool} {seen available : String → Bool} {members : List String}
    (hlimit : 1 ≤ limit)
    (hmembers : services w (.geosearch location radiusKm (if requireAvailable then limit * 4 else limit)) =
      (.ok (.members members), w))
    (hflags : services w (.markers members requireAvailable) =
      (.ok (.flags (members.flatMap (markerWindow seen available requireAvailable))), w)) (db : RideDb) :
    Finds services (searchDrivers location radiusKm limit requireAvailable) w db
        (firstMarked seen available requireAvailable limit members) ∧
      (∀ before m after, members = before ++ m :: after →
        ((members.flatMap (markerWindow seen available requireAvailable)).take
            ((before.length + 1) * stride requireAvailable)).drop (before.length * stride requireAvailable) =
          markerWindow seen available requireAvailable m) ∧
      ∀ before m after, members = before ++ m :: after → UUID.ofString m = none →
        firstMarked seen available requireAvailable limit members =
          firstMarked seen available requireAvailable limit (before ++ after) := by
  refine ⟨finds_firstMarked hlimit hmembers hflags, ?_, ?_⟩
  · rintro before m after rfl
    exact window_flatMap length_markerWindow before m after
  · rintro before m after rfl hm
    unfold firstMarked
    rw [List.filter_append, List.filter_append, List.filter_cons]
    by_cases h : hasMarkers seen available requireAvailable m
    · rw [if_pos h, List.filterMap_append, List.filterMap_append, List.filterMap_cons_none hm]
    · rw [if_neg h]

namespace Sample

/-- Redis has three members near the pickup: a driver, a member that is no identifier, and another driver. -/
def nearPickup (_ : Unit) : Query → Answer × Unit
  | .geosearch .. => (.ok (.members ["7", "rank-3", "8"]), ())
  | .markers .. => (.ok (.flags [true, false, true, true, true, true]), ())
  | _ => (.ok .done, ())

/-- The first of them is on a ride. -/
def idleNearPickup (member : String) : Bool := member ≠ "7"

end Sample

theorem searchDrivers_exact_sample :
    Finds Sample.nearPickup (searchDrivers ⟨5, -4⟩ 3 1 true) () {} [8] :=
  (@searchDrivers_exact Unit Sample.nearPickup () ⟨5, -4⟩ 3 1 true (fun _ => true) Sample.idleNearPickup
    ["7", "rank-3", "8"] (by decide) rfl rfl {}).1

end DiddiGo.Rides

import DiddiGo.Rides.Presence
import DiddiGo.Rides.Proofs.LocationsProofs
import DiddiGo.Transactions.Proofs.LeadsProofs

/-!
# Who stays in the pool

A push renews the presence of a driver but not his availability, so he leaves the pool when the
availability runs out; and the end of any of his sockets takes him offline.
-/

namespace DiddiGo.Rides

open Data (Expiring)
open Transactions Prog

variable {userId : UUID} {l : Locations} {now : DateTime}

/-! ## Commands -/

/-- A key that every command of a kind renews runs out `ttl` after the last one of them. -/
theorem expiry_runCommands (key : Locations → Option DateTime) {renews : LocationCommand → Bool}
    {ttl : DateTime} (hstep : ∀ t c l, Stays userId [(t, c)] →
      key (LocationCommand.apply t l c) = if renews c then some (t + ttl) else key l)
    {cs : List (DateTime × LocationCommand)} {first : DateTime} (hstays : Stays userId cs)
    (h : key l = some (first + ttl)) : key (runCommands cs l) = some (lastTime renews cs first + ttl) := by
  induction cs generalizing l first with
  | nil => exact h
  | cons c cs ih =>
    obtain ⟨t, c⟩ := c
    refine ih (fun c hc => hstays c (List.mem_cons_of_mem _ hc)) ?_
    rw [hstep t c l fun d hd => hstays d (List.mem_singleton.mp hd ▸ List.mem_cons_self)]
    by_cases hc : renews c
    · simp only [hc, if_true]
    · rw [if_neg hc, h]
      exact congrArg some (congrArg (· + ttl) (if_neg hc).symm)

theorem available_apply (t : DateTime) (c : LocationCommand) (l : Locations) (hstays : Stays userId [(t, c)]) :
    (LocationCommand.apply t l c).available (UUID.str userId) =
      if LocationCommand.offers userId c then some (t + seconds availabilityTtlSeconds)
      else l.available (UUID.str userId) := by
  obtain ⟨hassigned, hoffline⟩ := hstays _ (List.mem_singleton.mpr rfl)
  cases c with
  | push u location speedKmh => rfl
  | setAvailable u available =>
    by_cases hu : u = userId
    · subst hu
      cases available with
      | true => simp [LocationCommand.apply, Locations.setAvailable, LocationCommand.offers]
      | false => exact (hassigned rfl).elim
    · have hne := UUID.str_injective.ne (Ne.symm hu)
      cases available <;>
        simp [LocationCommand.apply, Locations.setAvailable, LocationCommand.offers, hu, hne]
  | goOffline u =>
    have hu : u ≠ userId := by
      rintro rfl
      exact hoffline rfl
    exact Expiring.del_of_ne (UUID.str_injective.ne hu.symm)

theorem seen_apply (t : DateTime) (c : LocationCommand) (l : Locations) (hstays : Stays userId [(t, c)]) :
    (LocationCommand.apply t l c).seen (UUID.str userId) =
      if LocationCommand.places userId c then some (t + seconds presenceTtlSeconds)
      else l.seen (UUID.str userId) := by
  obtain ⟨-, hoffline⟩ := hstays _ (List.mem_singleton.mpr rfl)
  cases c with
  | push u location speedKmh =>
    by_cases hu : u = userId
    · subst hu
      simp [LocationCommand.apply, Locations.updatePosition, LocationCommand.places]
    · simp [LocationCommand.apply, Locations.updatePosition, LocationCommand.places, hu, UUID.str_injective.ne (Ne.symm hu)]
  | setAvailable u available => rfl
  | goOffline u =>
    have hu : u ≠ userId := by
      rintro rfl
      exact hoffline rfl
    exact Expiring.del_of_ne (UUID.str_injective.ne hu.symm)

/-! ## The pool -/

theorem mem_positions_of_positionOf {member : String} {position : GeoPoint}
    (h : l.positionOf member = some position) : (member, position) ∈ l.positions := by
  obtain ⟨before, after, hsplit, -⟩ := List.lookup_eq_some_iff.mp h
  rw [hsplit]
  exact List.mem_append_right _ List.mem_cons_self

/-- A driver with both markers is in the pool. -/
theorem inPool_of_alive {distanceKm : GeoPoint → GeoPoint → ℚ} (hseen : l.seen.alive (UUID.str userId) now)
    (havailable : l.available.alive (UUID.str userId) now) : InPool distanceKm l now userId := by
  refine ⟨hseen, havailable, fun position location radiusKm limit hposition hrange hroom W services w db hl => ?_⟩
  refine ⟨_, Locations.finds_searchDrivers hl (Nat.zero_lt_of_lt hroom), ?_⟩
  refine Locations.mem_nearby (mem_positions_of_positionOf hposition) (UUID.ofString_str userId) hrange ?_ hroom
  unfold Locations.marked
  rw [hseen, havailable]
  rfl

/-- A driver goes online and is then neither assigned a ride nor taken offline; less than 30 seconds ago he
has pushed his position. He is in the pool exactly if he was made available less than 300 seconds ago. -/
theorem inPool_iff (distanceKm : GeoPoint → GeoPoint → ℚ) (l : Locations)
    (before between after : List (DateTime × LocationCommand)) (placed online : DateTime) (position : GeoPoint)
    (hbetween : Stays userId between) (hafter : Stays userId after)
    (hpresent : now < lastTime (LocationCommand.places userId) (between ++ after) placed +
      seconds presenceTtlSeconds) :
    InPool distanceKm (runCommands (before ++ (placed, .push userId position none) :: between ++
        (online, .setAvailable userId true) :: after) l) now userId ↔
      now < lastTime (LocationCommand.offers userId) after online + seconds availabilityTtlSeconds := by
  set l₁ := runCommands before l with hl₁
  set l₂ := runCommands between (l₁.updatePosition userId position none placed) with hl₂
  have hrun : runCommands (before ++ (placed, .push userId position none) :: between ++
      (online, .setAvailable userId true) :: after) l = runCommands after (l₂.setAvailable userId true online) := by
    unfold runCommands
    rw [runSteps_append, runSteps_append]
    rfl
  have havailable : (runCommands after (l₂.setAvailable userId true online)).available (UUID.str userId) =
      some (lastTime (LocationCommand.offers userId) after online + seconds availabilityTtlSeconds) :=
    expiry_runCommands (fun l => l.available (UUID.str userId)) available_apply hafter Expiring.set_self
  have hseen : (runCommands after (l₂.setAvailable userId true online)).seen (UUID.str userId) =
      some (lastTime (LocationCommand.places userId) (between ++ after) placed + seconds presenceTtlSeconds) := by
    have hfirst : l₂.seen (UUID.str userId) =
        some (lastTime (LocationCommand.places userId) between placed + seconds presenceTtlSeconds) :=
      expiry_runCommands (fun l => l.seen (UUID.str userId)) seen_apply hbetween Expiring.set_self
    have hlast := expiry_runCommands (l := l₂.setAvailable userId true online)
      (fun l => l.seen (UUID.str userId)) seen_apply hafter hfirst
    unfold lastTime at hlast ⊢
    rw [List.foldl_append]
    exact hlast
  rw [hrun]
  constructor
  · intro h
    exact of_decide_eq_true ((Expiring.alive_of_some havailable).symm.trans h.available)
  · intro h
    refine inPool_of_alive ?_ ?_
    · rw [Expiring.alive_of_some hseen]
      exact decide_eq_true hpresent
    · rw [Expiring.alive_of_some havailable]
      exact decide_eq_true h

/-- A driver who goes online and pushes his position every 20 seconds. -/
def longWait : List (DateTime × LocationCommand) :=
  (List.range 16).map fun n => (seconds (20 * n), .push 7 ⟨5, -4⟩ none)

theorem stays_longWait : Stays 7 longWait := by
  intro c hc
  obtain ⟨n, -, rfl⟩ := List.mem_map.mp hc
  exact ⟨nofun, nofun⟩

theorem inPool_iff_longWait : InPool (fun _ _ => 0) (runCommands ([] ++ (0, .push 7 ⟨5, -4⟩ none) :: [] ++
    (0, .setAvailable 7 true) :: longWait) {}) (seconds 299) 7 :=
  (inPool_iff (fun _ _ => 0) {} [] [] longWait 0 0 ⟨5, -4⟩ (fun _ h => nomatch h) stays_longWait
    (by decide)).mpr (by decide)

/-- After 301 seconds he has left the pool. -/
theorem longWait_leaves : ¬ InPool (fun _ _ => 0) (runCommands ([] ++ (0, .push 7 ⟨5, -4⟩ none) :: [] ++
    (0, .setAvailable 7 true) :: longWait) {}) (seconds 301) 7 := by
  intro h
  have hgone : (runCommands ([] ++ (0, .push 7 ⟨5, -4⟩ none) :: [] ++ (0, .setAvailable 7 true) :: longWait)
      {}).available.alive (UUID.str 7) (seconds 301) = false := by decide +kernel
  exact Bool.false_ne_true (hgone.symm.trans h.available)

/-! ## Sockets -/

theorem stateOf_goOffline (l : Locations) (now : DateTime) (userId : UUID) :
    (l.goOffline userId).stateOf now userId = (none, false, false) := by
  have hposition : (l.goOffline userId).positionOf (UUID.str userId) = none := by
    refine List.lookup_eq_none_iff.mpr fun p hp => ?_
    have hne : p.1 ≠ UUID.str userId := of_decide_eq_true (List.mem_filter.mp hp).2
    exact bne_iff_ne.mpr hne.symm
  unfold Locations.stateOf Expiring.alive
  rw [hposition]
  simp [Locations.goOffline]

/-- A close takes a driver with another open socket offline exactly if Redis could be reached and knew
him. -/
theorem keepsOnline_iff (e : DateTime × SocketEvent) (v : Server) : KeepsOnline e v ↔ ¬ ClosesEarly e v := by
  constructor
  · rintro hkeeps ⟨s, he, hrunning, hdriver, hother, hknown⟩
    have hsame := hkeeps s true he hrunning hother
    have hafter : (Server.after e v).locations = v.locations.goOffline s.userId := by
      unfold Server.after SocketEvent.apply
      rw [he]
      simp [hrunning, hdriver]
    rw [hafter, stateOf_goOffline] at hsame
    exact hknown hsame.symm
  · intro hnot s cacheUp he hrunning hother
    have hafter : (Server.after e v).locations =
        if s.driver && cacheUp then v.locations.goOffline s.userId else v.locations := by
      unfold Server.after SocketEvent.apply
      rw [he]
      simp [hrunning]
    rw [hafter]
    by_cases hgone : s.driver && cacheUp
    · obtain ⟨hdriver, rfl⟩ := Bool.and_eq_true_iff.mp hgone
      rw [if_pos hgone, stateOf_goOffline]
      by_contra hknown
      exact hnot ⟨s, he, hrunning, hdriver, hother, fun h => hknown h.symm⟩
    · rw [if_neg hgone]

/-- In every history of sockets, no close takes a driver with another open socket offline exactly if no
socket of a driver known to Redis is closed, with Redis up, while another one of his is open. -/
theorem keepsOnline_run_iff (es : List (DateTime × SocketEvent)) (v : Server) :
    EachStep Server.after KeepsOnline es v ↔ EachStep Server.after (fun e v => ¬ ClosesEarly e v) es v := by
  induction es generalizing v with
  | nil => exact Iff.rfl
  | cons e es ih => exact and_congr (keepsOnline_iff e v) (ih _)

/-- A driver reconnects and pushes his position, and then his old socket is closed. -/
def reconnection : List (DateTime × SocketEvent) :=
  [(0, .connect ⟨1, 7, true⟩), (1, .other (.setAvailable 7 true)), (2, .connect ⟨2, 7, true⟩),
    (3, .push ⟨2, 7, true⟩ ⟨5, -4⟩ none), (4, .close ⟨1, 7, true⟩ true)]

/-- He is taken offline. -/
theorem reconnection_offline : ¬ EachStep Server.after KeepsOnline reconnection {} := by
  intro h
  have hlast := h.2.2.2.2.1 ⟨1, 7, true⟩ true rfl (by decide) ⟨⟨2, 7, true⟩, by decide, by decide, rfl⟩
  revert hlast
  decide +kernel

end DiddiGo.Rides

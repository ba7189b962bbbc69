import DiddiGo.Data.Proofs.TableProofs
import DiddiGo.Rides.Sockets

/-!
# The socket hub keeps order

Whatever the order of messages, failures, broadcasts and commits, the manager stays tidy, and everything that is sent was
justified by something that had happened before.
-/

namespace DiddiGo.Rides.Sockets

open Data (Table)

variable {ω : Type} [DecidableEq ω] {manager : ConnectionManager ω} {ws ws' : ω} {userId rideId : UUID}

/-! ## The manager -/

namespace ConnectionManager

theorem mem_add {dict : UUID → Option (List ω)} {key k : UUID} :
    ws' ∈ (add dict key ws k).getD [] ↔ ws' ∈ (dict k).getD [] ∨ k = key ∧ ws' = ws := by
  unfold add
  by_cases hk : k = key
  · subst hk
    rw [Function.update_self, Option.getD_some, List.mem_insert_iff]
    exact ⟨fun h => h.elim (fun h => Or.inr ⟨rfl, h⟩) Or.inl, fun h => h.elim Or.inr fun h => Or.inl h.2⟩
  · rw [Function.update_of_ne hk]
    exact ⟨Or.inl, fun h => h.resolve_right fun h => hk h.1⟩

theorem add_ne_nil {dict : UUID → Option (List ω)} {key : UUID} (h : ∀ k, dict k ≠ some []) (k : UUID) :
    add dict key ws k ≠ some [] := by
  unfold add
  by_cases hk : k = key
  · subst hk
    rw [Function.update_self]
    intro heq
    have hmem : ws ∈ ((dict k).getD []).insert ws := List.mem_insert_self
    rw [Option.some.inj heq] at hmem
    cases hmem
  · rw [Function.update_of_ne hk]
    exact h k

theorem mem_discard {set : Option (List ω)} : ws' ∈ (discard set ws).getD [] ↔ ws' ∈ set.getD [] ∧ ws' ≠ ws := by
  unfold discard
  have hfilter : ws' ∈ (set.getD []).filter (· ≠ ws) ↔ ws' ∈ set.getD [] ∧ ws' ≠ ws := by simp
  rw [← hfilter]
  cases (set.getD []).filter (· ≠ ws) with
  | nil => exact Iff.rfl
  | cons first rest => exact Iff.rfl

theorem discard_ne_nil {set : Option (List ω)} : discard set ws ≠ some [] := by
  unfold discard
  cases (set.getD []).filter (· ≠ ws) with
  | nil => exact fun h => by cases h
  | cons first rest => exact fun h => by cases h

/-- Who watches a ride after a socket has gone. -/
theorem mem_disconnect_ride :
    ws' ∈ (manager.disconnect ws).socketsOf (.ride rideId) ↔
      ws' ∈ manager.socketsOf (.ride rideId) ∧ ws' ≠ ws := by
  change ws' ∈ ((manager.byRide rideId).bind fun set => discard (some set) ws).getD [] ↔
    ws' ∈ (manager.byRide rideId).getD [] ∧ ws' ≠ ws
  cases manager.byRide rideId with
  | none => simp
  | some set => exact mem_discard

/-- Which sockets a user has after one has gone. -/
theorem mem_disconnect_user
    (husers : ∀ ws userId, ws ∈ manager.socketsOf (.user userId) ↔ manager.sockets ws = some userId) :
    ws' ∈ (manager.disconnect ws).socketsOf (.user userId) ↔
      ws' ∈ manager.socketsOf (.user userId) ∧ ws' ≠ ws := by
  have habsent (h : manager.sockets ws ≠ some userId) :
      ws' ∈ manager.socketsOf (.user userId) ↔ ws' ∈ manager.socketsOf (.user userId) ∧ ws' ≠ ws :=
    ⟨fun hmem => ⟨hmem, fun heq => h ((husers ws userId).mp (heq ▸ hmem))⟩, And.left⟩
  unfold disconnect socketsOf
  dsimp only
  cases hws : manager.sockets ws with
  | none => exact habsent (by rw [hws]; exact (Option.some_ne_none userId).symm)
  | some owner =>
    dsimp only
    by_cases howner : userId = owner
    · subst howner
      rw [Function.update_self]
      exact mem_discard
    · rw [Function.update_of_ne howner]
      exact habsent fun heq => howner (Option.some.inj (heq.symm.trans hws))

theorem disconnect_ne_nil (h : ∀ key, manager.byUser key ≠ some [] ∧ manager.byRide key ≠ some []) (key : UUID) :
    (manager.disconnect ws).byUser key ≠ some [] ∧ (manager.disconnect ws).byRide key ≠ some [] := by
  unfold disconnect
  dsimp only
  constructor
  · cases manager.sockets ws with
    | none => exact (h key).1
    | some owner =>
      dsimp only
      by_cases howner : key = owner
      · subst howner
        rw [Function.update_self]
        exact discard_ne_nil
      · rw [Function.update_of_ne howner]
        exact (h key).1
  · cases manager.byRide key with
    | none => exact fun heq => by cases heq
    | some set => exact discard_ne_nil

end ConnectionManager

/-! ## What was justified stays justified -/

section

variable {history : List (HubEvent ω)} {e : HubEvent ω} {target : Target}

omit [DecidableEq ω] in
theorem Entitled.mono {history' : List (HubEvent ω)} (h : Entitled history ws target)
    (hmore : ∀ e ∈ history, e ∈ history') : Entitled history' ws target := by
  cases target with
  | user userId =>
    obtain ⟨session, hconnected, huser⟩ := h
    exact ⟨session, hmore _ hconnected, huser⟩
  | ride rideId =>
    obtain ⟨session, ride, driver, hconnected, hgranted, hride⟩ := h
    exact ⟨session, ride, driver, hmore _ hconnected, hmore _ hgranted, hride⟩

omit [DecidableEq ω] in
/-- The new event of a history is its last one. -/
theorem justified_note {h : Hub ω} (hall : h.Justified) (he : e.JustifiedBy h.history) : (h.note e).Justified := by
  intro before e' later heq
  change h.history ++ [e] = before ++ e' :: later at heq
  rcases later.eq_nil_or_concat with rfl | ⟨rest, last, rfl⟩
  · obtain ⟨rfl, hlast⟩ := List.append_inj' heq rfl
    obtain rfl := (List.cons.inj hlast).1
    exact he
  · rw [List.concat_eq_append, ← List.cons_append, ← List.append_assoc] at heq
    obtain ⟨hbefore, -⟩ := List.append_inj' heq rfl
    exact hall before e' rest hbefore

end

/-! ## What holds between two moves -/

namespace Hub

/-- The manager is tidy, what it and the fan-outs hold is entitled to be there, and the record agrees with the
endpoints. -/
structure Sound (h : Hub ω) : Prop extends h.Tidy where
  connected : ∀ ws session, (h.endpoint ws).session? = some session → .connected ws session ∈ h.history
  ended : ∀ ws, .ended ws ∈ h.history → h.endpoint ws = .closed
  entitled : ∀ ws target, ws ∈ h.manager.socketsOf target → Entitled h.history ws target
  fanOuts : ∀ fanOut ∈ h.fanOuts, ∀ ws ∈ fanOut.rest, Entitled h.history ws fanOut.target
  found : ∀ ws session purpose rideId ride, h.endpoint ws = .driverCheck session purpose rideId ride →
    ride.id = rideId
  justified : h.Justified

variable {h h' : Hub ω} {session : Session} {purpose : Purpose} {ride : Ride} {driver : Option DriverProfile}

omit [DecidableEq ω] in
theorem Sound.note {e : HubEvent ω} (hh : h.Sound) (he : e.JustifiedBy h.history) (hended : ∀ ws, e ≠ .ended ws) :
    (h.note e).Sound where
  toTidy := ⟨hh.users, hh.noEmptySet, hh.forgotten⟩
  connected ws session hsession := List.mem_append_left _ (hh.connected ws session hsession)
  ended ws hws := by
    rcases List.mem_append.mp hws with hold | hnew
    · exact hh.ended ws hold
    · exact absurd (List.mem_singleton.mp hnew).symm (hended ws)
  entitled ws target hws := (hh.entitled ws target hws).mono fun _ => List.mem_append_left _
  fanOuts fanOut hfanOut ws hws := (hh.fanOuts fanOut hfanOut ws hws).mono fun _ => List.mem_append_left _
  found := hh.found
  justified := justified_note hh.justified he

/-- An endpoint that serves its session goes on serving it. -/
theorem Sound.goTo {endpoint : Endpoint} (hh : h.Sound) (hsession : (h.endpoint ws).session? = some session)
    (hnext : endpoint.session? = some session)
    (hfound : ∀ session purpose rideId ride, endpoint = .driverCheck session purpose rideId ride → ride.id = rideId) :
    (h.goTo ws endpoint).Sound := by
  have hself : (h.goTo ws endpoint).endpoint ws = endpoint := Function.update_self ..
  have hother {ws' : ω} (hws : ws' ≠ ws) : (h.goTo ws endpoint).endpoint ws' = h.endpoint ws' :=
    Function.update_of_ne hws ..
  refine ⟨⟨hh.users, hh.noEmptySet, fun ws' target hws' => ?_⟩, fun ws' session' hsession' => ?_, fun ws' hended => ?_,
    hh.entitled, hh.fanOuts, fun ws' session' purpose rideId ride hcheck => ?_, hh.justified⟩
  · by_cases hws : ws' = ws
    · rw [hws, hself, hnext]
      rfl
    · rw [hother hws]
      exact hh.forgotten ws' target hws'
  · by_cases hws : ws' = ws
    · rw [hws, hself, hnext] at hsession'
      obtain rfl := Option.some.inj hsession'
      rw [hws]
      exact hh.connected ws session hsession
    · rw [hother hws] at hsession'
      exact hh.connected ws' session' hsession'
  · by_cases hws : ws' = ws
    · rw [hws] at hended
      rw [hh.ended ws hended] at hsession
      cases hsession
    · rw [hother hws]
      exact hh.ended ws' hended
  · by_cases hws : ws' = ws
    · rw [hws, hself] at hcheck
      exact hfound session' purpose rideId ride hcheck
    · rw [hother hws] at hcheck
      exact hh.found ws' session' purpose rideId ride hcheck

theorem Sound.reply {reply : SocketReply} (hh : h.Sound) (hsession : (h.endpoint ws).session? = some session) :
    (h.reply ws session reply).Sound :=
  (hh.note (e := .replied ws reply) trivial fun _ heq => by cases heq).goTo hsession rfl fun _ _ _ _ heq => by cases heq

omit [DecidableEq ω] in
/-- No socket of the manager has ended. -/
theorem Sound.not_ended {target : Target} (hh : h.Sound) (hws : ws ∈ h.manager.socketsOf target) :
    .ended ws ∉ h.history := by
  intro hended
  have hlive := hh.forgotten ws target hws
  rw [hh.ended ws hended] at hlive
  cases hlive

omit [DecidableEq ω] in
theorem Sound.start {target : Target} {event : ServerEvent} (hh : h.Sound)
    (hsender : ∀ location sender, event = .driverLocation location sender → ∃ ws session ride driver,
      .granted ws session (.push location) ride driver ∈ h.history ∧ session.userId = sender ∧
        target = .ride ride.id ∧ MayAccess session (.push location) ride driver) :
    (h.start target event).Sound := by
  have hnoted := hh.note (e := .started target event (h.manager.socketsOf target))
    ⟨fun ws hws => hh.not_ended hws, hsender⟩ fun _ heq => by cases heq
  refine { hnoted with fanOuts := fun fanOut hfanOut ws hws => ?_ }
  rcases List.mem_append.mp hfanOut with hold | hnew
  · exact hnoted.fanOuts fanOut hold ws hws
  · obtain rfl := List.mem_singleton.mp hnew
    exact hnoted.entitled ws target hws

/-- A socket that may follow the ride does. -/
theorem Sound.subscribe (hh : h.Sound) (hsession : (h.endpoint ws).session? = some session)
    (hentitled : Entitled h.history ws (.ride rideId)) :
    Sound { h with manager := h.manager.subscribeToRide ws rideId } := by
  have hadd {ws' : ω} {target : Target} (hws' : ws' ∈ (h.manager.subscribeToRide ws rideId).socketsOf target) :
      ws' ∈ h.manager.socketsOf target ∨ target = .ride rideId ∧ ws' = ws := by
    cases target with
    | user userId => exact Or.inl hws'
    | ride rideId' =>
      refine (ConnectionManager.mem_add.mp hws').imp id fun hnew => ?_
      exact ⟨congrArg Target.ride hnew.1, hnew.2⟩
  refine { hh with
    users := hh.users
    noEmptySet := fun key => ⟨(hh.noEmptySet key).1, ConnectionManager.add_ne_nil (fun k => (hh.noEmptySet k).2) key⟩
    forgotten := fun ws' target hws' => ?_
    entitled := fun ws' target hws' => ?_ }
  · rcases hadd hws' with hold | ⟨-, rfl⟩
    · exact hh.forgotten ws' target hold
    · exact Option.isSome_of_eq_some hsession
  · rcases hadd hws' with hold | ⟨rfl, rfl⟩
    · exact hh.entitled ws' target hold
    · exact hentitled

theorem Sound.mem_disconnect {target : Target} (hh : h.Sound) :
    ws' ∈ (h.manager.disconnect ws).socketsOf target ↔ ws' ∈ h.manager.socketsOf target ∧ ws' ≠ ws := by
  cases target with
  | user userId => exact ConnectionManager.mem_disconnect_user hh.users
  | ride rideId => exact ConnectionManager.mem_disconnect_ride

/-- The manager forgets a socket. -/
theorem Sound.disconnect (hh : h.Sound) (ws : ω) : Sound { h with manager := h.manager.disconnect ws } := by
  refine { hh with
    users := fun ws' userId => ?_
    noEmptySet := ConnectionManager.disconnect_ne_nil hh.noEmptySet
    forgotten := fun ws' target hws' => hh.forgotten ws' target (hh.mem_disconnect.mp hws').1
    entitled := fun ws' target hws' => hh.entitled ws' target (hh.mem_disconnect.mp hws').1 }
  refine hh.mem_disconnect.trans ?_
  rw [hh.users]
  change _ ↔ Function.update h.manager.sockets ws none ws' = some userId
  by_cases hws : ws' = ws
  · subst hws
    rw [Function.update_self]
    exact ⟨fun hmem => absurd rfl hmem.2, fun heq => by cases heq⟩
  · rw [Function.update_of_ne hws]
    exact ⟨And.left, fun heq => ⟨heq, hws⟩⟩

theorem Sound.connect (hh : h.Sound) (hidle : h.endpoint ws = .idle) (session : Session) :
    ({ h.note (.connected ws session) with manager := h.manager.connect ws session.userId }.goTo ws
      (.receiving session)).Sound := by
  have hnoted := hh.note (e := .connected ws session) trivial fun _ heq => by cases heq
  have hfresh (target : Target) : ws ∉ h.manager.socketsOf target := by
    intro hws
    have hlive := hh.forgotten ws target hws
    rw [hidle] at hlive
    cases hlive
  have hadd {ws' : ω} {target : Target} (hws' : ws' ∈ (h.manager.connect ws session.userId).socketsOf target) :
      ws' ∈ h.manager.socketsOf target ∨ target = .user session.userId ∧ ws' = ws := by
    cases target with
    | ride rideId => exact Or.inl hws'
    | user userId =>
      refine (ConnectionManager.mem_add.mp hws').imp id fun hnew => ?_
      exact ⟨congrArg Target.user hnew.1, hnew.2⟩
  have hself : Function.update h.endpoint ws (.receiving session) ws = .receiving session := Function.update_self ..
  have hother {ws' : ω} (hws : ws' ≠ ws) : Function.update h.endpoint ws (.receiving session) ws' = h.endpoint ws' :=
    Function.update_of_ne hws ..
  refine ⟨⟨fun ws' userId => ?_, fun key => ⟨?_, (hh.noEmptySet key).2⟩, fun ws' target hws' => ?_⟩,
    fun ws' session' hsession' => ?_, fun ws' hended => ?_, fun ws' target hws' => ?_, hnoted.fanOuts,
    fun ws' session' purpose rideId ride hcheck => ?_, hnoted.justified⟩
  · refine ConnectionManager.mem_add.trans ?_
    change _ ↔ Function.update h.manager.sockets ws (some session.userId) ws' = some userId
    by_cases hws : ws' = ws
    · subst hws
      rw [Function.update_self, Option.some.injEq]
      exact ⟨fun hmem => (hmem.resolve_left (hfresh (.user userId))).1.symm, fun heq => Or.inr ⟨heq.symm, rfl⟩⟩
    · rw [Function.update_of_ne hws, ← hh.users]
      exact ⟨fun hmem => hmem.resolve_right fun hnew => hws hnew.2, Or.inl⟩
  · exact ConnectionManager.add_ne_nil (fun k => (hh.noEmptySet k).1) key
  · change (Function.update h.endpoint ws (.receiving session) ws').session?.isSome = true
    by_cases hws : ws' = ws
    · rw [hws, hself]
      rfl
    · rw [hother hws]
      exact hh.forgotten ws' target ((hadd hws').resolve_right fun hnew => hws hnew.2)
  · change (Function.update h.endpoint ws (.receiving session) ws').session? = some session' at hsession'
    by_cases hws : ws' = ws
    · rw [hws, hself] at hsession'
      obtain rfl := Option.some.inj hsession'
      rw [hws]
      exact List.mem_append_right _ (List.mem_singleton.mpr rfl)
    · rw [hother hws] at hsession'
      exact hnoted.connected ws' session' hsession'
  · change Function.update h.endpoint ws (.receiving session) ws' = .closed
    have hclosed : h.endpoint ws' = .closed := hnoted.ended ws' hended
    have hws : ws' ≠ ws := by
      rintro rfl
      rw [hidle] at hclosed
      cases hclosed
    exact (hother hws).trans hclosed
  · rcases hadd hws' with hold | ⟨rfl, rfl⟩
    · exact hnoted.entitled ws' target hold
    · exact ⟨session, List.mem_append_right _ (List.mem_singleton.mpr rfl), rfl⟩
  · change Function.update h.endpoint ws (.receiving session) ws' = .driverCheck session' purpose rideId ride at hcheck
    by_cases hws : ws' = ws
    · rw [hws, hself] at hcheck
      cases hcheck
    · rw [hother hws] at hcheck
      exact hh.found ws' session' purpose rideId ride hcheck

theorem Sound.cleanUp (hh : h.Sound) :
    ({ h.note (.ended ws) with manager := h.manager.disconnect ws }.goTo ws .closed).Sound := by
  have hgone := hh.disconnect ws
  have hself : Function.update h.endpoint ws .closed ws = .closed := Function.update_self ..
  have hother {ws' : ω} (hws : ws' ≠ ws) : Function.update h.endpoint ws .closed ws' = h.endpoint ws' :=
    Function.update_of_ne hws ..
  refine ⟨⟨hgone.users, hgone.noEmptySet, fun ws' target hws' => ?_⟩, fun ws' session' hsession' => ?_,
    fun ws' hended => ?_, fun ws' target hws' => ?_, fun fanOut hfanOut ws' hws' => ?_,
    fun ws' session' purpose rideId ride hcheck => ?_, ?_⟩
  · change (Function.update h.endpoint ws .closed ws').session?.isSome = true
    rw [hother (hh.mem_disconnect.mp hws').2]
    exact hgone.forgotten ws' target hws'
  · change (Function.update h.endpoint ws .closed ws').session? = some session' at hsession'
    by_cases hws : ws' = ws
    · rw [hws, hself] at hsession'
      cases hsession'
    · rw [hother hws] at hsession'
      exact List.mem_append_left _ (hh.connected ws' session' hsession')
  · change Function.update h.endpoint ws .closed ws' = .closed
    by_cases hws : ws' = ws
    · rw [hws]
      exact hself
    · rw [hother hws]
      rcases List.mem_append.mp hended with hold | hnew
      · exact hh.ended ws' hold
      · exact absurd (HubEvent.ended.inj (List.mem_singleton.mp hnew)) hws
  · exact (hgone.entitled ws' target hws').mono fun _ => List.mem_append_left _
  · exact (hh.fanOuts fanOut hfanOut ws' hws').mono fun _ => List.mem_append_left _
  · change Function.update h.endpoint ws .closed ws' = .driverCheck session' purpose rideId ride at hcheck
    by_cases hws : ws' = ws
    · rw [hws, hself] at hcheck
      cases hcheck
    · rw [hother hws] at hcheck
      exact hh.found ws' session' purpose rideId ride hcheck
  · exact justified_note hh.justified trivial

/-! ## Messages -/

/-- A location of a sender whose role was checked. -/
theorem Sound.pushed {push : LocationPush} {profile : Option DriverProfile} (hh : h.Sound)
    (hsession : (h.endpoint ws).session? = some session)
    (hrole : session.role = "admin" ∨ session.role = "driver" ∨
      ∃ p ∈ profile, p.userId = session.userId ∧ p.status = .active) :
    (h.pushed ws session push profile).Sound := by
  unfold Hub.pushed
  cases push.location with
  | none => exact hh.reply hsession
  | some location =>
    have hnoted := hh.note (e := .positioned ws session profile) ⟨hh.connected ws session hsession, hrole⟩
      fun _ heq => by cases heq
    dsimp only
    cases push.rideId with
    | none => exact hnoted.reply hsession
    | some rideId =>
      cases rideId with
      | none => exact hnoted.reply hsession
      | some rideId => exact hnoted.goTo hsession rfl fun _ _ _ _ heq => by cases heq

/-- Access that was granted to somebody who may have it. -/
theorem Sound.grant (hh : h.Sound) (hsession : (h.endpoint ws).session? = some session)
    (hmay : MayAccess session purpose ride driver) (hride : ride.id = rideId) :
    (h.grant ws session purpose rideId ride driver).Sound := by
  have hnoted := hh.note (e := .granted ws session purpose ride driver) trivial fun _ heq => by cases heq
  have hgranted : .granted ws session purpose ride driver ∈ (h.note (.granted ws session purpose ride driver)).history :=
    List.mem_append_right _ (List.mem_singleton.mpr rfl)
  unfold Hub.grant
  cases purpose with
  | subscribe =>
    refine (hnoted.subscribe hsession ?_).reply hsession
    exact ⟨session, ride, driver, hnoted.connected ws session hsession, hgranted, hride, hmay⟩
  | push location =>
    refine (hnoted.start fun location' sender heq => ?_).reply hsession
    obtain ⟨rfl, rfl⟩ := ServerEvent.driverLocation.inj heq
    exact ⟨ws, session, ride, driver, hgranted, rfl, congrArg Target.ride hride.symm, hmay⟩

theorem Sound.handle (hh : h.Sound) (hreceiving : h.endpoint ws = .receiving session) (message : ClientMessage) :
    (h.handle ws session message).Sound := by
  have hsession : (h.endpoint ws).session? = some session := congrArg Endpoint.session? hreceiving
  unfold Hub.handle
  cases message with
  | malformed => exact hh.reply hsession
  | ping => exact hh.reply hsession
  | locationPush push =>
    dsimp only
    split_ifs with hrole
    · exact hh.pushed hsession (hrole.imp id Or.inl)
    · exact hh.goTo hsession rfl fun _ _ _ _ heq => by cases heq
  | subscribe rideId =>
    cases rideId with
    | none => exact hh.reply hsession
    | some rideId => exact hh.goTo hsession rfl fun _ _ _ _ heq => by cases heq
  | unknown event => exact hh.reply hsession

theorem profileOf_userId {db : RideDb} {profile : DriverProfile} (hfound : db.profileOf userId = some profile) :
    profile.userId = userId := by
  simpa using List.find?_some hfound

/-- Who is allowed may have access. -/
theorem mayAccess_of_isAllowed {db : RideDb} (hallowed : isAllowed session purpose ride (db.profileOf session.userId) = true) :
    MayAccess session purpose ride (db.profileOf session.userId) := by
  have hassigned (h : isAssigned ride (db.profileOf session.userId) = true) :
      ∃ profile ∈ db.profileOf session.userId, profile.userId = session.userId ∧
        ride.driverId = some profile.id := by
    cases hprofile : db.profileOf session.userId with
    | none =>
      rw [hprofile] at h
      exact absurd h Bool.false_ne_true
    | some profile =>
      rw [hprofile] at h
      exact ⟨profile, rfl, profileOf_userId hprofile, of_decide_eq_true h⟩
  cases purpose with
  | push location => exact Or.inr (Or.inl (hassigned hallowed))
  | subscribe =>
    rcases Bool.or_eq_true_iff.mp hallowed with hpassenger | hdriver
    · exact Or.inr (Or.inr ⟨rfl, of_decide_eq_true hpassenger⟩)
    · exact Or.inr (Or.inl (hassigned hdriver))

theorem Sound.resume (hh : h.Sound) (hresume : h.resume ws = some h') : h'.Sound := by
  unfold Hub.resume at hresume
  cases hendpoint : h.endpoint ws with
  | profileCheck session push =>
    have hsession : (h.endpoint ws).session? = some session := congrArg Endpoint.session? hendpoint
    simp only [hendpoint] at hresume
    cases hprofile : h.db.profileOf session.userId with
    | none =>
      simp only [hprofile, Option.some.injEq] at hresume
      exact hresume ▸ hh.reply hsession
    | some profile =>
      simp only [hprofile] at hresume
      split_ifs at hresume with hactive
      · obtain rfl := Option.some.inj hresume
        exact hh.pushed hsession (Or.inr (Or.inr ⟨profile, rfl, profileOf_userId hprofile, hactive⟩))
      · exact Option.some.inj hresume ▸ hh.reply hsession
  | rideCheck session purpose rideId =>
    have hsession : (h.endpoint ws).session? = some session := congrArg Endpoint.session? hendpoint
    simp only [hendpoint] at hresume
    cases hride : h.db.rides.find? rideId with
    | none =>
      simp only [hride, Option.some.injEq] at hresume
      exact hresume ▸ hh.reply hsession
    | some ride =>
      simp only [hride] at hresume
      have hid : ride.id = rideId := Table.key_of_find? hride
      split_ifs at hresume with hadmin
      · exact Option.some.inj hresume ▸ hh.grant hsession (Or.inl hadmin) hid
      · refine Option.some.inj hresume ▸ hh.goTo hsession rfl fun _ _ _ _ heq => ?_
        obtain ⟨-, -, rfl, rfl⟩ := Endpoint.driverCheck.inj heq
        exact hid
  | driverCheck session purpose rideId ride =>
    have hsession : (h.endpoint ws).session? = some session := congrArg Endpoint.session? hendpoint
    simp only [hendpoint] at hresume
    split_ifs at hresume with hallowed
    · exact Option.some.inj hresume ▸
        hh.grant hsession (mayAccess_of_isAllowed hallowed) (hh.found ws session purpose rideId ride hendpoint)
    · exact Option.some.inj hresume ▸ hh.reply hsession
  | idle => simp [hendpoint] at hresume
  | receiving session => simp [hendpoint] at hresume
  | closing session => simp [hendpoint] at hresume
  | closed => simp [hendpoint] at hresume

omit [DecidableEq ω] in
/-- A fan-out gets to its next socket. -/
theorem Sound.advance {fanOut : FanOut ω} {rest : List ω} {n : Nat} (hh : h.Sound) (hn : h.fanOuts[n]? = some fanOut)
    (hrest : fanOut.rest = ws :: rest) :
    Sound { h with fanOuts := h.fanOuts.set n { fanOut with rest := rest } } := by
  refine { hh with fanOuts := fun other hother ws' hws' => ?_ }
  rcases List.mem_or_eq_of_mem_set hother with hold | rfl
  · exact hh.fanOuts other hold ws' hws'
  · exact hh.fanOuts fanOut (List.mem_of_getElem? hn) ws' (hrest ▸ List.mem_cons_of_mem ws hws')

/-- One move. -/
theorem Sound.step {m : HubMove ω} (hh : h.Sound) (hstep : h.step m = some h') : h'.Sound := by
  cases m with
  | commit db =>
    obtain rfl := Option.some.inj hstep
    exact { hh with }
  | connect ws session =>
    cases hendpoint : h.endpoint ws with
    | idle =>
      simp only [Hub.step, hendpoint, Option.some.injEq] at hstep
      exact hstep ▸ hh.connect hendpoint session
    | _ => simp [Hub.step, hendpoint] at hstep
  | receive ws message =>
    cases hendpoint : h.endpoint ws with
    | receiving session =>
      simp only [Hub.step, hendpoint, Option.some.injEq] at hstep
      exact hstep ▸ hh.handle hendpoint message
    | _ => simp [Hub.step, hendpoint] at hstep
  | resume ws => exact hh.resume hstep
  | fail ws =>
    obtain ⟨session, hsession, rfl⟩ := Option.map_eq_some_iff.mp hstep
    exact hh.goTo hsession rfl fun _ _ _ _ heq => by cases heq
  | cleanUp ws =>
    cases hendpoint : h.endpoint ws with
    | closing session =>
      simp only [Hub.step, hendpoint, Option.some.injEq] at hstep
      exact hstep ▸ hh.cleanUp
    | _ => simp [Hub.step, hendpoint] at hstep
  | broadcast target event =>
    unfold Hub.step at hstep
    dsimp only at hstep
    split_ifs at hstep with hlocation
    refine Option.some.inj hstep ▸ hh.start fun location sender heq => ?_
    rw [heq] at hlocation
    exact absurd rfl hlocation
  | send n ok =>
    cases hn : h.fanOuts[n]? with
    | none => simp [Hub.step, hn] at hstep
    | some fanOut =>
      cases hrest : fanOut.rest with
      | nil => simp [Hub.step, hn, hrest] at hstep
      | cons ws rest =>
        have hentitled : Entitled h.history ws fanOut.target :=
          hh.fanOuts fanOut (List.mem_of_getElem? hn) ws (hrest ▸ List.mem_cons_self)
        simp only [Hub.step, hn, hrest] at hstep
        split_ifs at hstep
        · exact Option.some.inj hstep ▸ (hh.advance hn hrest).note hentitled fun _ heq => by cases heq
        · exact Option.some.inj hstep ▸ (hh.advance hn hrest).disconnect ws

omit [DecidableEq ω] in
theorem sound_initial (db : RideDb) : (initial db : Hub ω).Sound where
  users ws userId := by constructor <;> intro h <;> cases h
  noEmptySet key := by constructor <;> intro h <;> cases h
  forgotten ws target hmem := by cases target <;> cases hmem
  connected ws session hsession := by cases hsession
  ended ws hended := by cases hended
  entitled ws target hmem := by cases target <;> cases hmem
  fanOuts fanOut hfanOut := by cases hfanOut
  found ws session purpose rideId ride hcheck := by cases hcheck
  justified before e later heq := absurd heq.symm (List.append_ne_nil_of_right_ne_nil _ (List.cons_ne_nil _ _))

theorem Sound.run {ms : List (HubMove ω)} (hh : h.Sound) (hrun : h.run ms = some h') : h'.Sound := by
  induction ms generalizing h with
  | nil =>
    obtain rfl := Option.some.inj hrun
    exact hh
  | cons m ms ih =>
    obtain ⟨h₁, hstep, hrest⟩ := Option.bind_eq_some_iff.mp hrun
    exact ih (hh.step hstep) hrest

end Hub

namespace Sample

/-- Passenger 10 rides with the driver of profile 30, user 20. -/
def followedDb : RideDb where
  rides := Data.Table.empty.insert
    { id := 1, passengerUserId := 10, pickupLocation := some ⟨0, 0⟩, driverId := some 30, status := .inProgress }
  profiles := Data.Table.empty.insert { id := 30, userId := 20, status := .active }

/-- The driver at a point. -/
def locationPush : LocationPush := { location := some ⟨5, -4⟩, speedKmh := none, rideId := some (some 1) }

/-- The passenger follows the ride, a stranger tries to, the driver sends his location, and the passenger leaves while
it is on its way. -/
def follow : List (HubMove Nat) :=
  [.connect 0 ⟨10, "passenger"⟩, .connect 1 ⟨20, "driver"⟩, .connect 2 ⟨11, "passenger"⟩,
   .receive 0 (.subscribe (some 1)), .receive 2 (.subscribe (some 1)), .resume 0, .resume 2, .resume 2, .resume 0,
   .receive 1 (.locationPush locationPush), .resume 1, .resume 1, .fail 0, .send 0 true, .cleanUp 0,
   .broadcast (.ride 1) (.statusChanged "completed")]

end Sample

end DiddiGo.Rides.Sockets

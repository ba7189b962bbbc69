import DiddiGo.Commands.CommandStore
import Mathlib.Tactic.Common

/-!
# The laws of the command store

A key that is set to a running command has one holder, and a key that is set to a finished one has none:
nobody can delete or overwrite it any more.
-/

namespace DiddiGo.Commands

open Data (Json)

variable {Caller : Type} [DecidableEq Caller] {store : S2SCommandStore} {s s' s'' : State Caller}
  {i j : Caller} {c : S2SCommand} {r : S2SCommandReservation} {m : Move Caller} {ms : List (Move Caller)}
  {key fp : String} {response : Response}

/-! ## Values -/

@[simp] theorem get_fingerprint_pendingValue : (pendingValue fp).get "fingerprint" = .str fp := rfl

@[simp] theorem get_fingerprint_doneValue {j : Json} : (doneValue fp j).get "fingerprint" = .str fp := rfl

theorem readExisting_of_ne {v : Json} (h : v.get "fingerprint" ≠ .str fp) :
    readExisting key fp v = .error idempotencyConflict := if_pos h

/-- A finished command is answered again, and another payload is refused. -/
theorem readExisting_done (fp' : String) :
    readExisting key fp' (doneValue fp response) = if fp' = fp then
      .ok { redisKey := key, fingerprint := fp, cachedResponse := some response.val }
    else .error idempotencyConflict := by
  unfold readExisting
  rw [get_fingerprint_doneValue]
  by_cases hfp : fp' = fp
  · subst hfp
    rw [if_neg (not_not.mpr rfl), if_pos ⟨rfl, response.property⟩, if_pos rfl]
    rfl
  · rw [if_pos fun h => hfp (Json.str.inj h).symm, if_neg hfp]

namespace State

/-! ## Moves -/

/-- What a move can do. -/
theorem step_cases (h : s.step store m = some s') :
    (∃ i c, m = .call i c ∧ s.phase i = .idle ∧ s' = s.enter i (.setting c)) ∨
    (∃ i c, m = .go i ∧ s.phase i = .setting c ∧ s' = s.trySet store i c) ∨
    (∃ i c, m = .go i ∧ s.phase i = .getting c ∧ s' = s.tryGet store i c) ∨
    (∃ i r response, m = .complete i response ∧ s.phase i = .holding r ∧
      s' = (s.put r.redisKey (some (doneValue r.fingerprint response.val))).enter i .idle) ∨
    (∃ i r, m = .release i ∧ s.phase i = .holding r ∧ s' = (s.put r.redisKey none).enter i .idle) := by
  cases m with
  | call i c =>
    cases hp : s.phase i <;> simp only [step, hp, reduceCtorEq] at h
    exact Or.inl ⟨i, c, rfl, hp, (Option.some.inj h).symm⟩
  | go i =>
    cases hp : s.phase i <;> simp only [step, hp, reduceCtorEq] at h
    · exact Or.inr (Or.inl ⟨i, _, rfl, hp, (Option.some.inj h).symm⟩)
    · exact Or.inr (Or.inr (Or.inl ⟨i, _, rfl, hp, (Option.some.inj h).symm⟩))
  | complete i response =>
    cases hp : s.phase i <;> simp only [step, hp, reduceCtorEq] at h
    exact Or.inr (Or.inr (Or.inr (Or.inl ⟨i, _, response, rfl, hp, (Option.some.inj h).symm⟩)))
  | release i =>
    cases hp : s.phase i <;> simp only [step, hp, reduceCtorEq] at h
    exact Or.inr (Or.inr (Or.inr (Or.inr ⟨i, _, rfl, hp, (Option.some.inj h).symm⟩)))

theorem step_setting (h : s.phase i = .setting c) : s.step store (.go i) = some (s.trySet store i c) := by
  simp only [step, h]

theorem step_getting (h : s.phase i = .getting c) : s.step store (.go i) = some (s.tryGet store i c) := by
  simp only [step, h]

theorem phase_enter_self (phase : Phase) : (s.enter i phase).phase i = phase := Function.update_self ..

theorem phase_enter_of_ne {phase : Phase} (h : j ≠ i) : (s.enter i phase).phase j = s.phase j :=
  Function.update_of_ne h ..

theorem trySet_of_none (h : s.redis (store.redisKey c) = none) :
    s.trySet store i c = ((s.put (store.redisKey c) (some (pendingValue (fingerprint c.payload)))).note c
      (.ok ⟨store.redisKey c, fingerprint c.payload, none⟩)).enter i
        (.holding ⟨store.redisKey c, fingerprint c.payload, none⟩) := by
  simp only [trySet, h]

theorem trySet_of_some {v : Json} (h : s.redis (store.redisKey c) = some v) :
    s.trySet store i c = s.enter i (.getting c) := by
  simp only [trySet, h]

theorem tryGet_of_none (h : s.redis (store.redisKey c) = none) :
    s.tryGet store i c = s.enter i (.setting c) := by
  simp only [tryGet, h]

theorem tryGet_of_some {v : Json} (h : s.redis (store.redisKey c) = some v) :
    s.tryGet store i c =
      (s.note c (readExisting (store.redisKey c) (fingerprint c.payload) v)).enter i .idle := by
  simp only [tryGet, h]

/-! ## Holders -/

/-- Whoever holds a reservation, its key says so; and it is the only one. -/
structure Held (s : State Caller) : Prop where
  pending : ∀ i r, s.phase i = .holding r → s.redis r.redisKey = some (pendingValue r.fingerprint)
  one : ∀ i j r r', s.phase i = .holding r → s.phase j = .holding r' → r.redisKey = r'.redisKey → i = j

/-- A caller who holds nothing leaves the holders and their keys as they are. -/
theorem Held.enter {phase : Phase} (h : s.Held) (hphase : ∀ r, phase ≠ .holding r) :
    (s.enter i phase).Held := by
  have hold {j : Caller} {r : S2SCommandReservation} (hj : (s.enter i phase).phase j = .holding r) :
      s.phase j = .holding r := by
    by_cases hij : j = i
    · subst hij
      rw [phase_enter_self] at hj
      exact absurd hj (hphase r)
    · rwa [phase_enter_of_ne hij] at hj
  exact ⟨fun j r hj => h.pending j r (hold hj), fun j j' r r' hj hj' => h.one j j' r r' (hold hj) (hold hj')⟩

omit [DecidableEq Caller] in
theorem Held.note {result : Except ApiError S2SCommandReservation} (h : s.Held) : (s.note c result).Held :=
  ⟨h.pending, h.one⟩

/-- A holder writes his key and holds it no longer. -/
theorem Held.finish {value : Option Json} (h : s.Held) (hi : s.phase i = .holding r) :
    ((s.put r.redisKey value).enter i .idle).Held := by
  have hold {j : Caller} {r' : S2SCommandReservation}
      (hj : ((s.put r.redisKey value).enter i .idle).phase j = .holding r') : j ≠ i ∧ s.phase j = .holding r' := by
    by_cases hij : j = i
    · subst hij
      rw [phase_enter_self] at hj
      cases hj
    · rw [phase_enter_of_ne hij] at hj
      exact ⟨hij, hj⟩
  refine ⟨fun j r' hj => ?_, fun j j' r₁ r₂ hj hj' => h.one j j' r₁ r₂ (hold hj).2 (hold hj').2⟩
  obtain ⟨hij, hj⟩ := hold hj
  have hkey : r'.redisKey ≠ r.redisKey := fun heq => hij (h.one j i r' r hj hi heq)
  change Function.update s.redis r.redisKey value r'.redisKey = _
  rw [Function.update_of_ne hkey]
  exact h.pending j r' hj

/-- A fresh reservation is taken on a key that nobody holds. -/
theorem Held.trySet (h : s.Held) : (s.trySet store i c).Held := by
  cases hv : s.redis (store.redisKey c) with
  | some v =>
    rw [trySet_of_some hv]
    exact h.enter fun _ => Phase.noConfusion
  | none =>
    rw [trySet_of_none hv]
    have hfree (j : Caller) (r : S2SCommandReservation) (hj : s.phase j = .holding r) :
        r.redisKey ≠ store.redisKey c := by
      intro heq
      have hpending := h.pending j r hj
      rw [heq, hv] at hpending
      cases hpending
    refine ⟨fun j r hj => ?_, fun j j' r r' hj hj' hkey => ?_⟩
    · by_cases hij : j = i
      · subst hij
        rw [phase_enter_self] at hj
        obtain rfl := Phase.holding.inj hj
        exact Function.update_self ..
      · rw [phase_enter_of_ne hij] at hj
        change Function.update s.redis (store.redisKey c) _ r.redisKey = _
        rw [Function.update_of_ne (hfree j r hj)]
        exact h.pending j r hj
    · by_cases hij : j = i <;> by_cases hij' : j' = i
      · rw [hij, hij']
      · subst hij
        rw [phase_enter_self] at hj
        rw [phase_enter_of_ne hij'] at hj'
        obtain rfl := Phase.holding.inj hj
        exact absurd hkey.symm (hfree j' r' hj')
      · subst hij'
        rw [phase_enter_self] at hj'
        rw [phase_enter_of_ne hij] at hj
        obtain rfl := Phase.holding.inj hj'
        exact absurd hkey (hfree j r hj)
      · rw [phase_enter_of_ne hij] at hj
        rw [phase_enter_of_ne hij'] at hj'
        exact h.one j j' r r' hj hj' hkey

theorem Held.tryGet (h : s.Held) : (s.tryGet store i c).Held := by
  cases hv : s.redis (store.redisKey c) with
  | none =>
    rw [tryGet_of_none hv]
    exact h.enter fun _ => Phase.noConfusion
  | some v =>
    rw [tryGet_of_some hv]
    exact h.note.enter fun _ => Phase.noConfusion

theorem Held.step (h : s.Held) (hstep : s.step store m = some s') : s'.Held := by
  rcases step_cases hstep with ⟨i, c, -, -, rfl⟩ | ⟨i, c, -, -, rfl⟩ | ⟨i, c, -, -, rfl⟩ |
    ⟨i, r, response, -, hi, rfl⟩ | ⟨i, r, -, hi, rfl⟩
  · exact h.enter fun _ => Phase.noConfusion
  · exact h.trySet
  · exact h.tryGet
  · exact h.finish hi
  · exact h.finish hi

omit [DecidableEq Caller] in
theorem held_initial : (initial : State Caller).Held := ⟨fun _ _ => nofun, fun _ _ _ _ => nofun⟩

/-! ## Runs -/

/-- What every move preserves, every run does. -/
theorem run_induction {I : State Caller → Prop}
    (hI : ∀ {s s' : State Caller} {m : Move Caller}, I s → s.step store m = some s' → I s') (h : I s)
    (hrun : s.run store ms = some s') : I s' := by
  induction ms generalizing s with
  | nil =>
    obtain rfl := Option.some.inj hrun
    exact h
  | cons m ms ih =>
    obtain ⟨s₁, h₁, h₂⟩ := Option.bind_eq_some_iff.mp hrun
    exact ih (hI h h₁) h₂

/-- The calls that end in a move. -/
theorem returns_step (h : s.step store m = some s') : ∃ new, s'.returns = s.returns ++ new ∧
    ∀ x ∈ new, (s.redis (store.redisKey x.command) = none ∧
        x.result = .ok { redisKey := store.redisKey x.command, fingerprint := fingerprint x.command.payload }) ∨
      ∃ v, s.redis (store.redisKey x.command) = some v ∧
        x.result = readExisting (store.redisKey x.command) (fingerprint x.command.payload) v := by
  have hnone (hs : s'.returns = s.returns) : ∃ new, s'.returns = s.returns ++ new ∧ ∀ x ∈ new,
      (s.redis (store.redisKey x.command) = none ∧
        x.result = .ok { redisKey := store.redisKey x.command, fingerprint := fingerprint x.command.payload }) ∨
      ∃ v, s.redis (store.redisKey x.command) = some v ∧
        x.result = readExisting (store.redisKey x.command) (fingerprint x.command.payload) v :=
    ⟨[], by rw [hs, List.append_nil], fun x hx => absurd hx List.not_mem_nil⟩
  rcases step_cases h with ⟨i, c, -, -, rfl⟩ | ⟨i, c, -, -, rfl⟩ | ⟨i, c, -, -, rfl⟩ |
    ⟨i, r, response, -, hi, rfl⟩ | ⟨i, r, -, hi, rfl⟩
  · exact hnone rfl
  · cases hv : s.redis (store.redisKey c) with
    | some v =>
      refine hnone ?_
      rw [trySet_of_some hv]
      rfl
    | none =>
      rw [trySet_of_none hv]
      refine ⟨[⟨c, .ok ⟨store.redisKey c, fingerprint c.payload, none⟩⟩], rfl, fun x hx => ?_⟩
      obtain rfl := List.mem_singleton.mp hx
      exact Or.inl ⟨hv, rfl⟩
  · cases hv : s.redis (store.redisKey c) with
    | none =>
      refine hnone ?_
      rw [tryGet_of_none hv]
      rfl
    | some v =>
      rw [tryGet_of_some hv]
      refine ⟨[⟨c, readExisting (store.redisKey c) (fingerprint c.payload) v⟩], rfl, fun x hx => ?_⟩
      obtain rfl := List.mem_singleton.mp hx
      exact Or.inr ⟨v, hv, rfl⟩
  · exact hnone rfl
  · exact hnone rfl

/-- What holds of every call that ends while an invariant holds. -/
theorem returns_run {I : State Caller → Prop} {P : Return → Prop}
    (hI : ∀ {s s' : State Caller} {m : Move Caller}, I s → s.step store m = some s' → I s')
    (hP : ∀ {s s' : State Caller} {m : Move Caller}, I s → s.step store m = some s' →
      ∃ new, s'.returns = s.returns ++ new ∧ ∀ x ∈ new, P x)
    (h : I s) (hrun : s.run store ms = some s') :
    ∃ new, s'.returns = s.returns ++ new ∧ ∀ x ∈ new, P x := by
  induction ms generalizing s with
  | nil =>
    obtain rfl := Option.some.inj hrun
    exact ⟨[], (List.append_nil _).symm, fun x hx => absurd hx List.not_mem_nil⟩
  | cons m ms ih =>
    obtain ⟨s₁, h₁, h₂⟩ := Option.bind_eq_some_iff.mp hrun
    obtain ⟨new, hnew, hall⟩ := hP h h₁
    obtain ⟨new', hnew', hall'⟩ := ih (hI h h₁) h₂
    refine ⟨new ++ new', by rw [hnew', hnew, List.append_assoc], fun x hx => ?_⟩
    exact (List.mem_append.mp hx).elim (hall x) (hall' x)

/-! ## After a completion -/

/-- The key holds a response, and nobody can change it. -/
structure Done (s : State Caller) (key fp : String) (response : Response) : Prop where
  stored : s.redis key = some (doneValue fp response)
  free : ∀ i r, s.phase i = .holding r → r.redisKey ≠ key

theorem Done.enter {phase : Phase} (h : s.Done key fp response)
    (hphase : ∀ r, phase = .holding r → r.redisKey ≠ key) : (s.enter i phase).Done key fp response := by
  refine ⟨h.stored, fun j r hj => ?_⟩
  by_cases hij : j = i
  · subst hij
    rw [phase_enter_self] at hj
    exact hphase r hj
  · rw [phase_enter_of_ne hij] at hj
    exact h.free j r hj

omit [DecidableEq Caller] in
theorem Done.put {key' : String} {value : Option Json} (h : s.Done key fp response) (hkey : key' ≠ key) :
    (s.put key' value).Done key fp response :=
  ⟨(Function.update_of_ne hkey.symm _ s.redis : (s.put key' value).redis key = _).trans h.stored, h.free⟩

omit [DecidableEq Caller] in
theorem Done.note {result : Except ApiError S2SCommandReservation} (h : s.Done key fp response) :
    (s.note c result).Done key fp response :=
  ⟨h.stored, h.free⟩

theorem Done.step (h : s.Done key fp response) (hstep : s.step store m = some s') :
    s'.Done key fp response := by
  rcases step_cases hstep with ⟨i, c, -, -, rfl⟩ | ⟨i, c, -, -, rfl⟩ | ⟨i, c, -, -, rfl⟩ |
    ⟨i, r, response, -, hi, rfl⟩ | ⟨i, r, -, hi, rfl⟩
  · exact h.enter fun _ => nofun
  · cases hv : s.redis (store.redisKey c) with
    | some v =>
      rw [trySet_of_some hv]
      exact h.enter fun _ => nofun
    | none =>
      have hkey : store.redisKey c ≠ key := by
        rintro rfl
        cases hv.symm.trans h.stored
      rw [trySet_of_none hv]
      refine (h.put hkey).note.enter fun r hr => ?_
      obtain rfl := Phase.holding.inj hr
      exact hkey
  · cases hv : s.redis (store.redisKey c) with
    | none =>
      rw [tryGet_of_none hv]
      exact h.enter fun _ => nofun
    | some v =>
      rw [tryGet_of_some hv]
      exact h.note.enter fun _ => nofun
  · exact (h.put (h.free i r hi)).enter fun _ => nofun
  · exact (h.put (h.free i r hi)).enter fun _ => nofun

/-- A completion leaves the key to nobody. -/
theorem done_complete (h : s.Held) (hi : s.phase i = .holding r)
    (hstep : s.step store (.complete i response) = some s') : s'.Done r.redisKey r.fingerprint response := by
  simp only [State.step, hi, Option.some.injEq] at hstep
  subst hstep
  refine ⟨Function.update_self .., fun j r' hj hkey => ?_⟩
  by_cases hij : j = i
  · subst hij
    rw [phase_enter_self] at hj
    cases hj
  · rw [phase_enter_of_ne hij] at hj
    exact hij (h.one j i r' r hj hi hkey)

/-- From then on every call for the key ends with the response, or is refused. -/
theorem replays_of_done (h : s.Done key fp response) (hrun : s.run store ms = some s') :
    ∃ new, s'.returns = s.returns ++ new ∧ ∀ x ∈ new, store.redisKey x.command = key →
      x.result = if fingerprint x.command.payload = fp then
        .ok { redisKey := key, fingerprint := fp, cachedResponse := some response.val }
      else .error idempotencyConflict := by
  refine returns_run (I := fun s => s.Done key fp response) (fun h => h.step) (fun {s s' m} h hstep => ?_) h hrun
  obtain ⟨new, hnew, hall⟩ := returns_step hstep
  refine ⟨new, hnew, fun x hx hkey => ?_⟩
  rcases hall x hx with ⟨hv, -⟩ | ⟨v, hv, hresult⟩
  · rw [hkey, h.stored] at hv
    cases hv
  · rw [hkey, h.stored] at hv
    obtain rfl := Option.some.inj hv
    rw [hresult, hkey]
    exact readExisting_done _

/-! ## After a release -/

/-- A key that is not set stays so until it is reserved. -/
theorem unset_step (hheld : s.Held) (h : s.redis key = none) (hstep : s.step store m = some s') :
    s'.redis key = none ∨ ∃ x, s'.returns = s.returns ++ [x] ∧ store.redisKey x.command = key ∧
      x.result = .ok { redisKey := key, fingerprint := fingerprint x.command.payload } := by
  have hother {i : Caller} {r : S2SCommandReservation} {value : Option Json} (hi : s.phase i = .holding r) :
      Function.update s.redis r.redisKey value key = none := by
    have hkey : key ≠ r.redisKey := by
      rintro rfl
      cases h.symm.trans (hheld.pending i r hi)
    rw [Function.update_of_ne hkey, h]
  rcases step_cases hstep with ⟨i, c, -, -, rfl⟩ | ⟨i, c, -, -, rfl⟩ | ⟨i, c, -, -, rfl⟩ |
    ⟨i, r, response, -, hi, rfl⟩ | ⟨i, r, -, hi, rfl⟩
  · exact Or.inl h
  · cases hv : s.redis (store.redisKey c) with
    | some v =>
      rw [trySet_of_some hv]
      exact Or.inl h
    | none =>
      rw [trySet_of_none hv]
      by_cases hkey : store.redisKey c = key
      · subst hkey
        exact Or.inr ⟨_, rfl, rfl, rfl⟩
      · exact Or.inl ((Function.update_of_ne (Ne.symm hkey) _ s.redis).trans h)
  · cases hv : s.redis (store.redisKey c) with
    | none =>
      rw [tryGet_of_none hv]
      exact Or.inl h
    | some v =>
      rw [tryGet_of_some hv]
      exact Or.inl h
  · exact Or.inl (hother hi)
  · exact Or.inl (hother hi)

theorem returns_grow (hrun : s.run store ms = some s') : ∃ new, s'.returns = s.returns ++ new := by
  obtain ⟨new, hnew, -⟩ := returns_run (I := fun _ => True) (P := fun _ => True) (fun _ _ => trivial)
    (fun _ hstep => (returns_step hstep).imp fun _ h => ⟨h.1, fun _ _ => trivial⟩) trivial hrun
  exact ⟨new, hnew⟩

theorem unset_run (hheld : s.Held) (h : s.redis key = none) (hrun : s.run store ms = some s') :
    (∃ new, s'.returns = s.returns ++ new ∧ ∃ x ∈ new, store.redisKey x.command = key ∧
      x.result = .ok { redisKey := key, fingerprint := fingerprint x.command.payload }) ∨
    s'.redis key = none := by
  induction ms generalizing s with
  | nil =>
    obtain rfl := Option.some.inj hrun
    exact Or.inr h
  | cons m ms ih =>
    obtain ⟨s₁, h₁, h₂⟩ := Option.bind_eq_some_iff.mp hrun
    rcases unset_step hheld h h₁ with hunset | ⟨x, hx, hkey, hresult⟩
    · obtain ⟨new, hnew, -⟩ := returns_step h₁
      refine (ih (hheld.step h₁) hunset h₂).imp ?_ id
      rintro ⟨new', hnew', x, hx, hfresh⟩
      exact ⟨new ++ new', by rw [hnew', hnew, List.append_assoc], x, List.mem_append_right _ hx, hfresh⟩
    · obtain ⟨new, hnew⟩ := returns_grow h₂
      exact Or.inl ⟨[x] ++ new, by rw [hnew, hx, List.append_assoc], x, List.mem_append_left _ List.mem_cons_self,
        hkey, hresult⟩

/-! ## The end of a call -/

/-- A key that is set stays so until it is released. -/
theorem set_step (h : s.redis key ≠ none) (hreleases : ¬ s.Releases key m)
    (hstep : s.step store m = some s') : s'.redis key ≠ none := by
  have hput {key' : String} {v : Json} : Function.update s.redis key' (some v) key ≠ none := by
    by_cases hkey : key = key'
    · subst hkey
      rw [Function.update_self]
      exact Option.some_ne_none v
    · rwa [Function.update_of_ne hkey]
  rcases step_cases hstep with ⟨i, c, -, -, rfl⟩ | ⟨i, c, -, -, rfl⟩ | ⟨i, c, -, -, rfl⟩ |
    ⟨i, r, response, -, hi, rfl⟩ | ⟨i, r, rfl, hi, rfl⟩
  · exact h
  · cases hv : s.redis (store.redisKey c) with
    | some v =>
      rw [trySet_of_some hv]
      exact h
    | none =>
      rw [trySet_of_none hv]
      exact hput
  · cases hv : s.redis (store.redisKey c) with
    | none =>
      rw [tryGet_of_none hv]
      exact h
    | some v =>
      rw [tryGet_of_some hv]
      exact h
  · exact hput
  · have hkey : r.redisKey ≠ key := fun hkey => hreleases ⟨i, r, rfl, hi, hkey⟩
    change Function.update s.redis r.redisKey none key ≠ none
    rwa [Function.update_of_ne hkey.symm]

/-- A caller who is in the middle of `reserve` stays where it is while the others move. -/
theorem getting_step (h : s.phase i = .getting c) (hm : m ≠ .go i) (hstep : s.step store m = some s') :
    s'.phase i = .getting c := by
  have hne {j : Caller} (hj : s.phase j ≠ .getting c) : i ≠ j := fun hij => hj (hij ▸ h)
  rcases step_cases hstep with ⟨j, c', -, hj, rfl⟩ | ⟨j, c', rfl, hj, rfl⟩ | ⟨j, c', rfl, hj, rfl⟩ |
    ⟨j, r, response, -, hj, rfl⟩ | ⟨j, r, -, hj, rfl⟩
  · rw [phase_enter_of_ne (hne (by rw [hj]; exact Phase.noConfusion))]
    exact h
  · have hij : i ≠ j := fun hij => hm (hij ▸ rfl)
    cases hv : s.redis (store.redisKey c') with
    | some v => rw [trySet_of_some hv, phase_enter_of_ne hij, h]
    | none =>
      rw [trySet_of_none hv, phase_enter_of_ne hij]
      exact h
  · have hij : i ≠ j := fun hij => hm (hij ▸ rfl)
    cases hv : s.redis (store.redisKey c') with
    | none => rw [tryGet_of_none hv, phase_enter_of_ne hij, h]
    | some v =>
      rw [tryGet_of_some hv, phase_enter_of_ne hij]
      exact h
  · rw [phase_enter_of_ne (hne (by rw [hj]; exact Phase.noConfusion))]
    exact h
  · rw [phase_enter_of_ne (hne (by rw [hj]; exact Phase.noConfusion))]
    exact h

theorem Undisturbed.head (h : s.Undisturbed store i key (m :: ms)) : m ≠ .go i ∧ ¬ s.Releases key m :=
  h [] m ms s rfl rfl

theorem Undisturbed.tail (h : s.Undisturbed store i key (m :: ms)) (hstep : s.step store m = some s') :
    s'.Undisturbed store i key ms := by
  intro before m' later s₁ hms hrun
  refine h (m :: before) m' later s₁ (by rw [hms]; rfl) ?_
  exact Option.bind_eq_some_iff.mpr ⟨s', hstep, hrun⟩

theorem undisturbed_run (h : s.phase i = .getting c) (hset : s.redis key ≠ none)
    (hquiet : s.Undisturbed store i key ms) (hrun : s.run store ms = some s') :
    s'.phase i = .getting c ∧ s'.redis key ≠ none := by
  induction ms generalizing s with
  | nil =>
    obtain rfl := Option.some.inj hrun
    exact ⟨h, hset⟩
  | cons m ms ih =>
    obtain ⟨s₁, h₁, h₂⟩ := Option.bind_eq_some_iff.mp hrun
    obtain ⟨hm, hreleases⟩ := hquiet.head
    exact ih (getting_step h hm h₁) (set_step hset hreleases h₁) (hquiet.tail h₁) h₂

/-! ## The laws -/

theorem Held.refuses {v : Json} (hphase : s.phase i = .setting c ∨ s.phase i = .getting c)
    (hv : s.redis (store.redisKey c) = some v) (hne : v.get "fingerprint" ≠ .str (fingerprint c.payload))
    (hstep : s.step store (.go i) = some s') :
    (s'.phase i = .getting c ∧ s'.returns = s.returns) ∨
      (s'.phase i = .idle ∧ s'.returns = s.returns ++ [⟨c, .error idempotencyConflict⟩]) := by
  rcases hphase with hphase | hphase
  · rw [step_setting hphase, trySet_of_some hv] at hstep
    obtain rfl := Option.some.inj hstep
    exact Or.inl ⟨phase_enter_self _, rfl⟩
  · rw [step_getting hphase, tryGet_of_some hv, readExisting_of_ne hne] at hstep
    obtain rfl := Option.some.inj hstep
    exact Or.inr ⟨phase_enter_self _, rfl⟩

/-- In every reachable state the store keeps its laws. -/
theorem lawful_run (store : S2SCommandStore) {ms : List (Move Caller)} {s : State Caller}
    (hrun : (initial : State Caller).run store ms = some s) : s.Lawful store := by
  have hheld : s.Held := run_induction (fun h => h.step) held_initial hrun
  refine ⟨hheld.one, ?_, ?_, ?_, ?_⟩
  · intro i r response s' ms s'' hi hstep hrun
    exact replays_of_done (done_complete hheld hi hstep) hrun
  · intro i c v s' hphase hv hne hstep
    exact Held.refuses hphase hv hne hstep
  · intro i r s' ms s'' hi hstep hrun
    have hheld' : s'.Held := hheld.step hstep
    have hunset : s'.redis r.redisKey = none := by
      simp only [State.step, hi, Option.some.injEq] at hstep
      subst hstep
      exact Function.update_self ..
    refine (unset_run hheld' hunset hrun).imp id fun hnone j c hj hkey => ?_
    rw [← hkey] at hnone ⊢
    refine ⟨s''.trySet store j c, step_setting hj, ?_⟩
    rw [trySet_of_none hnone]
    exact phase_enter_self _
  · intro i c s' ms s'' hi hstep hphase hrun hquiet
    have hset : s'.redis (store.redisKey c) ≠ none := by
      rw [step_setting hi] at hstep
      obtain rfl := Option.some.inj hstep
      cases hv : s.redis (store.redisKey c) with
      | some v =>
        rw [trySet_of_some hv]
        change s.redis _ ≠ none
        rw [hv]
        exact Option.some_ne_none v
      | none =>
        rw [trySet_of_none hv, phase_enter_self] at hphase
        cases hphase
    obtain ⟨hphase'', hset''⟩ := undisturbed_run hphase hset hquiet hrun
    obtain ⟨v, hv⟩ := Option.ne_none_iff_exists'.mp hset''
    refine ⟨s''.tryGet store i c, readExisting (store.redisKey c) (fingerprint c.payload) v,
      step_getting hphase'', ?_, ?_⟩
    · rw [tryGet_of_some hv]
      exact phase_enter_self _
    · rw [tryGet_of_some hv]
      rfl

theorem lawful_run_twoCallers :
    ∃ s : State Bool, (initial : State Bool).run ⟨"kyc-command"⟩
        [.call true ⟨"backoffice", "decision-1", .objNil⟩, .call false ⟨"backoffice", "decision-1", .objNil⟩,
          .go true, .go false, .complete true ⟨.objNil, rfl⟩, .go false] = some s ∧
      s.Lawful ⟨"kyc-command"⟩ := by
  refine ⟨_, rfl, ?_⟩
  have hrun : (initial : State Bool).run ⟨"kyc-command"⟩
      [.call true ⟨"backoffice", "decision-1", .objNil⟩, .call false ⟨"backoffice", "decision-1", .objNil⟩,
        .go true, .go false, .complete true ⟨.objNil, rfl⟩, .go false] = some _ := rfl
  exact lawful_run _ hrun

end State

end DiddiGo.Commands

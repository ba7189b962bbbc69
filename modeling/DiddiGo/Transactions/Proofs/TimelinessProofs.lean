import DiddiGo.Transactions.Accumulation
import DiddiGo.Transactions.Proofs.StagesProofs
import DiddiGo.Transactions.Timeliness

/-!
# Runs of timely moves

What a program finds is followed statement by statement. In a timely run it may be taken to have found what is
committed when it publishes.
-/

namespace DiddiGo.Transactions

open Prog RelyGuarantee

variable {S : Signature} {M : Machine S} {α β : Type} {K : S.State → Prop} {f g : S.State → S.State}

/-! ## What a program finds -/

namespace Prog.Assuming

variable {C : Prog S α → (S.State → S.State) → Prop} {Q : α → (S.State → S.State) → Prop}

theorem ret {a : α} (h : Q a f) : Assuming K C Q (.ret a) f := h

theorem raise {e : S.Err} : Assuming K C Q (.raise e) f := trivial

theorem commitNow_bind {k : Unit → Prog S α} (h : C (k ()) f) : Assuming K C Q (Prog.commitNow >>= k) f := h

theorem mono {K' : S.State → Prop} {C' : Prog S α → (S.State → S.State) → Prop}
    {Q' : α → (S.State → S.State) → Prop} {p : Prog S α} (h : Assuming K C Q p f) (hK : ∀ db, K' db → K db)
    (hC : ∀ next g, C next g → C' next g) (hQ : ∀ a g, Q a g → Q' a g) : Assuming K' C' Q' p f := by
  induction p generalizing f with
  | ret a => exact hQ a f h
  | raise e => exact trivial
  | stmt l locks write next ih => exact fun db hdb => ih (f db) (h db (hK db hdb))
  | commit next ih => exact hC next f h
  | call q next ih => exact fun a => ih a (h a)

/-- A program that commits nothing, in front of the rest. -/
theorem bind {p : Prog S β} {k : β → Prog S α} {I : β → (S.State → S.State) → Prop}
    (h : Assuming K (fun _ _ => False) I p f) (hk : ∀ b g, I b g → Assuming K C Q (k b) g) :
    Assuming K C Q (p >>= k) f := by
  change Assuming K C Q (p.bind k) f
  induction p generalizing f with
  | ret b => exact hk b f h
  | raise e => exact trivial
  | stmt l locks write next ih => exact fun db hdb => ih (f db) (h db hdb)
  | commit next ih => exact h.elim
  | call q next ih => exact fun a => ih a (h a)

theorem select_bind {v : S.State → β} {k : β → Prog S α}
    (h : ∀ db b, K db → v (f db) = b → Assuming K C Q (k b) f) : Assuming K C Q (Prog.select v >>= k) f :=
  fun db hdb => h db (v (f db)) hdb rfl

theorem raiseIf_bind {c : Prop} [Decidable c] {e : S.Err} {k : Unit → Prog S α}
    (h : ¬ c → Assuming K C Q (k ()) f) : Assuming K C Q (Prog.raiseIf c e >>= k) f := by
  unfold Prog.raiseIf
  split_ifs with hc
  · exact trivial
  · exact h hc

theorem update {rs : List S.Row} {patch : S.State → S.State} {C : Prog S Unit → (S.State → S.State) → Prop}
    {Q : Unit → (S.State → S.State) → Prop} (h : Q () (patch ∘ f)) : Assuming K C Q (Prog.update rs patch) f :=
  fun _ _ => h

theorem writeOrRaise {rs : List S.Row} {taken : S.State → Bool} {patch : S.State → S.State} {e : S.Err}
    {C : Prog S Unit → (S.State → S.State) → Prop} {Q : Unit → (S.State → S.State) → Prop}
    (h : ∀ db, K db → taken (f db) = false → Q () (patch ∘ f)) :
    Assuming K C Q (Prog.writeOrRaise rs taken patch e) f := by
  intro db hdb
  by_cases ht : taken (f db) = true
  · simp only [ht, if_true]
    exact trivial
  · simp only [ht]
    exact h db hdb (eq_false_of_ne_true ht)

end Prog.Assuming

/-- What holds of everything that the program finds holds where it has come to. -/
theorem Trail.assuming {C : Prog S α → (S.State → S.State) → Prop} {Q : α → (S.State → S.State) → Prop}
    {p₀ p : Prog S α} {found : List S.State} (h : Trail p₀ found p f) (hK : ∀ db ∈ found, K db)
    (hp₀ : p₀.Assuming K C Q id) : p.Assuming K C Q f := by
  induction h with
  | start => exact hp₀
  | stmt db h ih =>
    have hdb : K db := hK db (List.mem_append_right _ (List.mem_singleton.mpr rfl))
    exact ih (fun db' hdb' => hK db' (List.mem_append_left _ hdb')) db hdb
  | call a h ih => exact ih hK a

/-- A program that neither commits nor asks does so nowhere on its way. -/
theorem Trail.silent {p₀ p : Prog S α} {found : List S.State} (h : Trail p₀ found p f) (hp₀ : p₀.Silent) :
    p.Silent := by
  induction h with
  | start => exact hp₀
  | stmt db h ih => exact ih _
  | call a h ih => exact ih.elim

/-- A program that only returns goes nowhere. -/
theorem Trail.of_ret {a : α} {p : Prog S α} {found : List S.State} (h : Trail (.ret a) found p f) :
    p = .ret a ∧ f = id := by
  induction h with
  | start => exact ⟨rfl, rfl⟩
  | stmt db h ih => cases ih.1
  | call a h ih => cases ih.1

/-! ## Runs -/

variable [DecidableEq M.Proc] [DecidableEq S.Row] {c c' : Config M} {m : Move M} {i : M.Proc}
  {found : M.Proc → List S.State} {A : M.Proc → Prog S M.Out → Prop} {agree : M.Proc → S.State → S.State → Prop}

namespace Config

omit [DecidableEq M.Proc] [DecidableEq S.Row] in
theorem trails_initial {db : S.State} {w : M.World} {prog : M.Proc → Prog S M.Out} (hA : ∀ i, A i (prog i)) :
    (initial db w prog : Config M).Trails A fun _ => [] := fun i => ⟨prog i, hA i, .start⟩

omit [DecidableEq S.Row] in
theorem trails_update {task : Task M} {ds : List S.State} (h : c.Trails A found) (hother : ∀ j, j ≠ i →
    c'.task j = c.task j) (htask : c'.task i = task) (hself : task.Follows (A i) ds) :
    c'.Trails A (Function.update found i ds) := by
  intro j
  by_cases hj : j = i
  · subst hj
    rw [htask, Function.update_self]
    exact hself
  · rw [hother j hj, Function.update_of_ne hj]
    exact h j

/-- One move; what is left after a commit is a program in `A` again. -/
theorem Trails.step (h : c.Trails A found)
    (hA : ∀ i p₀ ds next f, A i p₀ → Trail p₀ ds (.commit next) f → A i next) (hstep : c.step m = some c') :
    c'.Trails A (c.foundAfter found m) := by
  have hother : ∀ j, j ≠ mover m → c'.task j = c.task j := fun j hj => (step_other hstep (Ne.symm hj)).1
  have hkeep (j : M.Proc) : Function.update found j (found j) = found := Function.update_eq_self j found
  rcases step_cases hstep with ⟨j, l, locks, write, next, f, rfl, ht, -, rfl⟩ |
    ⟨j, next, f, rfl, ht, rfl⟩ | ⟨j, a, f, rfl, ht, rfl⟩ | ⟨j, e, f, rfl, ht, rfl⟩ |
    ⟨j, q, next, f, rfl, ht, rfl⟩ | ⟨j, a, q, next, f, w, rfl, ht, -, rfl⟩
  all_goals
    have hj := h j
    simp only [ht] at hj
    simp only [foundAfter, ht]
  · obtain ⟨p₀, hp₀, htrail⟩ := hj
    exact trails_update h hother (Function.update_self ..) ⟨p₀, hp₀, htrail.stmt c.shared.db⟩
  · obtain ⟨p₀, hp₀, htrail⟩ := hj
    exact trails_update h hother (Function.update_self ..) ⟨next, hA j p₀ _ next f hp₀ htrail, .start⟩
  · exact trails_update h hother (Function.update_self ..) trivial
  · exact trails_update h hother (Function.update_self ..) trivial
  · rw [← hkeep j]
    exact trails_update h hother (Function.update_self ..) hj
  · obtain ⟨p₀, hp₀, htrail⟩ := hj
    rw [← hkeep j]
    exact trails_update h hother (Function.update_self ..) ⟨p₀, hp₀, htrail.call a⟩

theorem running_of_publishes (hstep : c.step m = some c') (hpub : (c.task (mover m)).Publishes) :
    ∃ i p f, m = .go i ∧ c.task i = .running p f := by
  rcases step_cases hstep with ⟨j, l, locks, write, next, f, rfl, ht, -, rfl⟩ |
    ⟨j, next, f, rfl, ht, rfl⟩ | ⟨j, a, f, rfl, ht, rfl⟩ | ⟨j, e, f, rfl, ht, rfl⟩ |
    ⟨j, q, next, f, rfl, ht, rfl⟩ | ⟨j, a, q, next, f, w, rfl, ht, -, rfl⟩
  · exact ⟨j, _, f, rfl, ht⟩
  · exact ⟨j, _, f, rfl, ht⟩
  · exact ⟨j, _, f, rfl, ht⟩
  · exact ⟨j, _, f, rfl, ht⟩
  · exact ⟨j, _, f, rfl, ht⟩
  · change (c.task j).Publishes at hpub
    rw [ht] at hpub
    exact hpub.elim

omit [DecidableEq M.Proc] [DecidableEq S.Row] in
theorem follows_running {t : Task M} {B : Prog S M.Out → Prop} {ds : List S.State} {p : Prog S M.Out}
    (h : t.Follows B ds) (ht : t = .running p f) : ∃ p₀, B p₀ ∧ Trail p₀ ds p f := by
  subst ht
  exact h

/-- In a timely run `P` holds of every move, if a move that does not publish keeps `J`, and so does one that publishes
what its program makes of databases that agree with the one that is committed. -/
theorem Timely.everyMove_found {J : (M.Proc → List S.State) → Config M → Prop}
    {P : Config M → Move M → Config M → Prop}
    (hA : ∀ i p₀ ds next f, A i p₀ → Trail p₀ ds (.commit next) f → A i next)
    (hquiet : ∀ {c found m c'}, J found c → c.Trails A found → c.step m = some c' →
      ¬ (c.task (mover m)).Publishes → J (c.foundAfter found m) c' ∧ P c m c')
    (hpublish : ∀ {c : Config M} {found i c' p₀ p f}, J found c → c.step (.go i) = some c' →
      c.task i = .running p f → (c.task i).Publishes → A i p₀ → Trail p₀ (found i) p f →
      (∀ db ∈ found i, agree i db c.shared.db) → J (c.foundAfter found (.go i)) c' ∧ P c (.go i) c')
    {ms : List (Move M)} (htimely : Timely agree found c ms) (htrails : c.Trails A found) (hJ : J found c) :
    EveryMove P c ms := by
  induction ms generalizing c found with
  | nil => trivial
  | cons m ms ih =>
    intro c' hstep
    obtain ⟨hmove, hrest⟩ := htimely
    rw [hstep] at hrest
    have hnext : J (c.foundAfter found m) c' ∧ P c m c' := by
      by_cases hpub : (c.task (mover m)).Publishes
      · obtain ⟨i, p, f, rfl, htask⟩ := running_of_publishes hstep hpub
        obtain ⟨p₀, hp₀, htrail⟩ := follows_running (htrails i) htask
        exact hpublish hJ hstep htask hpub hp₀ htrail (hmove hpub)
      · exact hquiet hJ htrails hstep hpub
    exact ⟨hnext.2, ih hrest (htrails.step hA hstep) hnext.1⟩

/-- The same for a `J` that does not depend on what was found. -/
theorem Timely.everyMove {J : Config M → Prop} {P : Config M → Move M → Config M → Prop}
    (hA : ∀ i p₀ ds next f, A i p₀ → Trail p₀ ds (.commit next) f → A i next)
    (hquiet : ∀ {c found m c'}, J c → c.Trails A found → c.step m = some c' → ¬ (c.task (mover m)).Publishes →
      J c' ∧ P c m c')
    (hpublish : ∀ {c : Config M} {i c' p₀ ds p f}, J c → c.step (.go i) = some c' → c.task i = .running p f →
      (c.task i).Publishes → A i p₀ → Trail p₀ ds p f → (∀ db ∈ ds, agree i db c.shared.db) →
      J c' ∧ P c (.go i) c')
    {ms : List (Move M)} (htimely : Timely agree found c ms) (htrails : c.Trails A found) (hJ : J c) :
    EveryMove (fun c m c' => J c' ∧ P c m c') c ms := by
  refine Timely.everyMove_found (J := fun _ => J) hA ?_ ?_ htimely htrails hJ
  · intro c found m c' hJ htrails hstep hquiet'
    have h := hquiet hJ htrails hstep hquiet'
    exact ⟨h.1, h⟩
  · intro c found i c' p₀ p f hJ hstep htask hpub hp₀ htrail hds
    have h := hpublish hJ hstep htask hpub hp₀ htrail hds
    exact ⟨h.1, h⟩

end Config

/-- What holds after every move holds at the end. -/
theorem EveryMove.last {J : Config M → Prop} {ms : List (Move M)} (h : EveryMove (fun _ _ c' => J c') c ms) (hJ : J c)
    (hrun : c.run ms = some c') : J c' := by
  induction ms generalizing c with
  | nil =>
    obtain rfl := Option.some.inj hrun
    exact hJ
  | cons m ms ih =>
    obtain ⟨c₁, hstep, hrest⟩ := Option.bind_eq_some_iff.mp hrun
    obtain ⟨hJ₁, hmore⟩ := h c₁ hstep
    exact ih hmore hJ₁ hrest

theorem EveryMove.mono {P P' : Config M → Move M → Config M → Prop} {ms : List (Move M)} (h : EveryMove P c ms)
    (hP : ∀ c m c', P c m c' → P' c m c') : EveryMove P' c ms := by
  induction ms generalizing c with
  | nil => trivial
  | cons m ms ih => exact fun c' hstep => ⟨hP c m c' (h c' hstep).1, ih (h c' hstep).2⟩

end DiddiGo.Transactions

import DiddiGo.Transactions.Accumulation
import DiddiGo.Transactions.Proofs.StagesProofs

/-!
# What a transaction publishes

Rules for the changes that a program accumulates, and what one move of its process does to the database.
-/

namespace DiddiGo.Transactions

open Prog RelyGuarantee

variable {S : Signature} {M : Machine S} {α β : Type} {K : S.State → Prop}
  {I : (S.State → S.State) → Prop} {f : S.State → S.State}

namespace Prog.Accumulates

variable {Q : α → (S.State → S.State) → Prop} {R : β → (S.State → S.State) → Prop}

theorem ret {a : α} (hI : I f) (hQ : Q a f) : Accumulates K I Q (.ret a : Prog S α) f := ⟨hI, hQ⟩

theorem raise {e : S.Err} : Accumulates K I Q (.raise e : Prog S α) f := trivial

theorem mono {Q' : α → (S.State → S.State) → Prop} {p : Prog S α} (h : Accumulates K I Q p f)
    (hQ : ∀ a g, I g → Q a g → Q' a g) : Accumulates K I Q' p f := by
  induction p generalizing f with
  | ret a => exact ⟨h.1, hQ a f h.1 h.2⟩
  | raise e => exact trivial
  | stmt l lk w k ih => exact ⟨h.1, fun v hv => ih v (h.2 v hv)⟩
  | commit k ih => exact h.elim
  | call q k ih => exact ⟨h.1, fun a => ih a (h.2 a)⟩

theorem bind {p : Prog S α} {k : α → Prog S β} (h : Accumulates K I Q p f)
    (hk : ∀ a g, I g → Q a g → Accumulates K I R (k a) g) : Accumulates K I R (p >>= k) f := by
  change Accumulates K I R (p.bind k) f
  induction p generalizing f with
  | ret a => exact hk a f h.1 h.2
  | raise e => exact trivial
  | stmt l lk w next ih => exact ⟨h.1, fun v hv => ih v (h.2 v hv)⟩
  | commit next ih => exact h.elim
  | call q next ih => exact ⟨h.1, fun a => ih a (h.2 a)⟩

theorem of_bind_ret {p : Prog S α} (h : Accumulates K I Q (p >>= .ret) f) : Accumulates K I Q p f := by
  change Accumulates K I Q (p.bind .ret) f at h
  induction p generalizing f with
  | ret a => exact h
  | raise e => exact trivial
  | stmt l lk w k ih => exact ⟨h.1, fun v hv => ih v (h.2 v hv)⟩
  | commit k ih => exact h.elim
  | call q k ih => exact ⟨h.1, fun a => ih a (h.2 a)⟩

theorem select {g : S.State → α} (hI : I f) (h : ∀ v, K v → Q (g v) f) :
    Accumulates K I Q (Prog.select g) f := ⟨hI, fun v hv => ⟨hI, h v hv⟩⟩

theorem ask {Q : S.Answer → (S.State → S.State) → Prop} {q : S.Query} (hI : I f) (h : ∀ a, Q a f) :
    Accumulates K I Q (Prog.ask q : Prog S S.Answer) f := ⟨hI, fun a => ⟨hI, h a⟩⟩

/-- A check in front of the rest of the program. -/
theorem raiseIf_bind {c : Prop} [Decidable c] {e : S.Err} {k : Unit → Prog S β}
    (h : ¬ c → Accumulates K I R (k ()) f) : Accumulates K I R (Prog.raiseIf c e >>= k) f := by
  unfold Prog.raiseIf
  split_ifs with hc
  · exact trivial
  · exact h hc

theorem select_bind {g : S.State → α} {k : α → Prog S β} (hI : I f)
    (h : ∀ v, K v → Accumulates K I R (k (g v)) f) : Accumulates K I R (Prog.select g >>= k) f :=
  ⟨hI, h⟩

theorem update_bind {rs : List S.Row} {patch : S.State → S.State} {k : Unit → Prog S β} (hI : I f)
    (h : Accumulates K I R (k ()) (patch ∘ f)) : Accumulates K I R (Prog.update rs patch >>= k) f :=
  ⟨hI, fun _ _ => h⟩

theorem updateAs_bind {l : S.Label} {rs : List S.Row} {patch : S.State → S.State}
    {k : Unit → Prog S β} (hI : I f) (h : Accumulates K I R (k ()) (patch ∘ f)) :
    Accumulates K I R (Prog.updateAs l rs patch >>= k) f := ⟨hI, fun _ _ => h⟩

theorem writeOrRaise_bind {rs : List S.Row} {taken : S.State → Bool} {patch : S.State → S.State}
    {e : S.Err} {k : Unit → Prog S β} (hI : I f) (h : Accumulates K I R (k ()) (patch ∘ f)) :
    Accumulates K I R (Prog.writeOrRaise rs taken patch e >>= k) f := by
  refine ⟨hI, fun v _ => ?_⟩
  by_cases ht : taken v = true
  · simp only [ht, if_true]
    exact trivial
  · simp only [ht]
    exact h

theorem insertOnce_bind {r : S.Row} {taken : S.State → Bool} {patch : S.State → S.State}
    {k : Bool → Prog S β} (hI : I f) (h : Accumulates K I R (k false) f)
    (h' : Accumulates K I R (k true) (patch ∘ f)) :
    Accumulates K I R (Prog.insertOnce r taken patch >>= k) f := by
  refine ⟨hI, fun v _ => ?_⟩
  by_cases ht : taken v = true
  · simp only [ht, if_true]
    exact h
  · simp only [ht]
    exact h'

/-- The result may be thrown away. -/
theorem ignore {p : Prog S α} (h : Accumulates K I Q p f) :
    Accumulates K I (fun _ g => ∃ a, Q a g) (Prog.ignore p) f :=
  h.bind fun a _ hg hQ => ⟨hg, a, hQ⟩

end Prog.Accumulates

/-! ## Moves -/

section

variable [DecidableEq M.Proc] [DecidableEq S.Row] {Q : M.Out → (S.State → S.State) → Prop}
  {i : M.Proc} {c c' c'' : Config M} {m : Move M} {ms : List (Move M)}

/-- What a move of process `i` has published: nothing, or everything it has accumulated when it returned. -/
inductive Published (I : (S.State → S.State) → Prop) (Q : M.Out → (S.State → S.State) → Prop)
    (i : M.Proc) (c c' : Config M) : Prop
  | nothing (hdb : c'.shared.db = c.shared.db)
  | all (a : M.Out) (g : S.State → S.State) (hI : I g) (hQ : Q a g) (hdb : c'.shared.db = g c.shared.db)
      (hend : c'.task i = .ended) (hlog : (i, .ok a) ∈ c'.shared.log)

theorem Config.Accumulates.other (h : c.Accumulates K I Q i) (hstep : c.step m = some c')
    (hm : mover m ≠ i) : c'.Accumulates K I Q i := by
  unfold Config.Accumulates
  rw [(step_other hstep hm).1]
  exact h

theorem Config.Accumulates.own (h : c.Accumulates K I Q (mover m)) (hstep : c.step m = some c')
    (hK : ∀ g, I g → K (g c.shared.db)) :
    c'.Accumulates K I Q (mover m) ∧ Published I Q (mover m) c c' := by
  unfold Config.Accumulates at h ⊢
  rcases step_cases hstep with ⟨j, l, locks, write, next, f, rfl, ht, -, rfl⟩ |
    ⟨j, next, f, rfl, ht, rfl⟩ | ⟨j, a, f, rfl, ht, rfl⟩ | ⟨j, e, f, rfl, ht, rfl⟩ |
    ⟨j, q, next, f, rfl, ht, rfl⟩ | ⟨j, a, q, next, f, w, rfl, ht, -, rfl⟩ <;>
    simp only [mover, ht, Function.update_self] at h ⊢
  · refine ⟨h.2 _ (hK _ h.1), .nothing ?_⟩
    cases l with
    | none => rfl
    | some l => rfl
  · exact h.elim
  · exact ⟨trivial, .all a f h.1 h.2 rfl (Function.update_self _ _ _)
      (List.mem_append_right _ List.mem_cons_self)⟩
  · exact ⟨trivial, .nothing rfl⟩
  · exact ⟨h, .nothing rfl⟩
  · exact ⟨h.2 a, .nothing rfl⟩

/-- One move of the system. -/
theorem Config.Accumulates.step (h : c.Accumulates K I Q i) (hstep : c.step m = some c')
    (hK : ∀ g, I g → K (g c.shared.db)) : c'.Accumulates K I Q i := by
  by_cases hm : mover m = i
  · subst hm
    exact (h.own hstep hK).1
  · exact h.other hstep hm

/-- A process that has ended makes no move. -/
theorem mover_ne_of_ended (hend : c.task i = .ended) (hstep : c.step m = some c') : mover m ≠ i := by
  rintro rfl
  rcases step_cases hstep with ⟨j, l, locks, write, next, f, rfl, ht, -⟩ | ⟨j, next, f, rfl, ht, -⟩ |
    ⟨j, a, f, rfl, ht, -⟩ | ⟨j, e, f, rfl, ht, -⟩ | ⟨j, q, next, f, rfl, ht, -⟩ |
    ⟨j, a, q, next, f, w, rfl, ht, -⟩
  all_goals cases hend.symm.trans ht

/-! ## Schedules -/

theorem everyMove_snoc {P : Config M → Move M → Config M → Prop} (hrun : c.run ms = some c') :
    EveryMove P c (ms ++ [m]) ↔ EveryMove P c ms ∧ ∀ c'', c'.step m = some c'' → P c' m c'' := by
  induction ms generalizing c with
  | nil =>
    obtain rfl := Option.some.inj hrun
    simp [EveryMove]
  | cons m' ms ih =>
    obtain ⟨c₁, h₁, h₂⟩ := Option.bind_eq_some_iff.mp hrun
    simp only [List.cons_append, EveryMove, h₁, Option.some.injEq, forall_eq', ih h₂, and_assoc]

theorem everyState_snoc {P : Config M → Prop} (hrun : c.run ms = some c')
    (hstep : c'.step m = some c'') :
    EveryState P c (ms ++ [m]) ↔ EveryState P c ms ∧ P c'' := by
  induction ms generalizing c with
  | nil =>
    obtain rfl := Option.some.inj hrun
    simp [EveryState, hstep]
  | cons m' ms ih =>
    obtain ⟨c₁, h₁, h₂⟩ := Option.bind_eq_some_iff.mp hrun
    simp only [List.cons_append, EveryState, h₁, Option.some.injEq, forall_eq', ih h₂, and_assoc]

theorem EveryState.first {P : Config M → Prop} (h : EveryState P c ms) : P c := by
  cases ms with
  | nil => exact h
  | cons m ms => exact h.1

theorem EveryState.after {P : Config M → Prop} {ms' : List (Move M)} (h : EveryState P c (ms ++ ms'))
    (hrun : c.run ms = some c') : EveryState P c' ms' := by
  induction ms generalizing c with
  | nil =>
    obtain rfl := Option.some.inj hrun
    exact h
  | cons m ms ih =>
    obtain ⟨c₁, h₁, h₂⟩ := Option.bind_eq_some_iff.mp hrun
    exact ih (h.2 c₁ h₁) h₂

theorem EveryState.last {P : Config M → Prop} (h : EveryState P c ms) (hrun : c.run ms = some c') :
    P c' := by
  rw [← List.append_nil ms] at h
  exact (h.after hrun).first

end

end DiddiGo.Transactions

import DiddiGo.Transactions.Proofs.ProgProofs
import DiddiGo.Transactions.Sequential

/-!
# Symbolic execution of programs

`Leads` follows a program statement by statement, with what is committed and what is pending at hand.
There is one rule for each statement in front of the rest of a program, and a rule for whole requests.

The second part is about histories: how the state, the steps and a fact about the past grow when one more
step is made.
-/

namespace DiddiGo.Transactions

variable {S : Signature} {α β : Type}

namespace Prog.Reads

theorem ret (a : α) : Reads (.ret a : Prog S α) := fun _ _ _ => rfl

theorem raise (e : S.Err) : Reads (.raise e : Prog S α) := fun _ _ _ => rfl

theorem select (f : S.State → α) : Reads (Prog.select f : Prog S α) := fun _ _ _ => rfl

theorem ask (q : S.Query) : Reads (Prog.ask q : Prog S S.Answer) := fun _ _ _ => rfl

theorem raiseIf (c : Prop) [Decidable c] (e : S.Err) : Reads (Prog.raiseIf c e : Prog S Unit) := by
  unfold Prog.raiseIf
  split_ifs
  · exact raise e
  · exact ret ()

theorem bind {p : Prog S β} {f : β → Prog S α} (hp : p.Reads) (hf : ∀ b, (f b).Reads) :
    Reads (p >>= f) := by
  intro ask base cur
  have hp := hp ask base cur
  rcases h : p.exec ask base cur with ⟨e | b, base', cur'⟩
  · rw [h] at hp
    rw [exec_bind_of_error _ _ _ h]
    exact hp
  · rw [h] at hp
    obtain ⟨rfl, rfl⟩ := Prod.mk.inj hp
    rw [exec_bind_of_ok _ _ _ h]
    exact hf b ask base' cur'

end Prog.Reads

namespace Prog.Leads

variable {ask : S.Query → S.Answer} {E E' : S.State → Prop} {Q : α → S.State → S.State → Prop}
  {base cur : S.State}

theorem ret {a : α} (h : Q a base cur) : Leads ask E Q (.ret a : Prog S α) base cur := h

theorem raise {e : S.Err} (h : E base) : Leads ask E Q (.raise e : Prog S α) base cur := h

theorem of_exec {p : Prog S α} {a : α} {base' cur' : S.State}
    (h : p.exec ask base cur = (.ok a, base', cur')) (hq : Q a base' cur') :
    Leads ask E Q p base cur := by
  unfold Leads
  rw [h]
  exact hq

theorem mono {R : α → S.State → S.State → Prop} {p : Prog S α} (h : Leads ask E Q p base cur)
    (hE : ∀ b, E b → E' b) (hQ : ∀ a b c, Q a b c → R a b c) : Leads ask E' R p base cur := by
  unfold Leads at h ⊢
  rcases hp : p.exec ask base cur with ⟨e | a, base', cur'⟩
  · rw [hp] at h
    exact hE _ h
  · rw [hp] at h
    exact hQ _ _ _ h

theorem bind {R : β → S.State → S.State → Prop} {p : Prog S β} {f : β → Prog S α}
    (hp : Leads ask E R p base cur) (hf : ∀ b base' cur', R b base' cur' → Leads ask E Q (f b) base' cur') :
    Leads ask E Q (p >>= f) base cur := by
  unfold Leads at hp ⊢
  rcases h : p.exec ask base cur with ⟨e | b, base', cur'⟩
  · rw [h] at hp
    rw [exec_bind_of_error _ _ _ h]
    exact hp
  · rw [h] at hp
    rw [exec_bind_of_ok _ _ _ h]
    exact hf b base' cur' hp

theorem of_bind_ret {p : Prog S α} (h : Leads ask E Q (p >>= .ret) base cur) :
    Leads ask E Q p base cur := by
  unfold Leads at h ⊢
  rcases hp : p.exec ask base cur with ⟨e | a, base', cur'⟩
  · rw [exec_bind_of_error _ _ _ hp] at h
    exact h
  · rw [exec_bind_of_ok _ _ _ hp] at h
    exact h

theorem ignore {p : Prog S α} {Q : Unit → S.State → S.State → Prop}
    (h : Leads ask E (fun _ => Q ()) p base cur) : Leads ask E Q (Prog.ignore p) base cur :=
  bind h fun _ _ _ h => ret h

/-! ## One statement in front of the rest -/

theorem bind_ret {b : β} {f : β → Prog S α} (h : Leads ask E Q (f b) base cur) :
    Leads ask E Q ((.ret b : Prog S β) >>= f) base cur := h

theorem bind_raise {e : S.Err} {f : β → Prog S α} (h : E base) :
    Leads ask E Q ((.raise e : Prog S β) >>= f) base cur := h

theorem bind_select {g : S.State → β} {f : β → Prog S α} (h : Leads ask E Q (f (g cur)) base cur) :
    Leads ask E Q (Prog.select g >>= f) base cur := h

theorem bind_selectAs {l : S.Label} {g : S.State → β} {f : β → Prog S α}
    (h : Leads ask E Q (f (g cur)) base cur) : Leads ask E Q (Prog.selectAs l g >>= f) base cur := h

/-- The same for a program that starts with a query. -/
theorem bind_select_bind {γ : Type} {g : S.State → β} {k : β → Prog S γ} {f : γ → Prog S α}
    (h : Leads ask E Q (k (g cur) >>= f) base cur) : Leads ask E Q ((Prog.select g >>= k) >>= f) base cur := h

theorem bind_selectAs_bind {γ : Type} {l : S.Label} {g : S.State → β} {k : β → Prog S γ} {f : γ → Prog S α}
    (h : Leads ask E Q (k (g cur) >>= f) base cur) : Leads ask E Q ((Prog.selectAs l g >>= k) >>= f) base cur := h

theorem stmt {l : Option S.Label} {locks : S.State → List S.Row} {write : S.State → S.State → S.State}
    {next : S.State → Prog S α} (h : Leads ask E Q (next cur) base (write cur cur)) :
    Leads ask E Q (.stmt l locks write next) base cur := h

theorem bind_selectForUpdate {r : S.Row} {g : S.State → Option β} {f : Option β → Prog S α}
    (h : Leads ask E Q (f (g cur)) base cur) :
    Leads ask E Q (Prog.selectForUpdate r g >>= f) base cur := h

theorem bind_update {rs : List S.Row} {patch : S.State → S.State} {f : Unit → Prog S α}
    (h : Leads ask E Q (f ()) base (patch cur)) : Leads ask E Q (Prog.update rs patch >>= f) base cur :=
  h

theorem bind_mark {l : S.Label} {f : Unit → Prog S α} (h : Leads ask E Q (f ()) base cur) :
    Leads ask E Q (Prog.mark l >>= f) base cur := h

theorem bind_commitNow {f : Unit → Prog S α} (h : Leads ask E Q (f ()) cur cur) :
    Leads ask E Q (Prog.commitNow >>= f) base cur := h

theorem bind_ask {q : S.Query} {f : S.Answer → Prog S α} (h : Leads ask E Q (f (ask q)) base cur) :
    Leads ask E Q (Prog.ask q >>= f) base cur := h

theorem bind_raiseIf {c : Prop} [Decidable c] {e : S.Err} {f : Unit → Prog S α} (hE : E base)
    (h : ¬ c → Leads ask E Q (f ()) base cur) : Leads ask E Q (Prog.raiseIf c e >>= f) base cur := by
  unfold Prog.raiseIf
  by_cases hc : c
  · rw [if_pos hc]
    exact hE
  · rw [if_neg hc]
    exact h hc

theorem bind_writeOrRaise {rs : List S.Row} {taken : S.State → Bool} {patch : S.State → S.State}
    {e : S.Err} {f : Unit → Prog S α} (hE : E base)
    (h : taken cur = false → Leads ask E Q (f ()) base (patch cur)) :
    Leads ask E Q (Prog.writeOrRaise rs taken patch e >>= f) base cur := by
  refine bind (R := fun _ b c => b = base ∧ c = patch cur ∧ taken cur = false) ?_ ?_
  · unfold Leads
    rw [exec_writeOrRaise]
    cases ht : taken cur with
    | true => exact hE
    | false => exact ⟨rfl, rfl, rfl⟩
  · rintro _ _ _ ⟨rfl, rfl, ht⟩
    exact h ht

theorem bind_writeOrRaiseAs {l : S.Label} {rs : List S.Row} {taken : S.State → Bool}
    {patch : S.State → S.State} {e : S.Err} {f : Unit → Prog S α} (hE : E base)
    (h : taken cur = false → Leads ask E Q (f ()) base (patch cur)) :
    Leads ask E Q (Prog.writeOrRaiseAs l rs taken patch e >>= f) base cur := by
  refine bind (R := fun _ b c => b = base ∧ c = patch cur ∧ taken cur = false) ?_ ?_
  · unfold Leads
    rw [exec_writeOrRaiseAs]
    cases ht : taken cur with
    | true => exact hE
    | false => exact ⟨rfl, rfl, rfl⟩
  · rintro _ _ _ ⟨rfl, rfl, ht⟩
    exact h ht

/-- A program that only reads. -/
theorem bind_reads {p : Prog S β} {f : β → Prog S α} (hp : p.Reads) (hE : E base)
    (h : ∀ b, Leads ask E Q (f b) base cur) : Leads ask E Q (p >>= f) base cur := by
  refine bind (R := fun _ b c => b = base ∧ c = cur) ?_ ?_
  · have hp := hp ask base cur
    unfold Leads
    rcases hx : p.exec ask base cur with ⟨e | b, base', cur'⟩
    · rw [hx] at hp
      obtain ⟨rfl, rfl⟩ := Prod.mk.inj hp
      exact hE
    · rw [hx] at hp
      exact Prod.mk.inj hp
  · rintro b _ _ ⟨rfl, rfl⟩
    exact h b

/-- A handler that only raises. -/
theorem tryCatch {p : Prog S α} {h : S.Err → Prog S α} (hp : Leads ask E Q p base cur)
    (hh : ∀ e base' cur', E base' → Leads ask E Q (h e) base' cur') :
    Leads ask E Q (Prog.tryCatch p h) base cur := by
  unfold Leads at hp ⊢
  rw [exec_tryCatch]
  rcases he : p.exec ask base cur with ⟨e | a, base', cur'⟩
  · rw [he] at hp
    exact hh e base' cur' hp
  · rw [he] at hp
    exact hp

/-! ## Whole requests -/

/-- What a request leaves behind. -/
theorem run {p : Prog S α} {db : S.State} (h : Leads ask E Q p db db)
    (hQ : ∀ a b c, Q a b c → E c) : E (p.run ask db).2 := by
  unfold Leads at h
  rcases hp : p.exec ask db db with ⟨e | a, base', cur'⟩
  · rw [hp] at h
    rw [run_of_error _ hp]
    exact h
  · rw [hp] at h
    rw [run_of_ok _ hp]
    exact hQ _ _ _ h

/-- What a request that raises leaves behind. -/
theorem run_error {p : Prog S α} {db : S.State} {e : S.Err} (h : Leads ask E Q p db db)
    (he : (p.run ask db).1 = .error e) : E (p.run ask db).2 := by
  unfold Leads at h
  rcases hp : p.exec ask db db with ⟨e' | a, base', cur'⟩
  · rw [hp] at h
    rw [run_of_error _ hp]
    exact h
  · rw [run_of_ok _ hp] at he
    cases he

/-- What a request that returns has done. -/
theorem run_ok {p : Prog S α} {db : S.State} {a : α} (h : Leads ask E Q p db db)
    (ha : (p.run ask db).1 = .ok a) : ∃ base, Q a base (p.run ask db).2 := by
  unfold Leads at h
  rcases hp : p.exec ask db db with ⟨e | a', base', cur'⟩
  · rw [run_of_error _ hp] at ha
    cases ha
  · rw [hp] at h
    rw [run_of_ok _ hp] at ha ⊢
    obtain rfl := Except.ok.inj ha
    exact ⟨base', h⟩

end Prog.Leads

/-! ## Histories -/

variable {σ γ : Type} {after : γ → σ → σ} {P P' : γ → σ → Prop} {s : σ}

@[simp] theorem runSteps_nil : runSteps after [] s = s := rfl

@[simp] theorem runSteps_cons (c : γ) (cs : List γ) :
    runSteps after (c :: cs) s = runSteps after cs (after c s) := rfl

theorem runSteps_append (cs ds : List γ) :
    runSteps after (cs ++ ds) s = runSteps after ds (runSteps after cs s) := by
  unfold runSteps
  rw [List.foldl_append]

theorem runSteps_snoc (cs : List γ) (c : γ) :
    runSteps after (cs ++ [c]) s = after c (runSteps after cs s) := runSteps_append cs [c]

theorem eachStep_snoc (cs : List γ) (c : γ) :
    EachStep after P (cs ++ [c]) s ↔ EachStep after P cs s ∧ P c (runSteps after cs s) := by
  induction cs generalizing s with
  | nil => simp [EachStep]
  | cons d cs ih => simp only [List.cons_append, EachStep, ih, runSteps_cons, and_assoc]

theorem someStep_snoc (cs : List γ) (c : γ) :
    SomeStep after P (cs ++ [c]) s ↔ SomeStep after P cs s ∨ P c (runSteps after cs s) := by
  induction cs generalizing s with
  | nil => simp [SomeStep]
  | cons d cs ih => simp only [List.cons_append, SomeStep, ih, runSteps_cons, or_assoc]

/-- A step that satisfies `P` divides the history. -/
theorem someStep_iff {cs : List γ} :
    SomeStep after P cs s ↔ ∃ ds c es, cs = ds ++ c :: es ∧ P c (runSteps after ds s) := by
  induction cs generalizing s with
  | nil => simp [SomeStep]
  | cons d cs ih =>
    simp only [SomeStep, ih]
    constructor
    · rintro (h | ⟨ds, c, es, rfl, h⟩)
      · exact ⟨[], d, cs, rfl, h⟩
      · exact ⟨d :: ds, c, es, rfl, h⟩
    · rintro ⟨ds, c, es, hcs, h⟩
      cases ds with
      | nil =>
        obtain ⟨rfl, rfl⟩ := List.cons.inj hcs
        exact Or.inl h
      | cons x ds =>
        obtain ⟨rfl, rfl⟩ := List.cons.inj hcs
        exact Or.inr ⟨ds, c, es, rfl, h⟩

/-- The states of a history are those after its beginnings. -/
theorem mem_statesAlong {cs : List γ} {t : σ} :
    t ∈ statesAlong after cs s ↔ ∃ ds es, cs = ds ++ es ∧ t = runSteps after ds s := by
  induction cs generalizing s with
  | nil =>
    simp only [statesAlong, List.mem_singleton]
    constructor
    · rintro rfl
      exact ⟨[], [], rfl, rfl⟩
    · rintro ⟨ds, es, hcs, rfl⟩
      obtain ⟨rfl, rfl⟩ := List.append_eq_nil_iff.mp hcs.symm
      rfl
  | cons c cs ih =>
    simp only [statesAlong, List.mem_cons, ih]
    constructor
    · rintro (rfl | ⟨ds, es, rfl, rfl⟩)
      · exact ⟨[], c :: cs, rfl, rfl⟩
      · exact ⟨c :: ds, es, rfl, rfl⟩
    · rintro ⟨ds, es, hcs, rfl⟩
      cases ds with
      | nil => exact Or.inl rfl
      | cons x ds =>
        obtain ⟨rfl, rfl⟩ := List.cons.inj hcs
        exact Or.inr ⟨ds, es, rfl, rfl⟩

theorem eachStep_append {cs ds : List γ} :
    EachStep after P (cs ++ ds) s ↔
      EachStep after P cs s ∧ EachStep after P ds (runSteps after cs s) := by
  induction cs generalizing s with
  | nil => simp [EachStep]
  | cons d cs ih => simp only [List.cons_append, EachStep, ih, runSteps_cons, and_assoc]

/-- An invariant of the steps that satisfy `P` holds after the history. -/
theorem inv_runSteps {I : σ → Prop} {cs : List γ} (hP : EachStep after P cs s) (h : I s)
    (hstep : ∀ c s, P c s → I s → I (after c s)) : I (runSteps after cs s) := by
  induction cs generalizing s with
  | nil => exact h
  | cons c cs ih => exact ih hP.2 (hstep c s hP.1 h)

/-- And in every state it goes through. -/
theorem inv_statesAlong {I : σ → Prop} {cs : List γ} (hP : EachStep after P cs s) (h : I s)
    (hstep : ∀ c s, P c s → I s → I (after c s)) : ∀ t ∈ statesAlong after cs s, I t := by
  intro t ht
  obtain ⟨ds, es, rfl, rfl⟩ := mem_statesAlong.mp ht
  exact inv_runSteps (eachStep_append.mp hP).1 h hstep

/-- Under an invariant of the steps that satisfy `P`, equivalent properties of a step hold in the same
histories. -/
theorem eachStep_congr {I : σ → Prop} {A B : γ → σ → Prop} {cs : List γ} (hP : EachStep after P cs s) (h : I s)
    (hstep : ∀ c s, P c s → I s → I (after c s)) (hAB : ∀ c s, P c s → I s → (A c s ↔ B c s)) :
    EachStep after A cs s ↔ EachStep after B cs s := by
  induction cs generalizing s with
  | nil => exact Iff.rfl
  | cons c cs ih => exact and_congr (hAB c s hP.1 h) (ih hP.2 (hstep c s hP.1 h))

theorem eachStep_of_forall {cs : List γ} (h : ∀ c ∈ cs, ∀ s, P c s) : EachStep after P cs s := by
  induction cs generalizing s with
  | nil => exact trivial
  | cons c cs ih =>
    exact ⟨h c List.mem_cons_self s, ih fun d hd => h d (List.mem_cons_of_mem c hd)⟩

theorem eachStep_and {cs : List γ} (h : EachStep after P cs s) (h' : EachStep after P' cs s) :
    EachStep after (fun c s => P c s ∧ P' c s) cs s := by
  induction cs generalizing s with
  | nil => exact trivial
  | cons c cs ih => exact ⟨⟨h.1, h'.1⟩, ih h.2 h'.2⟩

theorem eachStep_true (cs : List γ) : EachStep after (fun _ _ => True) cs s := by
  induction cs generalizing s with
  | nil => exact trivial
  | cons c cs ih => exact ⟨trivial, ih⟩

end DiddiGo.Transactions

import DiddiGo.Transactions.Proofs.LeadsProofs
import DiddiGo.Transactions.Proofs.StagesProofs
import DiddiGo.Transactions.Serving

/-!
# Running a program against services

Rules for `Finds` and `Serves`, one for each way to build a program.
-/

namespace DiddiGo.Transactions

variable {S : Signature} {W α β : Type} {services : Services S W} {w : W} {base cur : S.State}

namespace Prog

theorem serve_bind (p : Prog S α) (f : α → Prog S β) (w : W) (base cur : S.State) :
    (p >>= f).serve services w base cur =
      match p.serve services w base cur with
      | (.ok a, w', base', cur') => (f a).serve services w' base' cur'
      | (.error e, w', base', cur') => (.error e, w', base', cur') := by
  change (p.bind f).serve services w base cur = _
  induction p generalizing w base cur with
  | ret a => rfl
  | raise e => rfl
  | stmt l lk write k ih => exact ih _ _ _ _
  | commit k ih => exact ih _ _ _
  | call q k ih => exact ih _ _ _ _

theorem serve_tryCatch (p : Prog S α) (h : S.Err → Prog S α) (w : W) (base cur : S.State) :
    (tryCatch p h).serve services w base cur =
      match p.serve services w base cur with
      | (.ok a, w', base', cur') => (.ok a, w', base', cur')
      | (.error e, w', base', cur') => (h e).serve services w' base' cur' := by
  induction p generalizing w base cur with
  | ret a => rfl
  | raise e => rfl
  | stmt l lk write k ih => exact ih _ _ _ _
  | commit k ih => exact ih _ _ _
  | call q k ih => exact ih _ _ _ _

/-- Services that remember nothing give the answers of `exec`. -/
theorem exec_eq_serve (ask : S.Query → S.Answer) (p : Prog S α) (base cur : S.State) :
    p.serve (fun (_ : Unit) q => (ask q, ())) () base cur =
      ((p.exec ask base cur).1, (), (p.exec ask base cur).2) := by
  induction p generalizing base cur with
  | ret a => rfl
  | raise e => rfl
  | stmt l lk write k ih => exact ih _ _ _
  | commit k ih => exact ih _ _
  | call q k ih => exact ih _ _ _

/-- Services that give the answers of `exec`, whatever they remember, lead to the same result. -/
theorem serve_of_answers {ask : S.Query → S.Answer} (h : ∀ w q, (services w q).1 = ask q) (p : Prog S α)
    (w : W) (base cur : S.State) :
    (p.serve services w base cur).1 = (p.exec ask base cur).1 ∧
      (p.serve services w base cur).2.2 = (p.exec ask base cur).2 := by
  induction p generalizing w base cur with
  | ret a => exact ⟨rfl, rfl⟩
  | raise e => exact ⟨rfl, rfl⟩
  | stmt l lk write k ih => exact ih _ _ _ _
  | commit k ih => exact ih _ _ _
  | call q k ih =>
    have hrest := ih (services w q).1 (services w q).2 base cur
    refine ⟨hrest.1.trans ?_, hrest.2.trans ?_⟩
    · rw [h]
      rfl
    · rw [h]
      rfl

theorem serveRequest_of_answers {ask : S.Query → S.Answer} (h : ∀ w q, (services w q).1 = ask q) (p : Prog S α)
    (w : W) (db : S.State) :
    ((serveRequest services p (w, db)).1, (serveRequest services p (w, db)).2.2) = p.run ask db := by
  obtain ⟨hresult, hdb⟩ := serve_of_answers h p w db db
  unfold serveRequest run
  dsimp only
  rcases hserve : p.serve services w db db with ⟨e | a, w', base, cur⟩
  · rcases hexec : p.exec ask db db with ⟨e' | a', base', cur'⟩
    · rw [hserve, hexec] at hresult hdb
      obtain ⟨rfl, rfl⟩ := Prod.mk.inj hdb
      exact Prod.ext hresult rfl
    · rw [hserve, hexec] at hresult
      cases hresult
  · rcases hexec : p.exec ask db db with ⟨e' | a', base', cur'⟩
    · rw [hserve, hexec] at hresult
      cases hresult
    · rw [hserve, hexec] at hresult hdb
      obtain ⟨rfl, rfl⟩ := Prod.mk.inj hdb
      exact Prod.ext hresult rfl

/-- A silent program does what it does without services. -/
theorem Silent.serve_eq {p : Prog S α} (hp : p.Silent) (ask : S.Query → S.Answer) (w : W)
    (base cur : S.State) :
    p.serve services w base cur = ((p.exec ask base cur).1, w, base, (p.exec ask base cur).2.2) := by
  induction p generalizing cur with
  | ret a => rfl
  | raise e => rfl
  | stmt l lk write k ih => exact ih _ (hp _) _
  | commit k ih => exact hp.elim
  | call q k ih => exact hp.elim

/-! ## Requests -/

theorem queries_bind (p : Prog S α) (f : α → Prog S β) (w : W) (base cur : S.State) :
    (p >>= f).queries services w cur = p.queries services w cur ++
      match p.serve services w base cur with
      | (.ok a, w', _, cur') => (f a).queries services w' cur'
      | (.error _, _, _, _) => [] := by
  change (p.bind f).queries services w cur = _
  induction p generalizing w base cur with
  | ret a => rfl
  | raise e => rfl
  | stmt l lk write k ih => exact ih _ _ _ _
  | commit k ih => exact ih _ _ _
  | call q k ih => exact congrArg (q :: ·) (ih _ _ _ _)

/-- What is found, in front of the rest. -/
theorem Finds.queries_bind {p : Prog S α} {f : α → Prog S β} {a : α} {db : S.State}
    (h : Finds services p w db a) :
    (p >>= f).queries services w db = p.queries services w db ++ (f a).queries services w db := by
  rw [Prog.queries_bind p f w db db, h db]

theorem Silent.queries_eq {p : Prog S α} (hp : p.Silent) : p.queries services w cur = [] := by
  induction p generalizing cur with
  | ret a => rfl
  | raise e => rfl
  | stmt l lk write k ih => exact ih _ (hp _)
  | commit k ih => exact hp.elim
  | call q k ih => exact hp.elim

/-- A silent program that raises, in front of the rest. -/
theorem Silent.queries_bind_of_raises {p : Prog S α} (hp : p.Silent) {ask : S.Query → S.Answer}
    {E : S.State → Prop} (h : Leads ask E (fun _ _ _ => False) p cur cur) (f : α → Prog S β) :
    (p >>= f).queries services w cur = [] := by
  rw [queries_bind p f w cur cur, hp.queries_eq, hp.serve_eq ask, List.nil_append]
  unfold Leads at h
  rcases hexec : p.exec ask cur cur with ⟨e | a, base', cur'⟩
  · rfl
  · rw [hexec] at h
    exact h.elim

theorem queries_raiseIf_bind (c : Prop) [Decidable c] (e : S.Err) (f : Unit → Prog S β) :
    (Prog.raiseIf c e >>= f).queries services w cur = if c then [] else (f ()).queries services w cur := by
  unfold Prog.raiseIf
  by_cases hc : c
  · rw [if_pos hc, if_pos hc]
    rfl
  · rw [if_neg hc, if_neg hc]
    rfl

namespace Asks

variable {A : S.Query → Prop}

theorem ret (a : α) : Asks A (.ret a : Prog S α) := trivial

theorem raise (e : S.Err) : Asks A (.raise e : Prog S α) := trivial

theorem bind {p : Prog S α} {f : α → Prog S β} (hp : Asks A p) (hf : ∀ a, Asks A (f a)) :
    Asks A (p >>= f) := by
  change Asks A (p.bind f)
  induction p with
  | ret a => exact hf a
  | raise e => exact trivial
  | stmt l lk w k ih => exact fun v => ih v (hp v)
  | commit k ih => exact ih hp
  | call q k ih => exact ⟨hp.1, fun a => ih a (hp.2 a)⟩

theorem ite {c : Prop} [Decidable c] {p p' : Prog S α} (hp : Asks A p) (hp' : Asks A p') :
    Asks A (if c then p else p') := by
  by_cases hc : c
  · rwa [if_pos hc]
  · rwa [if_neg hc]

theorem ask {q : S.Query} (h : A q) : Asks A (Prog.ask q : Prog S S.Answer) := ⟨h, fun _ => trivial⟩

theorem of_silent {p : Prog S α} (hp : p.Silent) : Asks A p := by
  induction p with
  | ret a => exact trivial
  | raise e => exact trivial
  | stmt l lk w k ih => exact fun v => ih v (hp v)
  | commit k ih => exact hp.elim
  | call q k ih => exact hp.elim

theorem mono {B : S.Query → Prop} {p : Prog S α} (h : Asks A p) (hAB : ∀ q, A q → B q) : Asks B p := by
  induction p with
  | ret a => exact trivial
  | raise e => exact trivial
  | stmt l lk w k ih => exact fun v => ih v (h v)
  | commit k ih => exact ih h
  | call q k ih => exact ⟨hAB q h.1, fun a => ih a (h.2 a)⟩

/-- Requests that leave no trace in the services. -/
theorem serve_eq {p : Prog S α} (h : Asks A p) (hA : ∀ w q, A q → (services w q).2 = w) :
    (p.serve services w base cur).2.1 = w := by
  induction p generalizing base cur with
  | ret a => rfl
  | raise e => rfl
  | stmt l lk write k ih => exact ih _ (h _)
  | commit k ih => exact ih h
  | call q k ih =>
    change ((k (services w q).1).serve services (services w q).2 base cur).2.1 = w
    rw [hA w q h.1]
    exact ih _ (h.2 _)

theorem tryCatch {p : Prog S α} {f : S.Err → Prog S α} (hp : Asks A p) (hf : ∀ e, Asks A (f e)) :
    Asks A (Prog.tryCatch p f) := by
  induction p with
  | ret a => exact trivial
  | raise e => exact hf e
  | stmt l lk w k ih => exact fun v => ih v (hp v)
  | commit k ih => exact ih hp
  | call q k ih => exact ⟨hp.1, fun a => ih a (hp.2 a)⟩

theorem mem_queries {p : Prog S α} (h : Asks A p) {q : S.Query} (hq : q ∈ p.queries services w cur) : A q := by
  induction p generalizing w cur with
  | ret a => exact absurd hq List.not_mem_nil
  | raise e => exact absurd hq List.not_mem_nil
  | stmt l lk write k ih => exact ih _ (h _) hq
  | commit k ih => exact ih h hq
  | call q' k ih =>
    rcases List.mem_cons.mp hq with rfl | hq
    · exact h.1
    · exact ih _ (h.2 _) hq

end Asks

/-! ## Finding -/

namespace Finds

variable {db : S.State} {a : α} {b : β}

theorem ret : Finds services (.ret a : Prog S α) w db a := fun _ => rfl

theorem select (f : S.State → α) : Finds services (Prog.select f) w db (f db) := fun _ => rfl

theorem ask {q : S.Query} {r : S.Answer} (h : services w q = (r, w)) :
    Finds services (Prog.ask q : Prog S S.Answer) w db r := by
  intro base
  change ((.ok (services w q).1, (services w q).2, base, db) : Except S.Err S.Answer × W × S.State × S.State)
    = _
  rw [h]

theorem bind {p : Prog S α} {f : α → Prog S β} (hp : Finds services p w db a)
    (hf : Finds services (f a) w db b) : Finds services (p >>= f) w db b := by
  intro base
  rw [serve_bind, hp base]
  exact hf base

theorem raiseIf_bind {c : Prop} [Decidable c] {e : S.Err} {f : Unit → Prog S β} (hc : ¬ c)
    (hf : Finds services (f ()) w db b) : Finds services (Prog.raiseIf c e >>= f) w db b := by
  unfold Prog.raiseIf
  rw [if_neg hc]
  exact hf

end Finds

/-! ## Serving -/

namespace Serves

variable {E E' : W → S.State → Prop} {Q : α → W → S.State → S.State → Prop}

theorem ret {a : α} (h : Q a w base cur) : Serves services E Q (.ret a : Prog S α) w base cur := h

theorem raise {e : S.Err} (h : E w base) : Serves services E Q (.raise e : Prog S α) w base cur := h

theorem mono {R : α → W → S.State → S.State → Prop} {p : Prog S α}
    (h : Serves services E Q p w base cur) (hE : ∀ w b, E w b → E' w b)
    (hQ : ∀ a w b c, Q a w b c → R a w b c) : Serves services E' R p w base cur := by
  unfold Serves at h ⊢
  rcases hp : p.serve services w base cur with ⟨e | a, w', base', cur'⟩
  · rw [hp] at h
    exact hE _ _ h
  · rw [hp] at h
    exact hQ _ _ _ _ h

theorem bind {R : β → W → S.State → S.State → Prop} {p : Prog S β} {f : β → Prog S α}
    (hp : Serves services E R p w base cur)
    (hf : ∀ b w' base' cur', R b w' base' cur' → Serves services E Q (f b) w' base' cur') :
    Serves services E Q (p >>= f) w base cur := by
  unfold Serves at hp ⊢
  rw [serve_bind]
  rcases h : p.serve services w base cur with ⟨e | b, w', base', cur'⟩
  · rw [h] at hp
    exact hp
  · rw [h] at hp
    exact hf b w' base' cur' hp

theorem of_bind_ret {p : Prog S α} (h : Serves services E Q (p >>= .ret) w base cur) :
    Serves services E Q p w base cur := by
  unfold Serves at h ⊢
  rw [serve_bind] at h
  rcases hp : p.serve services w base cur with ⟨e | a, w', base', cur'⟩
  · rw [hp] at h
    exact h
  · rw [hp] at h
    exact h

/-- What is found, in front of the rest. -/
theorem bind_finds {p : Prog S β} {b : β} {f : β → Prog S α} (hp : Finds services p w cur b)
    (hf : Serves services E Q (f b) w base cur) : Serves services E Q (p >>= f) w base cur := by
  unfold Serves at hf ⊢
  rw [serve_bind, hp base]
  exact hf

/-- A silent program in front of the rest. -/
theorem bind_silent {p : Prog S β} {f : β → Prog S α} (hp : p.Silent) {ask : S.Query → S.Answer}
    {E' : S.State → Prop} {R : β → S.State → S.State → Prop} (h : Leads ask E' R p base cur)
    (hE : E' base → E w base) (hf : ∀ b cur', R b base cur' → Serves services E Q (f b) w base cur') :
    Serves services E Q (p >>= f) w base cur := by
  have hbase : p.serve (fun (_ : Unit) q => (ask q, ())) () base cur =
      ((p.exec ask base cur).1, (), base, (p.exec ask base cur).2.2) := hp.serve_eq ask () base cur
  rw [exec_eq_serve] at hbase
  have hbase' : (p.exec ask base cur).2.1 = base := congrArg (fun r => r.2.2.1) hbase
  unfold Leads at h
  unfold Serves
  rw [serve_bind, hp.serve_eq ask]
  rcases hexec : p.exec ask base cur with ⟨e | b, base', cur'⟩
  · rw [hexec] at h hbase'
    obtain rfl : base' = base := hbase'
    exact hE h
  · rw [hexec] at h hbase'
    obtain rfl : base' = base := hbase'
    exact hf b cur' h

/-- A program whose requests leave no trace, in front of the rest. -/
theorem bind_asks {A : S.Query → Prop} {p : Prog S β} {f : β → Prog S α} (hp : p.Asks A)
    (hA : ∀ w q, A q → (services w q).2 = w) (hE : ∀ base', E w base')
    (hf : ∀ b base' cur', Serves services E Q (f b) w base' cur') : Serves services E Q (p >>= f) w base cur := by
  have hkept : (p.serve services w base cur).2.1 = w := hp.serve_eq hA
  unfold Serves
  rw [serve_bind]
  rcases h : p.serve services w base cur with ⟨e | b, w', base', cur'⟩
  · rw [h] at hkept
    obtain rfl : w' = w := hkept
    exact hE base'
  · rw [h] at hkept
    obtain rfl : w' = w := hkept
    exact hf b base' cur'

theorem tryCatch {p : Prog S α} {h : S.Err → Prog S α} (hp : Serves services E' Q p w base cur)
    (hh : ∀ e w' base' cur', E' w' base' → Serves services E Q (h e) w' base' cur') :
    Serves services E Q (Prog.tryCatch p h) w base cur := by
  unfold Serves at hp ⊢
  rw [serve_tryCatch]
  rcases hexec : p.serve services w base cur with ⟨e | a, w', base', cur'⟩
  · rw [hexec] at hp
    exact hh e w' base' cur' hp
  · rw [hexec] at hp
    exact hp

theorem bind_select {g : S.State → β} {f : β → Prog S α}
    (h : Serves services E Q (f (g cur)) w base cur) : Serves services E Q (Prog.select g >>= f) w base cur :=
  h

theorem bind_selectAs {l : S.Label} {g : S.State → β} {f : β → Prog S α}
    (h : Serves services E Q (f (g cur)) w base cur) :
    Serves services E Q (Prog.selectAs l g >>= f) w base cur := h

theorem bind_update {rs : List S.Row} {patch : S.State → S.State} {f : Unit → Prog S α}
    (h : Serves services E Q (f ()) w base (patch cur)) :
    Serves services E Q (Prog.update rs patch >>= f) w base cur := h

theorem bind_ask {q : S.Query} {f : S.Answer → Prog S α}
    (h : Serves services E Q (f (services w q).1) (services w q).2 base cur) :
    Serves services E Q (Prog.ask q >>= f) w base cur := h

theorem bind_raiseIf {c : Prop} [Decidable c] {e : S.Err} {f : Unit → Prog S α} (hE : c → E w base)
    (h : ¬ c → Serves services E Q (f ()) w base cur) :
    Serves services E Q (Prog.raiseIf c e >>= f) w base cur := by
  unfold Prog.raiseIf
  by_cases hc : c
  · rw [if_pos hc]
    exact hE hc
  · rw [if_neg hc]
    exact h hc

theorem bind_writeOrRaise {rs : List S.Row} {taken : S.State → Bool} {patch : S.State → S.State}
    {e : S.Err} {f : Unit → Prog S α} (hE : E w base)
    (h : taken cur = false → Serves services E Q (f ()) w base (patch cur)) :
    Serves services E Q (Prog.writeOrRaise rs taken patch e >>= f) w base cur := by
  unfold Serves
  change (match (if taken cur then (.raise e : Prog S Unit) else .ret ()).bind f |>.serve services w base
    (if taken cur then cur else patch cur) with | (.ok a, w', base', cur') => _ | (.error _, w', base', _) => _)
  cases ht : taken cur with
  | true => exact hE
  | false => exact h ht

/-- A whole request. -/
theorem request_cases {p : Prog S α} {db : S.State} (h : Serves services E Q p w db db) :
    (∃ a w' base' db', serveRequest services p (w, db) = (.ok a, w', db') ∧ Q a w' base' db') ∨
      ∃ e w' db', serveRequest services p (w, db) = (.error e, w', db') ∧ E w' db' := by
  unfold Serves at h
  unfold serveRequest
  dsimp only
  rcases hp : p.serve services w db db with ⟨e | a, w', base', cur'⟩
  · rw [hp] at h
    exact .inr ⟨e, w', base', rfl, h⟩
  · rw [hp] at h
    exact .inl ⟨a, w', base', cur', rfl, h⟩

end Serves

end Prog

end DiddiGo.Transactions

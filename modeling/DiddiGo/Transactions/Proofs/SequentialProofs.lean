import DiddiGo.Transactions.Proofs.ProgProofs
import DiddiGo.Transactions.Sequential

/-!
# Invariants of runs of requests

Rules for `Keeps`, one for each way to build a program, and the run rule: what every request keeps holds
after every run.
-/

namespace DiddiGo.Transactions

variable {S : Signature} {α β : Type} {I : S.State → Prop}

namespace Prog.Keeps

theorem ret (a : α) : Keeps I (.ret a : Prog S α) := fun _ _ _ hb hc => ⟨hb, fun _ _ => hc⟩

theorem raise (e : S.Err) : Keeps I (.raise e : Prog S α) := fun _ _ _ hb _ => ⟨hb, by simp⟩

theorem bind {p : Prog S α} {f : α → Prog S β} (hp : Keeps I p) (hf : ∀ a, Keeps I (f a)) :
    Keeps I (p >>= f) := by
  intro ask base cur hb hc
  obtain ⟨hb', hc'⟩ := hp ask base cur hb hc
  rcases h : p.exec ask base cur with ⟨_ | a, base', cur'⟩
  · rw [exec_bind_of_error _ _ _ h]
    rw [h] at hb'
    exact ⟨hb', by simp⟩
  · rw [exec_bind_of_ok _ _ _ h]
    rw [h] at hb' hc'
    exact hf a ask base' cur' hb' (hc' a rfl)

theorem select (f : S.State → α) : Keeps I (Prog.select f) :=
  fun _ _ _ hb hc => ⟨hb, fun _ _ => hc⟩

theorem selectForUpdate (r : S.Row) (f : S.State → Option α) : Keeps I (Prog.selectForUpdate r f) :=
  fun _ _ _ hb hc => ⟨hb, fun _ _ => hc⟩

theorem update {rs : List S.Row} {patch : S.State → S.State} (h : ∀ db, I db → I (patch db)) :
    Keeps I (Prog.update rs patch) :=
  fun _ _ cur hb hc => ⟨hb, fun _ _ => h cur hc⟩

theorem insertOnce {r : S.Row} {taken : S.State → Bool} {ins : S.State → S.State}
    (h : ∀ db, I db → taken db = false → I (ins db)) : Keeps I (Prog.insertOnce r taken ins) := by
  intro ask base cur hb hc
  refine ⟨hb, fun _ _ => ?_⟩
  rw [exec_insertOnce]
  cases ht : taken cur with
  | true => simpa [ht] using hc
  | false => simpa [ht] using h cur hc ht

theorem writeOrRaise {rs : List S.Row} {taken : S.State → Bool} {patch : S.State → S.State}
    {e : S.Err} (h : ∀ db, I db → taken db = false → I (patch db)) :
    Keeps I (Prog.writeOrRaise rs taken patch e) := by
  intro ask base cur hb hc
  rw [exec_writeOrRaise]
  cases ht : taken cur with
  | true => exact ⟨hb, by simp⟩
  | false => exact ⟨hb, fun _ _ => h cur hc ht⟩

theorem raiseIf (c : Prop) [Decidable c] (e : S.Err) : Keeps I (Prog.raiseIf c e) := by
  unfold Prog.raiseIf
  split_ifs
  · exact .raise e
  · exact .ret ()

theorem commitNow : Keeps I (Prog.commitNow : Prog S Unit) := fun _ _ _ _ hc => ⟨hc, fun _ _ => hc⟩

theorem ask (q : S.Query) : Keeps I (Prog.ask q : Prog S S.Answer) :=
  fun _ _ _ hb hc => ⟨hb, fun _ _ => hc⟩

/-- A handler that only raises another exception. -/
theorem tryCatch {p : Prog S α} {f : S.Err → Prog S α} (hp : Keeps I p)
    (hf : ∀ e, ∃ e', f e = .raise e') : Keeps I (Prog.tryCatch p f) := by
  intro ask base cur hb hc
  obtain ⟨hb', hc'⟩ := hp ask base cur hb hc
  rw [exec_tryCatch]
  rcases h : p.exec ask base cur with ⟨e | a, base', cur'⟩
  · obtain ⟨e', he'⟩ := hf e
    rw [h] at hb'
    dsimp only
    rw [he']
    exact ⟨hb', by simp⟩
  · rw [h] at hb' hc'
    exact ⟨hb', hc'⟩

/-- A program that never returns. -/
theorem of_error {p : Prog S α}
    (h : ∀ ask base cur, ∃ e cur', p.exec ask base cur = (.error e, base, cur')) : Keeps I p := by
  intro ask base cur hb _
  obtain ⟨e, cur', he⟩ := h ask base cur
  rw [he]
  exact ⟨hb, by simp⟩

theorem foldlM {l : List α} {f : β → α → Prog S β} (b : β) (h : ∀ b, ∀ a ∈ l, Keeps I (f b a)) :
    Keeps I (l.foldlM f b) := by
  induction l generalizing b with
  | nil => exact ret b
  | cons a l ih =>
    rw [List.foldlM_cons]
    exact bind (h b a (by simp)) fun b' => ih b' fun b'' a' ha' => h b'' a' (by simp [ha'])

/-- What a request keeps holds after it. -/
theorem run {p : Prog S α} (h : Keeps I p) (ask : S.Query → S.Answer) {db : S.State} (hdb : I db) :
    I (p.run ask db).2 := by
  obtain ⟨hb, hc⟩ := h ask db db hdb hdb
  rcases he : p.exec ask db db with ⟨_ | a, base', cur'⟩
  · rw [run_of_error _ he]
    rw [he] at hb
    exact hb
  · rw [run_of_ok _ he]
    rw [he] at hc
    exact hc a rfl

end Prog.Keeps

/-! ## Exceptions -/

namespace Prog.Raises

variable {ask : S.Query → S.Answer} {E E' : S.Err → Prop}

theorem ret (a : α) : Raises ask E (.ret a : Prog S α) := fun _ _ _ h => nomatch h

theorem raise {e : S.Err} (h : E e) : Raises ask E (.raise e : Prog S α) := by
  intro base cur e' he
  obtain rfl := Except.error.inj he
  exact h

theorem bind {p : Prog S α} {f : α → Prog S β} (hp : Raises ask E p) (hf : ∀ a, Raises ask E (f a)) :
    Raises ask E (p >>= f) := by
  intro base cur e he
  rcases h : p.exec ask base cur with ⟨e' | a, base', cur'⟩
  · rw [exec_bind_of_error _ _ _ h] at he
    obtain rfl := Except.error.inj he
    exact hp base cur e' (by rw [h])
  · rw [exec_bind_of_ok _ _ _ h] at he
    exact hf a base' cur' e he

theorem select (f : S.State → α) : Raises ask E (Prog.select f) := fun _ _ _ h => nomatch h

theorem selectAs (l : S.Label) (f : S.State → α) : Raises ask E (Prog.selectAs l f) :=
  fun _ _ _ h => nomatch h

theorem selectForUpdate (r : S.Row) (f : S.State → Option α) :
    Raises ask E (Prog.selectForUpdate r f) := fun _ _ _ h => nomatch h

theorem update (rs : List S.Row) (patch : S.State → S.State) : Raises ask E (Prog.update rs patch) :=
  fun _ _ _ h => nomatch h

theorem insertOnce (r : S.Row) (taken : S.State → Bool) (ins : S.State → S.State) :
    Raises ask E (Prog.insertOnce r taken ins) := fun _ _ _ h => nomatch h

theorem writeOrRaise {rs : List S.Row} {taken : S.State → Bool} {patch : S.State → S.State} {e : S.Err}
    (h : E e) : Raises ask E (Prog.writeOrRaise rs taken patch e) := by
  intro base cur e' he
  rw [exec_writeOrRaise] at he
  split_ifs at he
  obtain rfl := Except.error.inj he
  exact h

theorem raiseIf {c : Prop} [Decidable c] {e : S.Err} (h : E e) : Raises ask E (Prog.raiseIf c e) := by
  unfold Prog.raiseIf
  split_ifs
  · exact raise h
  · exact ret ()

theorem commitNow : Raises ask E (Prog.commitNow : Prog S Unit) := fun _ _ _ h => nomatch h

theorem tryCatch {p : Prog S α} {f : S.Err → Prog S α} (hp : Raises ask E p)
    (hf : ∀ e, E e → Raises ask E' (f e)) : Raises ask E' (Prog.tryCatch p f) := by
  intro base cur e he
  rw [exec_tryCatch] at he
  rcases h : p.exec ask base cur with ⟨e' | a, base', cur'⟩
  · rw [h] at he
    exact hf e' (hp base cur e' (by rw [h])) base' cur' e he
  · rw [h] at he
    cases he

/-- The exception that a whole request ends with. -/
theorem error_of_run {p : Prog S α} {db : S.State} {e : S.Err} (h : (p.run ask db).1 = .error e) :
    (p.exec ask db db).1 = .error e := by
  unfold run at h
  rcases hp : p.exec ask db db with ⟨e' | a, base', cur'⟩
  · rw [hp] at h
    exact congrArg _ (Except.error.inj h)
  · rw [hp] at h
    cases h

end Prog.Raises

/-! ## Atomic programs -/

namespace Prog.Atomic

theorem ret (a : α) : Atomic (.ret a : Prog S α) := trivial

theorem raise (e : S.Err) : Atomic (.raise e : Prog S α) := trivial

theorem bind {p : Prog S α} {f : α → Prog S β} (hp : Atomic p) (hf : ∀ a, Atomic (f a)) :
    Atomic (p >>= f) := by
  change Atomic (p.bind f)
  induction p with
  | ret a => exact hf a
  | raise e => exact trivial
  | stmt l lk w k ih => exact fun v => ih v (hp v)
  | commit k ih => exact hp.elim
  | call q k ih => exact fun a => ih a (hp a)

theorem writeOrRaise (rs : List S.Row) (taken : S.State → Bool) (patch : S.State → S.State)
    (e : S.Err) : Atomic (Prog.writeOrRaise rs taken patch e) := by
  intro v
  dsimp only
  split_ifs <;> trivial

/-- What is committed does not change before the program returns. -/
theorem base_exec {p : Prog S α} (hp : p.Atomic) (ask : S.Query → S.Answer) (base cur : S.State) :
    (p.exec ask base cur).2.1 = base := by
  induction p generalizing cur with
  | ret a => rfl
  | raise e => rfl
  | stmt l lk w k ih => exact ih cur (hp cur) (w cur cur)
  | commit k ih => exact hp.elim
  | call q k ih => exact ih (ask q) (hp (ask q)) cur

/-- A request that is one transaction leaves the database alone if it raises. -/
theorem run_error {p : Prog S α} (hp : p.Atomic) {ask : S.Query → S.Answer} {db : S.State}
    {e : S.Err} (h : (p.run ask db).1 = .error e) : (p.run ask db).2 = db := by
  have hbase := hp.base_exec ask db db
  rcases he : p.exec ask db db with ⟨_ | a, base', cur'⟩
  · rw [he] at hbase
    rw [run_of_error _ he]
    exact hbase
  · rw [run_of_ok _ he] at h
    cases h

end Prog.Atomic

/-! ## Postconditions -/

namespace Prog.Ensures

variable {ask : S.Query → S.Answer} {P P' : S.State → Prop} {Q Q' : α → S.State → Prop}
  {R : β → S.State → Prop}

theorem ret {a : α} (h : ∀ db, P db → Q a db) : Ensures ask P (.ret a : Prog S α) Q := by
  intro base cur hc a' ha
  obtain rfl := Except.ok.inj ha
  exact h cur hc

theorem raise {e : S.Err} : Ensures ask P (.raise e : Prog S α) Q := by
  intro base cur hc a ha
  cases ha

theorem bind {p : Prog S α} {f : α → Prog S β} (hp : Ensures ask P p Q)
    (hf : ∀ a, Ensures ask (Q a) (f a) R) : Ensures ask P (p >>= f) R := by
  intro base cur hc b hb
  rcases h : p.exec ask base cur with ⟨_ | a, base', cur'⟩
  · rw [exec_bind_of_error _ _ _ h] at hb
    cases hb
  · rw [exec_bind_of_ok _ _ _ h] at hb ⊢
    have hq := hp base cur hc a (by rw [h])
    rw [h] at hq
    exact hf a base' cur' hq b hb

theorem trivial (p : Prog S α) : Ensures ask P p fun _ _ => True := fun _ _ _ _ _ => True.intro

theorem mono {p : Prog S α} (hp : Ensures ask P p Q) (hP : ∀ db, P' db → P db)
    (hQ : ∀ a db, Q a db → Q' a db) : Ensures ask P' p Q' :=
  fun base cur hc a ha => hQ a _ (hp base cur (hP cur hc) a ha)

/-- A known fact may be used. -/
theorem assuming {φ : Prop} {p : Prog S α} (h : φ → Ensures ask P p Q) :
    Ensures ask (fun db => φ ∧ P db) p Q := fun base cur hc => h hc.1 base cur hc.2

/-- From one database it is enough to run the program there. -/
theorem of_exec {p : Prog S α} {db : S.State}
    (h : ∀ base a, (p.exec ask base db).1 = .ok a → Q a (p.exec ask base db).2.2) :
    Ensures ask (· = db) p Q := by
  rintro base _ rfl
  exact h base

theorem select {f : S.State → α} (h : ∀ db, P db → Q (f db) db) :
    Ensures ask P (Prog.select f) Q := by
  intro base cur hc a ha
  obtain rfl := Except.ok.inj ha
  exact h cur hc

theorem selectForUpdate {r : S.Row} {f : S.State → Option α} {Q : Option α → S.State → Prop}
    (h : ∀ db, P db → Q (f db) db) : Ensures ask P (Prog.selectForUpdate r f) Q := by
  intro base cur hc a ha
  obtain rfl := Except.ok.inj ha
  exact h cur hc

theorem update {rs : List S.Row} {patch : S.State → S.State} {Q : Unit → S.State → Prop}
    (h : ∀ db, P db → Q () (patch db)) : Ensures ask P (Prog.update rs patch) Q :=
  fun _ cur hc _ _ => h cur hc

theorem insertOnce {r : S.Row} {taken : S.State → Bool} {ins : S.State → S.State}
    {Q : Bool → S.State → Prop} (h : ∀ db, P db → Q (!taken db) (if taken db then db else ins db)) :
    Ensures ask P (Prog.insertOnce r taken ins) Q := by
  intro base cur hc a ha
  obtain rfl := Except.ok.inj ha
  exact h cur hc

theorem writeOrRaise {rs : List S.Row} {taken : S.State → Bool} {patch : S.State → S.State}
    {e : S.Err} {Q : Unit → S.State → Prop} (h : ∀ db, P db → taken db = false → Q () (patch db)) :
    Ensures ask P (Prog.writeOrRaise rs taken patch e) Q := by
  intro base cur hc a ha
  rw [exec_writeOrRaise] at ha ⊢
  cases ht : taken cur with
  | true => simp [ht] at ha
  | false => exact h cur hc ht

theorem raiseIf {c : Prop} [Decidable c] {e : S.Err} {Q : Unit → S.State → Prop}
    (h : ∀ db, P db → ¬ c → Q () db) : Ensures ask P (Prog.raiseIf c e : Prog S Unit) Q := by
  unfold Prog.raiseIf
  split_ifs with hc
  · exact raise
  · exact ret fun db hdb => h db hdb hc

theorem call {q : S.Query} {Q : S.Answer → S.State → Prop} (h : ∀ db, P db → Q (ask q) db) :
    Ensures ask P (Prog.ask q : Prog S S.Answer) Q := by
  intro base cur hc a ha
  obtain rfl := Except.ok.inj ha
  exact h cur hc

/-- A loop ensures what each of its steps passes on. -/
theorem foldlM {l : List α} {f : β → α → Prog S β} {I : S.State → Prop} (b : β)
    (h : ∀ b, ∀ a ∈ l, Ensures ask I (f b a) fun _ => I) :
    Ensures ask I (l.foldlM f b) fun _ => I := by
  induction l generalizing b with
  | nil => exact ret fun _ h => h
  | cons a l ih =>
    rw [List.foldlM_cons]
    exact bind (h b a (by simp)) fun b' => ih b' fun b'' a' ha' => h b'' a' (by simp [ha'])

/-- The same for a fact about what is left of the loop. -/
theorem foldlM_rest {l : List α} {f : β → α → Prog S β} {I : List α → S.State → Prop} (b : β)
    (h : ∀ b a l, Ensures ask (I (a :: l)) (f b a) fun _ => I l) :
    Ensures ask (I l) (l.foldlM f b) fun _ => I [] := by
  induction l generalizing b with
  | nil => exact ret fun _ h => h
  | cons a l ih =>
    rw [List.foldlM_cons]
    exact bind (h b a l) fun b' => ih b'

/-- A program keeps what it ensures in one transaction. -/
theorem keeps {I : S.State → Prop} {p : Prog S α} (hp : p.Atomic)
    (h : ∀ ask, Ensures ask I p fun _ => I) : Keeps I p :=
  fun ask base cur hb hc => ⟨by rw [hp.base_exec]; exact hb, h ask base cur hc⟩

variable (ask) in
theorem of_keeps {I : S.State → Prop} {p : Prog S α} (h : Keeps I p) :
    Ensures ask I p fun _ => I := by
  intro base cur hc a ha
  obtain ⟨hres, hcur⟩ := exec_base ask base cur cur p
  rw [hcur]
  exact (h ask cur cur hc hc).2 a (hres ▸ ha)

/-- What a request that is one transaction ensures holds after it. -/
theorem run {p : Prog S α} (hp : p.Atomic) {I : S.State → Prop}
    (h : Ensures ask P p fun _ => I) {db : S.State} (hdb : P db) (hI : I db) :
    I (p.run ask db).2 := by
  have hbase := hp.base_exec ask db db
  rcases he : p.exec ask db db with ⟨_ | a, base', cur'⟩
  · rw [he] at hbase
    have hdb' : base' = db := hbase
    rw [run_of_error _ he, hdb']
    exact hI
  · have hq := h db db hdb a (by rw [he])
    rw [he] at hq
    rw [run_of_ok _ he]
    exact hq

/-- A request that is one transaction leaves the database alone or ensures its postcondition. -/
theorem run_cases {p : Prog S α} (hp : p.Atomic) {db : S.State} (h : Ensures ask (· = db) p Q) :
    (p.run ask db).2 = db ∨ ∃ a, (p.run ask db).1 = .ok a ∧ Q a (p.run ask db).2 := by
  have hbase := hp.base_exec ask db db
  rcases he : p.exec ask db db with ⟨_ | a, base', cur'⟩
  · rw [he] at hbase
    rw [run_of_error _ he]
    exact Or.inl hbase
  · have hq := h db db rfl a (by rw [he])
    rw [he] at hq
    rw [run_of_ok _ he]
    exact Or.inr ⟨a, rfl, hq⟩

end Prog.Ensures

/-! ## Runs that return -/

namespace Prog.Returns

variable {ask : S.Query → S.Answer} {db db₁ db' : S.State}

theorem ret (a : α) : Returns ask db (.ret a : Prog S α) a db := fun _ => rfl

theorem bind {p : Prog S α} {f : α → Prog S β} {a : α} {b : β} (hp : Returns ask db p a db₁)
    (hf : Returns ask db₁ (f a) b db') : Returns ask db (p >>= f) b db' :=
  fun base => (exec_bind_of_ok _ _ _ (hp base)).trans (hf base)

theorem select (f : S.State → α) : Returns ask db (Prog.select f) (f db) db := fun _ => rfl

theorem call (q : S.Query) : Returns ask db (Prog.ask q : Prog S S.Answer) (ask q) db :=
  fun _ => rfl

theorem update (rs : List S.Row) (patch : S.State → S.State) :
    Returns ask db (Prog.update rs patch) () (patch db) := fun _ => rfl

theorem raiseIf {c : Prop} [Decidable c] {e : S.Err} (hc : ¬ c) :
    Returns ask db (Prog.raiseIf c e : Prog S Unit) () db := by
  unfold Prog.raiseIf
  rw [if_neg hc]
  exact ret ()

theorem writeOrRaise {rs : List S.Row} {taken : S.State → Bool} {patch : S.State → S.State} {e : S.Err}
    (h : taken db = false) : Returns ask db (Prog.writeOrRaise rs taken patch e) () (patch db) := by
  intro base
  rw [exec_writeOrRaise, h]
  rfl

/-- It is enough that it does so once. -/
theorem of_exec {p : Prog S α} {a : α} (hp : p.Atomic) {base : S.State}
    (h : p.exec ask base db = (.ok a, base, db')) : Returns ask db p a db' := by
  intro base'
  obtain ⟨hres, hcur⟩ := exec_base ask base db base' p
  rw [h] at hres hcur
  exact Prod.ext hres.symm (Prod.ext (hp.base_exec ask base' db) hcur.symm)

/-- A request that returns has this effect. -/
theorem run {p : Prog S α} {a : α} (h : Returns ask db p a db') : p.run ask db = (.ok a, db') :=
  run_of_ok _ (h db)

end Prog.Returns

namespace Prog.Fails

variable {ask : S.Query → S.Answer} {db db₁ : S.State}

theorem raise (e : S.Err) : Fails ask db (.raise e : Prog S α) := fun _ => ⟨e, db, rfl⟩

theorem bind {p : Prog S α} (hp : Fails ask db p) (f : α → Prog S β) : Fails ask db (p >>= f) := by
  intro base
  obtain ⟨e, cur, he⟩ := hp base
  exact ⟨e, cur, exec_bind_of_error _ _ _ he⟩

/-- What comes after a part that returns may fail. -/
theorem after {p : Prog S α} {f : α → Prog S β} {a : α} (hp : Returns ask db p a db₁)
    (hf : Fails ask db₁ (f a)) : Fails ask db (p >>= f) := by
  intro base
  obtain ⟨e, cur, he⟩ := hf base
  exact ⟨e, cur, (exec_bind_of_ok _ _ _ (hp base)).trans he⟩

/-- A request that fails leaves the database alone. -/
theorem run {p : Prog S α} (h : Fails ask db p) : ∃ e, p.run ask db = (.error e, db) := by
  obtain ⟨e, cur, he⟩ := h db
  exact ⟨e, run_of_error _ he⟩

end Prog.Fails

/-- A loop whose steps return exactly for the elements with `ok` returns if all elements are such, with what its
steps pass on about the elements behind them; otherwise it fails. -/
theorem Prog.foldlM_cases {ask : S.Query → S.Answer} {l : List α} {f : β → α → Prog S β} {ok : α → Prop}
    {I : List α → β → S.State → Prop}
    (h : ∀ done a rest b db, done ++ a :: rest = l → I done b db →
      (ok a → ∃ b' db', Returns ask db (f b a) b' db' ∧ I (done ++ [a]) b' db') ∧
        (¬ ok a → Fails ask db (f b a)))
    {b : β} {db : S.State} (h₀ : I [] b db) :
    ((∀ a ∈ l, ok a) → ∃ b' db', Returns ask db (l.foldlM f b) b' db' ∧ I l b' db') ∧
      ((∃ a ∈ l, ¬ ok a) → Fails ask db (l.foldlM f b)) := by
  -- the induction is on what is left of the list, for every part that is done
  have hrest : ∀ rest done b db, done ++ rest = l → I done b db →
      ((∀ a ∈ rest, ok a) → ∃ b' db', Returns ask db (rest.foldlM f b) b' db' ∧ I l b' db') ∧
        ((∃ a ∈ rest, ¬ ok a) → Fails ask db (rest.foldlM f b)) := by
    intro rest
    induction rest with
    | nil =>
      intro done b db hl hI
      rw [List.append_nil] at hl
      exact ⟨fun _ => ⟨b, db, .ret b, hl ▸ hI⟩, fun ⟨_, ha, _⟩ => (nomatch ha)⟩
    | cons a rest ih =>
      intro done b db hl hI
      obtain ⟨hok, hfail⟩ := h done a rest b db hl hI
      rw [List.foldlM_cons]
      by_cases ha : ok a
      · obtain ⟨b₁, db₁, hret, hI₁⟩ := hok ha
        obtain ⟨hall, hsome⟩ := ih (done ++ [a]) b₁ db₁ (by simpa using hl) hI₁
        refine ⟨fun hrest => ?_, fun ⟨x, hx, hnot⟩ => ?_⟩
        · obtain ⟨b', db', hret', hI'⟩ := hall fun x hx => hrest x (List.mem_cons_of_mem _ hx)
          exact ⟨b', db', hret.bind hret', hI'⟩
        · rcases List.mem_cons.mp hx with rfl | hx
          · exact absurd ha hnot
          · exact .after hret (hsome ⟨x, hx, hnot⟩)
      · exact ⟨fun hrest => absurd (hrest a List.mem_cons_self) ha, fun _ => (hfail ha).bind _⟩
  exact hrest l [] b db rfl h₀

/-- What every request keeps holds after every run. -/
theorem runAll_inv {rs : List (Request S α)} (h : ∀ r ∈ rs, r.prog.Keeps I) {db : S.State}
    (hdb : I db) : I (runAll rs db) := by
  induction rs generalizing db with
  | nil => exact hdb
  | cons r rs ih =>
    exact ih (fun r' hr' => h r' (by simp [hr'])) ((h r (by simp)).run r.ask hdb)

end DiddiGo.Transactions

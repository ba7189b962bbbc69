import DiddiGo.Data.Proofs.JsonTextProofs
import DiddiGo.Data.Proofs.TextProofs
import DiddiGo.Rides.LocationBatches

/-!
# The text of a batch

The text that is hashed determines the samples: every field ends where it ends.
-/

namespace DiddiGo.Rides.LocationBatches

open Data (Json)

/-! ## Texts that end where they end -/

/-- What `f` writes before `d` can be told from what follows. -/
def EndsBefore {α : Type} (d : Char) (f : α → List Char) : Prop :=
  ∀ a a' rest rest', f a ++ d :: rest = f a' ++ d :: rest' → a = a' ∧ rest = rest'

/-- A token without the delimiter. -/
theorem endsBefore_of_notMem {α : Type} {d : Char} {f : α → List Char} (hf : Function.Injective f)
    (hd : ∀ a, d ∉ f a) : EndsBefore d f := by
  intro a a' rest rest' h
  have hspan (a : α) (rest : List Char) : (f a ++ d :: rest).takeWhile (· ≠ d) = f a := by
    rw [List.takeWhile_append_of_pos]
    · simp
    · intro c hc
      have hne : c ≠ d := fun heq => hd a (heq ▸ hc)
      simpa using hne
  have htokens : f a = f a' := by rw [← hspan a rest, h, hspan a' rest']
  obtain rfl := hf htokens
  exact ⟨rfl, List.tail_eq_of_cons_eq (List.append_cancel_left h)⟩

/-- A quoted text. -/
theorem endsBefore_quote (d : Char) : EndsBefore d fun s => (Json.quote s).toList := by
  intro s s' rest rest' h
  obtain ⟨rfl, hrest⟩ := Json.quote_inj h
  exact ⟨rfl, List.tail_eq_of_cons_eq hrest⟩

/-! ## The fields of a sample -/

/-- The text of what may be `None`. -/
def optionalText {α : Type} (text : α → List Char) : Option α → List Char
  | some a => text a
  | none => "null".toList

theorem toList_dumps_optional {α : Type} (toJson : α → Json) (o : Option α) :
    (optional toJson o).dumps.toList = optionalText (fun a => (toJson a).dumps.toList) o := by
  cases o <;> rfl

/-- No text of a value starts with `n`. -/
theorem endsBefore_optionalText {α : Type} {d : Char} {text : α → List Char} (h : EndsBefore d text)
    (hnull : ∀ a rest, (text a ++ d :: rest).head? ≠ some 'n') : EndsBefore d (optionalText text) := by
  intro o o' rest rest' heq
  cases o with
  | none =>
    cases o' with
    | none => exact ⟨rfl, List.tail_eq_of_cons_eq (List.append_cancel_left heq)⟩
    | some a' =>
      refine absurd ?_ (hnull a' rest')
      change (optionalText text (some a') ++ d :: rest').head? = some 'n'
      rw [← heq]
      rfl
  | some a =>
    cases o' with
    | none =>
      refine absurd ?_ (hnull a rest)
      change (optionalText text (some a) ++ d :: rest).head? = some 'n'
      rw [heq]
      rfl
    | some a' =>
      obtain ⟨rfl, hrest⟩ := h a a' rest rest' heq
      exact ⟨rfl, hrest⟩

/-- Delimiters are not written in a number. -/
theorem not_isFloatChar_delimiter : ∀ d ∈ [',', '\x7d'], isFloatChar d = false := by
  intro d hd
  simp only [List.mem_cons, List.not_mem_nil, or_false] at hd
  rcases hd with rfl | rfl <;> rfl

/-- A text of number characters. -/
theorem head?_ne_of_isFloatChar {cs rest : List Char} {d : Char} (hd : d ∈ [',', '\x7d'])
    (hcs : cs.all isFloatChar = true) : (cs ++ d :: rest).head? ≠ some 'n' := by
  intro h
  cases cs with
  | nil =>
    obtain rfl := Option.some.inj h
    revert hd
    decide
  | cons c cs =>
    obtain rfl := Option.some.inj h
    exact absurd (List.all_eq_true.mp hcs _ (List.mem_cons_self ..)) (by decide)

theorem endsBefore_of_isFloatChar {α : Type} {d : Char} {f : α → List Char} (hd : d ∈ [',', '\x7d'])
    (hf : Function.Injective f) (hchars : ∀ a, (f a).all isFloatChar = true) : EndsBefore d f := by
  refine endsBefore_of_notMem hf fun a hmem => ?_
  have htrue := List.all_eq_true.mp (hchars a) d hmem
  rw [not_isFloatChar_delimiter d hd] at htrue
  exact Bool.noConfusion htrue

theorem pyFloat_injective : Function.Injective fun x : PyFloat => x.toJson.dumps.toList := by
  intro x y h
  have htext : x.text = y.text := String.toList_inj.mp h
  cases x
  cases y
  obtain rfl := htext
  rfl

theorem endsBefore_pyFloat {d : Char} (hd : d ∈ [',', '\x7d']) :
    EndsBefore d fun x : PyFloat => x.toJson.dumps.toList :=
  endsBefore_of_isFloatChar hd pyFloat_injective fun x => x.chars

theorem endsBefore_optional_pyFloat {d : Char} (hd : d ∈ [',', '\x7d']) :
    EndsBefore d fun o => (optional PyFloat.toJson o).dumps.toList := by
  simp only [toList_dumps_optional]
  exact endsBefore_optionalText (endsBefore_pyFloat hd) fun x _ => head?_ne_of_isFloatChar hd x.chars

/-- The digits of a natural number. -/
theorem all_isFloatChar_repr (n : ℕ) : n.repr.toList.all isFloatChar = true := by
  refine List.all_eq_true.mpr fun c hc => ?_
  rw [Nat.toList_repr] at hc
  have hdigit : c.isDigit = true := Nat.isDigit_of_mem_toDigits (by decide) (by decide) hc
  unfold isFloatChar
  rw [hdigit]
  rfl

theorem all_isFloatChar_int (n : ℤ) : (Json.int n).dumps.toList.all isFloatChar = true := by
  cases n with
  | ofNat n => exact all_isFloatChar_repr n
  | negSucc n =>
    change ("-" ++ (n + 1).repr).toList.all isFloatChar = true
    rw [String.toList_append, List.all_append, all_isFloatChar_repr]
    rfl

theorem int_injective : Function.Injective fun n : ℤ => (Json.int n).dumps.toList := by
  have hminus (m n : ℕ) : m.repr.toList ≠ ("-" ++ n.repr).toList := by
    intro h
    have hmem : '-' ∈ m.repr.toList := by
      rw [h, String.toList_append]
      exact List.mem_cons_self ..
    rw [Nat.toList_repr] at hmem
    exact absurd (Nat.isDigit_of_mem_toDigits (by decide) (by decide) hmem) (by decide)
  intro m n h
  cases m with
  | ofNat m =>
    cases n with
    | ofNat n => exact congrArg Int.ofNat (UUID.str_injective (String.toList_inj.mp h))
    | negSucc n => exact absurd h (hminus m (n + 1))
  | negSucc m =>
    cases n with
    | ofNat n => exact absurd h.symm (hminus n (m + 1))
    | negSucc n =>
      have htexts : "-" ++ (m + 1).repr = "-" ++ (n + 1).repr := String.toList_inj.mp h
      have hdigits : (m + 1).repr = (n + 1).repr := by simpa using htexts
      exact congrArg Int.negSucc (Nat.succ.inj (UUID.str_injective hdigits))

theorem endsBefore_optional_int {d : Char} (hd : d ∈ [',', '\x7d']) :
    EndsBefore d fun o => (optional Json.int o).dumps.toList := by
  simp only [toList_dumps_optional]
  exact endsBefore_optionalText (endsBefore_of_isFloatChar hd int_injective all_isFloatChar_int) fun n _ =>
    head?_ne_of_isFloatChar hd (all_isFloatChar_int n)

theorem endsBefore_optional_datetime (d : Char) :
    EndsBefore d fun o => (optional PyDatetime.toJson o).dumps.toList := by
  simp only [toList_dumps_optional]
  refine endsBefore_optionalText (fun t t' rest rest' h => ?_) fun t rest h => ?_
  · obtain ⟨hiso, hrest⟩ := endsBefore_quote d t.iso t'.iso rest rest' h
    cases t
    cases t'
    obtain rfl := hiso
    exact ⟨rfl, hrest⟩
  · change ((Json.quote t.iso).toList ++ d :: rest).head? = some 'n' at h
    unfold Json.quote at h
    rw [String.toList_ofList] at h
    exact absurd (Option.some.inj h) (by decide)

/-! ## Samples and batches -/

/-- A member of an object and what follows it. -/
def member (k : String) (text rest : List Char) : List Char := (Json.quote k).toList ++ ':' :: (text ++ rest)

theorem EndsBefore.member {α : Type} {d : Char} {f : α → List Char} (hf : EndsBefore d f) {k : String} {a a' : α}
    {rest rest' : List Char} (h : member k (f a) (d :: rest) = member k (f a') (d :: rest')) :
    a = a' ∧ rest = rest' :=
  hf a a' rest rest' (List.tail_eq_of_cons_eq (List.append_cancel_left h))

/-- The text of a sample: its members in the order of their keys. -/
theorem toList_dumps_sample (sample : RideLocationSample) (rest : List Char) :
    sample.toJson.dumps.toList ++ rest =
      '\x7b' :: member "accuracy_m" (optional PyFloat.toJson sample.accuracyM).dumps.toList
        (',' :: member "heading" (optional Json.int sample.heading).dumps.toList
          (',' :: member "lat" sample.lat.toJson.dumps.toList
            (',' :: member "lng" sample.lng.toJson.dumps.toList
              (',' :: member "recorded_at" (optional PyDatetime.toJson sample.recordedAt).dumps.toList
                (',' :: member "source" (Json.quote sample.source).toList
                  (',' :: member "speed_kmh" (optional PyFloat.toJson sample.speedKmh).dumps.toList
                    ('\x7d' :: rest))))))) := by
  have hmembers : sample.toJson.dumps = Json.objectText
      [("accuracy_m", (optional PyFloat.toJson sample.accuracyM).dumps),
        ("heading", (optional Json.int sample.heading).dumps), ("lat", sample.lat.toJson.dumps),
        ("lng", sample.lng.toJson.dumps), ("recorded_at", (optional PyDatetime.toJson sample.recordedAt).dumps),
        ("source", Json.quote sample.source), ("speed_kmh", (optional PyFloat.toJson sample.speedKmh).dumps)] := by
    unfold RideLocationSample.toJson Json.dumps
    simp only [Json.ofMembers, Json.render, Json.insertMember, String.reduceLT, if_true, if_false]
  rw [hmembers]
  unfold Json.objectText member
  simp

/-- The text of a sample ends where it ends. -/
theorem dumps_sample_inj {sample sample' : RideLocationSample} {rest rest' : List Char}
    (h : sample.toJson.dumps.toList ++ rest = sample'.toJson.dumps.toList ++ rest') :
    sample = sample' ∧ rest = rest' := by
  have hcomma : ',' ∈ [',', '\x7d'] := by decide
  rw [toList_dumps_sample, toList_dumps_sample] at h
  obtain ⟨haccuracy, h⟩ := (endsBefore_optional_pyFloat hcomma).member (List.tail_eq_of_cons_eq h)
  obtain ⟨hheading, h⟩ := (endsBefore_optional_int hcomma).member h
  obtain ⟨hlat, h⟩ := (endsBefore_pyFloat hcomma).member h
  obtain ⟨hlng, h⟩ := (endsBefore_pyFloat hcomma).member h
  obtain ⟨hrecorded, h⟩ := (endsBefore_optional_datetime ',').member h
  obtain ⟨hsource, h⟩ := (endsBefore_quote ',').member h
  obtain ⟨hspeed, hrest⟩ := (endsBefore_optional_pyFloat (by decide : '\x7d' ∈ [',', '\x7d'])).member h
  refine ⟨?_, hrest⟩
  cases sample
  cases sample'
  simp only [RideLocationSample.mk.injEq]
  exact ⟨hlat, hlng, hrecorded, hheading, hspeed, haccuracy, hsource⟩

/-- The samples after the first one, and the end of the array. -/
def moreSamples : List RideLocationSample → List Char
  | [] => [']']
  | sample :: rest => ',' :: (sample.toJson.dumps.toList ++ moreSamples rest)

theorem moreSamples_injective : Function.Injective moreSamples := by
  intro samples
  induction samples with
  | nil =>
    intro samples' h
    cases samples' with
    | nil => rfl
    | cons sample' samples' => exact absurd (List.head_eq_of_cons_eq h) (by decide)
  | cons sample samples ih =>
    intro samples' h
    cases samples' with
    | nil => exact absurd (List.head_eq_of_cons_eq h) (by decide)
    | cons sample' samples' =>
      obtain ⟨rfl, hrest⟩ := dumps_sample_inj (List.tail_eq_of_cons_eq h)
      rw [ih hrest]

theorem items_samplesJson (samples : List RideLocationSample) :
    (samplesJson samples).render.items = samples.map fun sample => sample.toJson.dumps := by
  induction samples with
  | nil => rfl
  | cons sample samples ih => exact congrArg (sample.toJson.dumps :: ·) ih

theorem payloadText_eq (samples : List RideLocationSample) :
    payloadText samples = Json.arrayText (samples.map fun sample => sample.toJson.dumps) := by
  cases samples with
  | nil => rfl
  | cons sample samples =>
    change Json.arrayText (sample.toJson.dumps :: (samplesJson samples).render.items) = _
    rw [items_samplesJson]
    rfl

theorem toList_intercalate_samples (sample : RideLocationSample) (samples : List RideLocationSample) :
    (",".intercalate ((sample :: samples).map fun sample => sample.toJson.dumps)).toList ++ [']'] =
      sample.toJson.dumps.toList ++ moreSamples samples := by
  induction samples generalizing sample with
  | nil => simp [moreSamples]
  | cons sample' samples ih =>
    have htail := ih sample'
    rw [List.map_cons] at htail
    rw [List.map_cons, List.map_cons, String.intercalate_cons_cons, String.toList_append, String.toList_append,
      List.append_assoc, List.append_assoc, htail]
    simp [moreSamples]

theorem toList_payloadText_cons (sample : RideLocationSample) (samples : List RideLocationSample) :
    (payloadText (sample :: samples)).toList = '[' :: (sample.toJson.dumps.toList ++ moreSamples samples) := by
  rw [payloadText_eq, ← toList_intercalate_samples]
  unfold Json.arrayText
  simp

/-- The text of a batch determines its samples. -/
theorem payloadText_injective : Function.Injective payloadText := by
  intro samples samples' h
  have hchars := congrArg String.toList h
  cases samples with
  | nil =>
    cases samples' with
    | nil => rfl
    | cons sample' samples' =>
      rw [toList_payloadText_cons, toList_dumps_sample] at hchars
      exact absurd (List.head_eq_of_cons_eq (List.tail_eq_of_cons_eq hchars)) (by decide)
  | cons sample samples =>
    cases samples' with
    | nil =>
      rw [toList_payloadText_cons, toList_dumps_sample] at hchars
      exact absurd (List.head_eq_of_cons_eq (List.tail_eq_of_cons_eq hchars)) (by decide)
    | cons sample' samples' =>
      rw [toList_payloadText_cons, toList_payloadText_cons] at hchars
      obtain ⟨rfl, hrest⟩ := dumps_sample_inj (List.tail_eq_of_cons_eq hchars)
      rw [moreSamples_injective hrest]

end DiddiGo.Rides.LocationBatches

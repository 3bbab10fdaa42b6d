import ConfigResolver.Run

/-!
# What a run inherits from its parts

A run that is put together by binding inherits properties from its parts: which errors it can end
with (`Run.ErrorsIn`), which values it can end in (`Run.ValuesIn`), that its result and events do
not depend on the state of the store (`Run.Steady`), and the value that it always ends in
(`Run.Yields`). `Run.course` forgets the value of a run and keeps its failure and its events;
`Run.forM_eq_error` and `Run.forM_cases` say how runs that are made one after the other end.
-/

namespace ConfigResolver

theorem callsOf_flatMap {ι : Type} (is : List ι) (f : ι → List Event) :
    callsOf (is.flatMap f) = is.flatMap fun i ↦ callsOf (f i) :=
  List.filterMap_flatMap

namespace Run

variable {σ α β : Type} {x : Run σ α} {f : α → Run σ β}

/-- A run and what follows it end in an error if one of them does. -/
theorem result_bind_error {s : σ} {e : Error} (h : ((x >>= f) s).result = .error e) :
    (x s).result = .error e ∨
      ∃ a, (x s).result = .ok a ∧ (f a (x s).store).result = .error e := by
  cases hx : (x s).result with
  | ok a =>
    rw [bind_of_ok hx] at h
    exact .inr ⟨a, rfl, h⟩
  | error e' =>
    rw [bind_of_error hx] at h
    cases h
    exact .inl rfl

/-- A run and what follows it end in a value if both of them do. -/
theorem result_bind_ok {s : σ} {b : β} (h : ((x >>= f) s).result = .ok b) :
    ∃ a, (x s).result = .ok a ∧ (f a (x s).store).result = .ok b := by
  cases hx : (x s).result with
  | ok a =>
    rw [bind_of_ok hx] at h
    exact ⟨a, rfl, h⟩
  | error e =>
    rw [bind_of_error hx] at h
    cases h

/-- Where what follows asks for nothing, the calls are those of the first run. -/
theorem callsOf_bind_left (hf : ∀ a s, callsOf (f a s).events = []) (s : σ) :
    callsOf ((x >>= f) s).events = callsOf (x s).events := by
  cases hx : (x s).result with
  | ok a => rw [bind_of_ok hx, callsOf_append, hf, List.append_nil]
  | error e => rw [bind_of_error hx]

/-! ## The errors of a run -/

/-- Every error that the run can end with has the property `P`. -/
def ErrorsIn (P : Error → Prop) (x : Run σ α) : Prop := ∀ s e, (x s).result = .error e → P e

namespace ErrorsIn

variable {P : Error → Prop}

theorem pure (a : α) : ErrorsIn P (Pure.pure a : Run σ α) := by
  rintro s e ⟨⟩

theorem fail {e : Error} (h : P e) : ErrorsIn P (Run.fail e : Run σ α) := by
  rintro s _ ⟨⟩
  exact h

theorem log (record : Record) : ErrorsIn P (Run.log record : Run σ Unit) := by
  rintro s e ⟨⟩

theorem askGet (store : Store σ) (name : String) : ErrorsIn P (Run.askGet store name) := by
  rintro s e ⟨⟩

theorem bind (hx : ErrorsIn P x) (hf : ∀ a, ErrorsIn P (f a)) : ErrorsIn P (x >>= f) := by
  intro s e h
  rcases result_bind_error h with h | ⟨a, -, h⟩
  · exact hx s e h
  · exact hf a _ e h

end ErrorsIn

/-! ## The values of a run -/

/-- Every value that the run can end in has the property `P`. -/
def ValuesIn (P : α → Prop) (x : Run σ α) : Prop := ∀ s a, (x s).result = .ok a → P a

namespace ValuesIn

variable {P : α → Prop} {Q : β → Prop}

theorem pure {a : α} (h : P a) : ValuesIn P (Pure.pure a : Run σ α) := by
  rintro s _ ⟨⟩
  exact h

/-- What follows need only look at the values that there can be. -/
theorem bind (hx : ValuesIn P x) (hf : ∀ a, P a → ValuesIn Q (f a)) : ValuesIn Q (x >>= f) := by
  intro s b h
  obtain ⟨a, ha, hb⟩ := result_bind_ok h
  exact hf a (hx s a ha) _ b hb

theorem map {g : α → β} (hx : ValuesIn P x) (hg : ∀ a, P a → Q (g a)) : ValuesIn Q (g <$> x) := by
  rw [map_eq_pure_bind]
  exact hx.bind fun a ha ↦ .pure (hg a ha)

theorem mapError (g : Error → Error) (hx : ValuesIn P x) : ValuesIn P (Run.mapError g x) := by
  intro s a h
  rw [mapError_apply] at h
  cases hresult : (x s).result with
  | ok a' =>
    rw [hresult] at h
    cases h
    exact hx s a hresult
  | error e =>
    rw [hresult] at h
    cases h

end ValuesIn

/-! ## Independence of the store's state -/

/-- The result and the events of the run are the same from every state of the store. -/
def Steady (x : Run σ α) : Prop :=
  ∀ s s', (x s).result = (x s').result ∧ (x s).events = (x s').events

namespace Steady

theorem pure (a : α) : Steady (Pure.pure a : Run σ α) := fun _ _ ↦ ⟨rfl, rfl⟩

theorem fail (e : Error) : Steady (Run.fail e : Run σ α) := fun _ _ ↦ ⟨rfl, rfl⟩

theorem log (record : Record) : Steady (Run.log record : Run σ Unit) := fun _ _ ↦ ⟨rfl, rfl⟩

theorem bind (hx : Steady x) (hf : ∀ a, Steady (f a)) : Steady (x >>= f) := by
  intro s s'
  obtain ⟨hresult, hevents⟩ := hx s s'
  cases h : (x s).result with
  | ok a =>
    obtain ⟨hresult', hevents'⟩ := hf a (x s).store (x s').store
    rw [bind_of_ok h, bind_of_ok (hresult ▸ h)]
    exact ⟨hresult', by rw [hevents, hevents']⟩
  | error e =>
    rw [bind_of_error h, bind_of_error (hresult ▸ h)]
    exact ⟨rfl, hevents⟩

theorem mapError (g : Error → Error) (hx : Steady x) : Steady (Run.mapError g x) := by
  intro s s'
  obtain ⟨hresult, hevents⟩ := hx s s'
  rw [mapError_apply, mapError_apply, hresult, hevents]
  exact ⟨rfl, rfl⟩

theorem askGet {store : Store σ} {name : String}
    (h : ∀ s s', (store.get name s).1 = (store.get name s').1) :
    Steady (Run.askGet store name) := by
  intro s s'
  rw [askGet_apply, askGet_apply, h s s']
  exact ⟨rfl, rfl⟩

end Steady

/-! ## Runs with one value -/

/-- From every state of the store the run ends in the value. -/
def Yields (x : Run σ α) (a : α) : Prop := ∀ s, (x s).result = .ok a

namespace Yields

variable {a : α} {b : β}

theorem pure (a : α) : Yields (Pure.pure a : Run σ α) a := fun _ ↦ rfl

theorem bind (hx : Yields x a) (hf : Yields (f a) b) : Yields (x >>= f) b := by
  intro s
  rw [bind_of_ok (hx s)]
  exact hf _

theorem map (g : α → β) (hx : Yields x a) : Yields (g <$> x) (g a) := by
  intro s
  rw [map_apply, hx s]
  rfl

theorem mapError (g : Error → Error) (hx : Yields x a) : Yields (Run.mapError g x) a := by
  intro s
  rw [mapError_apply, hx s]
  rfl

end Yields

/-- A steady run that ends in a value once always does. -/
theorem Steady.yields (hx : Steady x) {s : σ} {a : α} (h : (x s).result = .ok a) : Yields x a :=
  fun s' ↦ (hx s' s).1.trans h

theorem mapError_map (g : Error → Error) (f : α → β) (x : Run σ α) :
    mapError g (f <$> x) = f <$> mapError g x := by
  funext s
  simp only [mapError_apply, map_apply]
  cases (x s).result <;> rfl

theorem mapError_bind (g : Error → Error) (x : Run σ α) (f : α → Run σ β) :
    mapError g (x >>= f) = mapError g x >>= fun a ↦ mapError g (f a) := by
  funext s
  have hx : (mapError g x s).result = (x s).result.mapError g := rfl
  cases h : (x s).result with
  | ok a =>
    rw [h] at hx
    rw [mapError_apply, bind_of_ok h, bind_of_ok hx]
    rfl
  | error e =>
    rw [h] at hx
    rw [mapError_apply, bind_of_error h, bind_of_error hx]
    rfl

/-! ## The course of a run -/

/-- The run without its value: what is left is whether it fails and what happens. -/
def course (x : Run σ α) : Run σ Unit := x >>= fun _ ↦ pure ()

@[simp] theorem course_pure (a : α) : course (pure a : Run σ α) = pure () := pure_bind _ _

@[simp] theorem course_map (g : α → β) (x : Run σ α) : course (g <$> x) = course x := by
  simp [course]

theorem course_bind (x : Run σ α) (f : α → Run σ β) :
    course (x >>= f) = x >>= fun a ↦ course (f a) := by
  simp [course]

/-- A run whose value is not looked at counts only with its course. -/
theorem bind_eq_course_bind (x : Run σ α) (y : Run σ β) :
    (x >>= fun _ ↦ y) = (course x >>= fun _ ↦ y) := by
  simp [course]

theorem course_apply (x : Run σ α) (s : σ) :
    course x s = ⟨(x s).result.map fun _ ↦ (), (x s).events, (x s).store⟩ := by
  cases h : (x s).result with
  | ok a =>
    rw [course, bind_of_ok h]
    simp [Except.map]
  | error e =>
    rw [course, bind_of_error h]
    rfl

theorem result_course_eq_ok {s : σ} : (course x s).result = .ok () ↔ ∃ a, (x s).result = .ok a := by
  rw [course_apply]
  cases (x s).result <;> simp [Except.map]

theorem result_course_eq_error {s : σ} {e : Error} :
    (course x s).result = .error e ↔ (x s).result = .error e := by
  rw [course_apply]
  cases (x s).result <;> simp [Except.map]

theorem Steady.course (hx : Steady x) : Steady (Run.course x) :=
  hx.bind fun _ ↦ .pure ()

/-! ## One run after the other -/

/-- Runs one after the other fail where one of them fails after those before it have succeeded. -/
theorem forM_eq_error {ι : Type} {f : ι → Run σ Unit} {is : List ι} {s : σ} {e : Error}
    (h : ((forM is f : Run σ Unit) s).result = .error e) :
    ∃ before i after, is = before ++ i :: after ∧
      ((forM before f : Run σ Unit) s).result = .ok () ∧
      (f i ((forM before f : Run σ Unit) s).store).result = .error e := by
  induction is generalizing s with
  | nil => cases h
  | cons i is ih =>
    rw [List.forM_cons] at h
    rcases result_bind_error h with hi | ⟨_, hi, hrest⟩
    · exact ⟨[], i, is, rfl, rfl, hi⟩
    · obtain ⟨before, j, after, rfl, hbefore, hj⟩ := ih hrest
      refine ⟨i :: before, j, after, rfl, ?_⟩
      rw [List.forM_cons, bind_of_ok hi]
      exact ⟨hbefore, hj⟩

/-- Steady runs one after the other all succeed, or go on up to the first that fails; the events
are those of the runs that were made, each as it is from any state of the store. -/
theorem forM_cases {ι : Type} {f : ι → Run σ Unit} (hf : ∀ i, Steady (f i)) (s₀ s : σ)
    (is : List ι) :
    let out := (forM is f : Run σ Unit) s
    ((∀ i ∈ is, (f i s₀).result = .ok ()) ∧ out.result = .ok () ∧
        out.events = is.flatMap fun i ↦ (f i s₀).events) ∨
      ∃ before i after e, is = before ++ i :: after ∧
        (∀ j ∈ before, (f j s₀).result = .ok ()) ∧ (f i s₀).result = .error e ∧
        out.result = .error e ∧
        out.events = (before ++ [i]).flatMap fun j ↦ (f j s₀).events := by
  induction is generalizing s with
  | nil => exact .inl ⟨nofun, rfl, rfl⟩
  | cons i is ih =>
    obtain ⟨hresult, hevents⟩ := hf i s s₀
    cases hi : (f i s₀).result with
    | error e =>
      refine .inr ⟨[], i, is, e, rfl, nofun, hi, ?_⟩
      rw [List.forM_cons, bind_of_error (hresult.trans hi), hevents]
      exact ⟨rfl, by simp⟩
    | ok _ =>
      rw [List.forM_cons, bind_of_ok (hresult.trans hi), hevents]
      rcases ih (f i s).store with
        ⟨hall, hok, hall_events⟩ | ⟨before, j, after, e, rfl, hbefore, hj, herror, hj_events⟩
      · refine .inl ⟨List.forall_mem_cons.2 ⟨hi, hall⟩, hok, ?_⟩
        rw [hall_events]
        rfl
      · refine .inr ⟨i :: before, j, after, e, rfl, List.forall_mem_cons.2 ⟨hi, hbefore⟩, hj,
          herror, ?_⟩
        rw [hj_events]
        rfl

end Run

end ConfigResolver

import ConfigResolver.Error
import ConfigResolver.Log
import ConfigResolver.Store.Basic

/-!
# Runs

A run asks a store, reports what it does, and ends in a value or an error. `Run σ α` is such a run
over a store with states in `σ`: from a state it gives an `Outcome`, which holds the result, the
events in the order in which they happened, and the state of the store afterwards. A run that
fails keeps the events up to the failure.
-/

namespace ConfigResolver

/-- Something that happens during a run. -/
inductive Event where
  /-- A parameter was asked for. -/
  | get (name : String) (answer : Except StoreError String)
  /-- A page of a listing was asked for. -/
  | list (path : String) (token : Option String) (answer : Except StoreError Page)
  /-- Something was reported. -/
  | log (record : Record)

namespace Event

/-- The request that an event makes. -/
def call? : Event → Option Call
  | get name _ => some (.get name)
  | list path token _ => some (.list path token)
  | log _ => none

/-- The record that an event reports. -/
def record? : Event → Option Record
  | log record => some record
  | _ => none

end Event

/-- The requests among some events. -/
def callsOf (events : List Event) : List Call := events.filterMap Event.call?

/-- The records among some events. -/
def recordsOf (events : List Event) : List Record := events.filterMap Event.record?

@[simp] theorem callsOf_nil : callsOf [] = [] := rfl

@[simp] theorem callsOf_append (xs ys : List Event) :
    callsOf (xs ++ ys) = callsOf xs ++ callsOf ys := by simp [callsOf]

@[simp] theorem recordsOf_nil : recordsOf [] = [] := rfl

@[simp] theorem recordsOf_append (xs ys : List Event) :
    recordsOf (xs ++ ys) = recordsOf xs ++ recordsOf ys := by simp [recordsOf]

/-- What a run comes to. -/
@[ext]
structure Outcome (σ α : Type) where
  /-- The value, or why there is none. -/
  result : Except Error α
  /-- What happened, in order. -/
  events : List Event
  /-- The state of the store afterwards. -/
  store : σ

/-- A run over a store with states in `σ`. -/
def Run (σ α : Type) : Type := σ → Outcome σ α

namespace Run

variable {σ α β γ : Type}

/-- The run that ends at once in a value. -/
protected def pure (a : α) : Run σ α := fun s ↦ ⟨.ok a, [], s⟩

/-- The run that ends at once in an error. -/
def fail (e : Error) : Run σ α := fun s ↦ ⟨.error e, [], s⟩

/-- What follows a run that ended with `x`. -/
def next (x : Outcome σ α) (f : α → Run σ β) : Outcome σ β :=
  match x.result with
  | .ok a => ⟨(f a x.store).result, x.events ++ (f a x.store).events, (f a x.store).store⟩
  | .error e => ⟨.error e, x.events, x.store⟩

/-- One run, then the run that its value asks for. A failure ends both. -/
protected def bind (x : Run σ α) (f : α → Run σ β) : Run σ β := fun s ↦ next (x s) f

instance : Monad (Run σ) where
  pure := Run.pure
  bind := Run.bind

/-- The run that ends as a computation does. -/
def ofExcept (x : Except Error α) : Run σ α := fun s ↦ ⟨x, [], s⟩

/-- Reports something. -/
def log (record : Record) : Run σ Unit := fun s ↦ ⟨.ok (), [.log record], s⟩

/-- Asks a store for a parameter. -/
def askGet (store : Store σ) (name : String) : Run σ (Except StoreError String) := fun s ↦
  let (answer, s') := store.get name s
  ⟨.ok answer, [.get name answer], s'⟩

/-- Asks a store for a page of a listing. -/
def askList (store : Store σ) (path : String) (token : Option String) :
    Run σ (Except StoreError Page) := fun s ↦
  let (answer, s') := store.list path token s
  ⟨.ok answer, [.list path token answer], s'⟩

/-- The run with its error changed. -/
def mapError (f : Error → Error) (x : Run σ α) : Run σ α := fun s ↦
  let out := x s
  { out with result := out.result.mapError f }

@[simp] theorem pure_apply (a : α) (s : σ) : (pure a : Run σ α) s = ⟨.ok a, [], s⟩ := rfl

@[simp] theorem fail_apply (e : Error) (s : σ) : (fail e : Run σ α) s = ⟨.error e, [], s⟩ := rfl

@[simp] theorem ofExcept_apply (x : Except Error α) (s : σ) :
    (ofExcept x : Run σ α) s = ⟨x, [], s⟩ := rfl

@[simp] theorem ofExcept_ok (a : α) : (ofExcept (.ok a) : Run σ α) = pure a := rfl

@[simp] theorem ofExcept_error (e : Error) : (ofExcept (.error e) : Run σ α) = fail e := rfl

@[simp] theorem log_apply (record : Record) (s : σ) :
    (log record : Run σ Unit) s = ⟨.ok (), [.log record], s⟩ := rfl

@[simp] theorem askGet_apply (store : Store σ) (name : String) (s : σ) :
    askGet store name s =
      ⟨.ok (store.get name s).1, [.get name (store.get name s).1], (store.get name s).2⟩ := rfl

@[simp] theorem askList_apply (store : Store σ) (path : String) (token : Option String) (s : σ) :
    askList store path token s = ⟨.ok (store.list path token s).1,
      [.list path token (store.list path token s).1], (store.list path token s).2⟩ := rfl

@[simp] theorem mapError_apply (f : Error → Error) (x : Run σ α) (s : σ) :
    mapError f x s = ⟨(x s).result.mapError f, (x s).events, (x s).store⟩ := rfl

theorem bind_apply (x : Run σ α) (f : α → Run σ β) (s : σ) : (x >>= f) s = next (x s) f := rfl

/-- A run that fails at once asks for nothing more. -/
@[simp] theorem fail_bind (e : Error) (f : α → Run σ β) : (fail e >>= f) = fail e := rfl

/-- After a value the events of the two runs are joined. -/
theorem bind_of_ok {x : Run σ α} {s : σ} {a : α} (h : (x s).result = .ok a) (f : α → Run σ β) :
    (x >>= f) s = ⟨(f a (x s).store).result, (x s).events ++ (f a (x s).store).events,
      (f a (x s).store).store⟩ := by
  simp [bind_apply, next, h]

/-- After an error nothing follows. -/
theorem bind_of_error {x : Run σ α} {s : σ} {e : Error} (h : (x s).result = .error e)
    (f : α → Run σ β) : (x >>= f) s = ⟨.error e, (x s).events, (x s).store⟩ := by
  simp [bind_apply, next, h]

@[simp] theorem map_apply (f : α → β) (x : Run σ α) (s : σ) :
    (f <$> x) s = ⟨(x s).result.map f, (x s).events, (x s).store⟩ := by
  change next (x s) (fun a ↦ pure (f a)) = _
  cases h : (x s).result <;> simp [next, h, Except.map]

instance : LawfulMonad (Run σ) := LawfulMonad.mk' (Run σ)
  (fun x ↦ by
    funext s
    change next (x s) (fun a ↦ Run.pure a) = x s
    rcases h : x s with ⟨r, events, t⟩
    cases r <;> simp [next, Run.pure])
  (fun a f ↦ by
    funext s
    change next (Run.pure a s) f = f a s
    simp [next, Run.pure])
  (fun x f g ↦ by
    funext s
    change next (next (x s) f) g = next (x s) (fun a s ↦ next (f a s) g)
    rcases x s with ⟨r, events, t⟩
    cases r with
    | error e => simp [next]
    | ok a =>
      simp only [next]
      rcases f a t with ⟨r', events', t'⟩
      cases r' <;> simp)

end Run

end ConfigResolver

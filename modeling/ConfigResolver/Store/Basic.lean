/-!
# Parameter stores

A store answers two requests: the value of a parameter by its full name, and one page of the
parameters under a path. Its answers may depend on a state that each request may change, so a
store that answers differently from call to call is one too. `Store.ofAnswers` is a store whose
answers depend on the request alone.
-/

namespace ConfigResolver

/-- Why a store gives no answer. -/
inductive StoreError where
  /-- There is no such parameter. -/
  | notFound (text : String)
  /-- The store cannot be reached or used. -/
  | unavailable (text : String)
  /-- Any other failure. -/
  | other (text : String)
deriving DecidableEq, Repr

namespace StoreError

/-- What the user sees. -/
def message : StoreError → String
  | notFound text => s!"parameter not found: {text}"
  | unavailable text => s!"parameter store unavailable: {text}"
  | other text => text

end StoreError

/-- A parameter with its full name. -/
structure Parameter where
  /-- The full name. -/
  name : String
  /-- The value. -/
  value : String
deriving DecidableEq, Repr

/-- One page of a listing. -/
structure Page where
  /-- The parameters on the page, in the order of the store. -/
  parameters : List Parameter
  /-- The token that asks for the next page; the last page has none. -/
  nextToken : Option String
deriving DecidableEq, Repr

/-- A request to a store. -/
inductive Call where
  /-- The value of a parameter. -/
  | get (name : String)
  /-- The page of a listing that a token asks for, or the first one. -/
  | list (path : String) (token : Option String)
deriving DecidableEq, Repr

/-- A store whose answers depend on a state. -/
structure Store (σ : Type) where
  /-- The value of a parameter. -/
  get : String → σ → Except StoreError String × σ
  /-- A page of a listing. -/
  list : String → Option String → σ → Except StoreError Page × σ

/-- Answers that depend on the request alone. -/
structure Answers where
  /-- The value of a parameter. -/
  get : String → Except StoreError String
  /-- A page of a listing. -/
  list : String → Option String → Except StoreError Page

namespace Store

/-- The store that gives the same answer to the same request, whatever its state. -/
def ofAnswers {σ : Type} (answers : Answers) : Store σ where
  get name s := (answers.get name, s)
  list path token s := (answers.list path token, s)

@[simp] theorem get_ofAnswers {σ : Type} (answers : Answers) (name : String) (s : σ) :
    (ofAnswers answers).get name s = (answers.get name, s) := rfl

@[simp] theorem list_ofAnswers {σ : Type} (answers : Answers) (path : String)
    (token : Option String) (s : σ) :
    (ofAnswers answers).list path token s = (answers.list path token, s) := rfl

end Store

end ConfigResolver

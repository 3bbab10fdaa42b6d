import ConfigResolver.Options
import ConfigResolver.Ssm.Reader
import ConfigResolver.Text.Quoted

/-!
# The parameter service as a store

A connection says which service is asked. A network carries requests to services and replies back;
what it does may depend on a state. Each call of the store is one request. There is a store only if
the library that carries its requests can be started.
-/

namespace ConfigResolver.Ssm

/-- Which service is asked, and as whom. -/
structure Connection where
  /-- The region. -/
  region : String
  /-- The address, where it is not the region's own. -/
  endpoint : Option String
  /-- The name of a set of credentials. -/
  profile : Option String
deriving DecidableEq, Repr

/-- What carries requests. There is no reply to a request that cannot be sent, or whose reply does
not come in time. -/
def Network (σ : Type) : Type := Connection → Request → σ → Option Reply × σ

/-- The network on which nothing is reached. -/
def Network.none {σ : Type} : Network σ := fun _ _ s ↦ (Option.none, s)

/-- The library by which services are asked. -/
structure Library (σ : Type) where
  /-- Whether it can be started, or why not. -/
  start : Except String Unit
  /-- What carries its requests. -/
  network : Network σ
  /-- How it reads replies. -/
  reader : Reader

/-- The library that can be started and reads JSON. -/
def Library.json {σ : Type} (network : Network σ) : Library σ := ⟨.ok (), network, .json⟩

namespace Connection

variable {σ : Type}

/-- The connection that options ask for. -/
def ofOptions (o : Options) : Connection := ⟨o.region, o.endpoint, o.profile⟩

/-- The store behind a connection. -/
def store (c : Connection) (reader : Reader) (network : Network σ) : Store σ where
  get name s :=
    let (reply, s') := network c (.ofCall (.get name)) s
    (answer reader.parameter reply >>= valueOf name, s')
  list path token s :=
    let (reply, s') := network c (.ofCall (.list path token)) s
    ((answer reader.listing reply).map pageOf, s')

/-- The store behind a connection, once the library is started. -/
def connect (c : Connection) (library : Library σ) : Except StoreError (Store σ) :=
  match library.start with
  | .ok () => .ok (c.store library.reader library.network)
  | .error reason => .error (.unavailable s!"failed to start runtime: {reason}")

/-- A connection as messages for developers show it. -/
def inspect (c : Connection) : String :=
  "SsmStore \x7b region: Some(Region(" ++ Text.quote c.region ++ ")) \x7d"

end Connection

end ConfigResolver.Ssm

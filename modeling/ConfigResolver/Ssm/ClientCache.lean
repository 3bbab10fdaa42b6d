import ConfigResolver.Ssm.Log

/-!
# Shared clients

A client is made once for each connection and shared from then on. Looking a client up, making it
and putting it into the cache are separate steps, so that several callers can make one at the same
time; the first that is put into the cache is the one that all of them get.
-/

namespace ConfigResolver.Ssm

/-- A client. Two clients for the same connection differ in their number. -/
structure Client where
  /-- What it is connected to. -/
  connection : Connection
  /-- How many clients were made before it. -/
  number : Nat
deriving DecidableEq, Repr

/-- The clients that are shared. -/
structure ClientCache where
  /-- The clients under their connections. -/
  clients : List (Connection × Client)
  /-- How many clients were ever made. -/
  made : Nat
deriving DecidableEq, Repr

namespace ClientCache

/-- The cache before any client was made. -/
def empty : ClientCache := ⟨[], 0⟩

/-- The client that is shared for a connection. -/
def find? (cache : ClientCache) (c : Connection) : Option Client := cache.clients.lookup c

/-- A new client for a connection, which is not shared yet. -/
def make (cache : ClientCache) (c : Connection) : Client × ClientCache :=
  (⟨c, cache.made⟩, { cache with made := cache.made + 1 })

/-- The client that is shared for a connection once a new one was offered: the new one only if
there was none. -/
def keep (cache : ClientCache) (c : Connection) (client : Client) : Client × ClientCache :=
  match cache.find? c with
  | some shared => (shared, cache)
  | none => (client, { cache with clients := (c, client) :: cache.clients })

/-- The cache without its clients. -/
def clear (cache : ClientCache) : ClientCache := { cache with clients := [] }

/-- The client for a connection, made if there is none, and what is reported. -/
def request (cache : ClientCache) (c : Connection) : Client × List Notice × ClientCache :=
  match cache.find? c with
  | some client => (client, [], cache)
  | none =>
    let (client, cache) := cache.make c
    let (client, cache) := cache.keep c client
    (client, [.clientCreated c], cache)

end ClientCache

end ConfigResolver.Ssm

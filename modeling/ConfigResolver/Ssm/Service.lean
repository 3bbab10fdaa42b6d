import ConfigResolver.Ssm.Store

/-!
# A service with prepared replies

For trying out a store without the real service: replies are given one after the other, whatever
is asked, and every request is kept.
-/

namespace ConfigResolver.Ssm

/-- A service with prepared replies. -/
structure Service where
  /-- The address of the service. -/
  url : String
  /-- Whether requests reach it. -/
  reachable : Bool
  /-- The replies still to be given. -/
  replies : List Reply
  /-- The requests so far, in order. -/
  requests : List (Connection × Request)
deriving DecidableEq, Repr

namespace Service

/-- The reply once all prepared ones are given. -/
def exhausted : Reply := ⟨400, [], ""⟩

/-- The service after a request, with its reply. -/
def reply (c : Connection) (r : Request) (s : Service) : Option Reply × Service :=
  if s.reachable && c.endpoint = some s.url then
    (some (s.replies.headD exhausted),
      { s with replies := s.replies.tail, requests := s.requests ++ [(c, r)] })
  else (none, s)

/-- The network on which only the service itself is reached. -/
def network : Network Service := reply

end Service

end ConfigResolver.Ssm

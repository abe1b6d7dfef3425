import SourceHarvest.Http.Exchange

/-!
# Scripted replies

A script stands in for a server: it has replies ready, hands them out one by one or by
the end of the address, and keeps the requests that reach it.  Where it has no reply
ready, it says that the service is unavailable.
-/

namespace SourceHarvest.Http

/-- What becomes of a request: a reply, or a connection that is closed without one. -/
inductive Reaction where
  | reply (reply : HttpReply)
  | close
deriving DecidableEq, Repr

namespace Reaction

/-- The reply where no other is ready. -/
def unavailable : Reaction :=
  reply { status := 503, body := "no response" }

/-- Statuses whose replies have no body. -/
def bodiless (status : Nat) : Bool :=
  status == 101 || status == 204 || status == 304

/-- A status of three digits that ends an exchange.  The statuses below 200 only announce a
reply, apart from the one by which a connection changes its protocol. -/
def endsExchange (status : Nat) : Bool :=
  status == 101 || (200 ≤ status && status ≤ 999)

/-- What the sender of a request sees. -/
def seen : Reaction → Option HttpReply
  | reply found =>
      if endsExchange found.status then
        some { found with body := if bodiless found.status then "" else found.body }
      else none
  | close => none

end Reaction

/-- The replies that are ready in order, and the requests so far. -/
structure ReplyQueue where
  ready : List Reaction
  requests : List HttpRequest

/-- Hand out the replies of a queue in order. -/
def ReplyQueue.transport : Transport ReplyQueue := fun request queue =>
  let reaction := queue.ready.head?.getD .unavailable
  (reaction.seen, { ready := queue.ready.drop 1, requests := queue.requests ++ [request] })

/-- The replies for the ends of addresses, and the requests so far. -/
structure RouteTable where
  routes : List (String × Reaction)
  requests : List HttpRequest

/-- Hand out the reply whose address ends as the request asks. -/
def RouteTable.transport : Transport RouteTable := fun request table =>
  let reaction := match table.routes.find? fun route =>
      route.1.toList.isSuffixOf request.url.toList with
    | some route => route.2
    | none => .unavailable
  (reaction.seen, { table with requests := table.requests ++ [request] })

/-- A transport over which nothing can be reached. -/
def unreachable {σ : Type} : Transport σ := fun _ state => (none, state)

end SourceHarvest.Http

import PanelClient.Http.Exchange

/-!
# Scripted backends

A script says what a backend replies, path by path: the replies of a path are used in order, and the
last one again and again. Every reply may take some time. A path without replies is not found.
-/

namespace PanelClient

/-- A reply of a script, and how many milliseconds it takes. -/
structure Scripted where
  reply : Http.Reply
  delay : Nat
deriving DecidableEq, Repr

/-- The replies that are still to come, by path. -/
structure Script where
  /-- What the addresses of requests begin with, before the path. -/
  baseUrl : String
  routes : List (String × List Scripted)
deriving Repr

namespace Script

/-- The reply where there is none. -/
def notFound : Scripted := ⟨.response 404 "\x7b\"message\":\"Not found\"\x7d", 0⟩

/-- What an address has after the first characters, if it begins with them. -/
def after (front text : List Char) : List Char :=
  if front.isPrefixOf text then text.drop front.length else text

def path (script : Script) (url : String) : String :=
  String.ofList (after script.baseUrl.toList url.toList)

/-- The next reply of a path, and the routes without it unless it is the last. -/
def take (path : String) : List (String × List Scripted) → Scripted × List (String × List Scripted)
  | [] => (notFound, [])
  | (route, replies) :: rest =>
    if route = path then
      match replies with
      | [] => (notFound, (route, replies) :: rest)
      | [reply] => (reply, (route, replies) :: rest)
      | reply :: others => (reply, (route, others) :: rest)
    else
      let (reply, rest) := take path rest
      (reply, (route, replies) :: rest)

def answer (script : Script) (request : Http.Request) : Scripted × Script :=
  let (reply, routes) := take (script.path request.url) script.routes
  (reply, { script with routes })

end Script

end PanelClient

import DocumentIngest.Web.Exchange

/-!
# Scripted servers

A server that stands at one address and hands out replies one after another,
whatever it is asked.  It keeps the requests.  When no reply is left it fails.
-/

namespace DocumentIngest

/-- A server with its replies. -/
structure ScriptedServer where
  scheme : String := "http"
  host : String
  port : Nat
  /-- The replies that are left. -/
  replies : List WebReply
  /-- The requests that were answered. -/
  requests : List WebRequest := []
deriving DecidableEq, Repr

namespace ScriptedServer

/-- Whether a server stands at an address. -/
def standsAt (server : ScriptedServer) (url : Url) : Bool :=
  url.scheme == server.scheme && url.host == some server.host && url.port == some server.port

/-- What is answered when no reply is left. -/
def exhausted : WebReply :=
  ⟨500, ""⟩

/-- Hands out the next reply. -/
def answer (server : ScriptedServer) (request : WebRequest) :
    ScriptedServer × Option WebReply :=
  if server.standsAt request.url then
    ({ server with
        replies := server.replies.tail
        requests := server.requests ++ [request] },
      some (server.replies.headD exhausted))
  else (server, none)

instance : WebServer ScriptedServer where
  answer := answer

end ScriptedServer

end DocumentIngest

import CatalogDdl.Connection.Settings
import CatalogDdl.Output.Server

/-! # Networks

Where connection strings lead.

* `Route`: a server, and what was asked on the way to it.
* `Network`: servers by host and TCP port. `Network.route` finds the first one that will do.
-/

namespace CatalogDdl
set_option autoImplicit false

/-- Where a connection string leads. Where it leads nowhere the server is one that nobody can connect to. Before
that, servers may be asked what they are like. -/
structure Route where
  asked : List ServerEvent
  server : Server

/-- The servers, by host and TCP port. None of them encrypts what it sends. -/
def Network : Type :=
  String → Nat → Option Server

namespace Network

/-- The question in which mode a server works. -/
def modeQuestion : String :=
  "SHOW transaction_read_only"

/-- The servers at the addresses of a connection string where somebody can log in. -/
def reachable (network : Network) (settings : Connection.Settings) : List Server :=
  ((settings.addresses?.getD []).filterMap fun (host, tcpPort) => network host tcpPort).filter (·.isReachable)

/-- The way to the first server that will do. If the mode matters each is asked for it before. -/
def routeAmong (settings : Connection.Settings) : List Server → Route
  | [] => ⟨[], .absent⟩
  | server :: others =>
    if settings.asksMode then
      let answers := server.accepts (.statement 0)
      let asked := ⟨.statement modeQuestion, answers⟩
      if answers && server.mode.any settings.takesMode then ⟨[asked], server⟩
      else
        let route := routeAmong settings others
        ⟨asked :: route.asked, route.server⟩
    else ⟨[], server⟩

def route (network : Network) (text : String) : Route :=
  match (Connection.Settings.ofText? text).filter (·.isOpen) with
  | none => ⟨[], .absent⟩
  | some settings => routeAmong settings (network.reachable settings)

end Network

end CatalogDdl

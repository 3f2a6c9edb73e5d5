import Drill.Http.Controller
import Drill.Http.Web

/-!
# Clients that run

The clients of a counter and of a management server on the library `web`.
-/

namespace Drill.Http

open Number (Double)

/-- A handle on a counter of the web. -/
abbrev CounterClient := CounterService web

/-- A handle on the counter of an implementation, at a moment in seconds since 1970. -/
def CounterClient.of (base implementation : String) (timeout : Double) (now : Int) :
    CounterClient :=
  CounterService.of base implementation timeout (web.opened now none)

/-- A controller of nodes of the web. -/
abbrev ManagementClient := NodeController web

/-- A controller that has sent nothing yet, at a moment in seconds since 1970. -/
def ManagementClient.of (base : String) (servers : Assoc String (String × String))
    (defaultHost : String) (credentials : Option Credentials) (timeout : Double) (now : Int) :
    ManagementClient :=
  NodeController.of base servers defaultHost timeout (web.opened now credentials)

end Drill.Http

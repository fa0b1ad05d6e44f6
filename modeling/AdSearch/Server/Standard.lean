import AdSearch.Server.Address
import AdSearch.Server.Body
import AdSearch.Server.Reply

/-!
# The standard framework

The framework that the service is run with.
-/

namespace AdSearch.Server

open AdSearch.Http

/-- How deep a body may be nested, with what else is on the stack. -/
def bodyRoom : Nat := 900

/-- How deep a row may be nested. -/
def replyRoom : Nat := 250

def platform : Platform where
  mountFault? := mountFault?
  path? := path?
  headers := Request.headerTable
  takesJson := takesJson
  logRoom := bodyRoom
  bodyRoom := bodyRoom
  replyRoom := replyRoom
  route := route
  arguments := arguments bodyRoom
  reply := reply replyRoom
  traceback := fun _ => ["Traceback (most recent call last):"]

def standard : Framework where
  toPlatform := platform
  serve := fun w => w.rescue (w.wrap (w.guard (platform.respond w)))

end AdSearch.Server

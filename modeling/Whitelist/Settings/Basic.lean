import Whitelist.Remote.Client
import Whitelist.Settings.Tree
import Whitelist.Store.Memory
import Whitelist.Text.Cut

/-!
# Settings

What the console is set up with. Every setting has a default, which also stands in for a value that
cannot be read as what is wanted; only a lock policy that does not exist is an error.

## What is here

* `Settings`, `Settings.ofTree` — all settings, and how they are read from their tree.
* `Settings.names` — their names.
* `Settings.isRemote` — where the rules are.
* `Settings.client`, `Settings.caller`, `Settings.leases` — what the two kinds of stores are set up
  with.
-/

set_option autoImplicit false
namespace Whitelist

/-- What the console is set up with. -/
structure Settings where
  mode : String := "local"
  servers : List String := ["http://127.0.0.1:8080"]
  username : String := ""
  password : String := ""
  contextPath : String := ""
  /-- Milliseconds until a server has to accept a connection. -/
  connectTimeout : UInt64 := 5000
  /-- Milliseconds until a server has to answer. -/
  readTimeout : UInt64 := 30000
  localUserId : String := "admin"
  localUsername : String := "admin"
  pageSize : UInt64 := 10
  lockPolicy : Except Fault LockPolicy := .ok .grab
  /-- How many milliseconds a lease lasts; 0 is for ever. -/
  leaseTerm : UInt64 := 0
  logLevel : String := "info"
  logAsJson : Bool := false

namespace Settings

/-! ## Reading -/

/-- A setting as text. -/
def textAt (tree : Setting) (name : String) (fallback : String) : String :=
  ((tree.find? name).bind Setting.text?).getD fallback

/-- A setting as a whole number. -/
def intAt? (tree : Setting) (name : String) : Option Int64 :=
  (tree.find? name).bind Setting.int?

/-- The list of servers: a list of texts, or one text with commas. Empty entries do not count, and a
list without entries is no list. -/
def serversOf (setting : Option Setting) (fallback : List String) : List String :=
  let given := match setting.bind Setting.items? with
    | some items => items.filterMap Setting.text?
    | none => Text.pieces ((setting.bind Setting.text?).getD "")
  let servers := given.filter (· ≠ "")
  if servers = [] then fallback else servers

/-- A number of milliseconds; the bits of a negative one are taken as they are. -/
def millisecondsAt (tree : Setting) (name : String) (fallback : UInt64) : UInt64 :=
  ((intAt? tree name).map Int64.toUInt64).getD fallback

/-- A page size has to be positive. -/
def pageSizeOf (n : Option Int64) (fallback : UInt64) : UInt64 :=
  ((n.filter (0 < ·)).map Int64.toUInt64).getD fallback

/-- A negative term counts as 0. -/
def leaseTermOf (n : Option Int64) (fallback : UInt64) : UInt64 :=
  (n.map fun n => (max n 0).toUInt64).getD fallback

/-- The lock policy of a name, where there is one. -/
def lockPolicyOf (name : Option String) (fallback : Except Fault LockPolicy) :
    Except Fault LockPolicy :=
  match name with
  | some name => LockPolicy.ofName name
  | none => fallback

/-- The settings of a tree. The local user goes by the user id unless another name is given. -/
def ofTree (tree : Setting) : Settings :=
  let defaults : Settings := {}
  let userId := textAt tree "console.local.user_id" defaults.localUserId
  { mode := textAt tree "console.mode" defaults.mode
    servers := serversOf (tree.find? "console.remote.server_addrs") defaults.servers
    username := textAt tree "console.remote.username" defaults.username
    password := textAt tree "console.remote.password" defaults.password
    contextPath := textAt tree "console.remote.context_path" defaults.contextPath
    connectTimeout :=
      millisecondsAt tree "console.remote.connect_timeout_ms" defaults.connectTimeout
    readTimeout := millisecondsAt tree "console.remote.read_timeout_ms" defaults.readTimeout
    localUserId := userId
    localUsername := textAt tree "console.local.username" userId
    pageSize := pageSizeOf (intAt? tree "console.page_size") defaults.pageSize
    lockPolicy := lockPolicyOf ((tree.find? "lock.policy").bind Setting.text?) defaults.lockPolicy
    leaseTerm := leaseTermOf (intAt? tree "lock.lease_ttl_ms") defaults.leaseTerm
    logLevel := textAt tree "logging.level" defaults.logLevel
    logAsJson := ((tree.find? "logging.json").bind Setting.flag?).getD defaults.logAsJson }

/-- The dotted names of all settings. -/
def names : List String := [
  "console.mode", "console.remote.server_addrs", "console.remote.username",
  "console.remote.password", "console.remote.context_path", "console.remote.connect_timeout_ms",
  "console.remote.read_timeout_ms", "console.local.user_id", "console.local.username",
  "console.page_size", "lock.policy", "lock.lease_ttl_ms", "logging.level", "logging.json"]

/-! ## What follows from them -/

variable (settings : Settings)

/-- Whether the rules are kept on a server. Every mode but this one is local. -/
def isRemote : Bool := settings.mode = "remote"

/-- What a client is set up with. -/
def client : ClientSettings where
  servers := settings.servers
  username := settings.username
  password := settings.password
  contextPath := settings.contextPath

/-- Who uses the in-process store. -/
def caller : Caller := ⟨settings.localUserId, settings.localUsername, none⟩

/-- The leases of the in-process store. -/
def leases : Except Fault LeaseTable :=
  settings.lockPolicy.map fun policy => .ofMilliseconds policy settings.leaseTerm.toNat

end Settings
end Whitelist

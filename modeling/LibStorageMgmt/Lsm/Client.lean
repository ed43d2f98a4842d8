import LibStorageMgmt.Lsm.Transport

/-!
# The client (`lsm/_client.py`)

`Client.__init__` locates the plugin's socket from the URI's scheme and
registers with the plugin; `close` unregisters and closes the socket;
`available_plugins` probes the socket directory and asks every plugin for its
description and version. Every other method is a stub: it binds its
arguments (`_del_self(locals())`) into one request, forwards it over the
transport, and hands the reply to the `@_return_requires` check of its
declared shape. The search-constrained listing stubs first reject an
unsupported `search_key` (`_check_search_key`), and `pool_create` a
non-positive size, before anything is written to the socket.

`uri_parse` and the data classes' `SUPPORTED_SEARCH_KEYS` live in `lsm`
outside src/: the first is the section variable `uriParse` (the scheme of an
accepted URI), the second the structure `SearchKeys`.
-/

namespace LibStorageMgmt.Lsm

open Py

/-- Modelled from the spec: `@_return_requires(shape)` around a stub; a reply
of another shape is a `PLUGIN_BUG` (the spec gives no message text). -/
def returnRequires (shape : Shape) (x : ClientM PyVal) : ClientM PyVal := do
  let v ← x
  if shape.conforms v then pure v else throw (.lsm ⟨.pluginBug, ""⟩)

theorem returnRequires_ok {shape : Shape} {x : ClientM PyVal} {n n' : Net} {v : PyVal}
    (hx : x n = .ok v n') (hv : shape.conforms v) : returnRequires shape x n = .ok v n' := by
  simp [returnRequires, PyM.bind_ok hx, hv]

theorem returnRequires_error {shape : Shape} {x : ClientM PyVal} {n n' : Net} {e : PyExc}
    (hx : x n = .error e n') : returnRequires shape x n = .error e n' := by
  simp [returnRequires, PyM.bind_error hx]

/-- The check itself writes nothing. -/
theorem returnRequires_state (shape : Shape) (x : ClientM PyVal) (n : Net) :
    PyM.stateAfter (returnRequires shape x n) = PyM.stateAfter (x n) := by
  cases hx : x n with
  | ok v n' =>
    unfold returnRequires
    rw [PyM.bind_ok hx]
    split <;> rfl
  | error e n' => rw [returnRequires_error hx]

theorem returnRequires_ok_conforms {shape : Shape} {x : ClientM PyVal} {n n' : Net} {v : PyVal}
    (h : returnRequires shape x n = .ok v n') : shape.conforms v := by
  unfold returnRequires at h
  cases hx : x n with
  | ok w n₁ =>
    rw [PyM.bind_ok hx] at h
    split at h
    · cases h
      assumption
    · cases h
  | error e n₁ =>
    rw [PyM.bind_error hx] at h
    cases h

/-- The `@_return_requires` declaration of each modelled RPC stub, by the
method name it sends. -/
def returnRequiresOf : String → Option Shape
  | "plugin_unregister" | "time_out_set" | "job_free" | "initiator_grant"
  | "initiator_revoke" => some .none
  | "time_out_get" => some (.one .int)
  | "job_status" => some (.tuple [.int, .int, .iData])
  | "capabilities" => some (.one .capabilities)
  | "plugin_info" => some (.tuple [.unicode, .unicode])
  | "pools" => some (.list .pool)
  | "pool_create" => some (.tuple [.unicode, .pool])
  | "systems" => some (.list .system)
  | "initiators" | "initiators_granted_to_volume" => some (.list .initiator)
  | "volumes" | "volumes_accessible_by_initiator" => some (.list .volume)
  | "volume_create" => some (.tuple [.unicode, .volume])
  | "volume_delete" => some (.one .unicode)
  | "disks" => some (.list (.cls "Disk"))
  | "access_groups" => some (.list (.cls "AccessGroup"))
  | "fs" => some (.list (.cls "FileSystem"))
  | "exports" => some (.list (.cls "NfsExport"))
  | _ => none

/-! ## Locating the plugin -/

/-- `os.path.join(a, b)`: `b` when it is absolute, else `a` and `b` with one
`/` between them. -/
def joinPath (a b : String) : String :=
  if b.data.head? = some '/' then b
  else if a.data = [] ∨ a.data.getLast? = some '/' then a ++ b
  else a ++ "/" ++ b

/-- The error `_raise_no_daemon()` raises. -/
def daemonNotRunningError : LsmError :=
  ⟨.daemonNotRunning, "The libStorageMgmt daemon is not running (process " ++
    "name lsmd), try \x27service libstoragemgmt start\x27"⟩

/-- `_raise_no_daemon()`. -/
def raiseNoDaemon {α : Type} : ClientM α :=
  throw (.lsm daemonNotRunningError)

@[simp] theorem raiseNoDaemon_apply {α : Type} (n : Net) :
    (raiseNoDaemon : ClientM α) n = .error (.lsm daemonNotRunningError) n := rfl

/-- The plugin family of a scheme: `scheme.split("+")` unpacked into
`(plug, proto)` when the scheme holds a `+`. -/
def schemePlugin (scheme : String) : Except PyExc String :=
  if '+' ∈ scheme.data then
    match split '+' scheme with
    | [plug, _] => .ok plug
    | _ => .error .valueError
  else .ok scheme

variable (env : Env)

/-- The probe loop of `Client._check_daemon_exists`: connect to each file of
the walk in turn, close the first socket that connects and answer `True`; a
refused connect (`LsmError`) moves on to the next file. -/
def probe : List String → ClientM Bool
  | [] => pure false
  | uds :: rest =>
    tryCatch (do
        let s ← TransPort.getSocket env uds
        s.close
        pure true)
      fun
        | .lsm _ => probe rest
        | e => throw e

/-- `Client._check_daemon_exists()`. -/
def checkDaemonExists : ClientM Bool :=
  if env.pathExists env.base then probe env env.walk else pure false

variable (uriParse : String → Except PyExc String)

/-- `Client.__init__` up to `self.__start(...)`: the plugin's socket path
`<_plugin_uds_path()>/<plugin>` and the connection to it, or the
disambiguation between a missing plugin and a missing daemon. -/
def initConnect (uri : String) : ClientM TransPort := do
  let scheme ← PyM.ofExcept (uriParse uri)
  let plug ← PyM.ofExcept (schemePlugin scheme)
  let pluginPath := joinPath env.base plug
  if env.pathExists pluginPath then
    TransPort.getSocket env pluginPath
  else if (← checkDaemonExists env) then
    throw (.lsm ⟨.pluginNotExist, "Plug-in " ++ pluginPath ++ " not found!"⟩)
  else
    raiseNoDaemon

/-- A constructed `Client`. -/
structure Client where
  uri : String
  password : PyVal
  timeout : PyVal
  udsPath : String
  tp : TransPort

/-- The request of `__start(uri, password, timeout, flags)`. -/
def registerRequest (uri : String) (password timeout flags : PyVal) : Request :=
  ⟨"plugin_register",
    [("uri", .str uri), ("password", password), ("timeout", timeout), ("flags", flags)]⟩

/-- `Client(uri, plain_text_password, timeout_ms, flags)` (defaults `None`,
`30000`, `0`): connect, then `__start`, which sends `plugin_register`. -/
def Client.init (uri : String) (password timeoutMs flags : PyVal) : ClientM Client := do
  let tp ← initConnect env uriParse uri
  let _ ← tp.rpc env (registerRequest uri password timeoutMs flags)
  pure ⟨uri, password, timeoutMs, env.base, tp⟩

/-- The request `close` sends. -/
def unregisterRequest (flags : PyVal) : Request := ⟨"plugin_unregister", [("flags", flags)]⟩

/-- `Client.close(flags)`: unregister, then close the socket. -/
def Client.close (c : Client) (flags : PyVal) : ClientM PyVal :=
  returnRequires .none do
    let _ ← c.tp.rpc env (unregisterRequest flags)
    c.tp.close
    pure .none

/-- `Client.plugin_unregister(flags)`, a synonym for `close`. -/
def Client.pluginUnregister (c : Client) (flags : PyVal) : ClientM PyVal :=
  returnRequires .none do
    let _ ← c.close env flags
    pure .none

/-! ## Enumerating the plugins -/

/-- `tp.rpc('plugin_info', dict(flags=0))`, the request the enumeration
sends to every plugin. -/
def infoRequest : Request := ⟨"plugin_info", [("flags", .int 0)]⟩

/-- The loop of `available_plugins` over the files of the walk: connect, ask
`plugin_info`, unpack `(desc, version)`, record `desc<sep>version`, close. -/
def collectPlugins (fieldSep : String) : List String → List String → ClientM (List String)
  | [], rc => pure rc
  | uds :: rest, rc => do
    let tp ← TransPort.getSocket env uds
    let r ← tp.rpc env infoRequest
    let (i, v) ← PyM.ofExcept r.unpack2
    tp.close
    collectPlugins fieldSep rest (rc ++ [i.toStr ++ fieldSep ++ v.toStr])

/-- `Client.available_plugins(field_sep, flags)`. -/
def Client.availablePlugins (fieldSep : String) : ClientM PyVal :=
  returnRequires (.list .unicode) do
    if !(← checkDaemonExists env) then raiseNoDaemon
    let rc ← collectPlugins env fieldSep env.walk []
    pure (.list (rc.map .str))

/-! ## Stubs -/

/-- `SUPPORTED_SEARCH_KEYS` of the six searchable data classes. -/
structure SearchKeys where
  pool : List String
  volume : List String
  disk : List String
  accessGroup : List String
  fileSystem : List String
  nfsExport : List String

/-- The error `_check_search_key` raises. -/
def unsupportedSearchKeyError (searchKey : PyVal) : PyExc :=
  .lsm ⟨.unsupportedSearchKey, "Unsupported search_key: \x27" ++ searchKey.toStr ++ "\x27"⟩

/-- `_check_search_key(search_key, supported_keys)`. -/
def checkSearchKey (searchKey : PyVal) (supportedKeys : List String) : ClientM Unit :=
  if searchKey.truthy && !supportedKeys.any (fun k => searchKey.eqStr k) then
    throw (unsupportedSearchKeyError searchKey)
  else pure ()

/-- A stub: send `method` with `args` and check the reply against the
method's declaration. -/
def Client.call (c : Client) (method : String) (args : List (String × PyVal)) :
    ClientM PyVal :=
  match returnRequiresOf method with
  | some shape => returnRequires shape (c.tp.rpc env ⟨method, args⟩)
  | none => c.tp.rpc env ⟨method, args⟩

/-- The search-constrained listing stubs: check the key locally, then send
`search_key`, `search_value` and `flags`. -/
def Client.listing (method : String) (supportedKeys : List String) (c : Client)
    (searchKey searchValue flags : PyVal) : ClientM PyVal := do
  checkSearchKey searchKey supportedKeys
  c.call env method
    [("search_key", searchKey), ("search_value", searchValue), ("flags", flags)]

variable (keys : SearchKeys)

/-- `Client.pools(search_key, search_value, flags)`. -/
def Client.pools := Client.listing env "pools" keys.pool

/-- `Client.volumes(search_key, search_value, flags)`. -/
def Client.volumes := Client.listing env "volumes" keys.volume

/-- `Client.disks(search_key, search_value, flags)`. -/
def Client.disks := Client.listing env "disks" keys.disk

/-- `Client.access_groups(search_key, search_value, flags)`. -/
def Client.accessGroups := Client.listing env "access_groups" keys.accessGroup

/-- `Client.fs(search_key, search_value, flags)`. -/
def Client.fs := Client.listing env "fs" keys.fileSystem

/-- `Client.exports(search_key, search_value, flags)`. -/
def Client.exports := Client.listing env "exports" keys.nfsExport

/-- `Client.pool_create(system, pool_name, size_bytes, raid_type, member_type,
flags)`. -/
def Client.poolCreate (c : Client) (system poolName : PyVal) (sizeBytes : Int)
    (raidType memberType flags : PyVal) : ClientM PyVal := do
  if sizeBytes ≤ 0 then
    throw (.lsm ⟨.invalidArgument, "\x27size_bytes\x27 should larger than 0"⟩)
  c.call env "pool_create"
    [("system", system), ("pool_name", poolName), ("size_bytes", .int sizeBytes),
      ("raid_type", raidType), ("member_type", memberType), ("flags", flags)]

end LibStorageMgmt.Lsm

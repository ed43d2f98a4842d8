import LibStorageMgmt.V7k.Ssh
import LibStorageMgmt.V7k.Commands
import LibStorageMgmt.V7k.Parse

/-!
# The IBM V7000 plugin

`IbmV7k` of `ibmv7k.py`: the plugin object and every method of it, over the
array behind a `Server σ`. A method runs on the object, whose field `array`
holds the array's state; a method that raises leaves the object as Python
leaves it, with every assignment made before the raise.

The private methods keep their leading underscore. A public method returns the
value that crosses the RPC boundary (`PyVal`); its arguments are typed as the
client passes them. Two functions of `lsm` that the plugin imports are not
under src/: `uri_parse`, a parameter here (`uriParse`), and `search_property`,
modelled from the spec (`searchProperty`).
-/

namespace LibStorageMgmt.V7k

open Py

/-- `Volume.ACCESS_*`. -/
inductive Access where
  | readOnly
  | readWrite
  deriving DecidableEq, Repr

/-- An `IbmV7k` plugin object: `sys_info`, `ssh`, `tmo`, `password` and `up`
(`None` until `plugin_register` sets them, but `tmo`, which starts at 0),
and the state of the array behind the session. -/
structure IbmV7k (σ : Type) where
  sysInfo : Option System
  ssh : Option SSHClient
  tmo : Int
  password : Option String
  up : Option Dict
  array : σ

namespace IbmV7k

/-- `IbmV7k()`, before `plugin_register`. -/
def init {σ : Type} (array : σ) : IbmV7k σ := ⟨none, none, 0, none, none, array⟩

variable {σ α : Type} (srv : Server σ)

/-! ## Reaching the array -/

/-- A call on the array alone, made from the plugin. -/
def onArray (x : PyM σ α) : PyM (IbmV7k σ) α := fun p =>
  match x p.array with
  | .ok a s => .ok a { p with array := s }
  | .error e s => .error e { p with array := s }

theorem onArray_ok {x : PyM σ α} {p : IbmV7k σ} {a : α} {s : σ} (h : x p.array = .ok a s) :
    onArray x p = .ok a { p with array := s } := by
  simp only [onArray, h]

theorem onArray_error {x : PyM σ α} {p : IbmV7k σ} {e : PyExc} {s : σ}
    (h : x p.array = .error e s) : onArray x p = .error e { p with array := s } := by
  simp only [onArray, h]

@[simp] theorem onArray_bind {β : Type} (x : PyM σ α) (f : α → PyM (IbmV7k σ) β)
    (p : IbmV7k σ) : (onArray x >>= f) p = match x p.array with
      | .ok a s => f a { p with array := s }
      | .error e s => .error e { p with array := s } := by
  show EStateM.bind _ f p = _
  cases h : x p.array <;> simp only [EStateM.bind, onArray, h]

/-- `self.ssh`, which is `None` (and has no methods) before `plugin_register`. -/
def sshClient : PyM (IbmV7k σ) SSHClient := do
  match (← get).ssh with
  | some ssh => pure ssh
  | none => throw .attributeError

@[simp] theorem sshClient_bind {β : Type} (f : SSHClient → PyM (IbmV7k σ) β) (p : IbmV7k σ) :
    (sshClient >>= f) p = match p.ssh with
      | some ssh => f ssh p
      | none => .error .attributeError p := by
  rcases p with ⟨_, _ | _, _⟩ <;> rfl

/-- `self.up`, which `plugin_register` sets. -/
def upDict : PyM (IbmV7k σ) Dict := do
  match (← get).up with
  | some up => pure up
  | none => throw .attributeError

@[simp] theorem upDict_bind {β : Type} (f : Dict → PyM (IbmV7k σ) β) (p : IbmV7k σ) :
    (upDict >>= f) p = match p.up with
      | some up => f up p
      | none => .error .attributeError p := by
  rcases p with ⟨_, _, _, _, _ | _, _⟩ <;> rfl

/-- `self.sys_info.id`. -/
def sysInfoId : PyM (IbmV7k σ) String := do
  match (← get).sysInfo with
  | some si => pure si.id
  | none => throw .attributeError

/-- `self.ssh.execute(ssh_cmd)`, `check_exit_code` left at `True`. -/
def sshExecute (sshCmd : String) : PyM (IbmV7k σ) ExecResult := do
  onArray ((← sshClient).execute srv sshCmd true)

theorem sshClient_of {p : IbmV7k σ} {ssh : SSHClient} (hssh : p.ssh = some ssh) :
    sshClient p = .ok ssh p := by
  simp only [sshClient, PyM.get_bind, hssh]
  rfl

theorem sshExecute_eq {p : IbmV7k σ} {ssh : SSHClient} (hssh : p.ssh = some ssh)
    (sshCmd : String) : sshExecute srv sshCmd p = onArray (ssh.execute srv sshCmd true) p :=
  PyM.bind_ok (sshClient_of hssh) _

theorem sshExecute_ok {p : IbmV7k σ} {ssh : SSHClient} (hssh : p.ssh = some ssh)
    {sshCmd : String} {r : ExecResult} {s : σ} (hx : ssh.execute srv sshCmd true p.array = .ok r s) :
    sshExecute srv sshCmd p = .ok r { p with array := s } := by
  rw [sshExecute_eq srv hssh, onArray_ok hx]

/-- `_execute_command`. -/
def _executeCommand (sshCmd : String) : PyM (IbmV7k σ) ExecResult :=
  sshExecute srv sshCmd

/-- `_execute_command_and_parse_detailed`. -/
def _executeCommandAndParseDetailed (sshCmd : String) : PyM (IbmV7k σ) Dict := do
  let r ← sshExecute srv sshCmd
  pure (parseDetailed r.stdout)

/-- `_execute_command_and_parse_concise`. -/
def _executeCommandAndParseConcise (sshCmd : String) : PyM (IbmV7k σ) (List Dict) := do
  let r ← sshExecute srv sshCmd
  PyM.ofExcept (parseConcise r.stdout)

/-! ## Reading the array -/

/-- `_get_system_info`. -/
def _getSystemInfo : PyM (IbmV7k σ) Dict :=
  _executeCommandAndParseDetailed srv getSystemInfoCmd

/-- `_get_pools`. -/
def _getPools : PyM (IbmV7k σ) (List Dict) :=
  _executeCommandAndParseConcise srv getPoolsCmd

/-- `_pool`. -/
def _pool (p : Dict) : PyM (IbmV7k σ) Pool := do
  let id ← PyM.ofExcept (p.getItem "id")
  let name ← PyM.ofExcept (p.getItem "name")
  let totalSpace ← PyM.ofExcept (p.getItem "capacity" >>= pyInt)
  let freeSpace ← PyM.ofExcept (p.getItem "free_capacity" >>= pyInt)
  pure ⟨id, name, totalSpace, freeSpace, ← sysInfoId⟩

/-- `_get_volumes`. -/
def _getVolumes : PyM (IbmV7k σ) (List Dict) :=
  _executeCommandAndParseConcise srv getVolumesCmd

/-- `_get_volume`. -/
def _getVolume (volume : String) : PyM (IbmV7k σ) Dict :=
  _executeCommandAndParseDetailed srv (getVolumeCmd volume)

/-- `_volume`, with the block size fixed at 512: the number of blocks is the
double `float(capacity) / 512`. -/
def _volume (v : Dict) : PyM (IbmV7k σ) Volume := do
  let bs : Nat := 512
  let status ← PyM.ofExcept (v.getItem "status")
  let volStatus : VolumeStatus :=
    if status = "online" then .ok else if status = "offline" then .dormant else .err
  let id ← PyM.ofExcept (v.getItem "id")
  let name ← PyM.ofExcept (v.getItem "name")
  let vpd83 ← PyM.ofExcept (v.getItem "vdisk_UID")
  let capacity ← PyM.ofExcept (v.getItem "capacity" >>= pyFloat)
  let systemId ← sysInfoId
  let poolId ← PyM.ofExcept (v.getItem "mdisk_grp_id")
  pure ⟨id, name, vpd83, bs, capacity.div bs, volStatus, systemId, poolId⟩

/-- `_create_volume`. -/
def _createVolume (pool volName : String) (sizeBytes : Int) (prov : Provisioning) :
    PyM (IbmV7k σ) Unit := do
  let _ ← sshExecute srv (createVolumeCmd volName pool sizeBytes prov)

/-- `_delete_volume`. -/
def _deleteVolume (volume : String) (force : Bool) : PyM (IbmV7k σ) Unit := do
  let _ ← sshExecute srv (deleteVolumeCmd force volume)

/-- `_get_initiators`. -/
def _getInitiators : PyM (IbmV7k σ) (List Dict) :=
  _executeCommandAndParseConcise srv getInitiatorsCmd

/-- `_get_initiator`. -/
def _getInitiator (init : String) : PyM (IbmV7k σ) Dict :=
  _executeCommandAndParseDetailed srv (getInitiatorCmd init)

/-- `_initiator`: the initiator's id is the host's WWPN, else its iSCSI name,
else the array's own id for the host. -/
def _initiator (v7kInit : Dict) : Except PyExc Initiator := do
  let (lsmInitType, lsmInitId) ←
    if v7kInit.contains "WWPN" then (InitiatorType.portWwn, ·) <$> v7kInit.getItem "WWPN"
    else if v7kInit.contains "iscsi_name" then
      (InitiatorType.iscsi, ·) <$> v7kInit.getItem "iscsi_name"
    else (InitiatorType.other, ·) <$> v7kInit.getItem "id"
  pure ⟨lsmInitId, lsmInitType, ← v7kInit.getItem "name"⟩

/-- The error `_map_lsm_init_id_to_v7k` raises when no host matches. -/
def initiatorNotFound : PyExc := .lsm ⟨.notFoundInitiator, "Initiator not found"⟩

/-- One test of the loop of `_map_lsm_init_id_to_v7k`:
`if key in v7kinit and v7kinit[key] == lsm_init_id: v7k_init_id = v7kinit['id']`,
for the keys `WWPN` and `iscsi_name`. -/
def matchPort (v7kinit : Dict) (key lsmInitId : String) (v7kInitId : Option String) :
    Except PyExc (Option String) :=
  if v7kinit.contains key ∧ v7kinit.get? key = some lsmInitId then some <$> v7kinit.getItem "id"
  else .ok v7kInitId

/-- `_map_lsm_init_id_to_v7k`: the id of the last host whose WWPN or iSCSI
name is `lsmInitId`. -/
def _mapLsmInitIdToV7k (lsmInitId : String) : PyM (IbmV7k σ) String := do
  let gi ← _getInitiators srv
  match ← loop gi none with
  | some v7kInitId => if v7kInitId = "" then throw initiatorNotFound else pure v7kInitId
  | none => throw initiatorNotFound
where
  /-- The loop over the hosts, with `v7k_init_id` as the accumulator. -/
  loop : List Dict → Option String → PyM (IbmV7k σ) (Option String)
    | [], v7kInitId => pure v7kInitId
    | i :: gi, v7kInitId => do
      let v7kinit ← _getInitiator srv (← PyM.ofExcept (i.getItem "id"))
      let v7kInitId ← PyM.ofExcept (matchPort v7kinit "WWPN" lsmInitId v7kInitId)
      let v7kInitId ← PyM.ofExcept (matchPort v7kinit "iscsi_name" lsmInitId v7kInitId)
      loop gi v7kInitId

/-- `_get_volumes_accessible_by_initiator`. -/
def _getVolumesAccessibleByInitiator (initId : String) : PyM (IbmV7k σ) (List Dict) := do
  let v7kInitId ← _mapLsmInitIdToV7k srv initId
  _executeCommandAndParseConcise srv (getVolumesAccessibleByInitiatorCmd v7kInitId)

/-- `_get_initiators_granted_to_volume`. -/
def _getInitiatorsGrantedToVolume (v : String) : PyM (IbmV7k σ) (List Dict) :=
  _executeCommandAndParseConcise srv (getInitiatorsGrantedToVolumeCmd v)

/-! ## Changing the array -/

/-- `_initiator_create`. -/
def _initiatorCreate (initId : String) (initType : InitiatorType) :
    PyM (IbmV7k σ) ExecResult :=
  match typeOption initType with
  | some opt => _executeCommand srv (initiatorCreateCmd opt initId)
  | none => throw (.lsm ⟨.unsupportedInitiatorType, "Initiator type not supported"⟩)

/-- `_initiator_create_is_success`. -/
def _initiatorCreateIsSuccess (stdout : String) : Bool := contains stdout "successfully created"

/-- `_initiator_grant`: resolve the initiator, creating its host first when
no host has it, then map the volume to the host. -/
def _initiatorGrant (initId : String) (initType : InitiatorType) (volId : String)
    (force : Bool) : PyM (IbmV7k σ) ExecResult := do
  let v7kInitId ← tryCatch (_mapLsmInitIdToV7k srv initId) fun
    | .lsm le =>
      if le.code = .notFoundInitiator then do
        let r ← _initiatorCreate srv initId initType
        if _initiatorCreateIsSuccess r.stdout then _mapLsmInitIdToV7k srv initId
        else throw (.lsm ⟨.pluginError, "Error creating initiator"⟩)
      else throw (.lsm le)
    | e => throw e
  _executeCommand srv (initiatorGrantCmd force v7kInitId volId)

/-- `_initiator_grant_is_success`. -/
def _initiatorGrantIsSuccess (stdout : String) : Bool := contains stdout "successfully created"

/-- `_initiator_delete`. -/
def _initiatorDelete (v7kInitId : String) (force : Bool) : PyM (IbmV7k σ) Unit := do
  let _ ← _executeCommand srv (initiatorDeleteCmd force v7kInitId)

/-- `_initiator_revoke`: unmap the volume, then delete the host unless
`rmhost` refuses. -/
def _initiatorRevoke (initId volId : String) : PyM (IbmV7k σ) Unit := do
  let v7kInitId ← _mapLsmInitIdToV7k srv initId
  let _ ← _executeCommand srv (initiatorRevokeCmd v7kInitId volId)
  tryCatch (_initiatorDelete srv v7kInitId false) fun
    | .lsm _ => pure ()
    | e => throw e

/-! ## The plugin interface -/

section Interface

variable (uriParse : String → Except PyExc Dict)

/-- `plugin_register`. -/
def pluginRegister (uri : String) (password : Option String) (timeout : Int) :
    PyM (IbmV7k σ) PyVal := do
  modify fun p => { p with password := password, tmo := timeout }
  let up ← PyM.ofExcept (uriParse uri)
  modify fun p => { p with up := some up }
  let p ← get
  let ssh ← onArray (SSHClient.init srv (← PyM.ofExcept (up.getItem "host"))
    (← PyM.ofExcept (up.getItem "username")) p.password p.tmo)
  modify fun p => { p with ssh := some ssh }
  let si ← _getSystemInfo srv
  let sysInfo : System := ⟨← PyM.ofExcept (si.getItem "id"), ← PyM.ofExcept (si.getItem "name")⟩
  modify fun p => { p with sysInfo := some sysInfo }
  pure .none

end Interface

/-- `time_out_set`: the new time-out is stored before the session is closed
and reopened with it. -/
def timeOutSet (ms : Int) : PyM (IbmV7k σ) PyVal := do
  modify fun p => { p with tmo := ms }
  let closed ← onArray (SSHClient.close (← sshClient))
  modify fun p => { p with ssh := some closed }
  let up ← upDict
  let p ← get
  let ssh ← onArray (SSHClient.init srv (← PyM.ofExcept (up.getItem "host"))
    (← PyM.ofExcept (up.getItem "username")) p.password p.tmo)
  modify fun p => { p with ssh := some ssh }
  pure .none

/-- `time_out_get`. -/
def timeOutGet : PyM (IbmV7k σ) PyVal := do
  pure (.int (← get).tmo)

/-- `plugin_unregister`. -/
def pluginUnregister : PyM (IbmV7k σ) PyVal := do
  let closed ← onArray (SSHClient.close (← sshClient))
  modify fun p => { p with ssh := some closed }
  pure .none

/-- The error of the job methods. -/
def notImplemented : PyExc := .lsm ⟨.notImplemented, "API not implemented at this time"⟩

/-- `job_status`. -/
def jobStatus (_jobId : String) : PyM (IbmV7k σ) PyVal := throw notImplemented

/-- `job_free`. -/
def jobFree (_jobId : String) : PyM (IbmV7k σ) PyVal := throw notImplemented

/-- `capabilities`. -/
def capabilities (_system : System) : PyM (IbmV7k σ) PyVal :=
  pure (.capabilities ⟨[.blockSupport, .volumes, .volumeCreate, .volumeDelete, .volumeThin,
    .initiators, .volumeAccessibleByInitiator, .initiatorsGrantedToVolume,
    .volumeInitiatorGrant, .volumeInitiatorRevoke]⟩)

/-- `plugin_info`, with `lsm.VERSION` as `version`. -/
def pluginInfo (version : String) : PyM (IbmV7k σ) PyVal :=
  pure (.tuple [.str "IBM V7000 lsm plugin", .str version])

/-! ## Listings -/

/-- Modelled from the spec: `search_property(objs, search_key, search_value)`
(in `lsm`, not under src/), the filter of a search-constrained listing: every
object when no key is given, else the objects whose attribute `search_key`
equals `search_value`. Naming an attribute an object lacks raises
`AttributeError`, as `getattr` does. -/
def searchProperty {β : Type} (attr : β → String → Option PyVal) (objs : List β)
    (searchKey searchValue : PyVal) : Except PyExc (List β) :=
  match searchKey with
  | .none => .ok objs
  | .str key => keep key objs
  | _ => .error .typeError
where
  /-- The objects kept, in order. -/
  keep (key : String) : List β → Except PyExc (List β)
    | [] => .ok []
    | o :: os => match attr o key with
      | some v => (fun rest => if v.pyEq searchValue then o :: rest else rest) <$> keep key os
      | none => .error .attributeError

/-- The attributes of a `Pool` that the plugin sets. -/
def poolAttr (p : Pool) : String → Option PyVal
  | "id" => some (.str p.id)
  | "name" => some (.str p.name)
  | "total_space" => some (.int p.totalSpace)
  | "free_space" => some (.int p.freeSpace)
  | "system_id" => some (.str p.systemId)
  | _ => none

/-- The string and integer attributes of a `Volume` that the plugin sets. -/
def volumeAttr (v : Volume) : String → Option PyVal
  | "id" => some (.str v.id)
  | "name" => some (.str v.name)
  | "vpd83" => some (.str v.vpd83)
  | "block_size" => some (.int v.blockSize)
  | "system_id" => some (.str v.systemId)
  | "pool_id" => some (.str v.poolId)
  | _ => none

/-- `pools`. -/
def pools (searchKey searchValue : PyVal) : PyM (IbmV7k σ) PyVal := do
  let gp ← _getPools srv
  let ps ← gp.mapM _pool
  let found ← PyM.ofExcept (searchProperty poolAttr ps searchKey searchValue)
  pure (.list (found.map .pool))

/-- `systems`: `[self.sys_info]`. -/
def systems : PyM (IbmV7k σ) PyVal := do
  match (← get).sysInfo with
  | some si => pure (.list [.system si])
  | none => pure (.list [.none])

/-- `volumes`. -/
def volumes (searchKey searchValue : PyVal) : PyM (IbmV7k σ) PyVal := do
  let gv ← _getVolumes srv
  let vs ← gv.mapM _volume
  let found ← PyM.ofExcept (searchProperty volumeAttr vs searchKey searchValue)
  pure (.list (found.map .volume))

/-- The initiator of a host, read from its detailed view. -/
def initiatorOfHost (hostId : String) : PyM (IbmV7k σ) Initiator := do
  let init ← _getInitiator srv hostId
  PyM.ofExcept (_initiator init)

/-- `initiators`: one initiator per host, in the order `lshost` lists them. -/
def initiators : PyM (IbmV7k σ) PyVal := do
  let gi ← _getInitiators srv
  let initList ← gi.mapM fun i => do initiatorOfHost srv (← PyM.ofExcept (i.getItem "id"))
  pure (.list (initList.map .initiator))

/-- `volume_create`. -/
def volumeCreate (pool : Pool) (volumeName : String) (sizeBytes : Int)
    (provisioning : Provisioning) : PyM (IbmV7k σ) PyVal := do
  _createVolume srv pool.id volumeName sizeBytes provisioning
  let newVol ← _getVolume srv volumeName
  pure (.tuple [.none, .volume (← _volume newVol)])

/-- `volume_delete`, always with `-force`. -/
def volumeDelete (volume : Volume) : PyM (IbmV7k σ) PyVal := do
  _deleteVolume srv volume.id true
  pure .none

/-- The error of `initiator_grant` for read-only access. -/
def onlyReadWrite : PyExc := .lsm ⟨.noSupport, "Only RW access to the volume is supported"⟩

/-- `initiator_grant`, always with `-force`: it returns whether the array's
answer says "successfully created". -/
def initiatorGrant (initiatorId : String) (initiatorType : InitiatorType) (volume : Volume)
    (access : Access) : PyM (IbmV7k σ) PyVal := do
  if access ≠ .readWrite then throw onlyReadWrite
  let r ← _initiatorGrant srv initiatorId initiatorType volume.id true
  pure (.bool (_initiatorGrantIsSuccess r.stdout))

/-- `initiator_revoke`. -/
def initiatorRevoke (initiator : Initiator) (volume : Volume) : PyM (IbmV7k σ) PyVal := do
  _initiatorRevoke srv initiator.id volume.id
  pure .none

/-- `volumes_accessible_by_initiator`. -/
def volumesAccessibleByInitiator (initiator : Initiator) : PyM (IbmV7k σ) PyVal := do
  let gvabi ← _getVolumesAccessibleByInitiator srv initiator.id
  let volList ← gvabi.mapM fun vol => do
    let gv ← _getVolume srv (← PyM.ofExcept (vol.getItem "vdisk_id"))
    _volume gv
  pure (.list (volList.map .volume))

/-- `initiators_granted_to_volume`. -/
def initiatorsGrantedToVolume (volume : Volume) : PyM (IbmV7k σ) PyVal := do
  let gigtv ← _getInitiatorsGrantedToVolume srv volume.id
  let initList ← gigtv.mapM fun init => do
    initiatorOfHost srv (← PyM.ofExcept (init.getItem "host_id"))
  pure (.list (initList.map .initiator))

end IbmV7k

end LibStorageMgmt.V7k

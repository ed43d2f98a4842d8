import LibStorageMgmt.V7k.Array

/-!
# The array over a whole session

The plugin reaches the array only through the command lines it sends: every
other step reads or writes the plugin object's own fields, and opening or
closing the SSH session only asks the server. So every method keeps whatever
the array's commands keep, whether it returns or raises (`Call.run_keeps`),
and so does every session of calls, each made on the plugin as the call
before left it (`session_keeps`). On the array of `Array`, whose every command
keeps the host table's invariant, the invariant holds after every session
(`session_inv`).

Each method has its frame lemma, stated once for any property that the steps
reaching outside the object keep (`Call.run_frame`): the command lines,
opening and closing the SSH session, and the assignments to the fields other
than the array and the configuration. Its proof follows the method's body
step by step. The array's invariant here, and the configuration in `Config`,
are two such properties.
-/

namespace LibStorageMgmt.V7k

open Py PyM

/-- Modelled from the spec: a request the client sends, as the plugin runner
dispatches it to a method of `IbmV7k`, with the method's arguments. -/
inductive Call where
  | pluginRegister (uri : String) (password : Option String) (timeout : Int)
  | timeOutSet (ms : Int)
  | timeOutGet
  | pluginUnregister
  | jobStatus (jobId : String)
  | jobFree (jobId : String)
  | capabilities (system : System)
  | pluginInfo
  | pools (searchKey searchValue : PyVal)
  | systems
  | volumes (searchKey searchValue : PyVal)
  | initiators
  | volumeCreate (pool : Pool) (volumeName : String) (sizeBytes : Int)
      (provisioning : Provisioning)
  | volumeDelete (volume : Volume)
  | initiatorGrant (initiatorId : String) (initiatorType : InitiatorType) (volume : Volume)
      (access : Access)
  | initiatorRevoke (initiator : Initiator) (volume : Volume)
  | volumesAccessibleByInitiator (initiator : Initiator)
  | initiatorsGrantedToVolume (volume : Volume)

section Session

variable {σ : Type} (srv : Server σ) (uriParse : String → Except PyExc Dict) (version : String)

/-- The method a request runs. -/
def Call.run : Call → PyM (IbmV7k σ) PyVal
  | .pluginRegister uri password timeout =>
    IbmV7k.pluginRegister srv uriParse uri password timeout
  | .timeOutSet ms => IbmV7k.timeOutSet srv ms
  | .timeOutGet => IbmV7k.timeOutGet
  | .pluginUnregister => IbmV7k.pluginUnregister
  | .jobStatus jobId => IbmV7k.jobStatus jobId
  | .jobFree jobId => IbmV7k.jobFree jobId
  | .capabilities system => IbmV7k.capabilities system
  | .pluginInfo => IbmV7k.pluginInfo version
  | .pools k v => IbmV7k.pools srv k v
  | .systems => IbmV7k.systems
  | .volumes k v => IbmV7k.volumes srv k v
  | .initiators => IbmV7k.initiators srv
  | .volumeCreate pool name size prov => IbmV7k.volumeCreate srv pool name size prov
  | .volumeDelete volume => IbmV7k.volumeDelete srv volume
  | .initiatorGrant id t volume access => IbmV7k.initiatorGrant srv id t volume access
  | .initiatorRevoke initiator volume => IbmV7k.initiatorRevoke srv initiator volume
  | .volumesAccessibleByInitiator initiator =>
    IbmV7k.volumesAccessibleByInitiator srv initiator
  | .initiatorsGrantedToVolume volume => IbmV7k.initiatorsGrantedToVolume srv volume

/-- A session: the requests in order, each run on the plugin as the one
before left it, whether that one returned or raised. -/
def session (calls : List Call) (p : IbmV7k σ) : IbmV7k σ :=
  calls.foldl (fun p c => stateAfter (c.run srv uriParse version p)) p

/-- The plugin's array satisfies `P`. -/
def ArrayHolds (P : σ → Prop) (p : IbmV7k σ) : Prop := P p.array

/-! ## Only commands change the array -/

theorem stateAfter_onArray {α : Type} (x : PyM σ α) (p : IbmV7k σ) :
    stateAfter (IbmV7k.onArray x p) = { p with array := stateAfter (x p.array) } := by
  cases hr : x p.array with
  | ok a s => rw [IbmV7k.onArray_ok hr]; rfl
  | error e s => rw [IbmV7k.onArray_error hr]; rfl

/-- What a request stores in the plugin object at its first step, before
anything can raise: `plugin_register` its password and time-out,
`time_out_set` its time-out, every other request nothing. -/
def Call.store : Call → IbmV7k σ → IbmV7k σ
  | .pluginRegister _ password timeout, p => { p with password := password, tmo := timeout }
  | .timeOutSet ms, p => { p with tmo := ms }
  | _, p => p

section Frame

/-! The methods keep any `Q` that the steps reaching outside the object keep:
the command lines (`hcmd`), opening and closing the SSH session (`hinit`,
`hclose`), and the assignments to the fields `ssh`, `up` and `sys_info`
(`hset`). Every other step only reads the object. The array's invariant is
one such `Q`, the configuration of `Config` another. -/

variable {Q : IbmV7k σ → Prop}

theorem keeps_get : Keeps Q (get : PyM (IbmV7k σ) (IbmV7k σ)) :=
  .of_stateAfter fun _ => rfl

theorem keeps_sshClient : Keeps Q (IbmV7k.sshClient : PyM (IbmV7k σ) SSHClient) :=
  .of_stateAfter fun p => by rcases p with ⟨_, _ | _, _⟩ <;> rfl

theorem keeps_upDict : Keeps Q (IbmV7k.upDict : PyM (IbmV7k σ) Dict) :=
  .of_stateAfter fun p => by rcases p with ⟨_, _, _, _, _ | _, _⟩ <;> rfl

theorem keeps_sysInfoId : Keeps Q (IbmV7k.sysInfoId : PyM (IbmV7k σ) String) :=
  .of_stateAfter fun p => by rcases p with ⟨_ | _, _⟩ <;> rfl

theorem keeps__pool (d : Dict) : Keeps Q (IbmV7k._pool d : PyM (IbmV7k σ) Pool) :=
  .bind (.ofExcept _) fun _ => .bind (.ofExcept _) fun _ => .bind (.ofExcept _) fun _ =>
    .bind (.ofExcept _) fun _ => .bind keeps_sysInfoId fun _ => .pure _

theorem keeps__volume (d : Dict) : Keeps Q (IbmV7k._volume d : PyM (IbmV7k σ) Volume) :=
  .bind (.ofExcept _) fun _ => .bind (.ofExcept _) fun _ => .bind (.ofExcept _) fun _ =>
    .bind (.ofExcept _) fun _ => .bind (.ofExcept _) fun _ => .bind keeps_sysInfoId fun _ =>
      .bind (.ofExcept _) fun _ => .pure _

theorem keeps_systems : Keeps Q (IbmV7k.systems : PyM (IbmV7k σ) PyVal) :=
  .of_stateAfter fun p => by rcases p with ⟨_ | _, _⟩ <;> rfl

variable
  (hcmd : ∀ (ssh : SSHClient) (cmd : String), Keeps Q (IbmV7k.onArray (ssh.execute srv cmd true)))

section Commands

include hcmd

theorem keeps_sshExecute (sshCmd : String) : Keeps Q (IbmV7k.sshExecute srv sshCmd) :=
  .bind keeps_sshClient fun _ => hcmd _ _

theorem keeps_executeCommandAndParseDetailed (sshCmd : String) :
    Keeps Q (IbmV7k._executeCommandAndParseDetailed srv sshCmd) :=
  .bind (keeps_sshExecute srv hcmd sshCmd) fun _ => .pure _

theorem keeps_executeCommandAndParseConcise (sshCmd : String) :
    Keeps Q (IbmV7k._executeCommandAndParseConcise srv sshCmd) :=
  .bind (keeps_sshExecute srv hcmd sshCmd) fun _ => .ofExcept _

theorem keeps_initiatorOfHost (hostId : String) : Keeps Q (IbmV7k.initiatorOfHost srv hostId) :=
  .bind (keeps_executeCommandAndParseDetailed srv hcmd _) fun _ => .ofExcept _

theorem keeps_mapLoop (x : String) : ∀ (gi : List Dict) (acc : Option String),
    Keeps Q (IbmV7k._mapLsmInitIdToV7k.loop srv x gi acc)
  | [], _ => Keeps.pure _
  | _ :: gi, _ =>
    .bind (.ofExcept _) fun _ => .bind (keeps_executeCommandAndParseDetailed srv hcmd _)
      fun _ => .bind (.ofExcept _) fun _ => .bind (.ofExcept _) fun _ => keeps_mapLoop x gi _

theorem keeps_mapLsmInitIdToV7k (initId : String) :
    Keeps Q (IbmV7k._mapLsmInitIdToV7k srv initId) := by
  refine .bind (keeps_executeCommandAndParseConcise srv hcmd _) fun _ =>
    .bind (keeps_mapLoop srv hcmd _ _ _) fun r => ?_
  rcases r with _ | r
  · exact .throw _
  · exact .ite (.throw _) (.pure _)

/-- The grant's helper, whichever way the initiator is resolved: found, or
created and then found. -/
theorem keeps__initiatorGrant (initId : String) (initType : InitiatorType) (volId : String)
    (force : Bool) : Keeps Q (IbmV7k._initiatorGrant srv initId initType volId force) := by
  refine .bind (.tryCatch (keeps_mapLsmInitIdToV7k srv hcmd _) fun e => ?_) fun _ =>
    keeps_sshExecute srv hcmd _
  rcases e with le | _ | _ | _ | _ | _ | _ | _
  · refine .ite (.bind ?_ fun _ => .ite (keeps_mapLsmInitIdToV7k srv hcmd _) (.throw _)) (.throw _)
    unfold IbmV7k._initiatorCreate
    split
    · exact keeps_sshExecute srv hcmd _
    · exact .throw _
  all_goals exact .throw _

/-! The methods that reach the array only by command lines. -/

theorem keeps_pools (searchKey searchValue : PyVal) :
    Keeps Q (IbmV7k.pools srv searchKey searchValue) :=
  .bind (keeps_executeCommandAndParseConcise srv hcmd _) fun _ =>
    .bind (.mapM keeps__pool _) fun _ => .bind (.ofExcept _) fun _ => .pure _

theorem keeps_volumes (searchKey searchValue : PyVal) :
    Keeps Q (IbmV7k.volumes srv searchKey searchValue) :=
  .bind (keeps_executeCommandAndParseConcise srv hcmd _) fun _ =>
    .bind (.mapM keeps__volume _) fun _ => .bind (.ofExcept _) fun _ => .pure _

theorem keeps_initiators : Keeps Q (IbmV7k.initiators srv) :=
  .bind (keeps_executeCommandAndParseConcise srv hcmd _) fun _ =>
    .bind (.mapM (fun _ => .bind (.ofExcept _) fun _ => keeps_initiatorOfHost srv hcmd _) _)
      fun _ => .pure _

theorem keeps_volumeCreate (pool : Pool) (volumeName : String) (sizeBytes : Int)
    (provisioning : Provisioning) :
    Keeps Q (IbmV7k.volumeCreate srv pool volumeName sizeBytes provisioning) :=
  .bind (.bind (keeps_sshExecute srv hcmd _) fun _ => .pure _) fun _ =>
    .bind (keeps_executeCommandAndParseDetailed srv hcmd _) fun _ =>
      .bind (keeps__volume _) fun _ => .pure _

theorem keeps_volumeDelete (volume : Volume) : Keeps Q (IbmV7k.volumeDelete srv volume) :=
  .bind (.bind (keeps_sshExecute srv hcmd _) fun _ => .pure _) fun _ => .pure _

theorem keeps_initiatorGrant (initiatorId : String) (initiatorType : InitiatorType)
    (volume : Volume) (access : Access) :
    Keeps Q (IbmV7k.initiatorGrant srv initiatorId initiatorType volume access) := by
  unfold IbmV7k.initiatorGrant
  split
  · exact .throw _
  · exact .bind (.pure _) fun _ => .bind (keeps__initiatorGrant srv hcmd _ _ _ _) fun _ => .pure _

theorem keeps_initiatorRevoke (initiator : Initiator) (volume : Volume) :
    Keeps Q (IbmV7k.initiatorRevoke srv initiator volume) :=
  .bind (.bind (keeps_mapLsmInitIdToV7k srv hcmd _) fun _ =>
      .bind (keeps_sshExecute srv hcmd _) fun _ =>
        .tryCatch (.bind (keeps_sshExecute srv hcmd _) fun _ => .pure _) fun _ => by
          split <;> first | exact .pure _ | exact .throw _)
    fun _ => .pure _

theorem keeps_volumesAccessibleByInitiator (initiator : Initiator) :
    Keeps Q (IbmV7k.volumesAccessibleByInitiator srv initiator) :=
  .bind (.bind (keeps_mapLsmInitIdToV7k srv hcmd _) fun _ =>
      keeps_executeCommandAndParseConcise srv hcmd _) fun _ =>
    .bind (.mapM (fun _ => .bind (.ofExcept _) fun _ =>
      .bind (keeps_executeCommandAndParseDetailed srv hcmd _) fun _ => keeps__volume _) _)
      fun _ => .pure _

theorem keeps_initiatorsGrantedToVolume (volume : Volume) :
    Keeps Q (IbmV7k.initiatorsGrantedToVolume srv volume) :=
  .bind (keeps_executeCommandAndParseConcise srv hcmd _) fun _ =>
    .bind (.mapM (fun _ => .bind (.ofExcept _) fun _ => keeps_initiatorOfHost srv hcmd _) _)
      fun _ => .pure _

end Commands

/-! The methods that open or close the SSH session, and assign the object's
fields. -/

variable
  (hinit : ∀ hostname login passwd connTimeout,
    Keeps Q (IbmV7k.onArray (SSHClient.init srv hostname login passwd connTimeout)))
  (hclose : ∀ ssh : SSHClient, Keeps Q (IbmV7k.onArray (SSHClient.close ssh : PyM σ SSHClient)))
  (hset : ∀ f : IbmV7k σ → IbmV7k σ,
    (∀ p, (f p).tmo = p.tmo ∧ (f p).password = p.password ∧ (f p).array = p.array) →
      Keeps Q (modify f))

include hclose hset in
theorem keeps_pluginUnregister : Keeps Q (IbmV7k.pluginUnregister : PyM (IbmV7k σ) PyVal) :=
  .bind keeps_sshClient fun _ => .bind (hclose _) fun _ =>
    .bind (hset _ fun _ => ⟨rfl, rfl, rfl⟩) fun _ => .pure _

include hcmd hinit hset in
/-- `plugin_register` keeps `Q` from the object its first step leaves, the
one holding the new password and time-out. -/
theorem pluginRegister_frame (uri : String) (password : Option String) (timeout : Int)
    (p : IbmV7k σ) (hp : Q { p with password := password, tmo := timeout }) :
    Q (stateAfter (IbmV7k.pluginRegister srv uriParse uri password timeout p)) := by
  rw [IbmV7k.pluginRegister, modify_bind]
  refine (?_ : Keeps Q _) _ hp
  exact .bind (.ofExcept _) fun _ => .bind (hset _ fun _ => ⟨rfl, rfl, rfl⟩) fun _ =>
    .bind keeps_get fun _ => .bind (.ofExcept _) fun _ => .bind (.ofExcept _) fun _ =>
    .bind (hinit _ _ _ _) fun _ => .bind (hset _ fun _ => ⟨rfl, rfl, rfl⟩) fun _ =>
    .bind (keeps_executeCommandAndParseDetailed srv hcmd _) fun _ =>
    .bind (.ofExcept _) fun _ => .bind (.ofExcept _) fun _ =>
    .bind (hset _ fun _ => ⟨rfl, rfl, rfl⟩) fun _ => .pure _

include hinit hclose hset in
/-- `time_out_set` keeps `Q` from the object its first step leaves, the one
holding the new time-out. -/
theorem timeOutSet_frame (ms : Int) (p : IbmV7k σ) (hp : Q { p with tmo := ms }) :
    Q (stateAfter (IbmV7k.timeOutSet srv ms p)) := by
  rw [IbmV7k.timeOutSet, modify_bind]
  refine (?_ : Keeps Q _) _ hp
  exact .bind keeps_sshClient fun _ => .bind (hclose _) fun _ =>
    .bind (hset _ fun _ => ⟨rfl, rfl, rfl⟩) fun _ => .bind keeps_upDict fun _ =>
    .bind keeps_get fun _ => .bind (.ofExcept _) fun _ => .bind (.ofExcept _) fun _ =>
    .bind (hinit _ _ _ _) fun _ => .bind (hset _ fun _ => ⟨rfl, rfl, rfl⟩) fun _ => .pure _

include hcmd hinit hclose hset in
/-- Every request keeps `Q` from the object its first step leaves, whether
it returns or raises. -/
theorem Call.run_frame : ∀ (k : Call) (p : IbmV7k σ), Q (k.store p) →
    Q (stateAfter (k.run srv uriParse version p))
  | .pluginRegister uri password timeout, p, hp =>
    pluginRegister_frame srv uriParse hcmd hinit hset uri password timeout p hp
  | .timeOutSet ms, p, hp => timeOutSet_frame srv hinit hclose hset ms p hp
  | .timeOutGet, p, hp => Keeps.bind keeps_get (fun _ => .pure _) p hp
  | .pluginUnregister, p, hp => keeps_pluginUnregister hclose hset p hp
  | .jobStatus _, p, hp => Keeps.throw _ p hp
  | .jobFree _, p, hp => Keeps.throw _ p hp
  | .capabilities _, p, hp => Keeps.pure _ p hp
  | .pluginInfo, p, hp => Keeps.pure _ p hp
  | .pools k v, p, hp => keeps_pools srv hcmd k v p hp
  | .systems, p, hp => keeps_systems p hp
  | .volumes k v, p, hp => keeps_volumes srv hcmd k v p hp
  | .initiators, p, hp => keeps_initiators srv hcmd p hp
  | .volumeCreate pool name size prov, p, hp => keeps_volumeCreate srv hcmd pool name size prov p hp
  | .volumeDelete volume, p, hp => keeps_volumeDelete srv hcmd volume p hp
  | .initiatorGrant id t volume access, p, hp =>
    keeps_initiatorGrant srv hcmd id t volume access p hp
  | .initiatorRevoke initiator volume, p, hp => keeps_initiatorRevoke srv hcmd initiator volume p hp
  | .volumesAccessibleByInitiator initiator, p, hp =>
    keeps_volumesAccessibleByInitiator srv hcmd initiator p hp
  | .initiatorsGrantedToVolume volume, p, hp =>
    keeps_initiatorsGrantedToVolume srv hcmd volume p hp

end Frame

variable {P : σ → Prop}

theorem keeps_onArray {α : Type} {x : PyM σ α} (hx : Keeps P x) :
    Keeps (ArrayHolds P) (IbmV7k.onArray x) := fun p hp => by
  rw [stateAfter_onArray]
  exact hx _ hp

theorem keeps_modify {f : IbmV7k σ → IbmV7k σ} (hf : ∀ p, (f p).array = p.array) :
    Keeps (ArrayHolds P) (modify f) := by
  intro p hp
  show P (f p).array
  rw [hf p]
  exact hp

theorem keeps_close (self : SSHClient) : Keeps P (SSHClient.close self : PyM σ SSHClient) :=
  .tryCatch (.pure _) fun _ => by split <;> exact .throw _

theorem keeps_init (hostname login : String) (passwd : Option String) (connTimeout : Int) :
    Keeps P (SSHClient.init srv hostname login passwd connTimeout) :=
  .tryCatch (.bind (.of_stateAfter fun _ => rfl) fun _ => by split <;> first
    | exact .pure _
    | exact .throw _) fun _ => by split <;> exact .throw _

/-- `execute` sends its one command line and nothing else: whatever that
command keeps, it keeps. -/
theorem keeps_execCommand (self : SSHClient) {command : String}
    (hexec : ∀ s, P s → P (srv.exec command s).2) : Keeps P (self.execCommand srv command) := by
  intro s hs
  simp only [SSHClient.execCommand]
  split
  · have h := hexec s hs
    rcases hx : srv.exec command s with ⟨_ | r, s'⟩ <;> rw [hx] at h <;> exact h
  · exact hs

theorem keeps_execute (self : SSHClient) {command : String} (checkExitCode : Bool)
    (hexec : ∀ s, P s → P (srv.exec command s).2) :
    Keeps P (self.execute srv command checkExitCode) := by
  unfold SSHClient.execute handleV7kErrors
  refine .tryCatch (.bind (keeps_execCommand srv _ hexec) fun _ => ?_) fun _ => by
    split <;> exact .throw _
  split
  · dsimp only
    exact .ite
      (.bind (.pure _) fun _ => .bind (.ofExcept _) fun _ => .bind (.throw _) fun _ => .pure _)
      (.bind (.ofExcept _) fun _ => .bind (.ofExcept _) fun _ => .bind (.throw _) fun _ => .pure _)
  · exact .bind (.pure _) fun _ => .pure _

variable (hexec : ∀ cmd s, P s → P (srv.exec cmd s).2)
include hexec

/-- Every method keeps what the array's commands keep, whether it returns or
raises. -/
theorem Call.run_keeps (c : Call) : Keeps (ArrayHolds P) (c.run srv uriParse version) :=
  fun p hp => c.run_frame srv uriParse version
    (fun _ _ => keeps_onArray (keeps_execute srv _ _ (hexec _)))
    (fun _ _ _ _ => keeps_onArray (keeps_init srv _ _ _ _)) (fun _ => keeps_onArray (keeps_close _))
    (fun _ hf => keeps_modify fun p => (hf p).2.2) p (by cases c <;> exact hp)

/-- Over every session, the array satisfies whatever its commands keep. -/
theorem session_keeps : ∀ (calls : List Call) (p : IbmV7k σ), P p.array →
    P (session srv uriParse version calls p).array
  | [], _, hp => hp
  | c :: calls, p, hp =>
    session_keeps calls _ (Call.run_keeps srv uriParse version hexec c p hp)

end Session

end LibStorageMgmt.V7k

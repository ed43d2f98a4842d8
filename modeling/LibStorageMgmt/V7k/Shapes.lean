import LibStorageMgmt.Lsm.Client
import LibStorageMgmt.V7k.Grant

/-!
# What the plugin returns against what the client declares

Each stub of `Client` declares with `@_return_requires` the shape of what the
plugin may return for it (`returnRequiresOf`). Of the methods `IbmV7k`
implements, every one returns a value of its declared shape whenever it
returns (`returns_conform`), but two. `initiator_grant` returns the bool of
`_initiator_grant_is_success` where the client declares `None`
(`initiatorGrant_return_nonconforming`), so every grant that returns breaks
the declaration. `systems` returns `[self.sys_info]`, a list of systems only
once `plugin_register` has set `sys_info`. Each method's own lemma says what
it returns; the declarations are checked against those.
-/

namespace LibStorageMgmt.V7k

open Py Lsm

/-- A value meets the `@_return_requires` declaration of the client stub of
`method`. -/
def MeetsDeclaration (method : String) (v : PyVal) : Bool :=
  (returnRequiresOf method).any (·.conforms v)

namespace IbmV7k

variable {σ : Type} (srv : Server σ)

theorem initiatorGrant_returns_bool (x : String) (t : InitiatorType) (volume : Volume)
    (access : Access) :
    PyM.Returns (fun v => ∃ b, v = .bool b) (initiatorGrant srv x t volume access) := by
  intro p v p' h
  cases access with
  | readOnly => cases h
  | readWrite =>
    rw [initiatorGrant_readWrite] at h
    exact (show PyM.Returns (fun v => ∃ b, v = .bool b) _ from
      PyM.Returns.bind fun _ => PyM.Returns.pure ⟨_, rfl⟩) p v p' h

end IbmV7k

/-- Whatever the array and the arguments, what `initiator_grant` returns is a
bool, which does not meet the `None` the client declares. -/
theorem initiatorGrant_return_nonconforming {σ : Type} (srv : Server σ) (x : String)
    (t : InitiatorType) (volume : Volume) (access : Access) {p p' : IbmV7k σ} {v : PyVal}
    (h : IbmV7k.initiatorGrant srv x t volume access p = .ok v p') :
    (∃ b, v = .bool b) ∧ MeetsDeclaration "initiator_grant" v = false := by
  obtain ⟨b, rfl⟩ := IbmV7k.initiatorGrant_returns_bool srv x t volume access p _ p' h
  exact ⟨⟨b, rfl⟩, rfl⟩

theorem initiatorGrant_return_spare :
    ∃ v p', IbmV7k.initiatorGrant ArrayState.server "W9" .portWwn volume5 .readWrite
        sparePlugin = .ok v p' ∧
      (∃ b, v = .bool b) ∧ MeetsDeclaration "initiator_grant" v = false := by
  obtain ⟨v, p₁, _, hg, -⟩ := IbmV7k.grant_revoke_new (show sparePlugin.ssh = some _ from rfl) rfl
    (by decide) (show ∀ h ∈ sparePlugin.array.hosts,
      (⟨"W9", .portWwn, "host0"⟩ : Initiator).id ∉ h.ports by decide) (by decide) (by decide)
    (show typeOption .portWwn = some "-hbawwpn" from rfl)
    (show 5 ∈ sparePlugin.array.vdisks by decide) (show volume5.id = toString 5 from rfl)
  exact ⟨v, p₁, hg, initiatorGrant_return_nonconforming _ _ _ _ _ hg⟩

/-! ## The other methods -/

namespace IbmV7k

variable {σ : Type} (srv : Server σ)

/-! What each method returns, whenever it returns, read from the `return`
that ends its body. -/

theorem timeOutSet_returns_none (ms : Int) : PyM.Returns (· = .none) (timeOutSet srv ms) :=
  .bind fun _ => .bind fun _ => .bind fun _ => .bind fun _ => .bind fun _ => .bind fun _ =>
    .bind fun _ => .bind fun _ => .bind fun _ => .bind fun _ => .pure rfl

theorem timeOutGet_returns_tmo :
    PyM.Returns (fun v => ∃ t, v = .int t) (timeOutGet : PyM (IbmV7k σ) PyVal) :=
  .bind fun p => .pure ⟨p.tmo, rfl⟩

theorem pluginUnregister_returns_none :
    PyM.Returns (· = .none) (pluginUnregister : PyM (IbmV7k σ) PyVal) :=
  .bind fun _ => .bind fun _ => .bind fun _ => .pure rfl

theorem pools_returns_pools (k v : PyVal) :
    PyM.Returns (fun r => ∃ ps : List Pool, r = .list (ps.map .pool)) (pools srv k v) :=
  .bind fun _ => .bind fun _ => .bind fun ps => .pure ⟨ps, rfl⟩

theorem volumes_returns_volumes (k v : PyVal) :
    PyM.Returns (fun r => ∃ vs : List Volume, r = .list (vs.map .volume)) (volumes srv k v) :=
  .bind fun _ => .bind fun _ => .bind fun vs => .pure ⟨vs, rfl⟩

theorem initiators_returns_initiators :
    PyM.Returns (fun r => ∃ is : List Initiator, r = .list (is.map .initiator))
      (initiators srv) :=
  .bind fun _ => .bind fun is => .pure ⟨is, rfl⟩

theorem volumeCreate_returns_volume (pool : Pool) (name : String) (size : Int)
    (prov : Provisioning) :
    PyM.Returns (fun r => ∃ vol, r = .tuple [.none, .volume vol])
      (volumeCreate srv pool name size prov) :=
  .bind fun _ => .bind fun _ => .bind fun vol => .pure ⟨vol, rfl⟩

theorem volumeDelete_returns_none (volume : Volume) :
    PyM.Returns (· = .none) (volumeDelete srv volume) :=
  .bind fun _ => .pure rfl

theorem initiatorRevoke_returns_none (initiator : Initiator) (volume : Volume) :
    PyM.Returns (· = .none) (initiatorRevoke srv initiator volume) :=
  .bind fun _ => .pure rfl

theorem volumesAccessibleByInitiator_returns_volumes (initiator : Initiator) :
    PyM.Returns (fun r => ∃ vs : List Volume, r = .list (vs.map .volume))
      (volumesAccessibleByInitiator srv initiator) :=
  .bind fun _ => .bind fun vs => .pure ⟨vs, rfl⟩

theorem initiatorsGrantedToVolume_returns_initiators (volume : Volume) :
    PyM.Returns (fun r => ∃ is : List Initiator, r = .list (is.map .initiator))
      (initiatorsGrantedToVolume srv volume) :=
  .bind fun _ => .bind fun is => .pure ⟨is, rfl⟩

end IbmV7k

theorem meetsDeclaration_list {m : String} {k : Kind} (hm : returnRequiresOf m = some (.list k))
    {α : Type} {f : α → PyVal} (hf : ∀ a, (f a).isKind k) (l : List α) :
    MeetsDeclaration m (.list (l.map f)) = true := by
  rw [MeetsDeclaration, hm]
  show (l.map f).all (PyVal.isKind k) = true
  exact List.all_eq_true.mpr fun _ hx => by
    obtain ⟨a, -, rfl⟩ := List.mem_map.mp hx
    exact hf a

/-- A list of `f`-images meets a declaration of a list of `k`, from what a
method returns. -/
theorem meetsDeclaration_of_list {m : String} {k : Kind} (hm : returnRequiresOf m = some (.list k))
    {α : Type} {f : α → PyVal} (hf : ∀ a, (f a).isKind k) {v : PyVal}
    (hv : ∃ l : List α, v = .list (l.map f)) : MeetsDeclaration m v = true := by
  obtain ⟨l, rfl⟩ := hv
  exact meetsDeclaration_list hm hf l

/-- Every other method `IbmV7k` implements returns, whenever it returns, a
value meeting the declaration of its client stub: `None`, the time-out, the
capabilities, the plugin's name and version, lists of pools, volumes and
initiators, and the `(None, volume)` pair of `volume_create`. -/
theorem returns_conform {σ : Type} (srv : Server σ) (version : String) :
    (∀ ms, PyM.Returns (MeetsDeclaration "time_out_set" · = true) (IbmV7k.timeOutSet srv ms)) ∧
    PyM.Returns (MeetsDeclaration "time_out_get" · = true)
      (IbmV7k.timeOutGet : PyM (IbmV7k σ) PyVal) ∧
    PyM.Returns (MeetsDeclaration "plugin_unregister" · = true)
      (IbmV7k.pluginUnregister : PyM (IbmV7k σ) PyVal) ∧
    (∀ j, PyM.Returns (MeetsDeclaration "job_status" · = true)
      (IbmV7k.jobStatus j : PyM (IbmV7k σ) PyVal)) ∧
    (∀ j, PyM.Returns (MeetsDeclaration "job_free" · = true)
      (IbmV7k.jobFree j : PyM (IbmV7k σ) PyVal)) ∧
    (∀ sys, PyM.Returns (MeetsDeclaration "capabilities" · = true)
      (IbmV7k.capabilities sys : PyM (IbmV7k σ) PyVal)) ∧
    PyM.Returns (MeetsDeclaration "plugin_info" · = true)
      (IbmV7k.pluginInfo version : PyM (IbmV7k σ) PyVal) ∧
    (∀ k v, PyM.Returns (MeetsDeclaration "pools" · = true) (IbmV7k.pools srv k v)) ∧
    (∀ k v, PyM.Returns (MeetsDeclaration "volumes" · = true) (IbmV7k.volumes srv k v)) ∧
    PyM.Returns (MeetsDeclaration "initiators" · = true) (IbmV7k.initiators srv) ∧
    (∀ pool name size prov, PyM.Returns (MeetsDeclaration "volume_create" · = true)
      (IbmV7k.volumeCreate srv pool name size prov)) ∧
    (∀ vol, PyM.Returns (MeetsDeclaration "volume_delete" · = true)
      (IbmV7k.volumeDelete srv vol)) ∧
    (∀ i vol, PyM.Returns (MeetsDeclaration "initiator_revoke" · = true)
      (IbmV7k.initiatorRevoke srv i vol)) ∧
    (∀ i, PyM.Returns (MeetsDeclaration "volumes_accessible_by_initiator" · = true)
      (IbmV7k.volumesAccessibleByInitiator srv i)) ∧
    (∀ vol, PyM.Returns (MeetsDeclaration "initiators_granted_to_volume" · = true)
      (IbmV7k.initiatorsGrantedToVolume srv vol)) :=
  ⟨fun ms => (IbmV7k.timeOutSet_returns_none srv ms).imp fun _ h => h ▸ rfl,
    IbmV7k.timeOutGet_returns_tmo.imp fun _ ⟨_, h⟩ => h ▸ rfl,
    IbmV7k.pluginUnregister_returns_none.imp fun _ h => h ▸ rfl,
    fun _ => .throw _,
    fun _ => .throw _,
    fun _ => .pure rfl,
    .pure rfl,
    fun k v => (IbmV7k.pools_returns_pools srv k v).imp fun _ =>
      meetsDeclaration_of_list (by rfl) fun _ => by rfl,
    fun k v => (IbmV7k.volumes_returns_volumes srv k v).imp fun _ =>
      meetsDeclaration_of_list (by rfl) fun _ => by rfl,
    (IbmV7k.initiators_returns_initiators srv).imp fun _ =>
      meetsDeclaration_of_list (by rfl) fun _ => by rfl,
    fun pool name size prov =>
      (IbmV7k.volumeCreate_returns_volume srv pool name size prov).imp
        fun _ ⟨_, h⟩ => h ▸ rfl,
    fun vol => (IbmV7k.volumeDelete_returns_none srv vol).imp fun _ h => h ▸ rfl,
    fun i vol => (IbmV7k.initiatorRevoke_returns_none srv i vol).imp fun _ h => h ▸ rfl,
    fun i => (IbmV7k.volumesAccessibleByInitiator_returns_volumes srv i).imp fun _ =>
      meetsDeclaration_of_list (by rfl) fun _ => by rfl,
    fun vol => (IbmV7k.initiatorsGrantedToVolume_returns_initiators srv vol).imp fun _ =>
      meetsDeclaration_of_list (by rfl) fun _ => by rfl⟩

end LibStorageMgmt.V7k

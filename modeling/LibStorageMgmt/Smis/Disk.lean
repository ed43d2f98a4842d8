import LibStorageMgmt.Py.Value

/-!
# SMI-S disks

`smis_disk.py` of the SMI-S plugin: how a `CIM_DiskDrive` instance read from
the provider becomes an `lsm.Disk`. The provider is an oracle (`SmisEnv`): the
`Associators` calls it answers, and the texts pywbem makes of an instance's
properties for the error messages. The `lsm` and `dmtf` constants, and the
helpers `md5`, `merge_list` and `DMTF.dmtf_op_status_list_conv`, live outside
src/ and are parameters (`DiskConsts`, `DmtfConsts`, `SmisEnv`).

A disk's id is the md5 of `"%s%s" % (SystemName, DeviceID)`: the two texts
meet with nothing between them. With md5 injective, two disks get one id
exactly when the two joined texts are equal (`cimDiskToLsmDisk_id_eq_iff`).
Different pairs join equally whenever the end of one system name can move to
the start of the device id, as `("ab", "c")` and `("a", "bc")` do
(`cimDiskToLsmDisk_collision`). Between disks whose system names have one
length, and so between the disks of one system, the id is unique
(`diskIdOfCimDisk_eq_iff_of_length`).
-/

namespace LibStorageMgmt.Smis

open Py

/-! ## CIM instances -/

/-- A CIM property value as pywbem hands it over, of the kinds the module
reads: strings, integers (`uint16`, `uint64`), booleans and integer arrays
(`OperationalStatus`). -/
inductive CimVal where
  | none
  | bool (b : Bool)
  | int (n : Int)
  | str (s : String)
  | ints (ns : List Int)
  deriving DecidableEq, Repr

namespace CimVal

/-- `"%s" % v`. -/
def toStr : CimVal → String
  | .none => "None"
  | .bool b => if b then "True" else "False"
  | .int n => toString n
  | .str s => s
  | .ints ns => "[" ++ ", ".intercalate (ns.map toString) ++ "]"

/-- Python truthiness. -/
def truthy : CimVal → Bool
  | .none => false
  | .bool b => b
  | .int n => n != 0
  | .str s => !s.isEmpty
  | .ints ns => !ns.isEmpty

/-- `v == k` for an integer constant `k`; a bool compares as `0` or `1`. -/
def eqInt (v : CimVal) (k : Int) : Bool :=
  match v with
  | .int n => n == k
  | .bool b => (if b then 1 else 0) == k
  | _ => false

/-- `v == t` for a string constant `t`. -/
def eqStr (v : CimVal) (t : String) : Bool :=
  match v with
  | .str s => s == t
  | _ => false

end CimVal

/-- A `CIMInstance`: the text `"%s"` makes of its path, its class name, and
its properties in order. -/
structure CimInstance where
  path : String
  classname : String
  props : List (String × CimVal)
  deriving DecidableEq, Repr

namespace CimInstance

/-- The value of the property `name`, when the instance carries it. pywbem
keeps the properties in a `NocaseDict`, which compares names after
`lower()`, so any case of a property's name finds it. -/
def lookup (c : CimInstance) (name : String) : Option CimVal :=
  (c.props.find? (lower ·.1 == lower name)).map (·.2)

/-- `name in c`. -/
def has (c : CimInstance) (name : String) : Bool := (c.lookup name).isSome

/-- `c[name]`. -/
def get (c : CimInstance) (name : String) : Except PyExc CimVal :=
  match c.lookup name with
  | some v => .ok v
  | none => .error (.keyError name)

/-- Truthiness of an instance: pywbem's `__len__` counts its properties. -/
def truthy (c : CimInstance) : Bool := !c.props.isEmpty

end CimInstance

/-! ## What the module imports -/

/-- The `lsm.Disk` constants the module uses. -/
structure DiskConsts where
  statusUnknown : Int
  statusOk : Int
  statusPredictiveFailure : Int
  statusError : Int
  statusStarting : Int
  statusStopping : Int
  statusStopped : Int
  statusOther : Int
  typeUnknown : Int
  typeOther : Int
  typeHdd : Int
  typeSsd : Int
  typeHybrid : Int
  typeNlSas : Int
  typeSata : Int
  typeSas : Int
  blockSizeNotFound : Int
  blockCountNotFound : Int

/-- The `dmtf` constants the module uses. -/
structure DmtfConsts where
  opStatusUnknown : Int
  opStatusOk : Int
  opStatusPredictiveFailure : Int
  opStatusError : Int
  opStatusNonRecoverableError : Int
  opStatusStarting : Int
  opStatusStopping : Int
  opStatusStopped : Int
  diskTypeUnknown : Int
  diskTypeOther : Int
  diskTypeHdd : Int
  diskTypeSsd : Int
  diskTypeHybrid : Int

/-- The provider and the helpers of `lsm`, `utils` and `dmtf` the module calls. -/
structure SmisEnv where
  /-- `lsm.md5`. -/
  md5 : String → String
  /-- `smis_common.Associators(path, AssocClass=a, ResultClass=r,
  PropertyList=l)`. -/
  associators : String → String → String → List String → Except PyExc (List CimInstance)
  /-- `utils.merge_list`. -/
  mergeList : List String → List String → List String
  /-- `DMTF.dmtf_op_status_list_conv(conv, statuses, unknown, other)[0]`. -/
  opStatusListConv : List (Int × Int) → CimVal → Int → Int → Int
  /-- The text `"%s"` makes of `cim.items()`. -/
  itemsText : List (String × CimVal) → String
  /-- The text `"%s"` makes of a list of instances. -/
  instancesText : List CimInstance → String

/-- `lsm.Disk(disk_id, name, disk_type, block_size, num_of_block, status,
sys_id)`. -/
structure Disk where
  id : String
  name : CimVal
  diskType : CimVal
  blockSize : CimVal
  numOfBlocks : CimVal
  status : Int
  systemId : CimVal
  deriving DecidableEq, Repr

/-! ## The conversion -/

variable (E : SmisEnv) (K : DiskConsts) (D : DmtfConsts)

/-- The value of a dict literal at `k`: its last entry for `k`. -/
def dictGet (d : List (Int × Int)) (k : Int) : Option Int :=
  (d.reverse.find? (·.1 == k)).map (·.2)

/-- `_LSM_DISK_OP_STATUS_CONV`. -/
def lsmDiskOpStatusConv : List (Int × Int) :=
  [(D.opStatusUnknown, K.statusUnknown), (D.opStatusOk, K.statusOk),
    (D.opStatusPredictiveFailure, K.statusPredictiveFailure), (D.opStatusError, K.statusError),
    (D.opStatusNonRecoverableError, K.statusError), (D.opStatusStarting, K.statusStarting),
    (D.opStatusStopping, K.statusStopping), (D.opStatusStopped, K.statusStopped)]

/-- `_disk_status_of_cim_disk`. -/
def _diskStatusOfCimDisk (cimDisk : CimInstance) : Except PyExc Int := do
  if !cimDisk.has "OperationalStatus" then
    return K.statusUnknown
  pure (E.opStatusListConv (lsmDiskOpStatusConv K D) (← cimDisk.get "OperationalStatus")
    K.statusUnknown K.statusOther)

/-- `_DMTF_DISK_TYPE_2_LSM`. -/
def dmtfDiskType2Lsm : List (Int × Int) :=
  [(D.diskTypeUnknown, K.typeUnknown), (D.diskTypeOther, K.typeOther), (D.diskTypeHdd, K.typeHdd),
    (D.diskTypeSsd, K.typeSsd), (D.diskTypeHybrid, K.typeHybrid)]

/-- `_dmtf_disk_type_2_lsm_disk_type`: a value that is no key of the table,
and a value that is no integer, maps to `TYPE_UNKNOWN`. -/
def _dmtfDiskType2LsmDiskType (dmtfDiskType : CimVal) : Int :=
  match dmtfDiskType with
  | .int n => (dictGet (dmtfDiskType2Lsm K D) n).getD K.typeUnknown
  | _ => K.typeUnknown

/-- `_disk_id_of_cim_disk`. -/
def _diskIdOfCimDisk (cimDisk : CimInstance) : Except PyExc String := do
  if !cimDisk.has "SystemName" || !cimDisk.has "DeviceID" then
    throw (.lsm ⟨.pluginBug, "_disk_id_of_cim_disk(): Got cim_disk with no " ++
      "SystemName or DeviceID property: " ++ cimDisk.path ++ ", " ++ E.itemsText cimDisk.props⟩)
  pure (E.md5 ((← cimDisk.get "SystemName").toStr ++ (← cimDisk.get "DeviceID").toStr))

/-- `cim_disk_pros`: the properties of `CIM_DiskDrive` a `Disk` is made from. -/
def cimDiskPros : List String :=
  ["OperationalStatus", "Name", "SystemName", "Caption", "InterconnectType", "DiskType", "DeviceID"]

/-- `sys_id_of_cim_disk`. -/
def sysIdOfCimDisk (cimDisk : CimInstance) : Except PyExc CimVal := do
  if !cimDisk.has "SystemName" then
    throw (.lsm ⟨.pluginBug, "sys_id_of_cim_disk(): Got cim_disk with no " ++
      "SystemName property: " ++ cimDisk.path ++ ", " ++ E.itemsText cimDisk.props⟩)
  cimDisk.get "SystemName"

/-- `_pri_cim_ext_of_cim_disk`: the one Primordial `CIM_StorageExtent` of the
disk. -/
def _priCimExtOfCimDisk (cimDiskPath : String) (propertyList : Option (List String)) :
    Except PyExc CimInstance := do
  let propertyList := match propertyList with
    | none => ["Primordial"]
    | some l => E.mergeList l ["Primordial"]
  let cimExts ← E.associators cimDiskPath "CIM_MediaPresent" "CIM_StorageExtent" propertyList
  let cimExts ← cimExts.filterM fun p => do pure (← p.get "Primordial").truthy
  match cimExts with
  | [cimExt] => pure cimExt
  | _ => throw (.lsm ⟨.pluginBug, "_pri_cim_ext_of_cim_disk(): " ++
      "Got unexpected count of Primordial " ++ "CIM_StorageExtent for CIM_DiskDrive: " ++
      cimDiskPath ++ ", " ++ E.instancesText cimExts ++ " "⟩)

/-- The disk type `cim_disk_to_lsm_disk` works out (its lines from
`disk_type = Disk.TYPE_UNKNOWN` on): `InterconnectType` as DMTF 2.31 has it,
`TYPE_NL_SAS` for EMC's `NL_SAS` caption, else `DiskType` through the DMTF
table, else, on an LSI array, the class of the disk's protocol endpoint. -/
def cimDiskType (cimDisk : CimInstance) : Except PyExc CimVal := do
  let mut diskType : CimVal := .int K.typeUnknown
  if cimDisk.has "InterconnectType" then
    diskType ← cimDisk.get "InterconnectType"
    if cimDisk.has "Caption" then
      let caption ← cimDisk.get "Caption"
      if caption.eqStr "NL_SAS" then
        diskType := .int K.typeNlSas
  if diskType.eqInt K.typeUnknown && cimDisk.has "DiskType" then
    diskType := .int (_dmtfDiskType2LsmDiskType K D (← cimDisk.get "DiskType"))
  if !diskType.truthy && cimDisk.classname == "LSIESG_DiskDrive" then
    let cimPes ← E.associators cimDisk.path "CIM_SAPAvailableForElement" "CIM_ProtocolEndpoint"
      ["CreationClassName"]
    match cimPes with
    | pe :: _ =>
      if pe.truthy && pe.has "CreationClassName" then
        let ccn ← pe.get "CreationClassName"
        if ccn.eqStr "LSIESG_TargetSATAProtocolEndpoint" then
          diskType := .int K.typeSata
        if ccn.eqStr "LSIESG_TargetSASProtocolEndpoint" then
          diskType := .int K.typeSas
    | [] => pure ()
  return diskType

/-- `cim_disk_to_lsm_disk`. -/
def cimDiskToLsmDisk (cimDisk : CimInstance) : Except PyExc Disk := do
  let cimExt ← _priCimExtOfCimDisk E cimDisk.path (some ["BlockSize", "NumberOfBlocks"])
  let status ← _diskStatusOfCimDisk E K D cimDisk
  let sysId ← sysIdOfCimDisk E cimDisk
  let name ← (if cimDisk.has "Name" then cimDisk.get "Name" else pure (.str ""))
  let blockSize ← (if cimExt.has "BlockSize" then cimExt.get "BlockSize"
    else pure (.int K.blockSizeNotFound))
  let numOfBlock ← (if cimExt.has "NumberOfBlocks" then cimExt.get "NumberOfBlocks"
    else pure (.int K.blockCountNotFound))
  let diskType ← cimDiskType E K D cimDisk
  let diskId ← _diskIdOfCimDisk E cimDisk
  pure ⟨diskId, name, diskType, blockSize, numOfBlock, status, sysId⟩

/-! ## What a returned disk is made of -/

/-- Every value an `Except` computation returns satisfies `Q`. -/
def Returns {α : Type} (Q : α → Prop) (x : Except PyExc α) : Prop := ∀ a, x = .ok a → Q a

namespace Returns

variable {α β : Type} {Q : β → Prop}

theorem pure {b : β} (h : Q b) : Returns Q (Pure.pure b) := fun _ h' => by
  cases h'
  exact h

/-- A step that returns `a` hands `a`, and the fact that it returned it, to the
rest of the computation. -/
theorem bind {x : Except PyExc α} {f : α → Except PyExc β}
    (hf : ∀ a, x = .ok a → Returns Q (f a)) : Returns Q (x >>= f) := fun b h => by
  cases hx : x with
  | error e =>
    rw [hx] at h
    cases h
  | ok a =>
    rw [hx] at h
    exact hf a hx b h

end Returns

/-- A returned disk's system id and id are what `sys_id_of_cim_disk` and
`_disk_id_of_cim_disk` return. -/
theorem cimDiskToLsmDisk_returns (c : CimInstance) :
    Returns (fun d => sysIdOfCimDisk E c = .ok d.systemId ∧ _diskIdOfCimDisk E c = .ok d.id)
      (cimDiskToLsmDisk E K D c) := by
  unfold cimDiskToLsmDisk
  repeat' first
    | with_reducible refine Returns.bind fun _ _ => ?_
    | with_reducible exact Returns.pure ⟨‹_›, ‹_›⟩

theorem diskIdOfCimDisk_of_lookup {c : CimInstance} {s d : CimVal}
    (hs : c.lookup "SystemName" = some s) (hd : c.lookup "DeviceID" = some d) :
    _diskIdOfCimDisk E c = .ok (E.md5 (s.toStr ++ d.toStr)) := by
  simp [_diskIdOfCimDisk, CimInstance.has, CimInstance.get, hs, hd]
  rfl

/-! ## Disk ids -/

/-- An SMI-S provider whose every disk has one Primordial extent, of 1000
blocks of 512 bytes, with md5 read as the identity, an injective function. -/
def sampleEnv : SmisEnv where
  md5 := id
  associators _ _ _ _ := .ok [⟨"ext0", "CIM_StorageExtent",
    [("Primordial", .bool true), ("BlockSize", .int 512), ("NumberOfBlocks", .int 1000)]⟩]
  mergeList l m := l ++ m
  opStatusListConv _ _ unknown _ := unknown
  itemsText _ := ""
  instancesText _ := ""

/-- Pairwise distinct sample values of the `lsm.Disk` constants. -/
def sampleDiskConsts : DiskConsts where
  statusUnknown := 1
  statusOk := 2
  statusPredictiveFailure := 8
  statusError := 16
  statusStarting := 64
  statusStopping := 128
  statusStopped := 256
  statusOther := 4
  typeUnknown := 0
  typeOther := 1
  typeHdd := 52
  typeSsd := 53
  typeHybrid := 54
  typeNlSas := 51
  typeSata := 4
  typeSas := 5
  blockSizeNotFound := -1
  blockCountNotFound := -1

/-- The DMTF values of `OperationalStatus` and of `DiskType`. -/
def sampleDmtfConsts : DmtfConsts where
  opStatusUnknown := 0
  opStatusOk := 2
  opStatusPredictiveFailure := 5
  opStatusError := 6
  opStatusNonRecoverableError := 7
  opStatusStarting := 8
  opStatusStopping := 9
  opStatusStopped := 10
  diskTypeUnknown := 0
  diskTypeOther := 1
  diskTypeHdd := 2
  diskTypeSsd := 3
  diskTypeHybrid := 4

/-- A disk `c` of the system `ab`. -/
def diskAbC : CimInstance :=
  ⟨"ab:c", "CIM_DiskDrive", [("SystemName", .str "ab"), ("DeviceID", .str "c")]⟩

/-- A disk `bc` of the system `a`. -/
def diskABc : CimInstance :=
  ⟨"a:bc", "CIM_DiskDrive", [("SystemName", .str "a"), ("DeviceID", .str "bc")]⟩

/-- A second disk `d` of the system `ab`. -/
def diskAbD : CimInstance :=
  ⟨"ab:d", "CIM_DiskDrive", [("SystemName", .str "ab"), ("DeviceID", .str "d")]⟩

section Ids

variable {E} {a b : CimInstance} {sa ia sb ib : CimVal}
  (hsa : a.lookup "SystemName" = some sa) (hia : a.lookup "DeviceID" = some ia)
  (hsb : b.lookup "SystemName" = some sb) (hib : b.lookup "DeviceID" = some ib)
include hsa hia hsb hib

/-- With md5 injective, two disks that carry `SystemName` and `DeviceID` get
one id from `_disk_id_of_cim_disk` exactly when `"%s%s"` makes one text of
the two pairs; and so do the `Disk`s `cim_disk_to_lsm_disk` returns for them. -/
theorem cimDiskToLsmDisk_id_eq_iff (hmd5 : Function.Injective E.md5) :
    (_diskIdOfCimDisk E a = _diskIdOfCimDisk E b ↔ sa.toStr ++ ia.toStr = sb.toStr ++ ib.toStr) ∧
    ∀ da db, cimDiskToLsmDisk E K D a = .ok da → cimDiskToLsmDisk E K D b = .ok db →
      (da.id = db.id ↔ sa.toStr ++ ia.toStr = sb.toStr ++ ib.toStr) := by
  have hid : _diskIdOfCimDisk E a = _diskIdOfCimDisk E b ↔
      sa.toStr ++ ia.toStr = sb.toStr ++ ib.toStr := by
    rw [diskIdOfCimDisk_of_lookup E hsa hia, diskIdOfCimDisk_of_lookup E hsb hib,
      Except.ok.injEq, hmd5.eq_iff]
  refine ⟨hid, fun da db ha hb => ?_⟩
  rw [← hid, (cimDiskToLsmDisk_returns E K D a da ha).2, (cimDiskToLsmDisk_returns E K D b db hb).2,
    Except.ok.injEq]

omit hsa hia hsb hib in
/-- The disks `c` of the system `ab` and `bc` of the system `a` convert to
`Disk`s of one id. -/
theorem cimDiskToLsmDisk_collision :
    ∃ da db, cimDiskToLsmDisk sampleEnv sampleDiskConsts sampleDmtfConsts diskAbC = .ok da ∧
      cimDiskToLsmDisk sampleEnv sampleDiskConsts sampleDmtfConsts diskABc = .ok db ∧
      da.id = db.id ∧ diskAbC.lookup "SystemName" ≠ diskABc.lookup "SystemName" := by
  obtain ⟨-, hid⟩ := cimDiskToLsmDisk_id_eq_iff sampleDiskConsts sampleDmtfConsts
    (show diskAbC.lookup "SystemName" = some (.str "ab") from rfl)
    (show diskAbC.lookup "DeviceID" = some (.str "c") from rfl)
    (show diskABc.lookup "SystemName" = some (.str "a") from rfl)
    (show diskABc.lookup "DeviceID" = some (.str "bc") from rfl)
    (show Function.Injective sampleEnv.md5 from Function.injective_id)
  exact ⟨_, _, rfl, rfl, (hid _ _ rfl rfl).mpr rfl, by decide⟩

/-- Between disks whose system names print to texts of one length, as the
disks of one system do, `_disk_id_of_cim_disk` is unique: one id means one
system name and one device id. -/
theorem diskIdOfCimDisk_eq_iff_of_length (hmd5 : Function.Injective E.md5)
    (hlen : sa.toStr.length = sb.toStr.length) :
    _diskIdOfCimDisk E a = _diskIdOfCimDisk E b ↔ sa.toStr = sb.toStr ∧ ia.toStr = ib.toStr := by
  rw [diskIdOfCimDisk_of_lookup E hsa hia, diskIdOfCimDisk_of_lookup E hsb hib,
    Except.ok.injEq, hmd5.eq_iff]
  constructor
  · intro h
    obtain ⟨h₁, h₂⟩ := List.append_inj (congrArg String.data h) hlen
    exact ⟨String.ext h₁, String.ext h₂⟩
  · rintro ⟨h₁, h₂⟩
    rw [h₁, h₂]

omit hsa hia hsb hib in
theorem diskIdOfCimDisk_one_system :
    (_diskIdOfCimDisk sampleEnv diskAbC = _diskIdOfCimDisk sampleEnv diskAbD ↔
      "ab" = "ab" ∧ "c" = "d") :=
  diskIdOfCimDisk_eq_iff_of_length (show diskAbC.lookup "SystemName" = some (.str "ab") from rfl)
    (show diskAbC.lookup "DeviceID" = some (.str "c") from rfl)
    (show diskAbD.lookup "SystemName" = some (.str "ab") from rfl)
    (show diskAbD.lookup "DeviceID" = some (.str "d") from rfl)
    (show Function.Injective sampleEnv.md5 from Function.injective_id) rfl

end Ids

/-! ## The properties a disk is made from -/

/-- `cim_disk_pros` names every property of the disk that
`cim_disk_to_lsm_disk` reads: an instance that agrees with the disk on its
path, its class and those properties converts to the same `Disk`, whatever
else it carries. So a provider asked for those properties only is enough. -/
theorem cimDiskToLsmDisk_of_pros {a b : CimInstance} (hpath : a.path = b.path)
    (hcls : a.classname = b.classname) (hpros : ∀ n ∈ cimDiskPros, a.lookup n = b.lookup n)
    {d : Disk} (h : cimDiskToLsmDisk E K D a = .ok d) : cimDiskToLsmDisk E K D b = .ok d := by
  have hhas : ∀ n ∈ cimDiskPros, b.has n = a.has n := fun n hn => by
    simp only [CimInstance.has, hpros n hn]
  have hget : ∀ n ∈ cimDiskPros, b.get n = a.get n := fun n hn => by
    simp only [CimInstance.get, hpros n hn]
  obtain ⟨hsys, hid⟩ := cimDiskToLsmDisk_returns E K D a d h
  -- The disk carries `SystemName` and `DeviceID`, or its conversion would raise.
  have hsn : a.has "SystemName" = true := by
    by_contra hn
    rw [sysIdOfCimDisk, if_pos (by simpa using hn)] at hsys
    cases hsys
  have hdi : a.has "DeviceID" = true := by
    by_contra hn
    rw [_diskIdOfCimDisk, if_pos (by simp [hn])] at hid
    cases hid
  have hsys' : sysIdOfCimDisk E b = sysIdOfCimDisk E a := by
    simp (disch := decide) [sysIdOfCimDisk, hhas, hget, hsn]
  have hid' : _diskIdOfCimDisk E b = _diskIdOfCimDisk E a := by
    simp (disch := decide) [_diskIdOfCimDisk, hhas, hget, hsn, hdi]
  have hst : _diskStatusOfCimDisk E K D b = _diskStatusOfCimDisk E K D a := by
    simp (disch := decide) only [_diskStatusOfCimDisk, hhas, hget]
  have htype : cimDiskType E K D b = cimDiskType E K D a := by
    simp only [cimDiskType, hcls, hpath, hhas "InterconnectType" (by decide),
      hget "InterconnectType" (by decide), hhas "Caption" (by decide), hget "Caption" (by decide),
      hhas "DiskType" (by decide), hget "DiskType" (by decide)]
  rw [← h]
  unfold cimDiskToLsmDisk
  rw [← hpath, hst, hsys', hhas "Name" (by decide), hget "Name" (by decide), htype, hid']

/-- The disk `c` of the system `ab`, as a provider returns it with every
property: its element name too. -/
def diskAbCNamed : CimInstance :=
  ⟨"ab:c", "CIM_DiskDrive",
    [("ElementName", .str "slot 3"), ("SystemName", .str "ab"), ("DeviceID", .str "c")]⟩

theorem cimDiskToLsmDisk_named :
    ∃ d, cimDiskToLsmDisk sampleEnv sampleDiskConsts sampleDmtfConsts diskAbC = .ok d ∧
      cimDiskToLsmDisk sampleEnv sampleDiskConsts sampleDmtfConsts diskAbCNamed = .ok d :=
  ⟨_, rfl, cimDiskToLsmDisk_of_pros sampleEnv sampleDiskConsts sampleDmtfConsts
    (show diskAbC.path = diskAbCNamed.path from rfl)
    (show diskAbC.classname = diskAbCNamed.classname from rfl) (by decide) rfl⟩

end LibStorageMgmt.Smis

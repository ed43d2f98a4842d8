import LibStorageMgmt.V7k.Plugin

/-!
# The array

Modelled from the spec: the array behind the plugin as the plugin's commands
see it, its system, pools, volumes and hosts and the set of host-volume
mappings, with what each command line does to them. The array reads a
command line as its whitespace-separated words (`server`), as its shell
does, and takes an object word for an id when it is all digits and for a
name otherwise (`findObj`).

* `lssystem -delim !` shows the system's id and name.
* `lsmdiskgrp -bytes -delim !` lists the pools, each with its capacity and
  its free capacity in bytes: the capacity less what its volumes take.
  `lsvdisk -bytes -delim !` lists the volumes and `lshost -delim !` the hosts;
  with an object word after the options they show that object's detailed
  view (`listCmd`). `lshostvdiskmap -delim ! <h>` and `lsvdiskhostmap -delim !
  <v>` list the mappings of a host and of a volume.
* `mkvdisk -name <n> -mdiskgrp <g> -iogrp 0 -size <b> -unit b` adds an online
  volume of `b` bytes to the pool, which takes all of it from the pool's free
  capacity, or, with `-rsize <r>% -warning <w> -autoexpand`, `r` percent of it
  (thin provisioning). The name must start with a letter or `_`, be new and
  print in a view. `rmvdisk <v>` deletes a volume mapped to no host;
  `rmvdisk -force <v>` deletes the volume and its mappings.
* `mkhost -hbawwpn <p>` and `mkhost -iscsiname <p>` add a host with that port,
  unless a host already has it or it cannot be printed in a view.
  `mkvdiskhostmap [-force] -host <h> <v>` adds a mapping (without `-force`,
  only for a volume mapped to no host yet); `rmvdiskhostmap -host <h> <v>`
  removes one. `rmhost <h>` deletes a host with no mapping and fails for one
  with mappings; `rmhost -force <h>` deletes the host and its mappings.

A failure exits with code 1 and a `CMMVCnnnnE reason` line on stderr and
changes nothing (`run_outcome`). Every command keeps two invariants
(`Inv.run`, `Wf.run`): `Inv`, of the host table (host ids below the next id
and distinct, no port on two hosts, names and ports printable in a `-delim !`
view, every mapping of a host id already given out), and `Wf`, which adds
that ports are single words, that every mapping names a host and a volume of
the array, and that the names of pools and volumes and the volumes' UIDs
print in a view.
-/

namespace LibStorageMgmt.V7k

open Py

/-- Modelled from the spec: a host of the array, with at most one WWPN and at
most one iSCSI name. -/
structure Host where
  id : Nat
  name : String
  wwpn : Option String
  iscsiName : Option String
  deriving DecidableEq, Repr

/-- The port names of a host. -/
def Host.ports (h : Host) : List String := h.wwpn.toList ++ h.iscsiName.toList

theorem Host.mem_ports {h : Host} {x : String} :
    x ∈ h.ports ↔ h.wwpn = some x ∨ h.iscsiName = some x := by
  simp only [Host.ports, List.mem_append, Option.mem_toList, Option.mem_def]

/-- Modelled from the spec: the status `lsvdisk` prints for a volume. -/
inductive VdiskStatus where
  | online
  | offline
  | degraded
  deriving DecidableEq, Repr

/-- The text of a status in a view. -/
def VdiskStatus.text : VdiskStatus → String
  | .online => "online"
  | .offline => "offline"
  | .degraded => "degraded"

/-- Modelled from the spec: a volume (vdisk) with its id, name, UID, pool,
capacity in bytes, the bytes it takes from its pool, and status. -/
structure Vdisk where
  id : Nat
  name : String
  uid : String
  poolId : Nat
  capacity : Nat
  realCapacity : Nat
  status : VdiskStatus
  deriving DecidableEq, Repr

/-- Modelled from the spec: a pool (managed disk group) with its id, name and
capacity in bytes. -/
structure MdiskGrp where
  id : Nat
  name : String
  capacity : Nat
  deriving DecidableEq, Repr

/-- Modelled from the spec: the array's system, pools, volumes, hosts and
host-volume mappings `(host id, volume id)`, with the ids the next new volume
and the next new host get. -/
structure ArrayState where
  sysId : String
  sysName : String
  pools : List MdiskGrp
  volumes : List Vdisk
  hosts : List Host
  maps : List (Nat × Nat)
  nextVdiskId : Nat
  nextHostId : Nat
  deriving DecidableEq, Repr

namespace ArrayState

variable (s : ArrayState)

/-- The ids of the array's volumes. -/
def vdisks : List Nat := s.volumes.map Vdisk.id

/-! ## Naming an object -/

/-- A word the array takes for an object id: all digits. -/
def isIdWord (t : String) : Bool := decide (t.data ≠ [] ∧ ∀ c ∈ t.data, c.isDigit)

/-- The object of `objs` a word names: the first with that id when the word
is all digits, else the first with that name. -/
def findObj {α : Type} (id : α → Nat) (name : α → String) (objs : List α) (t : String) :
    Option α :=
  if isIdWord t then objs.find? (fun o => toString (id o) = t) else objs.find? (name · = t)

/-- The host a word names. -/
def findHost (t : String) : Option Host := findObj Host.id Host.name s.hosts t

/-- The volume a word names. -/
def findVolume (v : String) : Option Vdisk := findObj Vdisk.id Vdisk.name s.volumes v

/-- The id of the volume a word names. -/
def findVdisk (v : String) : Option Nat := (s.findVolume v).map Vdisk.id

/-- The pool a word names. -/
def findPool (g : String) : Option MdiskGrp := findObj MdiskGrp.id MdiskGrp.name s.pools g

/-! ## What the array prints -/

/-- The detailed view `lssystem -delim !`. -/
def systemView : String := unlines [detailLine ("id", s.sysId), detailLine ("name", s.sysName)]

/-- The bytes a pool's volumes take from it. -/
def usedCapacity (g : MdiskGrp) : Nat :=
  ((s.volumes.filter (·.poolId = g.id)).map Vdisk.realCapacity).sum

/-- The bytes of a pool that no volume takes. -/
def freeCapacity (g : MdiskGrp) : Nat := g.capacity - s.usedCapacity g

/-- The attributes of a pool's views. -/
def poolAttrs (g : MdiskGrp) : Dict :=
  [("id", toString g.id), ("name", g.name), ("capacity", toString g.capacity),
    ("free_capacity", toString (s.freeCapacity g))]

/-- The attributes of a volume's views. -/
def vdiskAttrs (v : Vdisk) : Dict :=
  [("id", toString v.id), ("name", v.name), ("status", v.status.text),
    ("mdisk_grp_id", toString v.poolId), ("capacity", toString v.capacity), ("vdisk_UID", v.uid)]

/-- The concise view of objects: a header of the attributes' names and a row
of their values per object. -/
def attrListing {α : Type} (keys : List String) (attrs : α → Dict) (objs : List α) : String :=
  unlines (sepJoin '!' keys :: objs.map fun o => sepJoin '!' ((attrs o).map Prod.snd))

/-- The detailed view of an object: a line per attribute. -/
def attrView (attrs : Dict) : String := unlines (attrs.map detailLine)

/-- The concise view `lsmdiskgrp -bytes -delim !`. -/
def poolListing : String :=
  attrListing ["id", "name", "capacity", "free_capacity"] s.poolAttrs s.pools

/-- The concise view `lsvdisk -bytes -delim !`. -/
def vdiskListing : String :=
  attrListing ["id", "name", "status", "mdisk_grp_id", "capacity", "vdisk_UID"] vdiskAttrs
    s.volumes

/-- The concise view `lshost -delim !`. -/
def hostListing (hosts : List Host) : String :=
  unlines (sepJoin '!' ["id", "name"] :: hosts.map fun h => sepJoin '!' [toString h.id, h.name])

/-- The attributes of a host's detailed view. -/
def hostAttrs (h : Host) : Dict :=
  [("id", toString h.id), ("name", h.name)] ++ (h.wwpn.map ("WWPN", ·)).toList ++
    (h.iscsiName.map ("iscsi_name", ·)).toList

/-- The detailed view `lshost -delim ! <id>`. -/
def hostView (h : Host) : String := unlines ((hostAttrs h).map detailLine)

/-- The concise view `lshostvdiskmap -delim ! <id>`. -/
def hostMapListing (h : Host) (maps : List (Nat × Nat)) : String :=
  unlines (sepJoin '!' ["id", "name", "vdisk_id"] :: (maps.filter (·.1 = h.id)).map fun m =>
    sepJoin '!' [toString h.id, h.name, toString m.2])

/-- The concise view `lsvdiskhostmap -delim ! <vdisk>`. -/
def vdiskMapListing (vid : Nat) (hosts : List Host) (maps : List (Nat × Nat)) : String :=
  unlines (sepJoin '!' ["id", "host_id", "host_name"] ::
    (hosts.filter fun h => (h.id, vid) ∈ maps).map fun h =>
      sepJoin '!' [toString vid, toString h.id, h.name])

/-! ## The commands -/

/-- A command that succeeds with `out` on stdout. -/
def done (out : String) (s' : ArrayState) : ExecResult × ArrayState := (⟨0, out, ""⟩, s')

/-- A command that fails, changing nothing. -/
def failed (err : String) : ExecResult × ArrayState := (⟨1, "", err⟩, s)

/-- The array's errors. -/
def notFound : String :=
  "CMMVC5753E The specified object does not exist or is not a suitable candidate."

def badParameter : String := "CMMVC5709E The parameters are not supported."

def alreadyExists : String := "CMMVC6035E The action failed as the object already exists."

def alreadyMapped : String := "CMMVC5878E The volume is already mapped to a host."

def hostInUse : String := "CMMVC5871E The host has mappings."

def invalidName : String := "CMMVC6527E The name that you have entered is not valid."

def notEnoughExtents : String :=
  "CMMVC5860E The action failed because there were not enough extents in the managed disk group."

def vdiskMapped : String := "CMMVC5840E The virtual disk (VDisk) was not deleted because it is " ++
  "mapped to a host or because it is part of a FlashCopy or Remote Copy mapping."

/-- A command that shows an object: the options and the object's word print
its view, an object the array does not have is refused. -/
def viewCmd (opts : List String) (view : String → Option String) (args : List String) :
    ExecResult × ArrayState :=
  match args.reverse with
  | t :: rest =>
    if rest.reverse = opts then
      match view t with
      | some out => done out s
      | none => s.failed notFound
    else s.failed badParameter
  | [] => s.failed badParameter

/-- A listing command: the options alone print the concise `listing`, the
options and an object's word that object's view. -/
def listCmd (opts : List String) (listing : String) (view : String → Option String)
    (args : List String) : ExecResult × ArrayState :=
  if args = opts then done listing s else s.viewCmd opts view args

/-- `lssystem`. -/
def lssystem : List String → ExecResult × ArrayState :=
  s.listCmd ["-delim", "!"] s.systemView fun _ => none

/-- `lsmdiskgrp`. -/
def lsmdiskgrp : List String → ExecResult × ArrayState :=
  s.listCmd ["-bytes", "-delim", "!"] s.poolListing fun g =>
    (s.findPool g).map fun g => attrView (s.poolAttrs g)

/-- `lsvdisk`. -/
def lsvdisk : List String → ExecResult × ArrayState :=
  s.listCmd ["-bytes", "-delim", "!"] s.vdiskListing fun v =>
    (s.findVolume v).map fun v => attrView (vdiskAttrs v)

/-- `lshost`. -/
def lshost : List String → ExecResult × ArrayState :=
  s.listCmd ["-delim", "!"] (hostListing s.hosts) fun t => (s.findHost t).map hostView

/-- `lshostvdiskmap`. -/
def lshostvdiskmap : List String → ExecResult × ArrayState :=
  s.viewCmd ["-delim", "!"] fun t => (s.findHost t).map (hostMapListing · s.maps)

/-- `lsvdiskhostmap`. -/
def lsvdiskhostmap : List String → ExecResult × ArrayState :=
  s.viewCmd ["-delim", "!"] fun v => (s.findVdisk v).map (vdiskMapListing · s.hosts s.maps)

/-- A natural number written in decimal digits. -/
def natOfWord (t : String) : Option Nat :=
  if t.data ≠ [] ∧ ∀ c ∈ t.data, c.isDigit then some (digitsValue 0 t.data) else none

/-- A name `mkvdisk` accepts: it starts with a letter or `_` and prints in a
view. -/
def validName (n : String) : Bool :=
  (match n.data with
    | c :: _ => c.isAlpha || c == '_'
    | [] => false) && decide (IsField n)

/-- The percentage of a new volume's size that it takes from its pool: all of
it, or the `-rsize` of a thin volume. -/
def allocPercent : List String → Option Nat
  | [] => some 100
  | ["-rsize", r, "-warning", w, "-autoexpand"] =>
    match r.data.reverse, natOfWord w with
    | '%' :: ds, some _ => natOfWord (String.mk ds.reverse)
    | _, _ => none
  | _ => none

/-- The UID the array gives the volume with id `n`. -/
def vdiskUid (n : Nat) : String := "60050768" ++ toString n

/-- The volume `mkvdisk` adds: the next id, its UID, online. -/
def newVdisk (name : String) (g : MdiskGrp) (bytes real : Nat) : Vdisk :=
  ⟨s.nextVdiskId, name, vdiskUid s.nextVdiskId, g.id, bytes, real, .online⟩

/-- The array with one more volume, which takes the next id. -/
def addVdisk (v : Vdisk) : ArrayState :=
  { s with volumes := s.volumes ++ [v], nextVdiskId := s.nextVdiskId + 1 }

@[simp] theorem addVdisk_volumes (v : Vdisk) : (s.addVdisk v).volumes = s.volumes ++ [v] := rfl

@[simp] theorem addVdisk_hosts (v : Vdisk) : (s.addVdisk v).hosts = s.hosts := rfl

@[simp] theorem addVdisk_maps (v : Vdisk) : (s.addVdisk v).maps = s.maps := rfl

@[simp] theorem addVdisk_nextHostId (v : Vdisk) : (s.addVdisk v).nextHostId = s.nextHostId := rfl

/-- The array without a volume and its mappings. -/
def removeVdisk (v : Vdisk) : ArrayState :=
  { s with volumes := s.volumes.erase v, maps := s.maps.filter (·.2 ≠ v.id) }

/-- The bytes a volume of `bytes` takes from its pool at `pct` percent,
rounded up. -/
def realCapacityOf (bytes pct : Nat) : Nat := (bytes * pct + 99) / 100

/-- `mkvdisk` with its options read: the new volume's name, the pool's word,
the size's word and the allocation options. -/
def mkvdiskWith (name g size : String) (rest : List String) : ExecResult × ArrayState :=
  match natOfWord size, allocPercent rest with
  | some (bytes + 1), some pct =>
    if !validName name then s.failed invalidName
    else if s.volumes.any (·.name = name) then s.failed alreadyExists
    else match s.findPool g with
      | none => s.failed notFound
      | some pool =>
        if s.freeCapacity pool < realCapacityOf (bytes + 1) pct then s.failed notEnoughExtents
        else done ("Virtual Disk, id [" ++ toString s.nextVdiskId ++ "], successfully created")
          (s.addVdisk (s.newVdisk name pool (bytes + 1) (realCapacityOf (bytes + 1) pct)))
  | _, _ => s.failed badParameter

/-- `mkvdisk`. -/
def mkvdisk : List String → ExecResult × ArrayState
  | "-name" :: name :: "-mdiskgrp" :: g :: "-iogrp" :: "0" :: "-size" :: size :: "-unit" :: "b" ::
      rest => s.mkvdiskWith name g size rest
  | _ => s.failed badParameter

/-- `rmvdisk`. -/
def rmvdisk : List String → ExecResult × ArrayState
  | ["-force", t] => match s.findVolume t with
    | some v => done "" (s.removeVdisk v)
    | none => s.failed notFound
  | [t] => match s.findVolume t with
    | some v =>
      if s.maps.any (·.2 = v.id) then s.failed vdiskMapped else done "" (s.removeVdisk v)
    | none => s.failed notFound
  | _ => s.failed badParameter

/-- The host `mkhost <opt> <port>` adds: the next id, a name made from it,
and the port as its WWPN or its iSCSI name. -/
def newHost (opt port : String) : Host :=
  ⟨s.nextHostId, "host" ++ toString s.nextHostId,
    if opt = "-hbawwpn" then some port else none,
    if opt = "-iscsiname" then some port else none⟩

/-- The table with one more host, which takes the next id. -/
def addHost (h : Host) : ArrayState :=
  { s with hosts := s.hosts ++ [h], nextHostId := s.nextHostId + 1 }

@[simp] theorem addHost_hosts (h : Host) : (s.addHost h).hosts = s.hosts ++ [h] := rfl

@[simp] theorem addHost_nextHostId (h : Host) : (s.addHost h).nextHostId = s.nextHostId + 1 :=
  rfl

@[simp] theorem addHost_maps (h : Host) : (s.addHost h).maps = s.maps := rfl

@[simp] theorem addHost_volumes (h : Host) : (s.addHost h).volumes = s.volumes := rfl

/-- `mkhost` with one port. -/
def mkhost : List String → ExecResult × ArrayState
  | [opt, port] =>
    if opt = "-hbawwpn" ∨ opt = "-iscsiname" then
      if s.hosts.any (port ∈ ·.ports) ∨ ¬IsField port then s.failed alreadyExists
      else done ("Host, id [" ++ toString s.nextHostId ++ "], successfully created")
        (s.addHost (s.newHost opt port))
    else s.failed badParameter
  | _ => s.failed badParameter

/-- Map a volume to a host. -/
def mapVdisk (force : Bool) (t v : String) : ExecResult × ArrayState :=
  match s.findHost t, s.findVdisk v with
  | some h, some vid =>
    if (h.id, vid) ∈ s.maps ∨ (!force ∧ s.maps.any (·.2 = vid)) then s.failed alreadyMapped
    else done ("Virtual Disk to Host map, id [" ++ toString (s.maps.countP (·.1 = h.id)) ++
      "], successfully created") { s with maps := s.maps ++ [(h.id, vid)] }
  | _, _ => s.failed notFound

/-- `mkvdiskhostmap`. -/
def mkvdiskhostmap : List String → ExecResult × ArrayState
  | ["-force", "-host", t, v] => s.mapVdisk true t v
  | ["-host", t, v] => s.mapVdisk false t v
  | _ => s.failed badParameter

/-- `rmvdiskhostmap`. -/
def rmvdiskhostmap : List String → ExecResult × ArrayState
  | ["-host", t, v] => match s.findHost t, s.findVdisk v with
    | some h, some vid =>
      if (h.id, vid) ∈ s.maps then done "" { s with maps := s.maps.erase (h.id, vid) }
      else s.failed notFound
    | _, _ => s.failed notFound
  | _ => s.failed badParameter

/-- `rmhost`. -/
def rmhost : List String → ExecResult × ArrayState
  | ["-force", t] => match s.findHost t with
    | some h => done ""
        { s with hosts := s.hosts.erase h, maps := s.maps.filter (·.1 ≠ h.id) }
    | none => s.failed notFound
  | [t] => match s.findHost t with
    | some h =>
      if s.maps.any (·.1 = h.id) then s.failed hostInUse
      else done "" { s with hosts := s.hosts.erase h }
    | none => s.failed notFound
  | _ => s.failed badParameter

end ArrayState

/-- The commands the array answers. -/
inductive Cmd where
  | lssystem
  | lsmdiskgrp
  | lsvdisk
  | mkvdisk
  | rmvdisk
  | lshost
  | mkhost
  | mkvdiskhostmap
  | rmvdiskhostmap
  | rmhost
  | lshostvdiskmap
  | lsvdiskhostmap
  deriving DecidableEq, Repr

/-- The command a command word names. -/
def Cmd.ofWord : String → Option Cmd
  | "lssystem" => some .lssystem
  | "lsmdiskgrp" => some .lsmdiskgrp
  | "lsvdisk" => some .lsvdisk
  | "mkvdisk" => some .mkvdisk
  | "rmvdisk" => some .rmvdisk
  | "lshost" => some .lshost
  | "mkhost" => some .mkhost
  | "mkvdiskhostmap" => some .mkvdiskhostmap
  | "rmvdiskhostmap" => some .rmvdiskhostmap
  | "rmhost" => some .rmhost
  | "lshostvdiskmap" => some .lshostvdiskmap
  | "lsvdiskhostmap" => some .lsvdiskhostmap
  | _ => none

/-- The commands that only print: the listings and views. -/
def Cmd.isQuery : Cmd → Bool
  | .lssystem | .lsmdiskgrp | .lsvdisk | .lshost | .lshostvdiskmap | .lsvdiskhostmap => true
  | _ => false

namespace ArrayState

variable (s : ArrayState)

/-- A command on its arguments. -/
def exec : Cmd → List String → ExecResult × ArrayState
  | .lssystem => s.lssystem
  | .lsmdiskgrp => s.lsmdiskgrp
  | .lsvdisk => s.lsvdisk
  | .mkvdisk => s.mkvdisk
  | .rmvdisk => s.rmvdisk
  | .lshost => s.lshost
  | .mkhost => s.mkhost
  | .mkvdiskhostmap => s.mkvdiskhostmap
  | .rmvdiskhostmap => s.rmvdiskhostmap
  | .rmhost => s.rmhost
  | .lshostvdiskmap => s.lshostvdiskmap
  | .lsvdiskhostmap => s.lsvdiskhostmap

/-- One command line, as its words. -/
def run : List String → ExecResult × ArrayState
  | c :: args => match Cmd.ofWord c with
    | some k => s.exec k args
    | none => s.failed badParameter
  | [] => s.failed badParameter

/-! ## What a command can do -/

/-- `run` runs the command its first word names on the words after it, or
fails. -/
theorem run_cases (argv : List String) :
    s.run argv = s.failed badParameter ∨
      ∃ k c args, argv = c :: args ∧ s.run argv = s.exec k args := by
  unfold run
  split
  · split
    · exact .inr ⟨_, _, _, rfl, rfl⟩
    · exact .inl rfl
  · exact .inl rfl

theorem find?_of_unique {β : Type} {p : β → Bool} {x : β} :
    ∀ {l : List β}, x ∈ l → p x → (∀ y ∈ l, p y → y = x) → l.find? p = some x
  | y :: l, hx, hp, hu => by
    by_cases hy : p y
    · rw [List.find?_cons_of_pos _ hy, hu y (List.mem_cons_self y l) hy]
    · rw [List.find?_cons_of_neg _ hy]
      rcases List.mem_cons.mp hx with rfl | hx
      · exact absurd hp hy
      · exact find?_of_unique hx hp fun z hz => hu z (List.mem_cons_of_mem y hz)

theorem isIdWord_natToString (n : Nat) : isIdWord (toString n) = true :=
  decide_eq_true ⟨(isNumeral_natToString n).1, isDigit_natToString n⟩

/-- A word that names an object by id names one with that printed id. -/
theorem findObj_some {α : Type} {id : α → Nat} {name : α → String} {objs : List α} {t : String}
    {o : α} (hf : findObj id name objs t = some o) :
    o ∈ objs ∧ (isIdWord t → toString (id o) = t) := by
  unfold findObj at hf
  split at hf
  · exact ⟨List.mem_of_find?_eq_some hf, fun _ => by simpa using List.find?_some hf⟩
  · exact ⟨List.mem_of_find?_eq_some hf, fun h => absurd h ‹_›⟩

/-- The printed id of an object finds the first object with that id. -/
theorem findObj_natToString {α : Type} (id : α → Nat) (name : α → String) (objs : List α)
    (n : Nat) : findObj id name objs (toString n) = objs.find? (id · = n) := by
  simp only [findObj, isIdWord_natToString, if_true]
  congr 1
  funext o
  exact decide_eq_decide.mpr ⟨natToString_injective, congrArg toString⟩

/-- An object of a list with distinct ids is found by its printed id. -/
theorem findObj_of_mem {α : Type} {id : α → Nat} (name : α → String) {objs : List α} {o : α}
    (hnd : (objs.map id).Nodup) (ho : o ∈ objs) : findObj id name objs (toString (id o)) = some o := by
  rw [findObj_natToString]
  exact find?_of_unique ho (by simp) fun y hy hyp =>
    List.inj_on_of_nodup_map hnd hy ho (by simpa using hyp)

/-- A host of a table with distinct ids is found by its printed id. -/
theorem findHost_of_mem {h : Host} (hnd : (s.hosts.map Host.id).Nodup) (hh : h ∈ s.hosts) :
    s.findHost (toString h.id) = some h :=
  findObj_of_mem Host.name hnd hh

/-- Every volume id finds a volume with that id. -/
theorem findVdisk_of_mem {vid : Nat} (hv : vid ∈ s.vdisks) :
    s.findVdisk (toString vid) = some vid := by
  obtain ⟨v, hvv, rfl⟩ := List.mem_map.mp hv
  have hsome : (s.volumes.find? (·.id = v.id)).isSome :=
    List.find?_isSome.mpr ⟨v, hvv, by simp⟩
  obtain ⟨w, hw⟩ := Option.isSome_iff_exists.mp hsome
  rw [findVdisk, findVolume, findObj_natToString, hw]
  simpa using List.find?_some hw

/-- A command on a list of objects leaves a state whose objects are among
those before or added by it. -/
theorem viewCmd_state (opts : List String) (view : String → Option String) (args : List String) :
    (s.viewCmd opts view args).2 = s := by
  unfold viewCmd
  repeat' split
  all_goals rfl

theorem listCmd_state (opts : List String) (listing : String) (view : String → Option String)
    (args : List String) : (s.listCmd opts listing view args).2 = s := by
  unfold listCmd
  split
  · rfl
  · exact s.viewCmd_state opts view args

/-- The listings and views change nothing. -/
theorem exec_query {k : Cmd} (hk : k.isQuery) (args : List String) : (s.exec k args).2 = s := by
  cases k <;> first
    | exact absurd hk Bool.false_ne_true
    | exact s.listCmd_state _ _ _ args
    | exact s.viewCmd_state _ _ args

theorem listCmd_opts (opts : List String) (listing : String) (view : String → Option String) :
    s.listCmd opts listing view opts = done listing s := if_pos rfl

theorem listCmd_view (opts : List String) (listing : String) (view : String → Option String)
    (t : String) : s.listCmd opts listing view (opts ++ [t]) =
      match view t with
      | some out => done out s
      | none => s.failed notFound := by
  have hne : opts ++ [t] ≠ opts := fun h => by simpa using congrArg List.length h
  simp only [listCmd, if_neg hne, viewCmd, List.reverse_append, List.reverse_singleton,
    List.singleton_append, List.reverse_reverse, if_true]

theorem viewCmd_view (opts : List String) (view : String → Option String) (t : String) :
    s.viewCmd opts view (opts ++ [t]) =
      match view t with
      | some out => done out s
      | none => s.failed notFound := by
  simp only [viewCmd, List.reverse_append, List.reverse_singleton, List.singleton_append,
    List.reverse_reverse, if_true]

/-- What a command can do: fail, changing nothing, with a vendor code and a
reason on stderr; or succeed with nothing on stderr. -/
def Outcome (r : ExecResult × ArrayState) : Prop :=
  (∃ err, r = s.failed err ∧ ' ' ∈ err.data) ∨ ∃ out s', r = done out s'

theorem Outcome.failed {err : String} (h : ' ' ∈ err.data) : s.Outcome (s.failed err) :=
  .inl ⟨err, rfl, h⟩

theorem Outcome.done (out : String) (s' : ArrayState) : s.Outcome (done out s') :=
  .inr ⟨out, s', rfl⟩

/-- Every error the array prints has a vendor code before a space. -/
theorem space_mem_error {err : String}
    (h : err = notFound ∨ err = badParameter ∨ err = alreadyExists ∨ err = alreadyMapped ∨
      err = hostInUse ∨ err = invalidName ∨ err = notEnoughExtents ∨ err = vdiskMapped) :
    ' ' ∈ err.data := by
  rcases h with rfl | rfl | rfl | rfl | rfl | rfl | rfl | rfl <;> decide

theorem failed_outcome {err : String}
    (h : err = notFound ∨ err = badParameter ∨ err = alreadyExists ∨ err = alreadyMapped ∨
      err = hostInUse ∨ err = invalidName ∨ err = notEnoughExtents ∨ err = vdiskMapped) :
    s.Outcome (s.failed err) :=
  Outcome.failed s (space_mem_error h)

theorem viewCmd_outcome (opts : List String) (view : String → Option String)
    (args : List String) : s.Outcome (s.viewCmd opts view args) := by
  unfold viewCmd
  repeat' split
  all_goals first
    | exact Outcome.done s _ _
    | exact failed_outcome s (by simp only [true_or, or_true])

theorem listCmd_outcome (opts : List String) (listing : String) (view : String → Option String)
    (args : List String) : s.Outcome (s.listCmd opts listing view args) := by
  unfold listCmd
  split
  · exact Outcome.done s _ _
  · exact s.viewCmd_outcome opts view args

theorem mkvdisk_outcome (args : List String) : s.Outcome (s.mkvdisk args) := by
  unfold mkvdisk mkvdiskWith
  repeat' split
  all_goals first
    | exact Outcome.done s _ _
    | exact failed_outcome s (by simp only [true_or, or_true])

theorem rmvdisk_outcome (args : List String) : s.Outcome (s.rmvdisk args) := by
  unfold rmvdisk
  repeat' split
  all_goals first
    | exact Outcome.done s _ _
    | exact failed_outcome s (by simp only [true_or, or_true])

theorem mkhost_outcome (args : List String) : s.Outcome (s.mkhost args) := by
  unfold mkhost
  repeat' split
  all_goals first
    | exact Outcome.done s _ _
    | exact failed_outcome s (by simp only [true_or, or_true])

theorem mkvdiskhostmap_outcome (args : List String) : s.Outcome (s.mkvdiskhostmap args) := by
  unfold mkvdiskhostmap mapVdisk
  repeat' split
  all_goals first
    | exact Outcome.done s _ _
    | exact failed_outcome s (by simp only [true_or, or_true])

theorem rmvdiskhostmap_outcome (args : List String) : s.Outcome (s.rmvdiskhostmap args) := by
  unfold rmvdiskhostmap
  repeat' split
  all_goals first
    | exact Outcome.done s _ _
    | exact failed_outcome s (by simp only [true_or, or_true])

theorem rmhost_outcome (args : List String) : s.Outcome (s.rmhost args) := by
  unfold rmhost
  repeat' split
  all_goals first
    | exact Outcome.done s _ _
    | exact failed_outcome s (by simp only [true_or, or_true])

theorem exec_outcome (k : Cmd) (args : List String) : s.Outcome (s.exec k args) := by
  cases k
  case lssystem => exact s.listCmd_outcome _ _ _ args
  case lsmdiskgrp => exact s.listCmd_outcome _ _ _ args
  case lsvdisk => exact s.listCmd_outcome _ _ _ args
  case lshost => exact s.listCmd_outcome _ _ _ args
  case lshostvdiskmap => exact s.viewCmd_outcome _ _ args
  case lsvdiskhostmap => exact s.viewCmd_outcome _ _ args
  case mkvdisk => exact s.mkvdisk_outcome args
  case rmvdisk => exact s.rmvdisk_outcome args
  case mkhost => exact s.mkhost_outcome args
  case mkvdiskhostmap => exact s.mkvdiskhostmap_outcome args
  case rmvdiskhostmap => exact s.rmvdiskhostmap_outcome args
  case rmhost => exact s.rmhost_outcome args

theorem run_outcome (argv : List String) : s.Outcome (s.run argv) := by
  rcases s.run_cases argv with h | ⟨k, _, args, -, h⟩ <;> rw [h]
  · exact failed_outcome s (.inr (.inl rfl))
  · exact s.exec_outcome k args

/-! ## The host invariant -/

/-- What the array keeps of its host table: ids below the next id and
distinct, no port name on two hosts, every name and port printable in a
`-delim !` view, and every mapping of a host id already given out. -/
structure Inv : Prop where
  id_lt : ∀ h ∈ s.hosts, h.id < s.nextHostId
  ids_nodup : (s.hosts.map Host.id).Nodup
  ports_disjoint : s.hosts.Pairwise fun h₁ h₂ => ∀ p ∈ h₁.ports, p ∉ h₂.ports
  printable : ∀ h ∈ s.hosts, IsField h.name ∧ ∀ p ∈ h.ports, IsField p
  maps_lt : ∀ m ∈ s.maps, m.1 < s.nextHostId

instance : Decidable s.Inv :=
  decidable_of_iff ((∀ h ∈ s.hosts, h.id < s.nextHostId) ∧ (s.hosts.map Host.id).Nodup ∧
      (s.hosts.Pairwise fun h₁ h₂ => ∀ p ∈ h₁.ports, p ∉ h₂.ports) ∧
      (∀ h ∈ s.hosts, IsField h.name ∧ ∀ p ∈ h.ports, IsField p) ∧
      ∀ m ∈ s.maps, m.1 < s.nextHostId)
    ⟨fun ⟨a, b, c, d, e⟩ => ⟨a, b, c, d, e⟩, fun ⟨a, b, c, d, e⟩ => ⟨a, b, c, d, e⟩⟩

variable {s}

/-- The host invariant reads only the hosts, the mappings and the next host
id. -/
theorem Inv.congr (h : s.Inv) {s' : ArrayState} (hh : s'.hosts = s.hosts)
    (hn : s'.nextHostId = s.nextHostId) (hm : s'.maps ⊆ s.maps) : s'.Inv := by
  obtain ⟨a, b, c, d, e⟩ := h
  refine ⟨?_, ?_, ?_, ?_, ?_⟩ <;> simp only [hh, hn]
  · exact a
  · exact b
  · exact c
  · exact d
  · exact fun m hm' => e m (hm hm')

/-- New mappings, each of a host id already given out. -/
theorem Inv.maps (h : s.Inv) {maps : List (Nat × Nat)} (hm : ∀ m ∈ maps, m.1 < s.nextHostId) :
    { s with maps := maps }.Inv :=
  ⟨h.id_lt, h.ids_nodup, h.ports_disjoint, h.printable, hm⟩

theorem Inv.erase (h : s.Inv) (host : Host) {maps : List (Nat × Nat)} (hm : maps ⊆ s.maps) :
    { s with hosts := s.hosts.erase host, maps := maps }.Inv :=
  have hsub := List.erase_sublist host s.hosts
  ⟨fun x hx => h.id_lt x (hsub.subset hx), (hsub.map Host.id).nodup h.ids_nodup,
    h.ports_disjoint.sublist hsub, fun x hx => h.printable x (hsub.subset hx),
    fun m hmm => h.maps_lt m (hm hmm)⟩

theorem Inv.add (h : s.Inv) {host : Host} (hid : host.id = s.nextHostId)
    (hname : IsField host.name)
    (hports : ∀ p ∈ host.ports, IsField p ∧ ∀ x ∈ s.hosts, p ∉ x.ports) :
    (s.addHost host).Inv := by
  refine ⟨?_, ?_, ?_, ?_, fun m hm => Nat.lt_succ_of_lt (h.maps_lt m hm)⟩
  · simp only [addHost_hosts, addHost_nextHostId, List.mem_append, List.mem_singleton]
    rintro x (hx | rfl)
    · exact Nat.lt_succ_of_lt (h.id_lt x hx)
    · omega
  · rw [addHost_hosts, List.map_append, List.nodup_append]
    refine ⟨h.ids_nodup, List.nodup_singleton _, ?_⟩
    intro a ha hb
    obtain ⟨x, hx, rfl⟩ := List.mem_map.mp ha
    rw [List.map_singleton, List.mem_singleton, hid] at hb
    exact absurd (h.id_lt x hx) (by omega)
  · rw [addHost_hosts, List.pairwise_append]
    refine ⟨h.ports_disjoint, List.pairwise_singleton _ _, ?_⟩
    simp only [List.mem_singleton]
    rintro x hx _ rfl p hpx hp
    exact (hports p hp).2 x hx hpx
  · simp only [addHost_hosts, List.mem_append, List.mem_singleton]
    rintro x (hx | rfl)
    · exact h.printable x hx
    · exact ⟨hname, fun p hp => (hports p hp).1⟩

theorem isField_hostName (n : Nat) : IsField ("host" ++ toString n) := by
  have hn := (isNumeral_natToString n).no_bang
  simp only [IsField, String.data_append, List.mem_append, not_or]
  exact ⟨⟨by decide, hn.1⟩, by decide, hn.2⟩

/-- The port `mkhost` gives its new host, if it gives one. -/
theorem mem_newHost_ports {opt port p : String} (hp : p ∈ (s.newHost opt port).ports) :
    p = port := by
  simp only [newHost, Host.ports, List.mem_append, Option.mem_toList] at hp
  rcases hp with hp | hp <;> split at hp <;> simp_all

/-- The host `mkhost` adds, once its checks pass, keeps the invariant. -/
theorem Inv.addNewHost (h : s.Inv) {opt port : String}
    (hcheck : ¬((s.hosts.any fun x => port ∈ x.ports) ∨ ¬IsField port)) :
    (s.addHost (s.newHost opt port)).Inv := by
  simp only [not_or, not_not] at hcheck
  refine h.add rfl (isField_hostName _) fun p hp => ?_
  obtain rfl := mem_newHost_ports hp
  exact ⟨hcheck.2, fun x hx hpx =>
    hcheck.1 (List.any_eq_true.mpr ⟨x, hx, decide_eq_true hpx⟩)⟩

theorem Inv.mkhost (h : s.Inv) (args : List String) : (s.mkhost args).2.Inv := by
  unfold ArrayState.mkhost
  repeat' split
  all_goals first
    | exact h
    | exact h.addNewHost ‹_›

theorem Inv.mapVdisk (h : s.Inv) (force : Bool) (t v : String) : (s.mapVdisk force t v).2.Inv := by
  unfold ArrayState.mapVdisk
  split
  · next host vid hfind _ =>
    split
    · exact h
    · refine h.maps fun m hm => ?_
      rcases List.mem_append.mp hm with hm | hm
      · exact h.maps_lt m hm
      · rw [List.mem_singleton.mp hm]
        exact h.id_lt host (findObj_some hfind).1
  · exact h

theorem Inv.mkvdisk (h : s.Inv) (args : List String) : (s.mkvdisk args).2.Inv := by
  unfold ArrayState.mkvdisk ArrayState.mkvdiskWith
  repeat' split
  all_goals first
    | exact h
    | exact h.congr rfl rfl (List.Subset.refl _)

theorem Inv.rmvdisk (h : s.Inv) (args : List String) : (s.rmvdisk args).2.Inv := by
  unfold ArrayState.rmvdisk
  repeat' split
  all_goals first
    | exact h
    | exact h.congr rfl rfl fun _ => List.mem_of_mem_filter

theorem Inv.rmvdiskhostmap (h : s.Inv) (args : List String) :
    (s.rmvdiskhostmap args).2.Inv := by
  unfold ArrayState.rmvdiskhostmap
  repeat' split
  all_goals first
    | exact h
    | exact h.maps fun m hm => h.maps_lt m ((List.erase_sublist _ _).subset hm)

theorem Inv.rmhost (h : s.Inv) (args : List String) : (s.rmhost args).2.Inv := by
  unfold ArrayState.rmhost
  repeat' split
  all_goals first
    | exact h
    | exact h.erase _ fun _ => List.mem_of_mem_filter
    | exact h.erase _ fun _ => id

theorem Inv.exec (h : s.Inv) (k : Cmd) (args : List String) : (s.exec k args).2.Inv := by
  by_cases hk : k.isQuery
  · rw [s.exec_query hk]
    exact h
  cases k with
  | mkvdisk => exact h.mkvdisk args
  | rmvdisk => exact h.rmvdisk args
  | mkhost => exact h.mkhost args
  | mkvdiskhostmap =>
    show (s.mkvdiskhostmap args).2.Inv
    unfold mkvdiskhostmap
    repeat' split
    all_goals first | exact h | exact h.mapVdisk _ _ _
  | rmvdiskhostmap => exact h.rmvdiskhostmap args
  | rmhost => exact h.rmhost args
  | _ => exact absurd rfl hk

/-- Every command keeps the host invariant. -/
theorem Inv.run (h : s.Inv) (argv : List String) : (s.run argv).2.Inv := by
  rcases s.run_cases argv with hr | ⟨k, _, args, -, hr⟩ <;> rw [hr]
  · exact h
  · exact h.exec k args

/-! ## The array invariant -/

variable (s)

/-- What the array keeps of all its objects: the host invariant, ports that
are single words, every mapping of a host and a volume of the array, and
names and UIDs that print in a view. -/
structure Wf extends Inv s : Prop where
  ports_words : ∀ h ∈ s.hosts, ∀ p ∈ h.ports, IsWord p.data
  maps_hosts : ∀ m ∈ s.maps, m.1 ∈ s.hosts.map Host.id
  maps_vdisks : ∀ m ∈ s.maps, m.2 ∈ s.vdisks
  pools_printable : ∀ g ∈ s.pools, IsField g.name
  vdisks_printable : ∀ v ∈ s.volumes, IsField v.name ∧ IsField v.uid

instance : Decidable s.Wf :=
  decidable_of_iff (s.Inv ∧ (∀ h ∈ s.hosts, ∀ p ∈ h.ports, IsWord p.data) ∧
      (∀ m ∈ s.maps, m.1 ∈ s.hosts.map Host.id) ∧ (∀ m ∈ s.maps, m.2 ∈ s.vdisks) ∧
      (∀ g ∈ s.pools, IsField g.name) ∧ ∀ v ∈ s.volumes, IsField v.name ∧ IsField v.uid)
    ⟨fun ⟨a, b, c, d, e, f⟩ => ⟨a, b, c, d, e, f⟩, fun ⟨a, b, c, d, e, f⟩ => ⟨a, b, c, d, e, f⟩⟩

variable {s}

theorem mem_vdisks {vid : Nat} : vid ∈ s.vdisks ↔ ∃ v ∈ s.volumes, v.id = vid := by
  simp [vdisks]

theorem isField_vdiskUid (n : Nat) : IsField (vdiskUid n) := by
  have hn := (isNumeral_natToString n).no_bang
  simp only [IsField, vdiskUid, String.data_append, List.mem_append, not_or]
  exact ⟨⟨by decide, hn.1⟩, by decide, hn.2⟩

theorem isField_of_validName {n : String} (h : validName n = true) : IsField n := by
  simp only [validName, Bool.and_eq_true, decide_eq_true_eq] at h
  exact h.2

theorem Wf.addVdisk (h : s.Wf) {v : Vdisk} (hv : IsField v.name ∧ IsField v.uid) :
    (s.addVdisk v).Wf := by
  refine ⟨h.toInv.congr rfl rfl (List.Subset.refl _), h.ports_words, h.maps_hosts,
    fun m hm => ?_, h.pools_printable, ?_⟩
  · simp only [vdisks, addVdisk_volumes, List.map_append, List.mem_append]
    exact .inl (h.maps_vdisks m hm)
  · simp only [addVdisk_volumes, List.mem_append, List.mem_singleton]
    rintro w (hw | rfl)
    · exact h.vdisks_printable w hw
    · exact hv

theorem Wf.mkvdisk (h : s.Wf) (args : List String) : (s.mkvdisk args).2.Wf := by
  unfold ArrayState.mkvdisk ArrayState.mkvdiskWith
  repeat' split
  all_goals try exact h
  next hname _ _ _ _ _ =>
  exact h.addVdisk ⟨isField_of_validName (by simpa using hname), isField_vdiskUid _⟩

theorem Wf.removeVdisk (h : s.Wf) (v : Vdisk) : (s.removeVdisk v).Wf := by
  refine ⟨h.toInv.congr rfl rfl fun _ => List.mem_of_mem_filter, h.ports_words,
    fun m hm => h.maps_hosts m (List.mem_of_mem_filter hm), fun m hm => ?_, h.pools_printable,
    fun w hw => h.vdisks_printable w ((List.erase_sublist _ _).subset hw)⟩
  obtain ⟨hm, hne⟩ := List.mem_filter.mp hm
  obtain ⟨w, hw, hid⟩ := mem_vdisks.mp (h.maps_vdisks m hm)
  have hwv : w ≠ v := fun he => by subst he; simp_all
  exact mem_vdisks.mpr ⟨w, (List.mem_erase_of_ne hwv).mpr hw, hid⟩

theorem Wf.rmvdisk (h : s.Wf) (args : List String) : (s.rmvdisk args).2.Wf := by
  unfold ArrayState.rmvdisk
  repeat' split
  all_goals first
    | exact h
    | exact h.removeVdisk _

theorem Wf.addHost (h : s.Wf) {host : Host} (hinv : (s.addHost host).Inv)
    (hw : ∀ p ∈ host.ports, IsWord p.data) : (s.addHost host).Wf := by
  refine ⟨hinv, ?_, ?_, h.maps_vdisks, h.pools_printable, h.vdisks_printable⟩
  · simp only [addHost_hosts, List.mem_append, List.mem_singleton]
    rintro x (hx | rfl)
    · exact h.ports_words x hx
    · exact hw
  · intro m hm
    simp only [addHost_hosts, addHost_maps, List.map_append, List.mem_append] at hm ⊢
    exact .inl (h.maps_hosts m hm)

theorem Wf.mkhost (h : s.Wf) {args : List String} (hw : ∀ w ∈ args, IsWord w.data) :
    (s.mkhost args).2.Wf := by
  unfold ArrayState.mkhost
  repeat' split
  all_goals try exact h
  next opt port _ hcheck =>
  exact h.addHost (h.toInv.addNewHost hcheck) fun p hp => by
    obtain rfl := mem_newHost_ports hp
    exact hw p (by simp)

theorem Wf.mapVdisk (h : s.Wf) (force : Bool) (t v : String) : (s.mapVdisk force t v).2.Wf := by
  have hinv := h.toInv.mapVdisk force t v
  unfold ArrayState.mapVdisk at hinv ⊢
  split
  · next host vid hfind hv =>
    split
    · exact h
    · rw [hfind, hv] at hinv
      simp only [if_neg ‹_›] at hinv
      refine ⟨hinv, h.ports_words, fun m hm => ?_, fun m hm => ?_, h.pools_printable,
        h.vdisks_printable⟩ <;> rcases List.mem_append.mp hm with hm | hm
      · exact h.maps_hosts m hm
      · rw [List.mem_singleton.mp hm]
        exact List.mem_map_of_mem _ (findObj_some hfind).1
      · exact h.maps_vdisks m hm
      · rw [List.mem_singleton.mp hm]
        obtain ⟨w, hw, rfl⟩ := Option.map_eq_some'.mp hv
        exact List.mem_map_of_mem _ (findObj_some hw).1
  · exact h


/-- A mapping removed. -/
theorem Wf.eraseMap (h : s.Wf) (m : Nat × Nat) : { s with maps := s.maps.erase m }.Wf :=
  have hsub := (List.erase_sublist m s.maps).subset
  ⟨h.toInv.maps fun m' hm => h.maps_lt m' (hsub hm), h.ports_words,
    fun m' hm => h.maps_hosts m' (hsub hm), fun m' hm => h.maps_vdisks m' (hsub hm),
    h.pools_printable, h.vdisks_printable⟩

theorem Wf.rmvdiskhostmap (h : s.Wf) (args : List String) : (s.rmvdiskhostmap args).2.Wf := by
  unfold ArrayState.rmvdiskhostmap
  repeat' split
  all_goals first
    | exact h
    | exact h.eraseMap _

/-- A host removed, with every mapping left naming a host still there. -/
theorem Wf.eraseHost (h : s.Wf) (host : Host) {maps : List (Nat × Nat)} (hm : maps ⊆ s.maps)
    (hhost : ∀ m ∈ maps, m.1 ≠ host.id) :
    { s with hosts := s.hosts.erase host, maps := maps }.Wf := by
  have hsub := List.erase_sublist host s.hosts
  refine ⟨h.toInv.erase host hm, fun x hx => h.ports_words x (hsub.subset hx), fun m hmm => ?_,
    fun m hmm => h.maps_vdisks m (hm hmm), h.pools_printable, h.vdisks_printable⟩
  obtain ⟨x, hx, hid⟩ := List.mem_map.mp (h.maps_hosts m (hm hmm))
  have hne : x ≠ host := fun he => hhost m hmm (he ▸ hid.symm)
  exact List.mem_map.mpr ⟨x, (List.mem_erase_of_ne hne).mpr hx, hid⟩

theorem Wf.rmhost (h : s.Wf) (args : List String) : (s.rmhost args).2.Wf := by
  unfold ArrayState.rmhost
  repeat' split
  all_goals try exact h
  · exact h.eraseHost _ (fun _ => List.mem_of_mem_filter) fun m hm => by
      simpa using (List.mem_filter.mp hm).2
  · next hmapped =>
    exact h.eraseHost _ (List.Subset.refl _) fun m hm he => hmapped
      (List.any_eq_true.mpr ⟨m, hm, by simpa using he⟩)

theorem Wf.exec (h : s.Wf) (k : Cmd) {args : List String} (hw : ∀ w ∈ args, IsWord w.data) :
    (s.exec k args).2.Wf := by
  by_cases hk : k.isQuery
  · rw [s.exec_query hk]
    exact h
  cases k with
  | mkvdisk => exact h.mkvdisk args
  | rmvdisk => exact h.rmvdisk args
  | mkhost => exact h.mkhost hw
  | mkvdiskhostmap =>
    show (s.mkvdiskhostmap args).2.Wf
    unfold mkvdiskhostmap
    repeat' split
    all_goals first | exact h | exact h.mapVdisk _ _ _
  | rmvdiskhostmap => exact h.rmvdiskhostmap args
  | rmhost => exact h.rmhost args
  | _ => exact absurd rfl hk

/-- Every command line of words keeps the array invariant. -/
theorem Wf.run (h : s.Wf) {argv : List String} (hw : ∀ w ∈ argv, IsWord w.data) :
    (s.run argv).2.Wf := by
  rcases s.run_cases argv with hr | ⟨k, c, args, rfl, hr⟩ <;> rw [hr]
  · exact h
  · exact h.exec k fun w hwa => hw w (List.mem_cons_of_mem c hwa)

end ArrayState

/-- The array's SSH server: a command line runs as its words, the channel
never fails and every connect succeeds. -/
def ArrayState.server : Server ArrayState where
  exec cmd s := ((.ok (s.run (splitWs cmd)).1), (s.run (splitWs cmd)).2)
  connect _ _ _ _ _ := none

/-- Every command line sent to the array keeps both invariants. -/
theorem ArrayState.Inv.server {s : ArrayState} (h : s.Inv) (cmd : String) :
    (ArrayState.server.exec cmd s).2.Inv :=
  h.run (splitWs cmd)

theorem ArrayState.Wf.server {s : ArrayState} (h : s.Wf) (cmd : String) :
    (ArrayState.server.exec cmd s).2.Wf :=
  h.run fun _ hw => isWord_of_mem_splitWs hw

/-- An array with the system `sys`, the pool 0 of 1 GiB and in it the volume
5 of 1 MiB, and the given hosts, mappings and next host id. -/
def sampleArray (hosts : List Host) (maps : List (Nat × Nat)) (nextHostId : Nat) : ArrayState :=
  ⟨"sys", "sys", [⟨0, "pool0", 1073741824⟩],
    [⟨5, "vol5", ArrayState.vdiskUid 5, 0, 1048576, 1048576, .online⟩], hosts, maps, 6, nextHostId⟩

end LibStorageMgmt.V7k

import LibStorageMgmt.V7k.Grant
import LibStorageMgmt.V7k.Session

/-!
# Who can reach a volume

`initiators_granted_to_volume` on the array of `Array`: it lists the volume's
mappings with `lsvdiskhostmap`, reads each mapped host's detailed view with
`lshost` and renders it with `_initiator`. On every table that keeps the
invariant it returns the initiators of exactly the hosts mapped to the
volume, in the order of the host table, and changes nothing
(`initiatorsGrantedToVolume_array`).

Composed with the two methods that change the mappings: after a grant that
returns, it returns `True`, and the volume's initiators include the one of
the host that carries the granted port (`initiatorGrant_then_granted`). That
initiator is the port only when the host has no other kind of port: a host
with a WWPN is listed by its WWPN even when the grant named its iSCSI name
(`initiatorGrant_then_granted_dual`). After a revoke that returns, no host
that carries the revoked port is mapped to the volume any more
(`initiatorRevoke_then_revoked`).

Over whole runs: every session of requests from a table that keeps the
invariant leaves one that keeps it, so at every state a session reaches,
while the plugin holds an open session, `initiators` lists every host and
`initiators_granted_to_volume` the hosts mapped to each volume
(`queries_session`).
-/

namespace LibStorageMgmt.V7k

open Py ArrayState

/-! ## What the array's mapping view reads back as -/

/-- A row of the `lsvdiskhostmap -delim !` view, as parsed. -/
def vdiskMapRow (vid : Nat) (h : Host) : Dict :=
  [("id", toString vid), ("host_id", toString h.id), ("host_name", h.name)]

/-- The hosts mapped to a volume, in the order of the host table. -/
def mappedHosts (s : ArrayState) (vid : Nat) : List Host :=
  s.hosts.filter fun h => (h.id, vid) ∈ s.maps

theorem mem_mappedHosts {s : ArrayState} {vid : Nat} {h : Host} :
    h ∈ mappedHosts s vid ↔ h ∈ s.hosts ∧ (h.id, vid) ∈ s.maps := by
  simp [mappedHosts]

theorem parseConcise_vdiskMapListing {s : ArrayState} (hinv : s.Inv) (vid : Nat) :
    parseConcise (vdiskMapListing vid s.hosts s.maps) = .ok ((mappedHosts s vid).map (vdiskMapRow vid)) := by
  have hrows : (mappedHosts s vid).map (fun h => sepJoin '!' [toString vid, toString h.id, h.name]) =
      ((mappedHosts s vid).map fun h => [toString vid, toString h.id, h.name]).map (sepJoin '!') := by
    rw [List.map_map]
    rfl
  rw [vdiskMapListing, ← mappedHosts, hrows,
    parseConcise_unlines (by decide) (by decide) (by decide) (by decide)]
  · rw [List.map_map]
    rfl
  · simp only [List.mem_map]
    rintro _ ⟨h, hh, rfl⟩
    refine ⟨rfl, ?_⟩
    simp only [List.mem_cons, List.mem_singleton, List.not_mem_nil, or_false]
    rintro v (rfl | rfl | rfl)
    · exact isField_natToString vid
    · exact isField_natToString h.id
    · exact (hinv.printable h (mem_mappedHosts.mp hh).1).1

/-! ## What a mapping command did, when it succeeded -/

namespace ArrayState

variable {s : ArrayState}

theorem done_ne_failed {out err : String} {s' : ArrayState} : done out s' ≠ s.failed err := by
  simp [done, failed]

theorem findVdisk_some {v : String} {vid : Nat} (hf : s.findVdisk v = some vid) :
    vid ∈ s.vdisks ∧ (isIdWord v → toString vid = v) := by
  obtain ⟨w, hw, rfl⟩ := Option.map_eq_some'.mp hf
  obtain ⟨hmem, hid⟩ := findObj_some hw
  exact ⟨List.mem_map_of_mem _ hmem, hid⟩

/-- A mapping that succeeds adds one new pair and says so. -/
theorem mapVdisk_done {force : Bool} {t v out : String} {s' : ArrayState}
    (h : s.mapVdisk force t v = done out s') :
    ∃ host vid, s.findHost t = some host ∧ s.findVdisk v = some vid ∧ (host.id, vid) ∉ s.maps ∧
      out = "Virtual Disk to Host map, id [" ++ toString (s.maps.countP (·.1 = host.id)) ++
        "], successfully created" ∧ s' = { s with maps := s.maps ++ [(host.id, vid)] } := by
  unfold mapVdisk at h
  split at h
  · next host vid hh hv =>
    split at h
    · exact absurd h.symm done_ne_failed
    · next hc =>
      obtain ⟨hout, rfl⟩ := Prod.mk.inj h
      exact ⟨host, vid, hh, hv, fun hm => hc (.inl hm), (congrArg ExecResult.stdout hout).symm, rfl⟩
  · exact absurd h.symm done_ne_failed

/-- An unmapping that succeeds removes a pair that was there. -/
theorem rmvdiskhostmap_done (hnd : (s.hosts.map Host.id).Nodup) {h : Host} (hh : h ∈ s.hosts)
    {vid : Nat} {out : String} {s' : ArrayState}
    (hr : s.rmvdiskhostmap ["-host", toString h.id, toString vid] = done out s') :
    vid ∈ s.vdisks ∧ (h.id, vid) ∈ s.maps ∧ s' = { s with maps := s.maps.erase (h.id, vid) } := by
  simp only [rmvdiskhostmap, findHost_of_mem s hnd hh] at hr
  split at hr
  · next host vid' hhost hv =>
    cases hhost
    obtain ⟨hmem, hstr⟩ := findVdisk_some hv
    obtain rfl := natToString_injective (hstr (isIdWord_natToString _))
    split at hr
    · exact ⟨hmem, ‹_›, (Prod.mk.inj hr).2.symm⟩
    · exact absurd hr.symm done_ne_failed
  · exact absurd hr.symm done_ne_failed

/-- No port is on two hosts of a table that keeps the invariant. -/
theorem Inv.eq_of_mem_ports (hinv : s.Inv) {h₁ h₂ : Host} (hh₁ : h₁ ∈ s.hosts)
    (hh₂ : h₂ ∈ s.hosts) {x : String} (hx₁ : x ∈ h₁.ports) (hx₂ : x ∈ h₂.ports) : h₁ = h₂ := by
  by_contra hne
  have hsymm : Symmetric fun a b : Host => ∀ p ∈ a.ports, p ∉ b.ports :=
    fun _ _ hab p hb ha => hab p ha hb
  exact hinv.ports_disjoint.forall hsymm hh₁ hh₂ hne x hx₁ hx₂

end ArrayState

namespace IbmV7k

theorem initiatorGrantIsSuccess_mapped (n : Nat) :
    _initiatorGrantIsSuccess ("Virtual Disk to Host map, id [" ++ toString n ++
      "], successfully created") = true :=
  have h : "successfully created".data <:+ "], successfully created".data := ⟨"], ".data, rfl⟩
  decide_eq_true (h.trans (List.suffix_append _ _)).isInfix

variable {p : IbmV7k ArrayState} {ssh : SSHClient} (hssh : p.ssh = some ssh) (hopen : ssh.isOpen)
  (hinv : p.array.Inv)
include hssh hopen hinv

/-! ## The volume's initiators -/

theorem getInitiatorsGrantedToVolume_array {vid : Nat} (hv : vid ∈ p.array.vdisks) :
    _getInitiatorsGrantedToVolume ArrayState.server (toString vid) p =
      .ok ((mappedHosts p.array vid).map (vdiskMapRow vid)) p := by
  have hrun : p.array.run (splitWs (getInitiatorsGrantedToVolumeCmd (toString vid))) =
      done (vdiskMapListing vid p.array.hosts p.array.maps) p.array := by
    rw [splitWs_getInitiatorsGrantedToVolumeCmd (isNumeral_natToString vid).isWord]
    show p.array.lsvdiskhostmap (["-delim", "!"] ++ [toString vid]) = _
    rw [lsvdiskhostmap, viewCmd_view, findVdisk_of_mem _ hv]
    rfl
  unfold _getInitiatorsGrantedToVolume _executeCommandAndParseConcise
  rw [PyM.bind_ok (sshExecute_done hssh hopen hrun)]
  simp only [parseConcise_vdiskMapListing hinv]
  rfl

/-- On every table that keeps the invariant, `initiators_granted_to_volume`
for a volume of the array returns the initiators of the hosts mapped to it,
in the order of the host table, and changes nothing. -/
theorem initiatorsGrantedToVolume_array {vid : Nat} (hv : vid ∈ p.array.vdisks) {volume : Volume}
    (hvol : volume.id = toString vid) :
    initiatorsGrantedToVolume ArrayState.server volume p =
      .ok (.list ((mappedHosts p.array vid).map fun h => .initiator (hostInitiator h))) p := by
  unfold initiatorsGrantedToVolume
  rw [hvol, PyM.bind_ok (getInitiatorsGrantedToVolume_array hssh hopen hinv hv),
    PyM.bind_ok (PyM.mapM_map_ok fun h hh => ?_)]
  · simp only [List.map_map]
    rfl
  · show (PyM.ofExcept ((vdiskMapRow vid h).getItem "host_id") >>= fun a => initiatorOfHost _ a) p = _
    have hid : (vdiskMapRow vid h).getItem "host_id" = .ok (toString h.id) := rfl
    rw [hid, PyM.bind_ok (PyM.ofExcept_ok _ p), initiatorOfHost,
      PyM.bind_ok (getInitiator_array hssh hopen hinv (mem_mappedHosts.mp hh).1), initiator_hostAttrs]
    rfl

/-! ## After a grant -/

omit hinv in
/-- The grant command, when it returns: the volume is the array's, the pair
was not mapped, and now is. -/
theorem grantCmd_ok {s₁ : ArrayState} (hinv₁ : s₁.Inv) {host : Host} (hh : host ∈ s₁.hosts)
    {vid : Nat} {r : ExecResult} {q : IbmV7k ArrayState}
    (h : _executeCommand ArrayState.server (initiatorGrantCmd true (toString host.id) (toString vid))
      { p with array := s₁ } = .ok r q) :
    vid ∈ s₁.vdisks ∧ (host.id, vid) ∉ s₁.maps ∧ _initiatorGrantIsSuccess r.stdout = true ∧
      q = { p with array := { s₁ with maps := s₁.maps ++ [(host.id, vid)] } } := by
  unfold _executeCommand at h
  rcases @sshExecute_cases { p with array := s₁ } ssh hssh hopen _ with
    ⟨out, s', hrun, hok⟩ | ⟨le, herr⟩
  · rw [hok] at h
    cases h
    rw [splitWs_initiatorGrantCmd (isNumeral_natToString _).isWord
      (isNumeral_natToString _).isWord] at hrun
    obtain ⟨host', vid', hfh, hfv, hm, rfl, rfl⟩ := mapVdisk_done hrun
    rw [findHost_of_mem s₁ hinv₁.ids_nodup hh] at hfh
    cases hfh
    obtain ⟨hv, hstr⟩ := findVdisk_some hfv
    obtain rfl := natToString_injective (hstr (isIdWord_natToString _))
    exact ⟨hv, hm, initiatorGrantIsSuccess_mapped _, rfl⟩
  · rw [herr] at h
    cases h

/-- What `_initiator_grant` did when it returns: on the table as it was, or
with the host it created, it mapped the volume to a host that carries the
initiator's port. -/
theorem _initiatorGrant_ok {x : String} {t : InitiatorType} {vid : Nat} {r : ExecResult}
    {q : IbmV7k ArrayState} (h : _initiatorGrant ArrayState.server x t (toString vid) true p = .ok r q) :
    ∃ (s₁ : ArrayState) (host : Host), s₁.Inv ∧ host ∈ s₁.hosts ∧ x ∈ host.ports ∧ vid ∈ s₁.vdisks ∧
      (host.id, vid) ∉ s₁.maps ∧ _initiatorGrantIsSuccess r.stdout = true ∧
      q = { p with array := { s₁ with maps := s₁.maps ++ [(host.id, vid)] } } := by
  unfold _initiatorGrant at h
  rcases mapLsmInitIdToV7k_cases hssh hopen hinv x with ⟨host, hh, hx, hmap⟩ | ⟨_, hmap⟩
  · rw [PyM.bind_ok (PyM.tryCatch_ok hmap)] at h
    exact ⟨p.array, host, hinv, hh, hx, grantCmd_ok hssh hopen hinv hh h⟩
  · rw [PyM.bind_tryCatch_error hmap] at h
    simp only [initiatorNotFound, if_pos, bind_assoc] at h
    rcases initiatorCreate_cases hssh hopen hinv x t with ⟨r₁, s₁, hinv₁, -, hc⟩ | ⟨le, hc⟩
    · rw [PyM.bind_ok hc] at h
      split at h
      · rcases @mapLsmInitIdToV7k_cases { p with array := s₁ } ssh hssh hopen hinv₁ x with
          ⟨host, hh, hx, hmap₁⟩ | ⟨_, hmap₁⟩
        · rw [PyM.bind_ok hmap₁] at h
          exact ⟨s₁, host, hinv₁, hh, hx, grantCmd_ok hssh hopen hinv₁ hh h⟩
        · rw [PyM.bind_error hmap₁] at h
          cases h
      · cases h
    · rw [PyM.bind_error hc] at h
      cases h

/-- On every table that keeps the invariant, with an open session: a grant
of an initiator access to a volume of the array that returns, returns
`True`; the table still keeps the invariant, and the volume's initiators, as
`initiators_granted_to_volume` lists them, include the one of a host that
carries the granted port. -/
theorem initiatorGrant_then_granted {x : String} {t : InitiatorType} {volume : Volume} {vid : Nat}
    (hvol : volume.id = toString vid) {v : PyVal} {q : IbmV7k ArrayState}
    (hg : initiatorGrant ArrayState.server x t volume .readWrite p = .ok v q) :
    v = .bool true ∧ q.array.Inv ∧ (∃ h ∈ mappedHosts q.array vid, x ∈ h.ports) ∧
      initiatorsGrantedToVolume ArrayState.server volume q =
        .ok (.list ((mappedHosts q.array vid).map fun h => .initiator (hostInitiator h))) q := by
  rw [initiatorGrant_readWrite, hvol] at hg
  cases hr : _initiatorGrant ArrayState.server x t (toString vid) true p with
  | error e s => rw [PyM.bind_error hr] at hg; cases hg
  | ok r q₁ =>
    rw [PyM.bind_ok hr] at hg
    cases hg
    obtain ⟨s₁, host, hinv₁, hh, hx, hv, -, hsucc, rfl⟩ := _initiatorGrant_ok hssh hopen hinv hr
    have hinv₂ : { s₁ with maps := s₁.maps ++ [(host.id, vid)] }.Inv :=
      hinv₁.maps fun m hm => (List.mem_append.mp hm).elim (hinv₁.maps_lt m) fun hm₁ => by
        rw [List.mem_singleton.mp hm₁]
        exact hinv₁.id_lt host hh
    refine ⟨by rw [hsucc], hinv₂, ⟨host, mem_mappedHosts.mpr ⟨hh, by simp⟩, hx⟩, ?_⟩
    exact @initiatorsGrantedToVolume_array { p with array := { s₁ with maps := s₁.maps ++ [(host.id, vid)] } }
      ssh hssh hopen hinv₂ vid hv volume hvol

/-! ## After a revoke -/

/-- What `_initiator_revoke` did when it returns: it unmapped a pair that was
mapped, from the host that carries the initiator's port, and deleted that
host or, when it had other mappings, kept it. -/
theorem _initiatorRevoke_ok {x : String} {vid : Nat} {u : Unit} {q : IbmV7k ArrayState}
    (h : _initiatorRevoke ArrayState.server x (toString vid) p = .ok u q) :
    ∃ host ∈ p.array.hosts, x ∈ host.ports ∧ vid ∈ p.array.vdisks ∧ (host.id, vid) ∈ p.array.maps ∧
      ∃ hosts, (hosts = p.array.hosts ∨ hosts = p.array.hosts.erase host) ∧
        q.array = { p.array with hosts := hosts, maps := p.array.maps.erase (host.id, vid) } ∧
      q.ssh = p.ssh := by
  unfold _initiatorRevoke _executeCommand at h
  rcases mapLsmInitIdToV7k_cases hssh hopen hinv x with ⟨host, hh, hx, hmap⟩ | ⟨_, hmap⟩
  · rw [PyM.bind_ok hmap] at h
    rcases sshExecute_cases hssh hopen (initiatorRevokeCmd (toString host.id) (toString vid)) with
      ⟨out, s', hrun, hok⟩ | ⟨le, herr⟩
    · rw [PyM.bind_ok hok] at h
      rw [splitWs_initiatorRevokeCmd (isNumeral_natToString _).isWord
        (isNumeral_natToString _).isWord, run_rmvdiskhostmap] at hrun
      obtain ⟨hv, hm, rfl⟩ := rmvdiskhostmap_done hinv.ids_nodup hh hrun
      have hs₂ : { p.array with maps := p.array.maps.erase (host.id, vid) }.Inv :=
        hinv.maps fun m hm' => hinv.maps_lt m ((List.erase_sublist _ _).subset hm')
      have hdel := @initiatorDelete_cases p ssh hssh hopen _ hs₂ host hh
      split_ifs at hdel
      · obtain ⟨le, hd⟩ := hdel
        rw [PyM.tryCatch_error hd] at h
        injection h with _ hq
        subst hq
        exact ⟨host, hh, hx, hv, hm, _, .inl rfl, rfl, rfl⟩
      · rw [PyM.tryCatch_ok hdel] at h
        injection h with _ hq
        subst hq
        exact ⟨host, hh, hx, hv, hm, _, .inr rfl, rfl, rfl⟩
    · rw [PyM.bind_error herr] at h
      cases h
  · rw [PyM.bind_error hmap] at h
    cases h

/-- On every table that keeps the invariant and holds no mapping twice, with
an open session: after a revoke of an initiator's access to a volume of the
array that returns, the table still keeps the invariant, and no host that
carries the initiator's port is among the volume's hosts, as
`initiators_granted_to_volume` lists them. -/
theorem initiatorRevoke_then_revoked (hnd : p.array.maps.Nodup) {i : Initiator} {volume : Volume}
    {vid : Nat} (hvol : volume.id = toString vid) {v : PyVal} {q : IbmV7k ArrayState}
    (hr : initiatorRevoke ArrayState.server i volume p = .ok v q) :
    v = .none ∧ q.array.Inv ∧ (∀ h ∈ q.array.hosts, i.id ∈ h.ports → h ∉ mappedHosts q.array vid) ∧
      initiatorsGrantedToVolume ArrayState.server volume q =
        .ok (.list ((mappedHosts q.array vid).map fun h => .initiator (hostInitiator h))) q := by
  unfold initiatorRevoke at hr
  rw [hvol] at hr
  cases hrev : _initiatorRevoke ArrayState.server i.id (toString vid) p with
  | error e s => rw [PyM.bind_error hrev] at hr; cases hr
  | ok u _ =>
    rw [PyM.bind_ok hrev] at hr
    cases hr
    obtain ⟨host, hh, hx, hv, hm, hosts, hhosts, hq, hssh₁⟩ := _initiatorRevoke_ok hssh hopen hinv hrev
    have hsub : (p.array.maps.erase (host.id, vid)) ⊆ p.array.maps := (List.erase_sublist _ _).subset
    obtain ⟨hinv₁, hsubh⟩ : q.array.Inv ∧ q.array.hosts ⊆ p.array.hosts := by
      rw [hq]
      rcases hhosts with rfl | rfl
      · exact ⟨hinv.maps fun m hm' => hinv.maps_lt m (hsub hm'), List.Subset.refl _⟩
      · exact ⟨hinv.erase host hsub, List.erase_subset _ _⟩
    have hv₁ : vid ∈ q.array.vdisks := by rw [hq]; exact hv
    refine ⟨rfl, hinv₁, fun h' hh' hx' hmapped => ?_,
      @initiatorsGrantedToVolume_array q ssh (hssh₁.trans hssh) hopen hinv₁ vid hv₁ volume hvol⟩
    obtain rfl := hinv.eq_of_mem_ports (hsubh hh') hh hx' hx
    rw [mem_mappedHosts, hq] at hmapped
    exact hnd.not_mem_erase hmapped.2

end IbmV7k

/-- At every state a session of requests reaches from a table that keeps the
invariant, whatever each request returned or raised, while the plugin holds
an open session: `initiators` lists one initiator per host, in the order of
the host table, and `initiators_granted_to_volume` lists, for every volume of
the array, the initiators of exactly the hosts mapped to it; neither changes
anything. -/
theorem queries_session (uriParse : String → Except PyExc Dict) (version : String)
    (calls : List Call) {p : IbmV7k ArrayState} (hinv : p.array.Inv) {ssh : SSHClient}
    (hssh : (session ArrayState.server uriParse version calls p).ssh = some ssh)
    (hopen : ssh.isOpen) :
    let q := session ArrayState.server uriParse version calls p
    IbmV7k.initiators ArrayState.server q =
        .ok (.list (q.array.hosts.map fun h => .initiator (hostInitiator h))) q ∧
      ∀ vid ∈ q.array.vdisks, ∀ volume : Volume, volume.id = toString vid →
        IbmV7k.initiatorsGrantedToVolume ArrayState.server volume q =
          .ok (.list ((mappedHosts q.array vid).map fun h => .initiator (hostInitiator h))) q := by
  intro q
  have hq : q.array.Inv :=
    session_keeps ArrayState.server uriParse version (fun _ _ h => h.run _) calls p hinv
  exact ⟨IbmV7k.initiators_array hssh hopen hq,
    fun _ hv _ hvol => IbmV7k.initiatorsGrantedToVolume_array hssh hopen hq hv hvol⟩

/-- After a session that grants `W9` access to the volume 5 on an array with
no host, the plugin's session is still open, the created host is listed, and
it is the volume's one initiator. -/
theorem queries_session_grant :
    sparePlugin.array.Inv ∧
      (session ArrayState.server (fun _ => .ok []) "1.0"
        [.initiatorGrant "W9" .portWwn volume5 .readWrite] sparePlugin).ssh = some ⟨30, true⟩ ∧
      IbmV7k.initiators ArrayState.server
          (session ArrayState.server (fun _ => .ok []) "1.0"
            [.initiatorGrant "W9" .portWwn volume5 .readWrite] sparePlugin) =
        .ok (.list [.initiator ⟨"W9", .portWwn, "host0"⟩])
          (session ArrayState.server (fun _ => .ok []) "1.0"
            [.initiatorGrant "W9" .portWwn volume5 .readWrite] sparePlugin) :=
  ⟨by decide, rfl, ((@queries_session (fun _ => .ok []) "1.0"
    [.initiatorGrant "W9" .portWwn volume5 .readWrite] sparePlugin (by decide) ⟨30, true⟩ rfl
    rfl).1).trans rfl⟩

/-- A registered plugin whose array has the host `host0` with the WWPN `W0`
and the iSCSI name `iqn0`, and the volume 5. -/
def dualPlugin : IbmV7k ArrayState :=
  ⟨some ⟨"sys", "sys"⟩, some ⟨30, true⟩, 30, none, none,
    sampleArray [⟨0, "host0", some "W0", some "iqn0"⟩] [] 1⟩

/-- Granting `iqn0` access to the volume 5 maps it to `host0`, which the
volume's initiators then list by its WWPN `W0`. -/
theorem initiatorGrant_then_granted_dual :
    IbmV7k.initiatorGrant ArrayState.server "iqn0" .iscsi volume5 .readWrite dualPlugin =
        .ok (.bool true) { dualPlugin with array := { dualPlugin.array with maps := [(0, 5)] } } ∧
      IbmV7k.initiatorsGrantedToVolume ArrayState.server volume5
          { dualPlugin with array := { dualPlugin.array with maps := [(0, 5)] } } =
        .ok (.list [.initiator ⟨"W0", .portWwn, "host0"⟩])
          { dualPlugin with array := { dualPlugin.array with maps := [(0, 5)] } } := by
  have hg : IbmV7k.initiatorGrant ArrayState.server "iqn0" .iscsi volume5 .readWrite dualPlugin =
      .ok (.bool true) { dualPlugin with array := { dualPlugin.array with maps := [(0, 5)] } } := by
    rfl
  obtain ⟨-, -, -, hl⟩ := IbmV7k.initiatorGrant_then_granted (show dualPlugin.ssh = some _ from rfl)
    rfl (by decide) (show volume5.id = toString 5 from rfl) hg
  exact ⟨hg, hl.trans rfl⟩

/-- Revoking `W0`'s access to the volume 5 after granting it: `host0` goes
with its only mapping, and the volume has no initiator left. -/
theorem initiatorRevoke_then_revoked_lone :
    IbmV7k.initiatorRevoke ArrayState.server ⟨"W0", .portWwn, "host0"⟩ volume5
        { lonePlugin with array := { lonePlugin.array with maps := [(0, 5)] } } =
        .ok .none { lonePlugin with array := { lonePlugin.array with hosts := [], maps := [] } } ∧
      IbmV7k.initiatorsGrantedToVolume ArrayState.server volume5
          { lonePlugin with array := { lonePlugin.array with hosts := [], maps := [] } } =
        .ok (.list []) { lonePlugin with array := { lonePlugin.array with hosts := [], maps := [] } } := by
  have hr : IbmV7k.initiatorRevoke ArrayState.server ⟨"W0", .portWwn, "host0"⟩ volume5
      { lonePlugin with array := { lonePlugin.array with maps := [(0, 5)] } } =
      .ok .none { lonePlugin with array := { lonePlugin.array with hosts := [], maps := [] } } := by
    rfl
  obtain ⟨-, -, -, hl⟩ := IbmV7k.initiatorRevoke_then_revoked
    (show ({ lonePlugin with array := { lonePlugin.array with maps := [(0, 5)] } } : IbmV7k ArrayState).ssh =
      some _ from rfl) rfl (by decide) (by decide) (show volume5.id = toString 5 from rfl) hr
  exact ⟨hr, hl.trans rfl⟩

end LibStorageMgmt.V7k

import LibStorageMgmt.V7k.Hosts

/-!
# Granting and revoking access

`initiator_grant` resolves the initiator to a host with
`_map_lsm_init_id_to_v7k`; when no host has the initiator's port it creates
one with `mkhost` and resolves again; then it maps the volume to the host with
`mkvdiskhostmap -force`. `initiator_revoke` resolves the initiator, unmaps the
volume with `rmvdiskhostmap` and deletes the host with `rmhost`, ignoring the
`LsmError` of a host that still has mappings.

Every command either fails, changing nothing and raising `PLUGIN_ERROR`, or
succeeds (`sshExecute_cases`). A grant that raises therefore leaves the
mappings as they were and the host table as it was or with the one host the
grant created (`initiatorGrant_failure_residue`); that host stays behind when
the mapping after it fails, as for a volume the array does not have
(`grant_missing_volume_leaves_host`).

A grant followed by a revoke gives back the host table and the mappings when
the initiator is new and a port `mkhost` accepts, or when its host has another
mapping (`grant_revoke_restores`). The revoke deletes a host left with no
mapping, so the round trip through a host that had no mapping deletes it
(`grant_revoke_deletes_host`).
-/

namespace LibStorageMgmt.V7k

open Py ArrayState

/-! ## The commands of a grant and a revoke -/

namespace ArrayState

variable {s : ArrayState}

theorem run_mkhost (args : List String) : s.run ("mkhost" :: args) = s.mkhost args := rfl

theorem run_mkvdiskhostmap (args : List String) :
    s.run ("mkvdiskhostmap" :: args) = s.mkvdiskhostmap args := rfl

theorem run_rmvdiskhostmap (args : List String) :
    s.run ("rmvdiskhostmap" :: args) = s.rmvdiskhostmap args := rfl

theorem run_rmhost (args : List String) : s.run ("rmhost" :: args) = s.rmhost args := rfl

/-- A `mkhost` that succeeds adds one host. -/
theorem mkhost_done {args : List String} {out : String} {s' : ArrayState}
    (h : s.mkhost args = done out s') : ∃ host, s' = s.addHost host := by
  unfold mkhost at h
  repeat' split at h
  all_goals first
    | exact ⟨_, (Prod.mk.inj h).2.symm⟩
    | simp [failed, done] at h

theorem port_mem_newHost_ports {opt port : String} (hopt : opt = "-hbawwpn" ∨ opt = "-iscsiname") :
    port ∈ (s.newHost opt port).ports := by
  rcases hopt with rfl | rfl <;> simp [newHost, Host.ports]

/-- `mkhost` with a port no host has and a view can print adds `newHost`. -/
theorem mkhost_new {opt port : String} (hopt : opt = "-hbawwpn" ∨ opt = "-iscsiname")
    (hfree : ∀ h ∈ s.hosts, port ∉ h.ports) (hport : IsField port) :
    s.mkhost [opt, port] =
      done ("Host, id [" ++ toString s.nextHostId ++ "], successfully created")
        (s.addHost (s.newHost opt port)) := by
  have hany : s.hosts.any (port ∈ ·.ports) = false :=
    List.any_eq_false.mpr fun h hh => by simpa using hfree h hh
  rw [mkhost, if_pos hopt, if_neg (by simp [hany, hport])]

section Host

variable {h : Host} (hnd : (s.hosts.map Host.id).Nodup) (hh : h ∈ s.hosts) {vid : Nat}
  (hv : vid ∈ s.vdisks)
include hnd hh hv

/-- `-force` maps a volume to a host it is not mapped to. -/
theorem mapVdisk_new (hm : (h.id, vid) ∉ s.maps) :
    ∃ out, s.mapVdisk true (toString h.id) (toString vid) =
      done out { s with maps := s.maps ++ [(h.id, vid)] } := by
  refine ⟨"Virtual Disk to Host map, id [" ++ toString (s.maps.countP (·.1 = h.id)) ++
    "], successfully created", ?_⟩
  simp [mapVdisk, findHost_of_mem s hnd hh, findVdisk_of_mem s hv, hm]

theorem rmvdiskhostmap_mapped (hm : (h.id, vid) ∈ s.maps) :
    s.rmvdiskhostmap ["-host", toString h.id, toString vid] =
      done "" { s with maps := s.maps.erase (h.id, vid) } := by
  simp only [rmvdiskhostmap, findHost_of_mem s hnd hh, findVdisk_of_mem s hv, if_pos hm]

end Host

/-- `rmhost` without `-force` deletes a host only when it has no mapping. -/
theorem rmhost_one {h : Host} (hnd : (s.hosts.map Host.id).Nodup) (hh : h ∈ s.hosts) :
    s.rmhost [toString h.id] = if s.maps.any (·.1 = h.id) then s.failed hostInUse
      else done "" { s with hosts := s.hosts.erase h } := by
  simp only [rmhost, findHost_of_mem s hnd hh]

end ArrayState

/-- What a grant that raised leaves of the array: the mappings as they were,
and the host table as it was or with one host added at its end. -/
def GrantResidue (s s' : ArrayState) : Prop :=
  s'.maps = s.maps ∧ (s'.hosts = s.hosts ∨ ∃ h, s'.hosts = s.hosts ++ [h])

theorem GrantResidue.rfl {s : ArrayState} : GrantResidue s s := ⟨.refl _, .inl (.refl _)⟩

namespace IbmV7k

section Access

variable {σ : Type} (srv : Server σ) (x : String) (t : InitiatorType) (volume : Volume)
  (p : IbmV7k σ)

theorem initiatorGrant_readOnly :
    initiatorGrant srv x t volume .readOnly p = .error onlyReadWrite p := rfl

theorem initiatorGrant_readWrite : initiatorGrant srv x t volume .readWrite p =
    (_initiatorGrant srv x t volume.id true >>= fun r =>
      pure (.bool (_initiatorGrantIsSuccess r.stdout))) p := rfl

end Access

variable {p : IbmV7k ArrayState} {ssh : SSHClient} (hssh : p.ssh = some ssh) (hopen : ssh.isOpen)
  (hinv : p.array.Inv)
include hssh hopen hinv

/-! ## A grant that raises -/

/-- `_initiator_create` raises, changing nothing, or adds one host. -/
theorem initiatorCreate_cases (x : String) (t : InitiatorType) :
    (∃ r s₁, s₁.Inv ∧ GrantResidue p.array s₁ ∧
      _initiatorCreate ArrayState.server x t p = .ok r { p with array := s₁ }) ∨
    ∃ le, _initiatorCreate ArrayState.server x t p = .error (.lsm le) p := by
  rcases ht : typeOption t with _ | opt
  · exact .inr ⟨_, by simp only [_initiatorCreate, ht]; rfl⟩
  · rcases sshExecute_cases hssh hopen (initiatorCreateCmd opt x) with
      ⟨out, s₁, hrun, h⟩ | ⟨le, h⟩
    · have hinv₁ := hinv.run (splitWs (initiatorCreateCmd opt x))
      rw [hrun] at hinv₁
      rw [splitWs_initiatorCreateCmd_head, run_mkhost] at hrun
      obtain ⟨host, rfl⟩ := mkhost_done hrun
      exact .inl ⟨_, _, hinv₁, ⟨.refl _, .inr ⟨host, .refl _⟩⟩,
        by simp only [_initiatorCreate, ht]; exact h⟩
    · exact .inr ⟨le, by simp only [_initiatorCreate, ht]; exact h⟩

omit hinv in
/-- The grant command, run on what the resolution left: it succeeds, or it
raises and leaves that. -/
theorem grantCmd_cases {s₁ : ArrayState} (hres : GrantResidue p.array s₁) (id vol : String)
    (force : Bool) :
    (∃ r p', _executeCommand ArrayState.server (initiatorGrantCmd force id vol)
        { p with array := s₁ } = .ok r p') ∨
      ∃ le s', _executeCommand ArrayState.server (initiatorGrantCmd force id vol)
        { p with array := s₁ } = .error (.lsm le) { p with array := s' } ∧
        GrantResidue p.array s' :=
  (@sshExecute_cases { p with array := s₁ } ssh hssh hopen _).imp
    (fun ⟨_, _, _, h⟩ => ⟨_, _, h⟩) fun ⟨le, h⟩ => ⟨le, s₁, h, hres⟩

theorem _initiatorGrant_cases (x : String) (t : InitiatorType) (vol : String) (force : Bool) :
    (∃ r p', _initiatorGrant ArrayState.server x t vol force p = .ok r p') ∨
      ∃ le s', _initiatorGrant ArrayState.server x t vol force p =
        .error (.lsm le) { p with array := s' } ∧ GrantResidue p.array s' := by
  unfold _initiatorGrant
  rcases mapLsmInitIdToV7k_cases hssh hopen hinv x with ⟨_, _, _, hmap⟩ | ⟨_, hmap⟩
  · rw [PyM.bind_ok (PyM.tryCatch_ok hmap)]
    exact grantCmd_cases hssh hopen GrantResidue.rfl _ _ _
  · rw [PyM.bind_tryCatch_error hmap]
    simp only [initiatorNotFound, if_pos, bind_assoc]
    rcases initiatorCreate_cases hssh hopen hinv x t with ⟨r, s₁, hinv₁, hres₁, hc⟩ | ⟨le, hc⟩
    · rw [PyM.bind_ok hc]
      split
      · rcases @mapLsmInitIdToV7k_cases { p with array := s₁ } ssh hssh hopen hinv₁ x with
          ⟨_, _, _, hmap₁⟩ | ⟨_, hmap₁⟩
        · rw [PyM.bind_ok hmap₁]
          exact grantCmd_cases hssh hopen hres₁ _ _ _
        · exact .inr ⟨_, s₁, PyM.bind_error hmap₁ _, hres₁⟩
      · exact .inr ⟨_, s₁, rfl, hres₁⟩
    · exact .inr ⟨le, p.array, PyM.bind_error hc _, GrantResidue.rfl⟩

omit hssh hopen hinv in
theorem initiatorCreateIsSuccess_created (n : Nat) :
    _initiatorCreateIsSuccess ("Host, id [" ++ toString n ++ "], successfully created") = true :=
  have h : "successfully created".data <:+ "], successfully created".data := ⟨"], ".data, rfl⟩
  decide_eq_true (h.trans (List.suffix_append _ _)).isInfix

/-- On every table that keeps the invariant, with an open session,
`initiator_grant` returns, or raises an `LsmError` that leaves the mappings as
they were and the host table as it was or with one host added. -/
theorem initiatorGrant_failure_residue (x : String) (t : InitiatorType) (volume : Volume)
    (access : Access) :
    (∃ v p', initiatorGrant ArrayState.server x t volume access p = .ok v p') ∨
      ∃ le s', initiatorGrant ArrayState.server x t volume access p =
        .error (.lsm le) { p with array := s' } ∧ GrantResidue p.array s' := by
  cases access with
  | readOnly => exact .inr ⟨_, p.array, initiatorGrant_readOnly _ _ _ _ _, GrantResidue.rfl⟩
  | readWrite =>
    rw [initiatorGrant_readWrite]
    rcases _initiatorGrant_cases hssh hopen hinv x t volume.id true with
      ⟨r, p', h⟩ | ⟨le, s', h, hres⟩
    · exact .inl ⟨_, p', PyM.bind_ok h _⟩
    · exact .inr ⟨le, s', PyM.bind_error h _, hres⟩

/-! ## A grant and a revoke -/

/-- The grant of an initiator a host has maps the volume to that host. -/
theorem _initiatorGrant_found {x : String} {h : Host} (hh : h ∈ p.array.hosts)
    (hx : x ∈ h.ports) (t : InitiatorType) (vol : String) (force : Bool) :
    _initiatorGrant ArrayState.server x t vol force p =
      _executeCommand ArrayState.server (initiatorGrantCmd force (toString h.id) vol) p := by
  unfold _initiatorGrant
  rw [PyM.bind_ok (PyM.tryCatch_ok (mapLsmInitIdToV7k_found hssh hopen hinv hh hx))]

/-- The grant of a new initiator: `mkhost` adds its host, to which the volume
is then mapped. -/
theorem _initiatorGrant_new {x : String} (hx : ∀ h ∈ p.array.hosts, x ∉ h.ports)
    (hw : IsWord x.data) (hf : IsField x) {t : InitiatorType} {opt : String}
    (ht : typeOption t = some opt) (vol : String) (force : Bool) :
    _initiatorGrant ArrayState.server x t vol force p =
      _executeCommand ArrayState.server (initiatorGrantCmd force (toString p.array.nextHostId) vol)
        { p with array := p.array.addHost (p.array.newHost opt x) } := by
  have hopt := typeOption_eq_some ht
  have hrun : p.array.run (splitWs (initiatorCreateCmd opt x)) =
      done ("Host, id [" ++ toString p.array.nextHostId ++ "], successfully created")
        (p.array.addHost (p.array.newHost opt x)) := by
    rw [splitWs_initiatorCreateCmd (by rcases hopt with rfl | rfl <;> decide) hw]
    exact mkhost_new hopt hx hf
  have hinv₁ := hinv.run (splitWs (initiatorCreateCmd opt x))
  rw [hrun] at hinv₁
  have hc : _initiatorCreate ArrayState.server x t p =
      .ok ⟨0, "Host, id [" ++ toString p.array.nextHostId ++ "], successfully created", ""⟩
        { p with array := p.array.addHost (p.array.newHost opt x) } := by
    simp only [_initiatorCreate, ht]
    exact sshExecute_done hssh hopen hrun
  unfold _initiatorGrant
  rw [PyM.bind_tryCatch_error (mapLsmInitIdToV7k_absent hssh hopen hinv hx)]
  simp only [initiatorNotFound, if_pos, bind_assoc]
  rw [PyM.bind_ok hc]
  dsimp only
  rw [if_pos (initiatorCreateIsSuccess_created _),
    PyM.bind_ok (@mapLsmInitIdToV7k_found { p with array := p.array.addHost (p.array.newHost opt x) }
      ssh hssh hopen hinv₁ (p.array.newHost opt x) (by simp) x (port_mem_newHost_ports hopt))]
  rfl

/-- The grant command maps a volume to a host it is not mapped to. -/
theorem grantCmd_new {h : Host} (hh : h ∈ p.array.hosts) {vid : Nat} (hv : vid ∈ p.array.vdisks)
    (hm : (h.id, vid) ∉ p.array.maps) :
    ∃ r, _executeCommand ArrayState.server (initiatorGrantCmd true (toString h.id) (toString vid)) p =
      .ok r { p with array := { p.array with maps := p.array.maps ++ [(h.id, vid)] } } := by
  obtain ⟨out, hmap⟩ := mapVdisk_new hinv.ids_nodup hh hv hm
  refine ⟨_, @sshExecute_done p ssh hssh hopen _ out _ ?_⟩
  rw [splitWs_initiatorGrantCmd (isNumeral_natToString _).isWord (isNumeral_natToString _).isWord]
  exact hmap

omit hinv in
/-- `_initiator_delete` without `-force` deletes a host with no mapping and
raises for a host with mappings. -/
theorem initiatorDelete_cases {s : ArrayState} (hs : s.Inv) {h : Host} (hh : h ∈ s.hosts) :
    if s.maps.any (·.1 = h.id) then ∃ le, _initiatorDelete ArrayState.server (toString h.id) false
        { p with array := s } = .error (.lsm le) { p with array := s }
    else _initiatorDelete ArrayState.server (toString h.id) false { p with array := s } =
      .ok () { p with array := { s with hosts := s.hosts.erase h } } := by
  have hrun : s.run (splitWs (initiatorDeleteCmd false (toString h.id))) =
      if s.maps.any (·.1 = h.id) then s.failed hostInUse
      else done "" { s with hosts := s.hosts.erase h } := by
    rw [splitWs_initiatorDeleteCmd (isNumeral_natToString _).isWord]
    exact rmhost_one hs.ids_nodup hh
  split_ifs at hrun ⊢
  · obtain ⟨msg, hd⟩ := @sshExecute_failed { p with array := s } ssh hssh hopen _ _ hrun (by decide)
    exact ⟨_, PyM.bind_error hd _⟩
  · exact PyM.bind_ok (@sshExecute_done { p with array := s } ssh hssh hopen _ _ _ hrun) _

omit hinv in
/-- A revoke after a grant that mapped `vid` to `h`: the mapping goes, and so
does the host when it has no other mapping. -/
theorem initiatorRevoke_mapped {s : ArrayState} (hs : s.Inv) {h : Host} (hh : h ∈ s.hosts)
    {vid : Nat} (hv : vid ∈ s.vdisks) (hm : (h.id, vid) ∉ s.maps) {i : Initiator}
    (hi : i.id ∈ h.ports) {volume : Volume} (hvol : volume.id = toString vid) :
    ∃ s', initiatorRevoke ArrayState.server i volume
        { p with array := { s with maps := s.maps ++ [(h.id, vid)] } } = .ok .none { p with array := s' } ∧
      s'.maps = s.maps ∧ s'.hosts = if s.maps.any (·.1 = h.id) then s.hosts else s.hosts.erase h := by
  have hs₂ : { s with maps := s.maps ++ [(h.id, vid)] }.Inv :=
    hs.maps fun m hm' => (List.mem_append.mp hm').elim (hs.maps_lt m) fun hm₁ => by
      rw [List.mem_singleton.mp hm₁]
      exact hs.id_lt h hh
  have hunmap : { s with maps := s.maps ++ [(h.id, vid)] }.run
      (splitWs (initiatorRevokeCmd (toString h.id) volume.id)) = done "" s := by
    rw [hvol, splitWs_initiatorRevokeCmd (isNumeral_natToString _).isWord
      (isNumeral_natToString _).isWord, run_rmvdiskhostmap,
      rmvdiskhostmap_mapped hs₂.ids_nodup hh hv (List.mem_append_right _ (List.mem_singleton_self _)),
      List.erase_append_right _ hm, List.erase_cons_head, List.append_nil]
  have hdel := initiatorDelete_cases hssh hopen hs hh
  have hrev : ∃ s', _initiatorRevoke ArrayState.server i.id volume.id
      { p with array := { s with maps := s.maps ++ [(h.id, vid)] } } = .ok () { p with array := s' } ∧
      s'.maps = s.maps ∧ s'.hosts = if s.maps.any (·.1 = h.id) then s.hosts else s.hosts.erase h := by
    unfold _initiatorRevoke _executeCommand
    rw [PyM.bind_ok (@mapLsmInitIdToV7k_found { p with array := { s with maps := s.maps ++ [(h.id, vid)] } }
        ssh hssh hopen hs₂ h hh _ hi),
      PyM.bind_ok (@sshExecute_done { p with array := { s with maps := s.maps ++ [(h.id, vid)] } }
        ssh hssh hopen _ _ _ hunmap)]
    split_ifs at hdel ⊢
    · obtain ⟨le, hd⟩ := hdel
      exact ⟨s, PyM.tryCatch_error hd, rfl, rfl⟩
    · exact ⟨_, PyM.tryCatch_ok hdel, rfl, rfl⟩
  obtain ⟨s', hr, hms, hhs⟩ := hrev
  exact ⟨s', PyM.bind_ok hr _, hms, hhs⟩

/-- Grant and revoke through a host that has the initiator's port: the
mappings come back, and the host goes when it had no other mapping. -/
theorem grant_revoke_present {h : Host} (hh : h ∈ p.array.hosts) {i : Initiator}
    (hi : i.id ∈ h.ports) (t : InitiatorType) {vid : Nat} (hv : vid ∈ p.array.vdisks)
    (hm : (h.id, vid) ∉ p.array.maps) {volume : Volume} (hvol : volume.id = toString vid) :
    ∃ v p₁ s', initiatorGrant ArrayState.server i.id t volume .readWrite p = .ok v p₁ ∧
      initiatorRevoke ArrayState.server i volume p₁ = .ok .none { p with array := s' } ∧
      s'.maps = p.array.maps ∧
      s'.hosts = if p.array.maps.any (·.1 = h.id) then p.array.hosts else p.array.hosts.erase h := by
  obtain ⟨r, hg⟩ := grantCmd_new hssh hopen hinv hh hv hm
  obtain ⟨s', hr, hms, hhs⟩ := initiatorRevoke_mapped hssh hopen hinv hh hv hm hi hvol
  exact ⟨_, _, s', by
    rw [initiatorGrant_readWrite, hvol]
    exact PyM.bind_ok ((_initiatorGrant_found hssh hopen hinv hh hi t _ true).trans hg) _,
    hr, hms, hhs⟩

/-- Grant and revoke of a new initiator: the host the grant creates is
deleted again. -/
theorem grant_revoke_new {i : Initiator} (hx : ∀ h ∈ p.array.hosts, i.id ∉ h.ports)
    (hw : IsWord i.id.data) (hf : IsField i.id) {t : InitiatorType} {opt : String}
    (ht : typeOption t = some opt) {vid : Nat} (hv : vid ∈ p.array.vdisks) {volume : Volume}
    (hvol : volume.id = toString vid) :
    ∃ v p₁ s', initiatorGrant ArrayState.server i.id t volume .readWrite p = .ok v p₁ ∧
      initiatorRevoke ArrayState.server i volume p₁ = .ok .none { p with array := s' } ∧
      s'.maps = p.array.maps ∧ s'.hosts = p.array.hosts := by
  have hopt := typeOption_eq_some ht
  have hinv₁ : (p.array.addHost (p.array.newHost opt i.id)).Inv := by
    have h := hinv.mkhost [opt, i.id]
    rwa [mkhost_new hopt hx hf] at h
  have hnew : p.array.newHost opt i.id ∈ (p.array.addHost (p.array.newHost opt i.id)).hosts := by
    simp
  have hfresh : ∀ m ∈ p.array.maps, m.1 ≠ (p.array.newHost opt i.id).id :=
    fun m hm => Nat.ne_of_lt (hinv.maps_lt m hm)
  have hm₁ : ((p.array.newHost opt i.id).id, vid) ∉ p.array.maps := fun hm => hfresh _ hm rfl
  obtain ⟨r, hg⟩ := @grantCmd_new { p with array := p.array.addHost (p.array.newHost opt i.id) }
    ssh hssh hopen hinv₁ _ hnew vid hv hm₁
  obtain ⟨s', hr, hms, hhs⟩ := initiatorRevoke_mapped hssh hopen hinv₁ hnew hv hm₁
    (port_mem_newHost_ports hopt) hvol
  have hgrant := PyM.bind_ok ((_initiatorGrant_new hssh hopen hinv hx hw hf ht _ true).trans hg)
    fun r => (pure (PyVal.bool (_initiatorGrantIsSuccess r.stdout)) : PyM _ _)
  rw [← hvol, ← initiatorGrant_readWrite] at hgrant
  refine ⟨_, _, s', hgrant, hr, hms, ?_⟩
  · have hany : (p.array.maps.any (·.1 = (p.array.newHost opt i.id).id)) = false :=
      List.any_eq_false.mpr fun m hm => by simpa using hfresh m hm
    have hnot : p.array.newHost opt i.id ∉ p.array.hosts :=
      fun hn => Nat.lt_irrefl _ (hinv.id_lt _ hn)
    rw [hhs, addHost_maps, hany, if_neg Bool.false_ne_true, addHost_hosts,
      List.erase_append_right _ hnot, List.erase_cons_head, List.append_nil]

/-- Granting an initiator of type WWPN or iSCSI access to a volume of the
array and revoking it gives back the host table and the mappings when the
initiator is new and a port `mkhost` accepts, or when its host has another
mapping and not this one. -/
theorem grant_revoke_restores {t : InitiatorType} (ht : t = .portWwn ∨ t = .iscsi)
    {volume : Volume} {vid : Nat} (hv : vid ∈ p.array.vdisks) (hvol : volume.id = toString vid)
    (i : Initiator)
    (hcase : ((∀ h ∈ p.array.hosts, i.id ∉ h.ports) ∧ IsWord i.id.data ∧ IsField i.id) ∨
      ∃ h ∈ p.array.hosts, i.id ∈ h.ports ∧ (h.id, vid) ∉ p.array.maps ∧
        ∃ m ∈ p.array.maps, m.1 = h.id) :
    ∃ v p₁ p₂, initiatorGrant ArrayState.server i.id t volume .readWrite p = .ok v p₁ ∧
      initiatorRevoke ArrayState.server i volume p₁ = .ok .none p₂ ∧
      p₂.array.hosts = p.array.hosts ∧ p₂.array.maps = p.array.maps := by
  rcases hcase with ⟨hx, hw, hf⟩ | ⟨h, hh, hi, hm, m, hm', hmh⟩
  · obtain ⟨opt, hopt⟩ : ∃ opt, typeOption t = some opt := by
      rcases ht with rfl | rfl <;> exact ⟨_, rfl⟩
    obtain ⟨v, p₁, s', hg, hr, hms, hhs⟩ := grant_revoke_new hssh hopen hinv hx hw hf hopt hv hvol
    exact ⟨v, p₁, _, hg, hr, hhs, hms⟩
  · obtain ⟨v, p₁, s', hg, hr, hms, hhs⟩ := grant_revoke_present hssh hopen hinv hh hi t hv hm hvol
    have hany : p.array.maps.any (·.1 = h.id) = true :=
      List.any_eq_true.mpr ⟨m, hm', decide_eq_true hmh⟩
    exact ⟨v, p₁, _, hg, hr, hhs.trans (if_pos hany), hms⟩

end IbmV7k

/-! ## On a small array -/

/-- A registered plugin whose array has no host and the volume 5. -/
def sparePlugin : IbmV7k ArrayState :=
  ⟨some ⟨"sys", "sys"⟩, some ⟨30, true⟩, 30, none, none, sampleArray [] [] 0⟩

/-- A registered plugin whose array has the host `host0`, of WWPN `W0` and
with no mapping, and the volume 5. -/
def lonePlugin : IbmV7k ArrayState :=
  ⟨some ⟨"sys", "sys"⟩, some ⟨30, true⟩, 30, none, none,
    sampleArray [⟨0, "host0", some "W0", none⟩] [] 1⟩

/-- The volume 5 of the array, as a caller passes it. -/
def volume5 : Volume := ⟨"5", "vol5", "", 512, .finite false 0 0, .ok, "sys", "0"⟩

/-- A volume 99, which the array does not have. -/
def volume99 : Volume := ⟨"99", "vol99", "", 512, .finite false 0 0, .ok, "sys", "0"⟩

theorem grant_failure_residue_spare :
    (∃ v p', IbmV7k.initiatorGrant ArrayState.server "W9" .portWwn volume99 .readWrite sparePlugin =
        .ok v p') ∨
      ∃ le s', IbmV7k.initiatorGrant ArrayState.server "W9" .portWwn volume99 .readWrite
        sparePlugin = .error (.lsm le) { sparePlugin with array := s' } ∧
        GrantResidue sparePlugin.array s' :=
  IbmV7k.initiatorGrant_failure_residue (show sparePlugin.ssh = some _ from rfl) rfl (by decide)
    _ _ _ _

/-- Granting the new WWPN `W9` access to the volume 99: `mkhost` creates
`host0` for `W9`, the mapping fails, and the grant raises with `host0` left in
the table. -/
theorem grant_missing_volume_leaves_host :
    ∃ le p', IbmV7k.initiatorGrant ArrayState.server "W9" .portWwn volume99 .readWrite
        sparePlugin = .error (.lsm le) p' ∧
      p'.array.hosts = [⟨0, "host0", some "W9", none⟩] ∧ p'.array.maps = [] := by
  have hrun : (sparePlugin.array.addHost (sparePlugin.array.newHost "-hbawwpn" "W9")).run
      (splitWs (initiatorGrantCmd true "0" "99")) =
      (sparePlugin.array.addHost (sparePlugin.array.newHost "-hbawwpn" "W9")).failed notFound := by
    decide
  obtain ⟨msg, h⟩ := @IbmV7k.sshExecute_failed
    { sparePlugin with array := sparePlugin.array.addHost (sparePlugin.array.newHost "-hbawwpn" "W9") }
    _ rfl rfl _ _ hrun (by decide)
  have hgrant := PyM.bind_error ((IbmV7k._initiatorGrant_new (show sparePlugin.ssh = some _ from rfl)
    rfl (by decide) (by decide) (show IsWord "W9".data by decide) (by decide)
    (show typeOption .portWwn = some "-hbawwpn" from rfl) volume99.id true).trans h)
    fun r => (pure (.bool (IbmV7k._initiatorGrantIsSuccess r.stdout)) : PyM _ PyVal)
  rw [← IbmV7k.initiatorGrant_readWrite] at hgrant
  exact ⟨_, _, hgrant, by decide, rfl⟩

theorem grant_revoke_restores_spare :
    ∃ v p₁ p₂, IbmV7k.initiatorGrant ArrayState.server "W9" .portWwn volume5 .readWrite
        sparePlugin = .ok v p₁ ∧
      IbmV7k.initiatorRevoke ArrayState.server ⟨"W9", .portWwn, "host0"⟩ volume5 p₁ = .ok .none p₂ ∧
      p₂.array.hosts = sparePlugin.array.hosts ∧ p₂.array.maps = sparePlugin.array.maps :=
  IbmV7k.grant_revoke_restores (show sparePlugin.ssh = some _ from rfl) rfl (by decide) (.inl rfl)
    (show 5 ∈ sparePlugin.array.vdisks by decide) (show volume5.id = toString 5 from rfl)
    ⟨"W9", .portWwn, "host0"⟩ (.inl ⟨by decide, by decide, by decide⟩)

/-- Granting `W0` access to the volume 5 and revoking it deletes `host0`,
which had no mapping before. -/
theorem grant_revoke_deletes_host :
    ∃ v p₁ p₂, IbmV7k.initiatorGrant ArrayState.server "W0" .portWwn volume5 .readWrite
        lonePlugin = .ok v p₁ ∧
      IbmV7k.initiatorRevoke ArrayState.server ⟨"W0", .portWwn, "host0"⟩ volume5 p₁ = .ok .none p₂ ∧
      p₂.array.hosts = [] ∧ p₂.array.maps = [] := by
  obtain ⟨v, p₁, s', hg, hr, hms, hhs⟩ := IbmV7k.grant_revoke_present
    (show lonePlugin.ssh = some _ from rfl) rfl (by decide)
    (show (⟨0, "host0", some "W0", none⟩ : Host) ∈ lonePlugin.array.hosts by decide)
    (show (⟨"W0", .portWwn, "host0"⟩ : Initiator).id ∈ Host.ports ⟨0, "host0", some "W0", none⟩
      by decide) .portWwn
    (show 5 ∈ lonePlugin.array.vdisks by decide) (by decide) (show volume5.id = toString 5 from rfl)
  exact ⟨v, p₁, _, hg, hr, hhs.trans (by decide), hms⟩

end LibStorageMgmt.V7k

import LibStorageMgmt.V7k.Array

/-!
# Initiators of the array's hosts

The plugin on the array of `Array`: what `initiators()` reports and how
`_map_lsm_init_id_to_v7k` resolves an initiator id back to a host.

`_initiator` renders a host by one rule: its WWPN, else its iSCSI name, else
the array's own id for it (`hostInitiator`). `_map_lsm_init_id_to_v7k`
matches by another: the WWPN or iSCSI name only, keeping the last host that
matches (`mapLsmInitIdToV7k_found`). On a table where no port is on two hosts
the two agree for every host with a port (`initiators_resolve`). A host with
neither is reported with its array id, and resolving that id never gives it
back: it finds no host, or another host that has the id as a port
(`initiators_portless_unresolved`).
-/

namespace LibStorageMgmt.V7k

open Py ArrayState

/-! ## What the array's views read back as -/

/-- A row of the `lshost -delim !` view, as parsed. -/
def hostRow (h : Host) : Dict := [("id", toString h.id), ("name", h.name)]

theorem isField_natToString (n : Nat) : IsField (toString n) :=
  (isNumeral_natToString n).no_bang

theorem parseConcise_hostListing {s : ArrayState} (hinv : s.Inv) :
    parseConcise (hostListing s.hosts) = .ok (s.hosts.map hostRow) := by
  have hrows : s.hosts.map (fun h => sepJoin '!' [toString h.id, h.name]) =
      (s.hosts.map fun h => [toString h.id, h.name]).map (sepJoin '!') := by
    rw [List.map_map]
    rfl
  rw [hostListing, hrows, parseConcise_unlines (by decide) (by decide) (by decide) (by decide)]
  · rw [List.map_map]
    rfl
  · simp only [List.mem_map]
    rintro _ ⟨h, hh, rfl⟩
    refine ⟨rfl, ?_⟩
    simp only [List.mem_cons, List.mem_singleton, List.not_mem_nil, or_false]
    rintro v (rfl | rfl)
    · exact isField_natToString h.id
    · exact (hinv.printable h hh).1

theorem parseDetailed_hostView {h : Host}
    (hprint : IsField h.name ∧ ∀ p ∈ h.ports, IsField p) :
    parseDetailed (hostView h) = hostAttrs h := by
  have hid := (isField_natToString h.id).2
  obtain ⟨id, name, _ | w, _ | i⟩ := h <;>
    simp only [Host.ports, Option.toList, List.mem_append, List.mem_singleton,
      List.not_mem_nil, forall_eq_or_imp, forall_eq, false_or, or_false] at hprint <;>
    apply parseDetailed_unlines <;> simp [hostAttrs] <;> first | decide | simp_all [IsField]

/-- The initiator `_initiator` makes of a host's detailed view. -/
def hostInitiator (h : Host) : Initiator :=
  match h.wwpn, h.iscsiName with
  | some w, _ => ⟨w, .portWwn, h.name⟩
  | none, some i => ⟨i, .iscsi, h.name⟩
  | none, none => ⟨toString h.id, .other, h.name⟩

theorem initiator_hostAttrs (h : Host) : IbmV7k._initiator (hostAttrs h) = .ok (hostInitiator h) := by
  obtain ⟨id, name, _ | w, _ | i⟩ := h <;> rfl

/-- The id of the last host with port `x`, starting from `acc`: where the loop
of `_map_lsm_init_id_to_v7k` ends. -/
def lastWithPort (x : String) (hosts : List Host) (acc : Option String) : Option String :=
  hosts.foldl (fun acc h => if x ∈ h.ports then some (toString h.id) else acc) acc

theorem matchPort_wwpn (h : Host) (x : String) (acc : Option String) :
    IbmV7k.matchPort (hostAttrs h) "WWPN" x acc =
      .ok (if h.wwpn = some x then some (toString h.id) else acc) := by
  obtain ⟨id, name, _ | w, _ | i⟩ := h <;>
    simp [IbmV7k.matchPort, hostAttrs, Dict.contains, Dict.get?, Dict.getItem] <;> split <;> rfl

theorem matchPort_iscsi (h : Host) (x : String) (acc : Option String) :
    IbmV7k.matchPort (hostAttrs h) "iscsi_name" x acc =
      .ok (if h.iscsiName = some x then some (toString h.id) else acc) := by
  obtain ⟨id, name, _ | w, _ | i⟩ := h <;>
    simp [IbmV7k.matchPort, hostAttrs, Dict.contains, Dict.get?, Dict.getItem] <;> split <;> rfl

/-- The two tests of one turn together: a host with port `x` becomes the
match. -/
theorem matchPort_ports (h : Host) (x : String) (acc : Option String) :
    (if h.iscsiName = some x then some (toString h.id)
      else if h.wwpn = some x then some (toString h.id) else acc) =
      if x ∈ h.ports then some (toString h.id) else acc := by
  by_cases hi : h.iscsiName = some x <;> by_cases hw : h.wwpn = some x <;>
    simp [hi, hw, Host.mem_ports]

theorem lastWithPort_of_forall {x : String} :
    ∀ {hs : List Host} {acc : Option String}, (∀ h ∈ hs, x ∉ h.ports) → lastWithPort x hs acc = acc
  | [], _, _ => rfl
  | h :: hs, acc, hn => by
    rw [lastWithPort, List.foldl_cons, if_neg (hn h (List.mem_cons_self h hs))]
    exact lastWithPort_of_forall fun h' hh' => hn h' (List.mem_cons_of_mem h hh')

/-- With no port on two hosts, the match for a port is its one host. -/
theorem lastWithPort_of_mem {x : String} :
    ∀ {hs : List Host} {acc : Option String} {h : Host},
      hs.Pairwise (fun h₁ h₂ => ∀ p ∈ h₁.ports, p ∉ h₂.ports) → h ∈ hs → x ∈ h.ports →
      lastWithPort x hs acc = some (toString h.id)
  | h' :: hs, acc, h, hpw, hh, hx => by
    rw [List.pairwise_cons] at hpw
    rw [lastWithPort, List.foldl_cons]
    rcases List.mem_cons.mp hh with rfl | hh
    · rw [if_pos hx]
      exact lastWithPort_of_forall fun y hy => hpw.1 y hy x hx
    · rw [if_neg fun hx' => hpw.1 h hh x hx' hx]
      exact lastWithPort_of_mem hpw.2 hh hx

theorem hostInitiator_id_mem {h : Host} (hp : h.wwpn.isSome ∨ h.iscsiName.isSome) :
    (hostInitiator h).id ∈ h.ports := by
  obtain ⟨id, name, _ | w, _ | i⟩ := h <;> simp_all [hostInitiator, Host.ports]

/-! ## The plugin's reads on the array -/

namespace IbmV7k

variable {p : IbmV7k ArrayState} {ssh : SSHClient} (hssh : p.ssh = some ssh) (hopen : ssh.isOpen)
include hssh hopen

theorem sshExecute_done {cmd out : String} {s' : ArrayState}
    (hrun : p.array.run (splitWs cmd) = done out s') :
    sshExecute ArrayState.server cmd p = .ok ⟨0, out, ""⟩ { p with array := s' } := by
  rw [sshExecute_eq _ hssh]
  exact onArray_ok (SSHClient.execute_ok hopen
    (by simp only [ArrayState.server, hrun, done]) (.inr rfl))

theorem sshExecute_failed {cmd err : String} (hrun : p.array.run (splitWs cmd) = p.array.failed err)
    (hsp : ' ' ∈ err.data) :
    ∃ msg, sshExecute ArrayState.server cmd p = .error (.lsm ⟨.pluginError, msg⟩) p := by
  obtain ⟨a, b, hs, ha⟩ := exists_first_of_mem hsp
  have hx : ArrayState.server.exec cmd p.array = (.ok ⟨1, "", err⟩, p.array) := by
    simp only [ArrayState.server, hrun, failed]
  exact ⟨_, (sshExecute_eq _ hssh cmd).trans
    (onArray_error (SSHClient.execute_error_message hopen hx one_ne_zero hs ha))⟩

/-- Every command either succeeds, leaving the array `run` leaves, or raises
an `LsmError` and changes nothing. -/
theorem sshExecute_cases (cmd : String) :
    (∃ out s', p.array.run (splitWs cmd) = done out s' ∧
      sshExecute ArrayState.server cmd p = .ok ⟨0, out, ""⟩ { p with array := s' }) ∨
    ∃ le, sshExecute ArrayState.server cmd p = .error (.lsm le) p := by
  rcases p.array.run_outcome (splitWs cmd) with ⟨err, hrun, hsp⟩ | ⟨out, s', hrun⟩
  · obtain ⟨msg, h⟩ := sshExecute_failed hssh hopen hrun hsp
    exact .inr ⟨_, h⟩
  · exact .inl ⟨out, s', hrun, sshExecute_done hssh hopen hrun⟩

variable (hinv : p.array.Inv)
include hinv

theorem getInitiators_array :
    _getInitiators ArrayState.server p = .ok (p.array.hosts.map hostRow) p := by
  have hw : splitWs getInitiatorsCmd = ["lshost", "-delim", "!"] := by decide
  have hrun : p.array.run (splitWs getInitiatorsCmd) = done (hostListing p.array.hosts) p.array := by
    rw [hw]
    rfl
  unfold _getInitiators _executeCommandAndParseConcise
  rw [PyM.bind_ok (sshExecute_done hssh hopen hrun)]
  simp only [parseConcise_hostListing hinv]
  rfl

theorem getInitiator_array {h : Host} (hh : h ∈ p.array.hosts) :
    _getInitiator ArrayState.server (toString h.id) p = .ok (hostAttrs h) p := by
  have hrun : p.array.run (splitWs (getInitiatorCmd (toString h.id))) =
      done (hostView h) p.array := by
    rw [splitWs_getInitiatorCmd (isNumeral_natToString h.id).isWord]
    show p.array.lshost (["-delim", "!"] ++ [toString h.id]) = _
    rw [lshost, listCmd_view, findHost_of_mem p.array hinv.ids_nodup hh]
    rfl
  unfold _getInitiator _executeCommandAndParseDetailed
  rw [PyM.bind_ok (sshExecute_done hssh hopen hrun)]
  simp only [parseDetailed_hostView (hinv.printable h hh)]
  rfl

theorem initiators_array : initiators ArrayState.server p =
    .ok (.list (p.array.hosts.map fun h => .initiator (hostInitiator h))) p := by
  unfold initiators
  rw [PyM.bind_ok (getInitiators_array hssh hopen hinv)]
  rw [PyM.bind_ok (PyM.mapM_map_ok fun h hh => ?_)]
  · simp only [List.map_map]
    rfl
  · show (PyM.ofExcept ((hostRow h).getItem "id") >>= fun a => initiatorOfHost _ a) p = _
    have hid : (hostRow h).getItem "id" = .ok (toString h.id) := rfl
    rw [hid, PyM.bind_ok (PyM.ofExcept_ok (toString h.id) p), initiatorOfHost,
      PyM.bind_ok (getInitiator_array hssh hopen hinv hh), initiator_hostAttrs]
    rfl

theorem mapLoop_array (x : String) : ∀ (hs : List Host), (∀ h ∈ hs, h ∈ p.array.hosts) →
    ∀ acc, _mapLsmInitIdToV7k.loop ArrayState.server x (hs.map hostRow) acc p =
      .ok (lastWithPort x hs acc) p
  | [], _, _ => rfl
  | h :: hs, hsub, acc => by
    have hid : (hostRow h).getItem "id" = .ok (toString h.id) := rfl
    rw [List.map_cons, _mapLsmInitIdToV7k.loop, hid, PyM.bind_ok (PyM.ofExcept_ok _ p),
      PyM.bind_ok (getInitiator_array hssh hopen hinv (hsub h (List.mem_cons_self h hs))),
      matchPort_wwpn, PyM.bind_ok (PyM.ofExcept_ok _ p), matchPort_iscsi,
      PyM.bind_ok (PyM.ofExcept_ok _ p), matchPort_ports,
      mapLoop_array x hs (fun h' hh' => hsub h' (List.mem_cons_of_mem h hh'))]
    rfl

/-- An initiator id that is a port of a host resolves to that host. -/
theorem mapLsmInitIdToV7k_found {h : Host} (hh : h ∈ p.array.hosts) {x : String}
    (hx : x ∈ h.ports) : _mapLsmInitIdToV7k ArrayState.server x p = .ok (toString h.id) p := by
  unfold _mapLsmInitIdToV7k
  rw [PyM.bind_ok (getInitiators_array hssh hopen hinv),
    PyM.bind_ok (mapLoop_array hssh hopen hinv x _ (fun _ => id) none),
    lastWithPort_of_mem hinv.ports_disjoint hh hx]
  simp [(isNumeral_natToString h.id).isWord.ne_empty]

/-- An initiator id that is no host's port is not found. -/
theorem mapLsmInitIdToV7k_absent {x : String} (hx : ∀ h ∈ p.array.hosts, x ∉ h.ports) :
    _mapLsmInitIdToV7k ArrayState.server x p = .error initiatorNotFound p := by
  unfold _mapLsmInitIdToV7k
  rw [PyM.bind_ok (getInitiators_array hssh hopen hinv),
    PyM.bind_ok (mapLoop_array hssh hopen hinv x _ (fun _ => id) none),
    lastWithPort_of_forall hx]
  rfl

/-- Resolving an initiator id changes nothing: it finds the host with that
port, or raises `NOT_FOUND_INITIATOR` when there is none. -/
theorem mapLsmInitIdToV7k_cases (x : String) :
    (∃ h ∈ p.array.hosts, x ∈ h.ports ∧
      _mapLsmInitIdToV7k ArrayState.server x p = .ok (toString h.id) p) ∨
    (∀ h ∈ p.array.hosts, x ∉ h.ports) ∧
      _mapLsmInitIdToV7k ArrayState.server x p = .error initiatorNotFound p := by
  by_cases hx : ∃ h ∈ p.array.hosts, x ∈ h.ports
  · obtain ⟨h, hh, hxh⟩ := hx
    exact .inl ⟨h, hh, hxh, mapLsmInitIdToV7k_found hssh hopen hinv hh hxh⟩
  · simp only [not_exists, not_and] at hx
    exact .inr ⟨hx, mapLsmInitIdToV7k_absent hssh hopen hinv hx⟩

end IbmV7k

/-- On every table where no port is on two hosts, `initiators()` reports one
initiator per host, and resolving the id of the initiator of a host with a
WWPN or an iSCSI name gives back that host's id. -/
theorem initiators_resolve {p : IbmV7k ArrayState} {ssh : SSHClient} (hssh : p.ssh = some ssh)
    (hopen : ssh.isOpen) (hinv : p.array.Inv) :
    ∃ inits, IbmV7k.initiators ArrayState.server p = .ok (.list (inits.map .initiator)) p ∧
      List.Forall₂ (fun i h => (h.wwpn.isSome ∨ h.iscsiName.isSome) →
        IbmV7k._mapLsmInitIdToV7k ArrayState.server i.id p = .ok (toString h.id) p)
        inits p.array.hosts := by
  refine ⟨p.array.hosts.map hostInitiator, ?_, ?_⟩
  · rw [IbmV7k.initiators_array hssh hopen hinv, List.map_map]
    rfl
  · rw [List.forall₂_map_left_iff, List.forall₂_same]
    exact fun h hh hp =>
      IbmV7k.mapLsmInitIdToV7k_found hssh hopen hinv hh (hostInitiator_id_mem hp)

/-- A host with neither a WWPN nor an iSCSI name is reported as the initiator
`TYPE_OTHER` with the array's id for it, and resolving that id never gives the
host back: `_map_lsm_init_id_to_v7k` compares it with the other hosts' ports
only, so it raises `NOT_FOUND_INITIATOR`, or returns the id of another host
that has that id as a port. -/
theorem initiators_portless_unresolved {p : IbmV7k ArrayState} {ssh : SSHClient}
    (hssh : p.ssh = some ssh) (hopen : ssh.isOpen) (hinv : p.array.Inv) {h : Host}
    (hh : h ∈ p.array.hosts) (hport : h.ports = []) :
    IbmV7k.initiators ArrayState.server p =
        .ok (.list (p.array.hosts.map fun h => .initiator (hostInitiator h))) p ∧
      hostInitiator h = ⟨toString h.id, .other, h.name⟩ ∧
      ((∀ h' ∈ p.array.hosts, toString h.id ∉ h'.ports) ∧
          IbmV7k._mapLsmInitIdToV7k ArrayState.server (toString h.id) p =
            .error IbmV7k.initiatorNotFound p ∨
        ∃ h' ∈ p.array.hosts, toString h.id ∈ h'.ports ∧ toString h'.id ≠ toString h.id ∧
          IbmV7k._mapLsmInitIdToV7k ArrayState.server (toString h.id) p =
            .ok (toString h'.id) p) := by
  have hnone : h.wwpn = none ∧ h.iscsiName = none := by
    obtain ⟨_, _, _ | _, _ | _⟩ := h <;> simp_all [Host.ports]
  refine ⟨IbmV7k.initiators_array hssh hopen hinv, by simp [hostInitiator, hnone], ?_⟩
  rcases IbmV7k.mapLsmInitIdToV7k_cases hssh hopen hinv (toString h.id) with
    ⟨h', hh', hx, hmap⟩ | ⟨hx, hmap⟩
  · refine .inr ⟨h', hh', hx, fun heq => ?_, hmap⟩
    have hne : h' ≠ h := fun he => by simp [he, hport] at hx
    exact hne (List.inj_on_of_nodup_map hinv.ids_nodup hh' hh (natToString_injective heq))
  · exact .inl ⟨hx, hmap⟩

/-- An array whose host 0 has no port and whose host 1 has the iSCSI name
`0`. -/
def portlessPlugin : IbmV7k ArrayState :=
  ⟨some ⟨"sys", "sys"⟩, some ⟨30, true⟩, 30, none, none,
    sampleArray [⟨0, "host0", none, none⟩, ⟨1, "host1", none, some "0"⟩] [] 2⟩

/-- `initiators()` reports host 0 as the initiator `0` of type `TYPE_OTHER`,
and resolving `0` gives host 1. -/
theorem initiators_portless_host1 :
    IbmV7k.initiators ArrayState.server portlessPlugin =
        .ok (.list [.initiator ⟨"0", .other, "host0"⟩, .initiator ⟨"0", .iscsi, "host1"⟩])
          portlessPlugin ∧
      IbmV7k._mapLsmInitIdToV7k ArrayState.server "0" portlessPlugin = .ok "1" portlessPlugin := by
  obtain ⟨hinit, -, hmap⟩ := @initiators_portless_unresolved portlessPlugin _ rfl rfl (by decide)
    ⟨0, "host0", none, none⟩ (by decide) rfl
  refine ⟨hinit.trans rfl, ?_⟩
  rcases hmap with ⟨hx, -⟩ | ⟨h', hh', hx, -, hmap⟩
  · exact absurd (hx ⟨1, "host1", none, some "0"⟩ (by decide)) (by decide)
  · have : h' = ⟨1, "host1", none, some "0"⟩ := by
      simp only [portlessPlugin, sampleArray, List.mem_cons, List.mem_singleton,
        List.not_mem_nil, or_false] at hh'
      rcases hh' with rfl | rfl
      · simp [Host.ports] at hx
      · rfl
    subst this
    exact hmap

end LibStorageMgmt.V7k

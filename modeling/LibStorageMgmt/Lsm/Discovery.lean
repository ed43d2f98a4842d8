import LibStorageMgmt.Lsm.Locate

/-!
# Enumerating the plugins

`Client.available_plugins` first runs the same probe as the constructor and
raises `DAEMON_NOT_RUNNING` when no file of the walk accepts a connection;
then it connects to *every* file of the walk and asks each for
`plugin_info`. The enumeration loop has no `except LsmError` around the
connect, unlike the probe, so a file that refuses the connection ends the
whole call with the connect's `LsmError`, even when live plugins sit beside
it (`availablePlugins_refused`). When every file accepts, the result is one
`desc<sep>version` entry per file, in walk order (`availablePlugins_live`).
-/

namespace LibStorageMgmt.Lsm

open Py

variable {env : Env} (fieldSep : String)

/-- One turn of the enumeration loop on a file that accepts and answers with
a pair. -/
theorem collectPlugins_cons_ok {p : String} {rest rc : List String} {n : Net} {v i w : PyVal}
    (hc : env.connect n.attempts p = none) (hr : env.reply p n.attempts infoRequest = .ok v)
    (hu : v.unpack2 = .ok (i, w)) :
    collectPlugins env fieldSep (p :: rest) rc n =
      collectPlugins env fieldSep rest (rc ++ [i.toStr ++ fieldSep ++ w.toStr])
        ⟨n.attempts + 1, n.opened, n.closes ++ [n.attempts],
          n.sent ++ [(n.attempts, infoRequest)]⟩ := by
  rw [collectPlugins, PyM.bind_ok (by rw [getSocket_apply, hc]),
    PyM.bind_ok (by rw [rpc_apply, hr]), PyM.bind_ok (by rw [hu]; rfl)]
  dsimp only
  rw [PyM.bind_ok (close_apply _ _)]
  simp

/-- A refused connect ends the enumeration with the connect's error. -/
theorem collectPlugins_cons_refused {p : String} {rest rc : List String} {n : Net}
    {le : LsmError} (hc : env.connect n.attempts p = some le) :
    collectPlugins env fieldSep (p :: rest) rc n =
      .error (.lsm le) { n with attempts := n.attempts + 1 } := by
  rw [collectPlugins, PyM.bind_error (by rw [getSocket_apply, hc])]

section Static

variable {acc : String → Option LsmError} {desc ver : String → String}
  (hacc : ∀ k p, env.connect k p = acc p)
  (hinfo : ∀ p fd, env.reply p fd infoRequest = .ok (.tuple [.str (desc p), .str (ver p)]))
include hacc

include hinfo in
theorem collectPlugins_live {ws : List String} (hws : ∀ p ∈ ws, acc p = none)
    (rc : List String) (n : Net) :
    ∃ n', collectPlugins env fieldSep ws rc n =
      .ok (rc ++ ws.map fun p => desc p ++ fieldSep ++ ver p) n' := by
  induction ws generalizing rc n with
  | nil => exact ⟨n, by simp [collectPlugins]⟩
  | cons p rest ih =>
    obtain ⟨n', h⟩ := ih (fun q hq => hws q (List.mem_cons_of_mem p hq))
      (rc ++ [desc p ++ fieldSep ++ ver p]) _
    refine ⟨n', ?_⟩
    rw [collectPlugins_cons_ok fieldSep (by rw [hacc, hws p (List.mem_cons_self p rest)])
      (hinfo _ _) rfl]
    simpa using h

include hinfo in
theorem collectPlugins_refused {pre : List String} {q : String} {le : LsmError}
    (hpre : ∀ p ∈ pre, acc p = none) (hq : acc q = some le) (post rc : List String) (n : Net) :
    ∃ n', collectPlugins env fieldSep (pre ++ q :: post) rc n = .error (.lsm le) n' := by
  induction pre generalizing rc n with
  | nil => exact ⟨_, collectPlugins_cons_refused fieldSep (by rw [hacc, hq])⟩
  | cons p rest ih =>
    obtain ⟨n', h⟩ := ih (fun q hq => hpre q (List.mem_cons_of_mem p hq))
      (rc ++ [desc p ++ fieldSep ++ ver p]) _
    exact ⟨n', by
      rw [List.cons_append, collectPlugins_cons_ok fieldSep
        (by rw [hacc, hpre p (List.mem_cons_self p rest)]) (hinfo _ _) rfl]
      exact h⟩

/-- When no file of the walk accepts a connection, `DAEMON_NOT_RUNNING`. -/
theorem availablePlugins_no_daemon (hnone : ∀ p ∈ env.walk, (acc p).isSome) (n : Net) :
    ∃ n', Client.availablePlugins env fieldSep n = .error (.lsm daemonNotRunningError) n' := by
  obtain ⟨n', hd⟩ := checkDaemonExists_static hacc n
  have hany : (env.walk.any fun p => (acc p).isNone) = false := by
    simpa [Option.isNone_iff_eq_none, ← Option.ne_none_iff_isSome] using hnone
  refine ⟨n', returnRequires_error ?_⟩
  rw [PyM.bind_ok hd, hany]
  exact PyM.bind_error (raiseNoDaemon_apply _) _

omit hacc in
/-- A stale socket file that refuses: `DAEMON_NOT_RUNNING`. -/
theorem availablePlugins_staleSocketEnv :
    ∃ n', Client.availablePlugins staleSocketEnv ":" ⟨0, [], [], []⟩ =
      .error (.lsm daemonNotRunningError) n' :=
  availablePlugins_no_daemon ":" (fun _ _ => rfl) (by decide) _

omit hacc in
theorem availablePlugins_bareEnv :
    ∃ n', Client.availablePlugins bareEnv ":" ⟨0, [], [], []⟩ =
      .error (.lsm daemonNotRunningError) n' :=
  availablePlugins_no_daemon ":" (fun _ _ => rfl) (by decide) _

include hinfo in
/-- When every file of the walk accepts (and there is one), one entry per
file. -/
theorem availablePlugins_live (hall : ∀ p ∈ env.walk, acc p = none) (hne : env.walk ≠ [])
    (n : Net) : ∃ n', Client.availablePlugins env fieldSep n =
      .ok (.list (env.walk.map fun p => .str (desc p ++ fieldSep ++ ver p))) n' := by
  obtain ⟨n₁, hd⟩ := checkDaemonExists_static hacc n
  obtain ⟨p, hp⟩ := List.exists_mem_of_ne_nil _ hne
  have hany : (env.walk.any fun p => (acc p).isNone) = true :=
    List.any_eq_true.mpr ⟨p, hp, by simp [hall p hp]⟩
  obtain ⟨n₂, hc⟩ := collectPlugins_live fieldSep hacc hinfo hall [] n₁
  refine ⟨n₂, returnRequires_ok ?_ (List.all_eq_true.mpr fun v hv => ?_)⟩
  · rw [PyM.bind_ok hd, hany]
    simp [PyM.map_ok hc]
  · obtain ⟨p, -, rfl⟩ := List.mem_map.mp hv
    rfl

omit hacc in
theorem availablePlugins_liveEnv :
    ∃ n', Client.availablePlugins liveEnv ":" ⟨0, [], [], []⟩ =
      .ok (.list [.str ("Storage simulator" ++ ":" ++ "1.0")]) n' :=
  @availablePlugins_live liveEnv ":" (fun _ => none) (fun _ => "Storage simulator") (fun _ => "1.0")
    (fun _ _ => rfl) (fun _ _ => rfl) (fun _ _ => rfl) (List.cons_ne_nil _ _) _

include hinfo in
/-- A file that refuses the connection, behind files that accept, ends the
call with the refused connect's `LsmError`. -/
theorem availablePlugins_refused {pre post : List String} {q : String} {le : LsmError}
    (hwalk : env.walk = pre ++ q :: post) (hpre : ∀ p ∈ pre, acc p = none)
    (hq : acc q = some le) (hlive : ∃ p ∈ env.walk, acc p = none) (n : Net) :
    ∃ n', Client.availablePlugins env fieldSep n = .error (.lsm le) n' := by
  obtain ⟨n₁, hd⟩ := checkDaemonExists_static hacc n
  obtain ⟨p, hp, hpa⟩ := hlive
  have hany : (env.walk.any fun p => (acc p).isNone) = true :=
    List.any_eq_true.mpr ⟨p, hp, by simp [hpa]⟩
  obtain ⟨n₂, hc⟩ := collectPlugins_refused fieldSep hacc hinfo hpre hq post [] n₁
  rw [← hwalk] at hc
  refine ⟨n₂, returnRequires_error ?_⟩
  rw [PyM.bind_ok hd, hany]
  simp [PyM.map_error hc]

end Static

/-- A socket directory holding a live `sim` plugin and a stale socket file
that refuses connections. -/
def staleEnv : Env where
  base := "/var/run/lsm/ipc"
  pathExists p := p == "/var/run/lsm/ipc" || p == "/var/run/lsm/ipc/sim" ||
    p == "/var/run/lsm/ipc/stale"
  walk := ["/var/run/lsm/ipc/sim", "/var/run/lsm/ipc/stale"]
  connect _ p := if p == "/var/run/lsm/ipc/stale" then
    some ⟨.transportCommunication, "Connection refused"⟩ else none
  reply _ _ _ := .ok (.tuple [.str "Storage simulator", .str "1.0"])
  walk_of_absent h := by simp at h

theorem availablePlugins_staleEnv :
    ∃ n', Client.availablePlugins staleEnv ":" ⟨0, [], [], []⟩ =
      .error (.lsm ⟨.transportCommunication, "Connection refused"⟩) n' :=
  availablePlugins_refused ":" (fun _ _ => rfl) (fun _ _ => rfl)
    (show staleEnv.walk = ["/var/run/lsm/ipc/sim"] ++ "/var/run/lsm/ipc/stale" :: [] from rfl)
    (by decide) rfl ⟨"/var/run/lsm/ipc/sim", by decide, rfl⟩ _

end LibStorageMgmt.Lsm

import LibStorageMgmt.Lsm.Client

/-!
# Locating the plugin

What `Client.__init__` does before it registers: the plugin family of the
scheme, then a connect to `<base>/<family>` when that path exists, and
otherwise the probe of the socket directory that tells a missing plugin
(`PLUGIN_NOT_EXIST`) from a missing daemon (`DAEMON_NOT_RUNNING`).

The probe never raises, leaves the set of open sockets as it found it, and
writes no request (`probe_frame`). When each path either always accepts or
always refuses (`acc`), it answers whether some file of the walk accepts
(`probe_static`), and the whole locate step is the three-way outcome of
`initConnect_static`.

`schemePlugin` unpacks `scheme.split("+")` into exactly two names, so a
scheme with two or more `+` raises `ValueError` (`schemePlugin_of_two_plus`),
an exception no caller of `Client` expects.
-/

namespace LibStorageMgmt.Lsm

open Py

/-! ## The plugin family of a scheme -/

theorem schemePlugin_of_no_plus {s : String} (h : '+' ∉ s.data) : schemePlugin s = .ok s := by
  simp [schemePlugin, h]

theorem schemePlugin_of_one_plus {s : String} {a b : List Char} (hs : s.data = a ++ '+' :: b)
    (ha : '+' ∉ a) (hb : '+' ∉ b) : schemePlugin s = .ok (String.mk a) := by
  simp [schemePlugin, hs, split_of_eq_append hs ha hb]

theorem schemePlugin_of_two_plus {s : String} {a b c : List Char}
    (hs : s.data = a ++ '+' :: (b ++ '+' :: c)) : schemePlugin s = .error .valueError := by
  have hsplit : split '+' s = (a.splitOn '+' ++ (b.splitOn '+' ++ c.splitOn '+')).map String.mk := by
    rw [split, hs, List.splitOn, splitOnP_append_cons (by simp), splitOnP_append_cons (by simp)]
    rfl
  obtain ⟨x, xs, hx⟩ := List.exists_cons_of_ne_nil (List.splitOnP_ne_nil (· == '+') a)
  obtain ⟨y, ys, hy⟩ := List.exists_cons_of_ne_nil (List.splitOnP_ne_nil (· == '+') b)
  obtain ⟨z, zs, hz⟩ := List.exists_cons_of_ne_nil (List.splitOnP_ne_nil (· == '+') c)
  have hmem : '+' ∈ s.data := by simp [hs]
  simp only [schemePlugin, hmem, if_true, hsplit, List.splitOn, hx, hy, hz]
  cases xs <;> simp

variable (env : Env)

/-! ## The probe -/

/-- The probe returns, keeps the open sockets and the requests sent, and
keeps the bookkeeping invariant. -/
theorem probe_frame (ws : List String) (n : Net) :
    ∃ b n', probe env ws n = .ok b n' ∧ n'.opened = n.opened ∧ n'.sent = n.sent ∧
      (n.Inv → n'.Inv) := by
  induction ws generalizing n with
  | nil => exact ⟨false, n, rfl, rfl, rfl, id⟩
  | cons uds rest ih =>
    cases hc : env.connect n.attempts uds with
    | none =>
      refine ⟨true, { n with attempts := n.attempts + 1, closes := n.closes ++ [n.attempts] },
        ?_, rfl, rfl, fun h => ?_⟩
      · unfold probe
        apply PyM.tryCatch_ok
        rw [PyM.bind_ok (by rw [getSocket_apply, hc]), PyM.bind_ok (close_apply _ _)]
        simp
      · simpa using h.connect.close (Nat.lt_succ_self _)
    | some le =>
      obtain ⟨b, n', h, ho, hs, hinv⟩ := ih { n with attempts := n.attempts + 1 }
      refine ⟨b, n', ?_, ho, hs, fun h => hinv h.attempt⟩
      unfold probe
      rw [PyM.tryCatch_error (PyM.bind_error (by rw [getSocket_apply, hc]) _)]
      exact h

/-- `Client.__init__`'s locate step once the scheme is parsed and its
plugin family unpacked. -/
theorem initConnect_of_plugin {uriParse : String → Except PyExc String} {uri s f : String}
    (huri : uriParse uri = .ok s) (hf : schemePlugin s = .ok f) :
    initConnect env uriParse uri =
      (if env.pathExists (joinPath env.base f) then TransPort.getSocket env (joinPath env.base f)
      else do
        if (← checkDaemonExists env) then
          throw (.lsm ⟨.pluginNotExist, "Plug-in " ++ joinPath env.base f ++ " not found!"⟩)
        else raiseNoDaemon) := by
  simp only [initConnect, huri, PyM.ofExcept, pure_bind, hf]

section Static

variable {env} {acc : String → Option LsmError}

/-- With every path always accepting or always refusing, the probe answers
whether some file of the walk accepts. -/
theorem probe_static (hacc : ∀ k p, env.connect k p = acc p) (ws : List String) (n : Net) :
    ∃ n', probe env ws n = .ok (ws.any fun p => (acc p).isNone) n' := by
  induction ws generalizing n with
  | nil => exact ⟨n, rfl⟩
  | cons uds rest ih =>
    cases hc : acc uds with
    | none =>
      refine ⟨{ n with attempts := n.attempts + 1, closes := n.closes ++ [n.attempts] }, ?_⟩
      unfold probe
      apply PyM.tryCatch_ok
      rw [PyM.bind_ok (by rw [getSocket_apply, hacc, hc]), PyM.bind_ok (close_apply _ _)]
      simp [hc]
    | some le =>
      obtain ⟨n', h⟩ := ih { n with attempts := n.attempts + 1 }
      refine ⟨n', ?_⟩
      unfold probe
      rw [PyM.tryCatch_error (PyM.bind_error (by rw [getSocket_apply, hacc, hc]) _)]
      simpa [hc] using h

theorem checkDaemonExists_static (hacc : ∀ k p, env.connect k p = acc p) (n : Net) :
    ∃ n', checkDaemonExists env n = .ok (env.walk.any fun p => (acc p).isNone) n' := by
  unfold checkDaemonExists
  cases hb : env.pathExists env.base
  · exact ⟨n, by simp [env.walk_of_absent hb]⟩
  · simpa using probe_static hacc env.walk n

/-- The locate step of `Client.__init__` for a URI whose scheme has the
plugin family `f`: connect to `<base>/f` when it exists; otherwise
`PLUGIN_NOT_EXIST` when some file of the walk accepts a connection and
`DAEMON_NOT_RUNNING` when none does. -/
theorem initConnect_static (hacc : ∀ k p, env.connect k p = acc p)
    {uriParse : String → Except PyExc String} {uri s f : String}
    (huri : uriParse uri = .ok s) (hf : schemePlugin s = .ok f) (n : Net) :
    (env.pathExists (joinPath env.base f) = true →
      initConnect env uriParse uri n = TransPort.getSocket env (joinPath env.base f) n) ∧
    (env.pathExists (joinPath env.base f) = false → (env.walk.any fun p => (acc p).isNone) →
      ∃ n', initConnect env uriParse uri n =
        .error (.lsm ⟨.pluginNotExist, "Plug-in " ++ joinPath env.base f ++ " not found!"⟩) n') ∧
    (env.pathExists (joinPath env.base f) = false → (env.walk.all fun p => (acc p).isSome) →
      ∃ n', initConnect env uriParse uri n = .error (.lsm daemonNotRunningError) n') := by
  obtain ⟨n', hd⟩ := checkDaemonExists_static hacc n
  rw [initConnect_of_plugin env huri hf]
  refine ⟨fun hp => by simp [hp], fun hp ha => ⟨n', ?_⟩, fun hp ha => ⟨n', ?_⟩⟩
  · rw [if_neg (by simp [hp]), PyM.bind_ok hd]
    simp [ha]
  · have hn : (env.walk.any fun p => (acc p).isNone) = false := by
      simpa [Option.isNone_iff_eq_none, ← Option.ne_none_iff_isSome] using ha
    rw [if_neg (by simp [hp]), PyM.bind_ok hd]
    simp [hn]

end Static

/-- A socket directory that exists and holds no socket. -/
def bareEnv : Env where
  base := "/var/run/lsm/ipc"
  pathExists p := p == "/var/run/lsm/ipc"
  walk := []
  connect _ _ := some ⟨.transportCommunication, "Connection refused"⟩
  reply _ _ _ := .error ⟨.transportCommunication, "Connection refused"⟩
  walk_of_absent _ := rfl

theorem initConnect_bare_sim :
    ∃ n', initConnect bareEnv (fun _ => .ok "sim") "sim://" ⟨0, [], [], []⟩ =
      .error (.lsm daemonNotRunningError) n' :=
  (@initConnect_static bareEnv (fun _ => some ⟨.transportCommunication, "Connection refused"⟩)
    (fun _ _ => rfl) (fun _ => .ok "sim") "sim://" "sim" "sim" rfl rfl _).2.2 (by decide) rfl

/-- A socket directory holding one live `sim` plugin. -/
def liveEnv : Env where
  base := "/var/run/lsm/ipc"
  pathExists p := p == "/var/run/lsm/ipc" || p == "/var/run/lsm/ipc/sim"
  walk := ["/var/run/lsm/ipc/sim"]
  connect _ _ := none
  reply _ _ _ := .ok (.tuple [.str "Storage simulator", .str "1.0"])
  walk_of_absent h := by simp at h

/-- A socket directory that exists and holds one stale socket file, which
refuses every connection. -/
def staleSocketEnv : Env where
  base := "/var/run/lsm/ipc"
  pathExists p := p == "/var/run/lsm/ipc" || p == "/var/run/lsm/ipc/old"
  walk := ["/var/run/lsm/ipc/old"]
  connect _ _ := some ⟨.transportCommunication, "Connection refused"⟩
  reply _ _ _ := .error ⟨.transportCommunication, "Connection refused"⟩
  walk_of_absent h := by simp at h

/-- `sim://` with the `sim` socket present connects to it. -/
theorem initConnect_live_sim :
    initConnect liveEnv (fun _ => .ok "sim") "sim://" ⟨0, [], [], []⟩ =
      TransPort.getSocket liveEnv "/var/run/lsm/ipc/sim" ⟨0, [], [], []⟩ :=
  (@initConnect_static liveEnv (fun _ => none) (fun _ _ => rfl) (fun _ => .ok "sim") "sim://" "sim"
    "sim" rfl rfl _).1 rfl

/-- `ontap://` with only the live `sim` socket present: `PLUGIN_NOT_EXIST`. -/
theorem initConnect_live_missing :
    ∃ n', initConnect liveEnv (fun _ => .ok "ontap") "ontap://" ⟨0, [], [], []⟩ =
      .error (.lsm ⟨.pluginNotExist, "Plug-in /var/run/lsm/ipc/ontap not found!"⟩) n' :=
  (@initConnect_static liveEnv (fun _ => none) (fun _ _ => rfl) (fun _ => .ok "ontap") "ontap://"
    "ontap" "ontap" rfl rfl _).2.1 rfl rfl

/-- `sim://` with only a stale socket that refuses: `DAEMON_NOT_RUNNING`. -/
theorem initConnect_stale_sim :
    ∃ n', initConnect staleSocketEnv (fun _ => .ok "sim") "sim://" ⟨0, [], [], []⟩ =
      .error (.lsm daemonNotRunningError) n' :=
  (@initConnect_static staleSocketEnv
    (fun _ => some ⟨.transportCommunication, "Connection refused"⟩) (fun _ _ => rfl)
    (fun _ => .ok "sim") "sim://" "sim" "sim" rfl rfl _).2.2 rfl rfl

/-- A scheme with two `+` makes the locate step raise `ValueError`, whatever
the socket directory holds and before anything is opened. -/
theorem initConnect_two_plus {uriParse : String → Except PyExc String} {uri s : String}
    {a b c : List Char} (huri : uriParse uri = .ok s)
    (hs : s.data = a ++ '+' :: (b ++ '+' :: c)) (n : Net) :
    initConnect env uriParse uri n = .error .valueError n := by
  simp only [initConnect, huri, PyM.ofExcept, pure_bind, schemePlugin_of_two_plus hs]
  rfl

theorem initConnect_sim_ssl_x :
    initConnect bareEnv (fun _ => .ok "sim+ssl+x") "sim+ssl+x://host/" ⟨0, [], [], []⟩ =
      .error .valueError ⟨0, [], [], []⟩ :=
  initConnect_two_plus bareEnv rfl
    (show "sim+ssl+x".data = "sim".data ++ '+' :: ("ssl".data ++ '+' :: "x".data) from rfl) _

end LibStorageMgmt.Lsm

import LibStorageMgmt.Lsm.Discovery

/-!
# Which sockets a failing call leaves open

The client never closes a socket on an error path: there is no `try` /
`finally` anywhere in `_client.py`, so a socket is closed only when the
statement `tp.close()` after its last request is reached.

* `Client.__init__` opens at most the client's socket; when `plugin_register`
  fails it raises with that socket still open (`init_error_opened`).
* `available_plugins` leaves open exactly the socket whose `plugin_info`
  exchange raised, if any (`availablePlugins_error_opened`); the probe's
  sockets are always closed.
* `close` (and `plugin_unregister`, which is `close`) closes the client's
  socket once when the `plugin_unregister` request succeeds, and leaves it
  open when that request raises (`close_rpc_ok`, `close_rpc_error`).
-/

namespace LibStorageMgmt.Lsm

open Py

variable (env : Env)

theorem checkDaemonExists_frame (n : Net) :
    ∃ b n', checkDaemonExists env n = .ok b n' ∧ n'.opened = n.opened := by
  unfold checkDaemonExists
  split
  · obtain ⟨b, n', h, ho, -⟩ := probe_frame env env.walk n
    exact ⟨b, n', h, ho⟩
  · exact ⟨false, n, rfl, rfl⟩

variable {env} (uriParse : String → Except PyExc String)

/-- Everything the locate step can do: fail before touching the world, make
the one connect attempt to the plugin's path, or raise after the probe with
the open sockets unchanged. -/
theorem initConnect_cases (uri : String) (n : Net) :
    (∃ e, initConnect env uriParse uri n = .error e n) ∨
    (∃ path, initConnect env uriParse uri n = TransPort.getSocket env path n) ∨
    (∃ e n', initConnect env uriParse uri n = .error e n' ∧ n'.opened = n.opened) := by
  cases huri : uriParse uri with
  | error e =>
    exact .inl ⟨e, by simp only [initConnect, huri, PyM.ofExcept]; exact PyM.bind_error rfl _⟩
  | ok s =>
    cases hf : schemePlugin s with
    | error e =>
      refine .inl ⟨e, ?_⟩
      simp only [initConnect, huri, PyM.ofExcept, pure_bind, hf]
      exact PyM.bind_error rfl _
    | ok f =>
      rw [initConnect_of_plugin env huri hf]
      split
      · exact .inr (.inl ⟨_, rfl⟩)
      · obtain ⟨b, n', hd, ho⟩ := checkDaemonExists_frame env n
        rw [PyM.bind_ok hd]
        cases b <;> exact .inr (.inr ⟨_, n', rfl, ho⟩)

theorem initConnect_error_opened {uri : String} {n n' : Net} {e : PyExc}
    (h : initConnect env uriParse uri n = .error e n') : n'.opened = n.opened := by
  rcases initConnect_cases uriParse uri n with ⟨e', h'⟩ | ⟨path, h'⟩ | ⟨e', n'', h', ho⟩
  · rw [h'] at h
    cases h
    rfl
  · rw [h'] at h
    obtain ⟨le, -, -, rfl⟩ := getSocket_error h
    rfl
  · rw [h'] at h
    cases h
    exact ho

theorem initConnect_ok_opened {uri : String} {n n' : Net} {tp : TransPort}
    (h : initConnect env uriParse uri n = .ok tp n') : n'.opened = tp.fd :: n.opened := by
  rcases initConnect_cases uriParse uri n with ⟨e', h'⟩ | ⟨path, h'⟩ | ⟨e', n'', h', -⟩
  · rw [h'] at h
    cases h
  · rw [h'] at h
    obtain ⟨-, rfl, rfl⟩ := getSocket_ok h
    rfl
  · rw [h'] at h
    cases h

/-- A construction that raises leaves its sockets as they were, except the
client's own socket when `plugin_register` is what raised. -/
theorem init_error_opened {uri : String} {password timeoutMs flags : PyVal} {n n' : Net}
    {e : PyExc} (h : Client.init env uriParse uri password timeoutMs flags n = .error e n') :
    n'.opened = n.opened ∨ ∃ (tp : TransPort) (le : LsmError), n'.opened = tp.fd :: n.opened ∧
      env.reply tp.path tp.fd (registerRequest uri password timeoutMs flags) = .error le := by
  unfold Client.init at h
  cases hc : initConnect env uriParse uri n with
  | error e' n₁ =>
    rw [PyM.bind_error hc] at h
    cases h
    exact .inl (initConnect_error_opened uriParse hc)
  | ok tp n₁ =>
    rw [PyM.bind_ok hc] at h
    cases hr : tp.rpc env (registerRequest uri password timeoutMs flags) n₁ with
    | ok v n₂ =>
      rw [PyM.bind_ok hr] at h
      cases h
    | error e' n₂ =>
      rw [PyM.bind_error hr] at h
      cases h
      obtain ⟨le, hle, -, rfl⟩ := rpc_error hr
      have ho := initConnect_ok_opened uriParse hc
      exact .inr ⟨tp, le, ho, hle⟩

/-! ## The enumeration -/

/-- The `plugin_info` exchange with the plugin at `p` on socket `fd` raises:
the request fails, or its reply does not unpack into a pair. -/
def infoFails (env : Env) (p : String) (fd : Nat) : Prop :=
  match env.reply p fd infoRequest with
  | .ok v => ∃ e, v.unpack2 = .error e
  | .error _ => True

variable (fieldSep : String)

/-- The enumeration loop leaves the open sockets as they were when it
returns, and when it raises, as they were or with the one socket whose
`plugin_info` exchange raised. -/
theorem collectPlugins_opened (ws rc : List String) (n : Net) :
    match collectPlugins env fieldSep ws rc n with
    | .ok _ n' => n'.opened = n.opened
    | .error _ n' => n'.opened = n.opened ∨
        ∃ p fd, n'.opened = fd :: n.opened ∧ infoFails env p fd := by
  induction ws generalizing rc n with
  | nil => rfl
  | cons p rest ih =>
    cases hc : env.connect n.attempts p with
    | some le => simp [collectPlugins_cons_refused fieldSep hc]
    | none =>
      have hs : TransPort.getSocket env p n =
          .ok ⟨n.attempts, p⟩ ⟨n.attempts + 1, n.attempts :: n.opened, n.closes, n.sent⟩ := by
        rw [getSocket_apply, hc]
      cases hr : env.reply p n.attempts infoRequest with
      | error le =>
        rw [collectPlugins, PyM.bind_ok hs, PyM.bind_error (by rw [rpc_apply, hr])]
        exact .inr ⟨p, n.attempts, rfl, by simp [infoFails, hr]⟩
      | ok v =>
        cases hu : v.unpack2 with
        | error e =>
          rw [collectPlugins, PyM.bind_ok hs, PyM.bind_ok (by rw [rpc_apply, hr]),
            PyM.bind_error (by rw [hu]; rfl)]
          exact .inr ⟨p, n.attempts, rfl, by simp [infoFails, hr, hu]⟩
        | ok iw =>
          rw [collectPlugins_cons_ok fieldSep hc hr hu]
          exact ih _ _

/-- `available_plugins` that raises leaves the open sockets as they were, or
with the one socket whose `plugin_info` exchange raised. -/
theorem availablePlugins_error_opened {n n' : Net} {e : PyExc}
    (h : Client.availablePlugins env fieldSep n = .error e n') :
    n'.opened = n.opened ∨ ∃ p fd, n'.opened = fd :: n.opened ∧ infoFails env p fd := by
  obtain ⟨b, n₁, hd, ho⟩ := checkDaemonExists_frame env n
  unfold Client.availablePlugins returnRequires at h
  rw [bind_assoc, PyM.bind_ok hd] at h
  cases b
  · rw [Bool.not_false, if_pos rfl, bind_assoc, PyM.bind_error (raiseNoDaemon_apply _)] at h
    cases h
    exact .inl ho
  · have hc := @collectPlugins_opened env fieldSep env.walk [] n₁
    simp only [Bool.not_true, Bool.false_eq_true, if_false, pure_bind, bind_assoc] at h
    cases hcr : collectPlugins env fieldSep env.walk [] n₁ with
    | error e' n₂ =>
      rw [PyM.bind_error hcr] at h
      cases h
      rw [hcr] at hc
      simpa [ho] using hc
    | ok rc n₂ =>
      rw [PyM.bind_ok hcr] at h
      rw [hcr] at hc
      split at h <;> cases h
      exact .inl (Eq.trans hc ho)

/-! ## Closing -/

variable (c : Client) (flags : PyVal)

theorem pluginUnregister_eq_close (n : Net) :
    Client.pluginUnregister env c flags n = Client.close env c flags n := by
  cases h : Client.close env c flags n with
  | ok v n' =>
    have hv : v = .none := by
      have := returnRequires_ok_conforms h
      cases v <;> first | rfl | exact absurd this Bool.false_ne_true
    subst hv
    exact returnRequires_ok (PyM.bind_ok h _) rfl
  | error e n' => exact returnRequires_error (PyM.bind_error h _)

/-- When `plugin_unregister` succeeds, `close` closes the client's open
socket, and it is then closed exactly once. -/
theorem close_rpc_ok {n : Net} {v : PyVal} (hinv : n.Inv) (hopen : c.tp.fd ∈ n.opened)
    (hr : env.reply c.tp.path c.tp.fd (unregisterRequest flags) = .ok v) :
    ∃ n', Client.close env c flags n = .ok .none n' ∧ c.tp.fd ∉ n'.opened ∧
      n'.opened = n.opened.erase c.tp.fd ∧ n'.closes.count c.tp.fd = 1 := by
  refine ⟨⟨n.attempts, n.opened.erase c.tp.fd, n.closes ++ [c.tp.fd],
    n.sent ++ [(c.tp.fd, unregisterRequest flags)]⟩, ?_, hinv.opened_nodup.not_mem_erase, rfl, ?_⟩
  · refine returnRequires_ok ?_ rfl
    rw [PyM.bind_ok (by rw [rpc_apply, hr]), PyM.bind_ok (close_apply _ _)]
    rfl
  · simp [List.count_eq_zero_of_not_mem (hinv.opened_not_closed _ hopen)]

/-- When `plugin_unregister` raises, `close` raises with the socket still
open and nothing closed. -/
theorem close_rpc_error {n : Net} {le : LsmError}
    (hr : env.reply c.tp.path c.tp.fd (unregisterRequest flags) = .error le) :
    Client.close env c flags n =
      .error (.lsm le) { n with sent := n.sent ++ [(c.tp.fd, unregisterRequest flags)] } :=
  returnRequires_error (PyM.bind_error (by rw [rpc_apply, hr]) _)

/-! ## Every failing path -/

/-- The open sockets after each failing path of the client: a construction
leaves open at most the client's socket, when `plugin_register` raised;
`available_plugins` at most the socket whose `plugin_info` exchange raised;
`close` and `plugin_unregister` close an open client socket exactly once when
the `plugin_unregister` request succeeds, and close nothing when it raises. -/
theorem failing_calls_open_sockets (uri : String) (password timeoutMs : PyVal) (n : Net) :
    (∀ e n', Client.init env uriParse uri password timeoutMs flags n = .error e n' →
      n'.opened = n.opened ∨ ∃ (tp : TransPort) (le : LsmError), n'.opened = tp.fd :: n.opened ∧
        env.reply tp.path tp.fd (registerRequest uri password timeoutMs flags) = .error le) ∧
    (∀ e n', Client.availablePlugins env fieldSep n = .error e n' →
      n'.opened = n.opened ∨ ∃ p fd, n'.opened = fd :: n.opened ∧ infoFails env p fd) ∧
    Client.pluginUnregister env c flags n = Client.close env c flags n ∧
    (n.Inv → c.tp.fd ∈ n.opened → ∀ v,
      env.reply c.tp.path c.tp.fd (unregisterRequest flags) = .ok v →
      ∃ n', Client.close env c flags n = .ok .none n' ∧ c.tp.fd ∉ n'.opened ∧
        n'.opened = n.opened.erase c.tp.fd ∧ n'.closes.count c.tp.fd = 1) ∧
    (∀ le, env.reply c.tp.path c.tp.fd (unregisterRequest flags) = .error le →
      ∃ n', Client.close env c flags n = .error (.lsm le) n' ∧
        n'.opened = n.opened ∧ n'.closes = n.closes) :=
  ⟨fun _ _ h => init_error_opened uriParse h, fun _ _ h => availablePlugins_error_opened fieldSep h,
    pluginUnregister_eq_close c flags n, fun hinv hopen _ hr => close_rpc_ok c flags hinv hopen hr,
    fun _ hr => ⟨_, close_rpc_error c flags hr, rfl, rfl⟩⟩

/-- A socket directory with one live plugin, `sim`, which accepts the
connection and answers every request, `plugin_register` included, with the
error `Invalid password`. -/
def rejectingEnv : Env where
  base := "/var/run/lsm/ipc"
  pathExists p := p == "/var/run/lsm/ipc" || p == "/var/run/lsm/ipc/sim"
  walk := ["/var/run/lsm/ipc/sim"]
  connect _ _ := none
  reply _ _ _ := .error ⟨.pluginError, "Invalid password"⟩
  walk_of_absent h := by simp at h

/-- A construction that raises and leaves its socket open. -/
theorem init_rejected_leaves_socket :
    ∃ e n', Client.init rejectingEnv (fun _ => .ok "sim") "sim://" .none (.int 30000) (.int 0)
      ⟨0, [], [], []⟩ = .error e n' ∧ n'.opened = [0] :=
  ⟨_, _, rfl, rfl⟩

/-- A client whose socket `0` is open to the `sim` plugin that rejects every
request: its `close` raises the plugin's error from `plugin_unregister`, and
the socket stays open, with no close recorded. -/
theorem rejecting_close_once :
    ∃ n', Client.close rejectingEnv ⟨"sim://", .none, .int 30000, "/var/run/lsm/ipc",
        ⟨0, "/var/run/lsm/ipc/sim"⟩⟩ (.int 0) ⟨1, [0], [], []⟩ =
      .error (.lsm ⟨.pluginError, "Invalid password"⟩) n' ∧ n'.opened = [0] ∧ n'.closes = [] :=
  (failing_calls_open_sockets (fun _ => .ok "sim") ":"
    ⟨"sim://", .none, .int 30000, "/var/run/lsm/ipc", ⟨0, "/var/run/lsm/ipc/sim"⟩⟩ (.int 0)
    "sim://" .none (.int 30000) ⟨1, [0], [], []⟩).2.2.2.2 _ rfl

end LibStorageMgmt.Lsm

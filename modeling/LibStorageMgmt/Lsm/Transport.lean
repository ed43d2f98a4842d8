import LibStorageMgmt.Py.Value

/-!
# Sockets and the transport

The client's view of the socket directory and of the plugins behind it.
`Env` is everything the client cannot choose: the socket base directory, which
paths exist, the files `os.walk` visits, and what each connect attempt and
each request meets. Connect faults are indexed by the attempt, so a path may
accept one connection and refuse the next; replies are indexed by the socket
and its path. `Net` is what the client does to the world: the sockets it
holds open, every close it performs, every request it writes.

`TransPort.getSocket`, `TransPort.rpc` and `TransPort.close` are
`_TransPort.get_socket`, `_TransPort.rpc` and `_TransPort.close` (the
transport module is not under src/; the client only relies on a connect that
succeeds or raises `LsmError`, one request and one reply per `rpc`, and a
close). `Net.Inv` is the bookkeeping invariant the connect, the requests and
the close of a socket each keep (`Net.Inv.connect`, `Net.Inv.setSent`,
`Net.Inv.close`): socket numbers are fresh and an open socket has never been
closed.
-/

namespace LibStorageMgmt.Lsm

open Py

/-- An RPC request: the method name and the `locals()` of the stub with
`self` removed. -/
structure Request where
  method : String
  args : List (String × PyVal)

/-- A connected transport: its socket number and the path it connected to. -/
structure TransPort where
  fd : Nat
  path : String
  deriving DecidableEq, Repr

/-- The socket directory and the behaviour of every connect and request. -/
structure Env where
  /-- `Client._plugin_uds_path()`: `LSM_UDS_PATH` when set, else `UDS_PATH`. -/
  base : String
  /-- `os.path.exists`. -/
  pathExists : String → Bool
  /-- The files `os.walk(base)` visits, each joined to its directory. -/
  walk : List String
  /-- The `LsmError` the `n`-th connect attempt, to the given path, raises. -/
  connect : Nat → String → Option LsmError
  /-- What the plugin at `path`, on socket `fd`, answers to a request. -/
  reply : String → Nat → Request → Except LsmError PyVal
  /-- `os.walk` of a missing directory visits nothing. -/
  walk_of_absent : pathExists base = false → walk = []

/-- What the client has done to the world. -/
structure Net where
  /-- Connect attempts so far; the next socket's number. -/
  attempts : Nat
  /-- The sockets currently open. -/
  opened : List Nat
  /-- Every close, in order. -/
  closes : List Nat
  /-- Every request written, with the socket it went to. -/
  sent : List (Nat × Request)

/-- A client-side call. -/
abbrev ClientM := PyM Net

variable (env : Env)

/-- `_TransPort(_TransPort.get_socket(path))`. -/
def TransPort.getSocket (path : String) : ClientM TransPort := fun n =>
  match env.connect n.attempts path with
  | some e => .error (.lsm e) { n with attempts := n.attempts + 1 }
  | none => .ok ⟨n.attempts, path⟩
      { n with attempts := n.attempts + 1, opened := n.attempts :: n.opened }

/-- `tp.rpc(method, args)`: write the request, read the one reply. -/
def TransPort.rpc (tp : TransPort) (req : Request) : ClientM PyVal := fun n =>
  match env.reply tp.path tp.fd req with
  | .ok v => .ok v { n with sent := n.sent ++ [(tp.fd, req)] }
  | .error e => .error (.lsm e) { n with sent := n.sent ++ [(tp.fd, req)] }

/-- `tp.close()`. -/
def TransPort.close (tp : TransPort) : ClientM Unit := fun n =>
  .ok () { n with opened := n.opened.erase tp.fd, closes := n.closes ++ [tp.fd] }

/-! ## One lemma per operation -/

theorem getSocket_apply (path : String) (n : Net) :
    TransPort.getSocket env path n = match env.connect n.attempts path with
      | some e => .error (.lsm e) { n with attempts := n.attempts + 1 }
      | none => .ok ⟨n.attempts, path⟩
          { n with attempts := n.attempts + 1, opened := n.attempts :: n.opened } := rfl

theorem rpc_apply (tp : TransPort) (req : Request) (n : Net) :
    tp.rpc env req n = match env.reply tp.path tp.fd req with
      | .ok v => .ok v { n with sent := n.sent ++ [(tp.fd, req)] }
      | .error e => .error (.lsm e) { n with sent := n.sent ++ [(tp.fd, req)] } := rfl

@[simp] theorem close_apply (tp : TransPort) (n : Net) :
    tp.close n =
      .ok () { n with opened := n.opened.erase tp.fd, closes := n.closes ++ [tp.fd] } := rfl

variable {env}

theorem getSocket_ok {path : String} {n n' : Net} {tp : TransPort}
    (h : TransPort.getSocket env path n = .ok tp n') :
    env.connect n.attempts path = none ∧ tp = ⟨n.attempts, path⟩ ∧
      n' = { n with attempts := n.attempts + 1, opened := n.attempts :: n.opened } := by
  rw [getSocket_apply] at h
  split at h <;> cases h
  exact ⟨‹_›, rfl, rfl⟩

theorem getSocket_error {path : String} {n n' : Net} {e : PyExc}
    (h : TransPort.getSocket env path n = .error e n') :
    ∃ le, env.connect n.attempts path = some le ∧ e = .lsm le ∧
      n' = { n with attempts := n.attempts + 1 } := by
  rw [getSocket_apply] at h
  split at h <;> cases h
  exact ⟨_, ‹_›, rfl, rfl⟩

theorem rpc_ok {tp : TransPort} {req : Request} {n n' : Net} {v : PyVal}
    (h : tp.rpc env req n = .ok v n') :
    env.reply tp.path tp.fd req = .ok v ∧ n' = { n with sent := n.sent ++ [(tp.fd, req)] } := by
  rw [rpc_apply] at h
  split at h <;> cases h
  exact ⟨‹_›, rfl⟩

theorem rpc_error {tp : TransPort} {req : Request} {n n' : Net} {e : PyExc}
    (h : tp.rpc env req n = .error e n') :
    ∃ le, env.reply tp.path tp.fd req = .error le ∧ e = .lsm le ∧
      n' = { n with sent := n.sent ++ [(tp.fd, req)] } := by
  rw [rpc_apply] at h
  split at h <;> cases h
  exact ⟨_, ‹_›, rfl, rfl⟩

/-! ## The bookkeeping invariant -/

/-- Socket numbers are handed out in order, and an open socket has never been
closed. -/
structure Net.Inv (n : Net) : Prop where
  opened_lt : ∀ fd ∈ n.opened, fd < n.attempts
  closes_lt : ∀ fd ∈ n.closes, fd < n.attempts
  opened_nodup : n.opened.Nodup
  opened_not_closed : ∀ fd ∈ n.opened, fd ∉ n.closes

namespace Net.Inv

variable {n : Net}

theorem attempt (h : n.Inv) : { n with attempts := n.attempts + 1 }.Inv :=
  ⟨fun fd hfd => Nat.lt_succ_of_lt (h.opened_lt fd hfd),
    fun fd hfd => Nat.lt_succ_of_lt (h.closes_lt fd hfd), h.opened_nodup, h.opened_not_closed⟩

theorem connect (h : n.Inv) :
    { n with attempts := n.attempts + 1, opened := n.attempts :: n.opened }.Inv where
  opened_lt fd hfd := by
    rcases List.mem_cons.mp hfd with rfl | hfd
    · exact Nat.lt_succ_self _
    · exact Nat.lt_succ_of_lt (h.opened_lt fd hfd)
  closes_lt fd hfd := Nat.lt_succ_of_lt (h.closes_lt fd hfd)
  opened_nodup := List.nodup_cons.mpr
    ⟨fun hm => Nat.lt_irrefl _ (h.opened_lt _ hm), h.opened_nodup⟩
  opened_not_closed fd hfd := by
    rcases List.mem_cons.mp hfd with rfl | hfd
    · exact fun hm => Nat.lt_irrefl _ (h.closes_lt _ hm)
    · exact h.opened_not_closed fd hfd

theorem close (h : n.Inv) {fd : Nat} (hfd : fd < n.attempts) :
    { n with opened := n.opened.erase fd, closes := n.closes ++ [fd] }.Inv where
  opened_lt fd' hm := h.opened_lt fd' (List.mem_of_mem_erase hm)
  closes_lt fd' hm := by
    rcases List.mem_append.mp hm with hm | hm
    · exact h.closes_lt fd' hm
    · rwa [List.mem_singleton.mp hm]
  opened_nodup := h.opened_nodup.erase fd
  opened_not_closed fd' hm := by
    rw [h.opened_nodup.mem_erase_iff] at hm
    simpa [hm.1] using h.opened_not_closed fd' hm.2

end Net.Inv

end LibStorageMgmt.Lsm

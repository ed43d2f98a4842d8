import LibStorageMgmt.V7k.Plugin

/-!
# Single methods over any array

What one method of `IbmV7k` does, whatever the array behind the SSH server.

`time_out_set` stores the new time-out, closes the session, and only then
opens a new one with it. When the reconnect raises, the first two steps stay
done: the plugin reports the new time-out and holds its old session, closed
(`timeOutSet_outcome`). paramiko's `close` dropped that session's transport,
so every later command raises `AttributeError`, which no decorator of
`execute` turns into an `LsmError` (`sshExecute_after_timeOutSet_error`).

The two parse methods read back every table the array prints with
`-delim !`: a detailed view as its attributes, with or without a line break
after its last line (`executeCommandAndParseDetailed_view`), and a concise
view as its rows, each paired with the header's names
(`executeCommandAndParseConcise_table`).
-/

namespace LibStorageMgmt.V7k

open Py

namespace IbmV7k

variable {σ : Type} (srv : Server σ)

/-! ## Changing the time-out -/

/-- `time_out_set` either returns with the new time-out and a new session
opened with it, or raises with the new time-out and the old session closed. -/
theorem timeOutSet_cases {p : IbmV7k σ} {ssh : SSHClient} (hssh : p.ssh = some ssh) (ms : Int) :
    timeOutSet srv ms p = .ok .none { p with tmo := ms, ssh := some ⟨ms, true⟩ } ∨
    ∃ e, timeOutSet srv ms p = .error e { p with tmo := ms, ssh := some { ssh with isOpen := false } } := by
  have hclose : ∀ s : σ, SSHClient.close ssh s = .ok { ssh with isOpen := false } s :=
    fun _ => rfl
  -- The time-out is stored and the old session closed before anything can raise.
  simp only [timeOutSet, PyM.modify_bind, sshClient_bind, hssh, onArray_bind, hclose,
    upDict_bind]
  cases p.up with
  | none => exact .inr ⟨_, rfl⟩
  | some up =>
    simp only [PyM.get_bind, PyM.ofExcept_bind]
    cases up.getItem "host" with
    | error e => exact .inr ⟨_, rfl⟩
    | ok host =>
      cases up.getItem "username" with
      | error e => exact .inr ⟨_, rfl⟩
      | ok user =>
        simp only [PyM.get_bind, onArray_bind, SSHClient.init_apply]
        cases srv.connect host user p.password ms p.array with
        | none => exact .inl rfl
        | some msg => exact .inr ⟨_, rfl⟩

/-- What `time_out_set` leaves, whether it returns or raises: the new time-out,
and a new open session opened with it, or, when the reconnect raises, the old
session, closed. Nothing else changes. -/
theorem timeOutSet_outcome {p : IbmV7k σ} {ssh : SSHClient} (hssh : p.ssh = some ssh)
    (ms : Int) :
    (∃ q, timeOutSet srv ms p = .ok .none q ∧ q = { p with tmo := ms, ssh := some ⟨ms, true⟩ } ∧
      timeOutGet q = .ok (.int ms) q) ∨
    (∃ e q, timeOutSet srv ms p = .error e q ∧
      q = { p with tmo := ms, ssh := some { ssh with isOpen := false } } ∧
      timeOutGet q = .ok (.int ms) q) := by
  rcases timeOutSet_cases srv hssh ms with h | ⟨e, h⟩
  · exact .inl ⟨_, h, rfl, rfl⟩
  · exact .inr ⟨e, _, h, rfl, rfl⟩

/-- A registered plugin whose session was opened with a 30 s time-out. -/
def registeredPlugin : IbmV7k Unit :=
  ⟨some ⟨"sys", "sys"⟩, some ⟨30, true⟩, 30, none, some [("host", "v7k"), ("username", "admin")], ()⟩

/-- A server that refuses every new SSH connection. -/
def refusingServer : Server Unit where
  exec _ s := (.ok ⟨0, "", ""⟩, s)
  connect _ _ _ _ _ := some "timed out"

theorem timeOutSet_outcome_refused :
    (∃ q, timeOutSet refusingServer 40000 registeredPlugin = .ok .none q ∧
      q = { registeredPlugin with tmo := 40000, ssh := some ⟨40000, true⟩ } ∧
      timeOutGet q = .ok (.int 40000) q) ∨
    (∃ e q, timeOutSet refusingServer 40000 registeredPlugin = .error e q ∧
      q = { registeredPlugin with tmo := 40000, ssh := some ⟨30, false⟩ } ∧
      timeOutGet q = .ok (.int 40000) q) :=
  timeOutSet_outcome refusingServer (show registeredPlugin.ssh = some ⟨30, true⟩ from rfl) 40000

/-- When the reconnect is refused, `time_out_set` raises with the new time-out
stored and the session it had, opened with 30 s, closed. -/
theorem timeOutSet_refused :
    ∃ e q, timeOutSet refusingServer 40000 registeredPlugin = .error e q ∧
      timeOutGet q = .ok (.int 40000) q ∧ q.ssh = some ⟨30, false⟩ :=
  ⟨_, _, rfl, rfl, rfl⟩

/-- A session that `time_out_set` closed and could not reopen answers every
later command with `AttributeError`. -/
theorem sshExecute_after_timeOutSet_error {p q : IbmV7k σ} {ssh : SSHClient}
    (hssh : p.ssh = some ssh) {ms : Int} {e : PyExc} (h : timeOutSet srv ms p = .error e q)
    (sshCmd : String) :
    sshExecute srv sshCmd q = .error .attributeError q := by
  obtain h' | ⟨_, h'⟩ := timeOutSet_cases srv hssh ms
  · rw [h] at h'
    cases h'
  · rw [h] at h'
    cases h'
    rw [sshExecute_eq srv rfl]
    exact onArray_error (SSHClient.execute_closed Bool.false_ne_true)

theorem sshExecute_after_refused_timeOutSet :
    ∃ e q, timeOutSet refusingServer 40000 registeredPlugin = .error e q ∧
      sshExecute refusingServer "lshost" q = .error .attributeError q :=
  ⟨_, _, rfl, sshExecute_after_timeOutSet_error refusingServer
    (show registeredPlugin.ssh = some ⟨30, true⟩ from rfl) rfl "lshost"⟩

/-! ## Reading a view -/

/-- A server whose every command succeeds and prints `out`. -/
def viewServer (out : String) : Server Unit where
  exec _ s := (.ok ⟨0, out, ""⟩, s)
  connect _ _ _ _ _ := none

/-- Whenever `execute` returns a detailed view of attributes with distinct
names, no name holding `!` or a line break and no value a line break (a value
may hold `!`), its lines joined by line breaks with or without one after the
last, `_execute_command_and_parse_detailed` returns exactly those attributes. -/
theorem executeCommandAndParseDetailed_view {p : IbmV7k σ} {ssh : SSHClient}
    (hssh : p.ssh = some ssh) {sshCmd : String} {r : ExecResult} {s : σ}
    (hx : ssh.execute srv sshCmd true p.array = .ok r s) {attrs : Dict}
    (hname : ∀ a ∈ attrs, IsName a.1) (hvalue : ∀ a ∈ attrs, '\n' ∉ a.2.data)
    (hnd : (attrs.map Prod.fst).Nodup)
    (hout : r.stdout = sepJoin '\n' (attrs.map detailLine) ∨
      r.stdout = sepJoin '\n' (attrs.map detailLine) ++ "\n") :
    _executeCommandAndParseDetailed srv sshCmd p = .ok attrs { p with array := s } := by
  rw [_executeCommandAndParseDetailed, PyM.bind_ok (sshExecute_ok srv hssh hx),
    parseDetailed_view hname hvalue hnd hout]
  rfl

theorem executeCommandAndParseDetailed_lshost :
    _executeCommandAndParseDetailed (viewServer "id!0\nname!host!0\nWWPN!W0") "lshost 0"
      registeredPlugin = .ok [("id", "0"), ("name", "host!0"), ("WWPN", "W0")] registeredPlugin :=
  executeCommandAndParseDetailed_view _ rfl (by rfl) (by decide) (by decide) (by decide) (by decide)

/-- Whenever `execute` returns a concise view (a header of distinct names, one
of them not blank, and rows of one value per name, no name or value holding
`!` or a line break, every line ended by a line break),
`_execute_command_and_parse_concise` returns the rows in order, each paired
with the names: its `j`-th entry is `cmd_output[j]`. -/
theorem executeCommandAndParseConcise_table {p : IbmV7k σ} {ssh : SSHClient}
    (hssh : p.ssh = some ssh) {sshCmd : String} {r : ExecResult} {s : σ}
    (hx : ssh.execute srv sshCmd true p.array = .ok r s) {keys : List String}
    {rows : List (List String)} (hkeys : keys ≠ []) (hfield : ∀ k ∈ keys, IsField k)
    (hvis : ∃ k ∈ keys, ∃ c ∈ k.data, isSpace c = false) (hnd : keys.Nodup)
    (hrows : ∀ row ∈ rows, row.length = keys.length ∧ ∀ v ∈ row, IsField v)
    (hout : r.stdout = unlines (sepJoin '!' keys :: rows.map (sepJoin '!'))) :
    _executeCommandAndParseConcise srv sshCmd p = .ok (rows.map keys.zip) { p with array := s } := by
  rw [_executeCommandAndParseConcise, PyM.bind_ok (sshExecute_ok srv hssh hx), hout,
    parseConcise_unlines hkeys hfield hvis hnd hrows]
  rfl

theorem executeCommandAndParseConcise_lsvdisk :
    _executeCommandAndParseConcise (viewServer "id!name\n0!vol0\n1!vol1\n") "lsvdisk -delim !"
      registeredPlugin = .ok ([["0", "vol0"], ["1", "vol1"]].map ["id", "name"].zip) registeredPlugin :=
  executeCommandAndParseConcise_table _ rfl (by rfl) (by decide) (by decide) (by decide) (by decide)
    (by decide) (by decide)

end IbmV7k

end LibStorageMgmt.V7k

import LibStorageMgmt.Py.Value

/-!
# The plugin's SSH client

`SSHClient` of `ibmv7k.py`: a paramiko session to the array, opened by the
constructor and used by `execute` to run one CLI command.

The array behind the SSH server is a state `σ`, and a `Server σ` says what a
command line does on it and whether a connect succeeds; what paramiko raises
is the text of its `SSHException`. Two decorators turn exceptions into
`LsmError`s: `handle_ssh_errors` an `SSHException` into
`TRANSPORT_COMMUNICATION` (on the constructor and on `close`), and
`handle_v7k_errors` a `V7kError` into `PLUGIN_ERROR` (on `execute`). paramiko's
`close` drops the session's transport, so a command on a closed session
raises `AttributeError`.

`execute` cuts the stderr of a failed command at its first space: the vendor's
error code before it, the reason after it (`execute_error_message`). A stderr
with no space has no reason, so `errList[1]` raises `IndexError`, which no
decorator catches; and since `execute` does not carry `handle_ssh_errors`, an
`SSHException` of the channel escapes it unchanged (`execute_raises`). What
can escape `execute` is exactly these two, `PLUGIN_ERROR`, and the
`AttributeError` of a closed session (`execute_error_cases`).
-/

namespace LibStorageMgmt.V7k

open Py

/-- What `exec_command` yields once the channel closes: `recv_exit_status()`
and the two streams. -/
structure ExecResult where
  exitCode : Int
  stdout : String
  stderr : String
  deriving DecidableEq, Repr

/-- The array behind the SSH server, over its state `σ`: what one command line
does (its result, or the text of the `SSHException` the channel raises), and
whether paramiko's `connect(hostname, username, password, timeout)` succeeds
(or the text of the exception it raises). -/
structure Server (σ : Type) where
  exec : String → σ → Except String ExecResult × σ
  connect : String → String → Option String → Int → σ → Option String

/-- An `SSHClient`: its paramiko session, with the time-out it was opened
with and whether it is still open. -/
structure SSHClient where
  timeout : Int
  isOpen : Bool
  deriving DecidableEq, Repr

variable {σ α : Type} (srv : Server σ)

/-- `handle_ssh_errors`. -/
def handleSshErrors (x : PyM σ α) : PyM σ α :=
  tryCatch x fun
    | .sshException msg => throw (.lsm ⟨.transportCommunication, msg⟩)
    | e => throw e

/-- `handle_v7k_errors`. -/
def handleV7kErrors (x : PyM σ α) : PyM σ α :=
  tryCatch x fun
    | .v7kError errno reason =>
      throw (.lsm ⟨.pluginError, reason ++ " (vendor error code= " ++ errno ++ ")"⟩)
    | e => throw e

namespace SSHClient

/-- `SSHClient.__init__`: any failure of the connect becomes an
`SSHException` naming the host. -/
def init (hostname login : String) (passwd : Option String) (connTimeout : Int) :
    PyM σ SSHClient :=
  handleSshErrors do
    match srv.connect hostname login passwd connTimeout (← get) with
    | none => pure ⟨connTimeout, true⟩
    | some e => throw (.sshException
        ("Error while connecting via ssh to host " ++ hostname ++ " : " ++ e))

/-- `SSHClient.close`; paramiko's `close` does not raise. -/
def close (self : SSHClient) : PyM σ SSHClient :=
  handleSshErrors (pure { self with isOpen := false })

/-- `exec_command` and the reads of the channel. paramiko's `close` sets the
client's transport to `None`, so on a closed session `exec_command` raises
`AttributeError` before anything is sent. -/
def execCommand (self : SSHClient) (command : String) : PyM σ ExecResult := fun s =>
  if self.isOpen then
    match srv.exec command s with
    | (.ok r, s') => .ok r s'
    | (.error msg, s') => .error (.sshException msg) s'
  else .error .attributeError s

/-- `SSHClient.execute`. -/
def execute (self : SSHClient) (command : String) (checkExitCode : Bool) :
    PyM σ ExecResult :=
  handleV7kErrors do
    let r ← self.execCommand srv command
    if checkExitCode && r.exitCode != 0 then
      let errList := splitOnce ' ' r.stderr
      let errno ← if r.exitCode == 127 then pure (toString r.exitCode)
        else PyM.ofExcept (subscript errList 0)
      let reason ← PyM.ofExcept (subscript errList 1)
      throw (.v7kError errno reason)
    pure r

end SSHClient

/-! ## The decorators -/

section Decorators

variable {x : PyM σ α} {s s' : σ}

theorem handleSshErrors_ok {a : α} (h : x s = .ok a s') : handleSshErrors x s = .ok a s' :=
  PyM.tryCatch_ok h

theorem handleSshErrors_sshException {msg : String} (h : x s = .error (.sshException msg) s') :
    handleSshErrors x s = .error (.lsm ⟨.transportCommunication, msg⟩) s' :=
  PyM.tryCatch_error h

theorem handleV7kErrors_ok {a : α} (h : x s = .ok a s') : handleV7kErrors x s = .ok a s' :=
  PyM.tryCatch_ok h

theorem handleV7kErrors_v7kError {errno reason : String}
    (h : x s = .error (.v7kError errno reason) s') :
    handleV7kErrors x s =
      .error (.lsm ⟨.pluginError, reason ++ " (vendor error code= " ++ errno ++ ")"⟩) s' :=
  PyM.tryCatch_error h

/-- Every exception but a `V7kError` passes `handle_v7k_errors` unchanged. -/
theorem handleV7kErrors_other {e : PyExc} (h : x s = .error e s')
    (he : ∀ errno reason, e ≠ .v7kError errno reason) : handleV7kErrors x s = .error e s' := by
  rw [handleV7kErrors, PyM.tryCatch_error h]
  cases e <;> first | rfl | exact absurd rfl (he _ _)

end Decorators

/-! ## Running a command -/

/-- A server on which every command fails with exit code 1 and only the
vendor's error code on stderr. -/
def terseServer : Server Unit where
  exec _ s := (.ok ⟨1, "", "CMMVC5753E"⟩, s)
  connect _ _ _ _ _ := none

namespace SSHClient

variable {srv} {self : SSHClient} {command : String} {s s' : σ}

/-- `__init__` opens a session with the given time-out, or raises
`TRANSPORT_COMMUNICATION` naming the host; it leaves the array alone. -/
theorem init_apply (hostname login : String) (passwd : Option String) (connTimeout : Int)
    (s : σ) :
    init srv hostname login passwd connTimeout s =
      match srv.connect hostname login passwd connTimeout s with
      | none => .ok ⟨connTimeout, true⟩ s
      | some e => .error (.lsm ⟨.transportCommunication,
          "Error while connecting via ssh to host " ++ hostname ++ " : " ++ e⟩) s := by
  cases hc : srv.connect hostname login passwd connTimeout s with
  | none => exact handleSshErrors_ok (by simp only [PyM.get_bind, hc]; rfl)
  | some e => exact handleSshErrors_sshException (by simp only [PyM.get_bind, hc]; rfl)

theorem execCommand_ok {r : ExecResult} (hopen : self.isOpen)
    (h : srv.exec command s = (.ok r, s')) : self.execCommand srv command s = .ok r s' := by
  simp only [execCommand, hopen, if_true, h]

theorem execCommand_error {msg : String} (hopen : self.isOpen)
    (h : srv.exec command s = (.error msg, s')) :
    self.execCommand srv command s = .error (.sshException msg) s' := by
  simp only [execCommand, hopen, if_true, h]

theorem execute_ok {r : ExecResult} {checkExitCode : Bool} (hopen : self.isOpen)
    (h : srv.exec command s = (.ok r, s')) (hexit : checkExitCode = false ∨ r.exitCode = 0) :
    self.execute srv command checkExitCode s = .ok r s' := by
  apply handleV7kErrors_ok
  rw [PyM.bind_ok (execCommand_ok hopen h)]
  rcases hexit with rfl | hexit <;> simp [*]

theorem execute_error_message {r : ExecResult} {a b : List Char} (hopen : self.isOpen)
    (h : srv.exec command s = (.ok r, s')) (hexit : r.exitCode ≠ 0)
    (hs : r.stderr.data = a ++ ' ' :: b) (ha : ' ' ∉ a) :
    self.execute srv command true s = .error (.lsm ⟨.pluginError, String.mk b ++
      " (vendor error code= " ++ (if r.exitCode = 127 then "127" else String.mk a) ++ ")"⟩) s' := by
  apply handleV7kErrors_v7kError
  rw [PyM.bind_ok (execCommand_ok hopen h)]
  by_cases h127 : r.exitCode = 127 <;>
    simp [h127, hexit, splitOnce_of_eq_append hs ha, subscript, PyM.ofExcept]
  rfl

theorem execute_spaceless {r : ExecResult} (hopen : self.isOpen)
    (h : srv.exec command s = (.ok r, s')) (hexit : r.exitCode ≠ 0)
    (hs : ' ' ∉ r.stderr.data) : self.execute srv command true s = .error .indexError s' := by
  apply handleV7kErrors_other _ fun _ _ => PyExc.noConfusion
  rw [PyM.bind_ok (execCommand_ok hopen h)]
  by_cases h127 : r.exitCode = 127 <;>
    simp [h127, hexit, splitOnce_of_not_mem hs, subscript, PyM.ofExcept]

theorem execute_channel_error {msg : String} {checkExitCode : Bool} (hopen : self.isOpen)
    (h : srv.exec command s = (.error msg, s')) :
    self.execute srv command checkExitCode s = .error (.sshException msg) s' :=
  handleV7kErrors_other (PyM.bind_error (execCommand_error hopen h) _) fun _ _ =>
    PyExc.noConfusion

/-- A closed session raises `AttributeError` at once. -/
theorem execute_closed {checkExitCode : Bool} (hclosed : ¬ self.isOpen) :
    self.execute srv command checkExitCode s = .error .attributeError s :=
  handleV7kErrors_other (PyM.bind_error (by simp [execCommand, hclosed]) _) fun _ _ =>
    PyExc.noConfusion

/-- On an open session, an `SSHException` of the channel escapes `execute` as
it is, and a failed command whose stderr has no space escapes as
`IndexError`: neither becomes an `LsmError`. -/
theorem execute_raises (srv : Server σ) (self : SSHClient) (hopen : self.isOpen) (command : String) (s : σ) :
    (∀ msg s', srv.exec command s = (.error msg, s') →
      self.execute srv command true s = .error (.sshException msg) s') ∧
    (∀ r s', srv.exec command s = (.ok r, s') → r.exitCode ≠ 0 → ' ' ∉ r.stderr.data →
      self.execute srv command true s = .error .indexError s') :=
  ⟨fun _ _ h => execute_channel_error hopen h,
    fun _ _ h hexit hs => execute_spaceless hopen h hexit hs⟩

end SSHClient

theorem execute_terse_stderr :
    SSHClient.execute terseServer ⟨30, true⟩ "rmhost  5" true () = .error .indexError () :=
  (SSHClient.execute_raises terseServer ⟨30, true⟩ rfl "rmhost  5" ()).2 _ _ rfl (by decide)
    (by decide)

end LibStorageMgmt.V7k

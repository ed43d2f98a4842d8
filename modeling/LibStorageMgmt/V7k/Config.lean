import LibStorageMgmt.V7k.Session

/-!
# The plugin's configuration over a session

`plugin_register` stores the password and the time-out at its first step,
before it parses the URI, and `time_out_set` stores the time-out before it
closes the session. No other method writes either field, and no command line
reaches them. So each request changes the configuration as `Call.configAfter`
says, whether it returns or raises (`Call.run_config`), and a session of
requests refines the fold of `Call.configAfter` over them
(`session_config`).

Read back through the abstract fold: after any session, `time_out_get`
returns the time-out of the session's last `plugin_register` or
`time_out_set`, or the one the plugin had before if the session sets none,
and the password is the one of the last `plugin_register`
(`timeOutGet_session`). A refused registration still leaves its time-out
behind, and so does a `time_out_set` whose reconnection failed.
-/

namespace LibStorageMgmt.V7k

open Py PyM

/-- The fields `plugin_register` stores from its arguments: the time-out and
the password, which every later connection is opened with. -/
structure Config where
  tmo : Int
  password : Option String
deriving DecidableEq, Repr

/-- The plugin object's configuration. -/
def IbmV7k.config {σ : Type} (p : IbmV7k σ) : Config := ⟨p.tmo, p.password⟩

/-! ## The abstract configuration machine -/

/-- What a request does to the configuration: `plugin_register` replaces
both fields, `time_out_set` the time-out, every other request nothing. -/
def Call.configAfter : Call → Config → Config
  | .pluginRegister _ password timeout, _ => ⟨timeout, password⟩
  | .timeOutSet ms, c => { c with tmo := ms }
  | _, c => c

/-- The configuration after a session of requests, from the one before it. -/
def sessionConfig (calls : List Call) (c : Config) : Config :=
  calls.foldl (fun c k => k.configAfter c) c

/-- The time-out a request sets, if it sets one. -/
def Call.tmoSet : Call → Option Int
  | .pluginRegister _ _ timeout => some timeout
  | .timeOutSet ms => some ms
  | _ => none

/-- The password a request sets, if it sets one. -/
def Call.passwordSet : Call → Option (Option String)
  | .pluginRegister _ password _ => some password
  | _ => none

theorem Call.configAfter_tmo (k : Call) (c : Config) :
    (k.configAfter c).tmo = k.tmoSet.getD c.tmo := by
  cases k <;> rfl

theorem Call.configAfter_password (k : Call) (c : Config) :
    (k.configAfter c).password = k.passwordSet.getD c.password := by
  cases k <;> rfl

/-- Reading a field back after a fold that overwrites it: the last value
written, or the first if none is. -/
theorem getLast?_filterMap_cons_getD {α β : Type} (f : α → Option β) (a : α) (l : List α)
    (d : β) :
    ((a :: l).filterMap f).getLast?.getD d = (l.filterMap f).getLast?.getD ((f a).getD d) := by
  cases h : f a with
  | none => simp [List.filterMap_cons, h]
  | some b => simp only [List.filterMap_cons, h, List.getLast?_cons, Option.getD_some]

theorem sessionConfig_tmo : ∀ (calls : List Call) (c : Config),
    (sessionConfig calls c).tmo = ((calls.filterMap Call.tmoSet).getLast?).getD c.tmo
  | [], _ => rfl
  | k :: calls, c => by
    rw [getLast?_filterMap_cons_getD, ← Call.configAfter_tmo]
    exact sessionConfig_tmo calls _

theorem sessionConfig_password : ∀ (calls : List Call) (c : Config),
    (sessionConfig calls c).password =
      ((calls.filterMap Call.passwordSet).getLast?).getD c.password
  | [], _ => rfl
  | k :: calls, c => by
    rw [getLast?_filterMap_cons_getD, ← Call.configAfter_password]
    exact sessionConfig_password calls _

/-! ## The plugin refines it -/

section Frame

variable {σ : Type} (srv : Server σ) (uriParse : String → Except PyExc Dict) (version : String)

/-- The plugin's configuration is `c`. -/
def ConfigIs (c : Config) (p : IbmV7k σ) : Prop := p.config = c

variable {c : Config}

theorem keeps_onArray_config {α : Type} (x : PyM σ α) :
    Keeps (ConfigIs c) (IbmV7k.onArray x) :=
  fun p hp => by rw [stateAfter_onArray]; exact hp

theorem keeps_modify_config {f : IbmV7k σ → IbmV7k σ}
    (hf : ∀ p, (f p).tmo = p.tmo ∧ (f p).password = p.password) : Keeps (ConfigIs c) (modify f) :=
  fun p hp => (congrArg₂ Config.mk (hf p).1 (hf p).2).trans hp

/-- Every request changes the configuration as `Call.configAfter` says,
whether it returns or raises: `plugin_register` and `time_out_set` write it
at their first step, and no later step, nor any other request, touches it. -/
theorem Call.run_config (k : Call) (p : IbmV7k σ) :
    (stateAfter (k.run srv uriParse version p)).config = k.configAfter p.config :=
  k.run_frame srv uriParse version (Q := ConfigIs (k.configAfter p.config))
    (fun _ _ => keeps_onArray_config _) (fun _ _ _ _ => keeps_onArray_config _)
    (fun _ => keeps_onArray_config _)
    (fun _ hf => keeps_modify_config fun p => ⟨(hf p).1, (hf p).2.1⟩) p (by cases k <;> rfl)

/-- A session of requests refines the abstract configuration machine. -/
theorem session_config : ∀ (calls : List Call) (p : IbmV7k σ),
    (session srv uriParse version calls p).config = sessionConfig calls p.config
  | [], _ => rfl
  | k :: calls, p => (session_config calls _).trans
    (congrArg (sessionConfig calls) (Call.run_config srv uriParse version k p))

/-- After any session, `time_out_get` returns the time-out of the last
request that set one, or the plugin's time-out before the session if none
did, and the password is the one of the last `plugin_register`; whatever
each request returned or raised. -/
theorem timeOutGet_session (calls : List Call) (p : IbmV7k σ) :
    IbmV7k.timeOutGet (session srv uriParse version calls p) =
        .ok (.int ((calls.filterMap Call.tmoSet).getLast?.getD p.tmo))
          (session srv uriParse version calls p) ∧
      (session srv uriParse version calls p).password =
        (calls.filterMap Call.passwordSet).getLast?.getD p.password := by
  have h := session_config srv uriParse version calls p
  constructor
  · show EStateM.Result.ok (PyVal.int (session srv uriParse version calls p).config.tmo) _ = _
    rw [h, sessionConfig_tmo]
    rfl
  · show (session srv uriParse version calls p).config.password = _
    rw [h, sessionConfig_password]
    rfl

end Frame

end LibStorageMgmt.V7k

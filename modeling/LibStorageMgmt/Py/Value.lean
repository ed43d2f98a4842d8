import LibStorageMgmt.Py.Str
import LibStorageMgmt.Py.Float

/-!
# Exceptions, data objects and wire values

The Python values the client and the v7k plugin pass around.

* `PyExc`: the exceptions a modelled call can raise. `LsmError` carries an
  `ErrorNumber` and a message; `V7kError` is the plugin's internal error for a
  failed CLI command; `paramiko.SSHException`, and the built-in `ValueError`,
  `IndexError`, `KeyError` and `AttributeError` that escape from unguarded
  unpacking, indexing, dictionary reads and attribute reads.
* `Pool`, `Volume`, `System`, `Initiator`, `Capabilities`: the `lsm` data
  classes (not under src/), with the fields the plugin passes to their
  constructors.
* `PyVal`: a value as it crosses the RPC boundary — arguments of a request and
  the value a plugin method returns.
* `Dict`: a `str → str` dictionary as the plugin's output parsers build it,
  an association list in insertion order.

`ErrorNumber` lists the codes the modelled code raises or tests; their
numeric values live in `lsm` and only their distinctness matters here.
-/

namespace LibStorageMgmt.Py

/-- The `ErrorNumber` constants the modelled code uses. -/
inductive ErrorNumber where
  | daemonNotRunning
  | pluginNotExist
  | unsupportedSearchKey
  | invalidArgument
  | transportCommunication
  | pluginError
  | pluginBug
  | notFoundInitiator
  | unsupportedInitiatorType
  | notImplemented
  | noSupport
  deriving DecidableEq, Repr

/-- `LsmError(code, msg)`. -/
structure LsmError where
  code : ErrorNumber
  msg : String
  deriving DecidableEq, Repr

/-- The exceptions a modelled call can raise. `v7kError` keeps `str(errno)`,
the only form in which the plugin reads it. -/
inductive PyExc where
  | lsm (e : LsmError)
  | v7kError (errno : String) (reason : String)
  | sshException (msg : String)
  | valueError
  | typeError
  | indexError
  | keyError (key : String)
  | attributeError
  deriving DecidableEq, Repr

/-- Initiator types. The plugin compares a caller's type only with
`TYPE_PORT_WWN` and `TYPE_ISCSI` and itself produces `TYPE_OTHER`; every
other type a caller may pass takes the same branch as `other` in each
comparison. -/
inductive InitiatorType where
  | other
  | portWwn
  | iscsi
  deriving DecidableEq, Repr

/-- `Volume.STATUS_*` as `IbmV7k._volume` assigns it. -/
inductive VolumeStatus where
  | ok
  | dormant
  | err
  deriving DecidableEq, Repr

/-- `Pool(id, name, total_space, free_space, status, status_info, system_id)`;
the v7k plugin always passes `Pool.STATUS_UNKNOWN` and `''` for the status
pair, so those two are not stored. -/
structure Pool where
  id : String
  name : String
  totalSpace : Int
  freeSpace : Int
  systemId : String
  deriving DecidableEq, Repr

/-- `Volume(id, name, vpd83, block_size, num_of_blocks, status, system_id,
pool_id)`. -/
structure Volume where
  id : String
  name : String
  vpd83 : String
  blockSize : Int
  numOfBlocks : PyFloat
  status : VolumeStatus
  systemId : String
  poolId : String
  deriving DecidableEq, Repr

/-- `System(id, name, System.STATUS_OK, '')`. -/
structure System where
  id : String
  name : String
  deriving DecidableEq, Repr

/-- `Initiator(id, type, name)`. -/
structure Initiator where
  id : String
  type : InitiatorType
  name : String
  deriving DecidableEq, Repr

/-- The capability flags `IbmV7k.capabilities` sets. -/
inductive Capability where
  | blockSupport
  | volumes
  | volumeCreate
  | volumeDelete
  | volumeThin
  | initiators
  | volumeAccessibleByInitiator
  | initiatorsGrantedToVolume
  | volumeInitiatorGrant
  | volumeInitiatorRevoke
  deriving DecidableEq, Repr

/-- A `Capabilities` object: the flags set on it. -/
structure Capabilities where
  flags : List Capability
  deriving DecidableEq, Repr

/-- A value crossing the RPC boundary. -/
inductive PyVal where
  | none
  | bool (b : Bool)
  | int (n : Int)
  | str (s : String)
  | list (vs : List PyVal)
  | tuple (vs : List PyVal)
  | pool (p : Pool)
  | volume (v : Volume)
  | system (s : System)
  | initiator (i : Initiator)
  | capabilities (c : Capabilities)
  /-- An object of another `lsm` data class (`Disk`, `AccessGroup`,
  `FileSystem`, `NfsExport`, `FsSnapshot`), which no modelled code reads. -/
  | other (cls : String)

namespace PyVal

/-- Python truthiness. -/
def truthy : PyVal → Bool
  | .none => false
  | .bool b => b
  | .int n => n != 0
  | .str s => !s.isEmpty
  | .list vs => !vs.isEmpty
  | .tuple vs => !vs.isEmpty
  | _ => true

/-- `v == s` for a string `s`. -/
def eqStr (v : PyVal) (s : String) : Bool :=
  match v with
  | .str t => t == s
  | _ => false

/-- `a, b = v`: a two-element tuple, list or string unpacks; another
sequence raises `ValueError`, anything else `TypeError`. -/
def unpack2 : PyVal → Except PyExc (PyVal × PyVal)
  | .tuple [a, b] => .ok (a, b)
  | .list [a, b] => .ok (a, b)
  | .tuple _ => .error .valueError
  | .list _ => .error .valueError
  | .str s =>
    match s.data with
    | [a, b] => .ok (.str (String.mk [a]), .str (String.mk [b]))
    | _ => .error .valueError
  | _ => .error .typeError

/-- `str(v)` for the values `"%s" % v` is applied to in the client. -/
def toStr : PyVal → String
  | .str s => s
  | .int n => toString n
  | .none => "None"
  | .bool b => if b then "True" else "False"
  | _ => "<object>"

/-- `a == b` for the scalar values a search compares (`True == 1` as in
Python); objects of the data classes compare unequal here. -/
def pyEq : PyVal → PyVal → Bool
  | .none, .none => true
  | .str a, .str b => a == b
  | .int a, .int b => a == b
  | .bool a, .bool b => a == b
  | .bool a, .int b | .int b, .bool a => (if a then 1 else 0) == b
  | _, _ => false

end PyVal

/-- `int(s)` for a string: optional surrounding whitespace, an optional sign,
then decimal digits; anything else raises `ValueError`. -/
def pyInt (s : String) : Except PyExc Int :=
  match (strip s).data with
  | '-' :: ds => neg <$> digits ds
  | '+' :: ds => digits ds
  | ds => digits ds
where
  neg (n : Nat) : Int := -(n : Int)
  digits (ds : List Char) : Except PyExc Nat :=
    if ds ≠ [] ∧ ∀ d ∈ ds, d.isDigit then
      .ok (ds.foldl (fun n d => 10 * n + (d.toNat - '0'.toNat)) 0)
    else .error .valueError

/-- `float(s)` for a string: optional surrounding whitespace, an optional
sign, then decimal digits with at most one decimal point and at least one
digit, read exactly as `value (whole ++ frac) / 10 ^ len frac` and rounded to
the nearest double. Python also reads exponents, `inf` and `nan`; here they
raise `ValueError`. -/
def pyFloat (s : String) : Except PyExc PyFloat :=
  match (strip s).data with
  | '-' :: ds => decimal true ds
  | '+' :: ds => decimal false ds
  | ds => decimal false ds
where
  value (ds : List Char) : Nat := ds.foldl (fun n d => 10 * n + (d.toNat - '0'.toNat)) 0
  decimal (neg : Bool) (ds : List Char) : Except PyExc PyFloat :=
    match ds.span (· != '.') with
    | (whole, []) =>
      if whole ≠ [] ∧ ∀ d ∈ whole, d.isDigit then .ok (.ofScaled neg (value whole * 2 ^ 1074) 1)
      else .error .valueError
    | (whole, _ :: frac) =>
      if (whole ≠ [] ∨ frac ≠ []) ∧ (∀ d ∈ whole, d.isDigit) ∧ ∀ d ∈ frac, d.isDigit then
        .ok (.ofScaled neg (value (whole ++ frac) * 2 ^ 1074) (10 ^ frac.length))
      else .error .valueError

/-- `xs[i]`, raising `IndexError` past the end. -/
def subscript {α : Type} (xs : List α) (i : Nat) : Except PyExc α :=
  match xs.get? i with
  | some x => .ok x
  | Option.none => .error .indexError

/-! ## Dictionaries -/

/-- A `str → str` dictionary in insertion order. -/
abbrev Dict := List (String × String)

namespace Dict

/-- `d.get(k)`. -/
def get? (d : Dict) (k : String) : Option String :=
  (d.find? (·.1 == k)).map (·.2)

/-- `k in d`. -/
def contains (d : Dict) (k : String) : Bool :=
  d.any (·.1 == k)

/-- `d[k]`, raising `KeyError` when `k` is absent. -/
def getItem (d : Dict) (k : String) : Except PyExc String :=
  match d.get? k with
  | some v => .ok v
  | none => .error (.keyError k)

/-- `d[k] = v`: an existing key keeps its position and takes the new value. -/
def set (d : Dict) (k v : String) : Dict :=
  if d.contains k then d.map (fun p => if p.1 == k then (k, v) else p) else d ++ [(k, v)]

end Dict

/-! ## Declared return shapes -/

/-- A type named in a `@_return_requires` declaration; `cls c` is one of the
other data classes (`Disk`, `AccessGroup`, ...). -/
inductive Kind where
  | int
  | unicode
  | bool
  | iData
  | pool
  | volume
  | system
  | initiator
  | capabilities
  | cls (name : String)
  deriving DecidableEq, Repr

/-- The arguments of `@_return_requires(...)`: `(None)`, one kind `(k)`, a
list `([k])` or a tuple `(k₁, k₂, ...)`. -/
inductive Shape where
  | none
  | one (k : Kind)
  | list (k : Kind)
  | tuple (ks : List Kind)
  deriving DecidableEq, Repr

/-- The kinds that name an item of the `(job_id, item)` declarations. -/
def Kind.isItem : Kind → Bool
  | .int | .unicode | .bool => false
  | _ => true

/-- Whether a value is of a kind. -/
def PyVal.isKind : Kind → PyVal → Bool
  | .int, .int _ => true
  | .unicode, .str _ => true
  | .bool, .bool _ => true
  | .pool, .pool _ => true
  | .volume, .volume _ => true
  | .system, .system _ => true
  | .initiator, .initiator _ => true
  | .capabilities, .capabilities _ => true
  | .cls c, .other c' => c == c'
  | .iData, .pool _ | .iData, .volume _ | .iData, .system _ | .iData, .initiator _
  | .iData, .capabilities _ | .iData, .other _ => true
  | _, _ => false

/-- The elements of a tuple or list (JSON carries a tuple as a list). -/
def PyVal.items? : PyVal → Option (List PyVal)
  | .tuple vs => some vs
  | .list vs => some vs
  | _ => Option.none

/-- Modelled from the spec: the shape check of `return_requires` (in `lsm`,
not under src/). `None`; a value of the kind, where a lone `unicode` is a job
id and may be `None`; a list of values of the kind; for a `(job_id, item)`
declaration, exactly one of the two present; for another tuple, a value of
each kind in turn, where an `_IData` item may be `None`. -/
def Shape.conforms : Shape → PyVal → Bool
  | .none, .none => true
  | .none, _ => false
  | .one .unicode, .none => true
  | .one k, v => v.isKind k
  | .list k, v => match v.items? with
    | some vs => vs.all (PyVal.isKind k)
    | Option.none => false
  | .tuple ks, v => match ks, v.items? with
    | [.unicode, k], some [.none, item] => k.isItem && item.isKind k
    | [.unicode, k], some [j, .none] => k.isItem && j.isKind .unicode
    | [.unicode, k], some [j, item] => !k.isItem && j.isKind .unicode && item.isKind k
    | ks, some vs => ks.length == vs.length &&
        (ks.zip vs).all fun (k, v) => v.isKind k || (k == .iData && v matches .none)
    | _, Option.none => false

/-! ## Calls -/

/-- A Python call on a state `σ`: the value it returns or the exception it
raises, with the state it leaves in either case. -/
abbrev PyM (σ α : Type) := EStateM PyExc σ α

namespace PyM

variable {σ α β : Type}

@[simp] theorem pure_apply (a : α) (s : σ) : (pure a : PyM σ α) s = .ok a s := rfl

@[simp] theorem throw_apply (e : PyExc) (s : σ) : (throw e : PyM σ α) s = .error e s := rfl

@[simp] theorem get_bind (f : σ → PyM σ β) (s : σ) : ((get : PyM σ σ) >>= f) s = f s s := rfl

@[simp] theorem throw_bind (e : PyExc) (f : α → PyM σ β) (s : σ) :
    ((throw e : PyM σ α) >>= f) s = .error e s := rfl

@[simp] theorem map_throw (f : α → β) (e : PyExc) (s : σ) :
    (f <$> (throw e : PyM σ α)) s = .error e s := rfl

@[simp] theorem modify_bind (f : σ → σ) (g : PUnit → PyM σ β) (s : σ) :
    ((modify f : PyM σ PUnit) >>= g) s = g ⟨⟩ (f s) := rfl

@[simp] theorem map_modify (f : PUnit → β) (g : σ → σ) (s : σ) :
    (f <$> (modify g : PyM σ PUnit)) s = .ok (f ⟨⟩) (g s) := rfl

theorem bind_ok {x : PyM σ α} {s s' : σ} {a : α} (h : x s = .ok a s') (f : α → PyM σ β) :
    (x >>= f) s = f a s' := by
  show EStateM.bind x f s = _
  simp only [EStateM.bind, h]

theorem bind_error {x : PyM σ α} {s s' : σ} {e : PyExc} (h : x s = .error e s')
    (f : α → PyM σ β) : (x >>= f) s = .error e s' := by
  show EStateM.bind x f s = _
  simp only [EStateM.bind, h]

theorem map_ok {x : PyM σ α} {s s' : σ} {a : α} (h : x s = .ok a s') (f : α → β) :
    (f <$> x) s = .ok (f a) s' := by
  show EStateM.map f x s = _
  simp only [EStateM.map, h]

theorem map_error {x : PyM σ α} {s s' : σ} {e : PyExc} (h : x s = .error e s') (f : α → β) :
    (f <$> x) s = .error e s' := by
  show EStateM.map f x s = _
  simp only [EStateM.map, h]

theorem tryCatch_ok {x : PyM σ α} {h : PyExc → PyM σ α} {s s' : σ} {a : α}
    (hx : x s = .ok a s') : (tryCatch x h) s = .ok a s' := by
  show EStateM.tryCatch x h s = _
  simp only [EStateM.tryCatch, hx]

theorem tryCatch_error {x : PyM σ α} {h : PyExc → PyM σ α} {s s' : σ} {e : PyExc}
    (hx : x s = .error e s') : (tryCatch x h) s = h e s' := by
  show EStateM.tryCatch x h s = _
  simp only [EStateM.tryCatch, hx]
  rfl

theorem bind_tryCatch_error {x : PyM σ α} {h : PyExc → PyM σ α} {s s' : σ} {e : PyExc}
    (hx : x s = .error e s') (f : α → PyM σ β) : (tryCatch x h >>= f) s = (h e >>= f) s' := by
  show EStateM.bind _ f s = EStateM.bind _ f s'
  simp only [EStateM.bind, tryCatch_error hx]

/-- A loop over a list whose every turn returns without touching the state. -/
theorem mapM_map_ok {γ : Type} {f : α → PyM σ β} {k : γ → α} {g : γ → β} {s : σ} :
    ∀ {l : List γ}, (∀ c ∈ l, f (k c) s = .ok (g c) s) → (l.map k).mapM f s = .ok (l.map g) s
  | [], _ => rfl
  | c :: l, h => by
    rw [List.map_cons, List.mapM_cons, bind_ok (h c (List.mem_cons_self c l)),
      bind_ok (mapM_map_ok fun b hb => h b (List.mem_cons_of_mem c hb))]
    rfl

/-- A loop whose every turn returns without touching the state, turn by turn. -/
theorem mapM_forall₂_ok {f : α → PyM σ β} {s : σ} : ∀ {as : List α} {bs : List β},
    List.Forall₂ (fun a b => f a s = .ok b s) as bs → as.mapM f s = .ok bs s
  | [], [], .nil => rfl
  | a :: _, _ :: _, .cons h hs => by
    rw [List.mapM_cons, bind_ok h, bind_ok (mapM_forall₂_ok hs)]
    rfl

/-- An `Except` computation run as a call that leaves the state alone. -/
def ofExcept : Except PyExc α → PyM σ α
  | .ok a => pure a
  | .error e => throw e

@[simp] theorem ofExcept_ok (a : α) (s : σ) : (ofExcept (.ok a) : PyM σ α) s = .ok a s := rfl

@[simp] theorem ofExcept_error (e : PyExc) (s : σ) :
    (ofExcept (.error e) : PyM σ α) s = .error e s := rfl

@[simp] theorem ofExcept_bind (x : Except PyExc α) (g : α → PyM σ β) (s : σ) :
    (ofExcept x >>= g) s = match x with
      | .ok a => g a s
      | .error e => .error e s := by
  cases x <;> rfl

/-- The state a call leaves, whether it returned or raised. -/
def stateAfter : EStateM.Result PyExc σ α → σ
  | .ok _ s => s
  | .error _ s => s

@[simp] theorem stateAfter_ok (a : α) (s : σ) :
    stateAfter (.ok a s : EStateM.Result PyExc σ α) = s := rfl

@[simp] theorem stateAfter_error (e : PyExc) (s : σ) :
    stateAfter (.error e s : EStateM.Result PyExc σ α) = s := rfl

/-- A call keeps `P`: from a state satisfying `P` it leaves one satisfying
`P`, whether it returns or raises. -/
def Keeps (P : σ → Prop) (x : PyM σ α) : Prop :=
  ∀ s, P s → P (stateAfter (x s))

namespace Keeps

variable {P : σ → Prop}

theorem pure (a : α) : Keeps P (Pure.pure a : PyM σ α) := fun _ h => h

theorem throw (e : PyExc) : Keeps P (MonadExcept.throw e : PyM σ α) := fun _ h => h

theorem ofExcept (x : Except PyExc α) : Keeps P (PyM.ofExcept x : PyM σ α) := by
  cases x <;> exact fun _ h => h

theorem bind {x : PyM σ α} {f : α → PyM σ β} (hx : Keeps P x) (hf : ∀ a, Keeps P (f a)) :
    Keeps P (x >>= f) := by
  intro s hs
  have := hx s hs
  cases h : x s with
  | ok a s' => rw [bind_ok h]; exact hf a s' (by simpa [h] using this)
  | error e s' => rw [bind_error h]; simpa [h] using this

theorem tryCatch {x : PyM σ α} {h : PyExc → PyM σ α} (hx : Keeps P x)
    (hh : ∀ e, Keeps P (h e)) : Keeps P (MonadExcept.tryCatch x h) := by
  intro s hs
  have := hx s hs
  cases hxs : x s with
  | ok a s' => rw [tryCatch_ok hxs]; simpa [hxs] using this
  | error e s' => rw [tryCatch_error hxs]; exact hh e s' (by simpa [hxs] using this)

theorem ite {c : Prop} [Decidable c] {x y : PyM σ α} (hx : Keeps P x) (hy : Keeps P y) :
    Keeps P (if c then x else y) := by
  split <;> assumption

/-- A call that leaves the state as it found it keeps everything. -/
theorem of_stateAfter {x : PyM σ α} (h : ∀ s, stateAfter (x s) = s) : Keeps P x :=
  fun s hs => (h s).symm ▸ hs

theorem mapM {f : α → PyM σ β} (hf : ∀ a, Keeps P (f a)) : ∀ l : List α, Keeps P (l.mapM f)
  | [] => Keeps.pure _
  | a :: l => by
    rw [List.mapM_cons]
    exact Keeps.bind (hf a) fun _ => Keeps.bind (mapM hf l) fun _ => Keeps.pure _

end Keeps

/-- Every value a call returns satisfies `Q`. -/
def Returns (Q : α → Prop) (x : PyM σ α) : Prop :=
  ∀ s a s', x s = .ok a s' → Q a

namespace Returns

variable {Q : β → Prop}

theorem pure {b : β} (h : Q b) : Returns Q (Pure.pure b : PyM σ β) := by
  intro s a s' hx
  cases hx
  exact h

theorem throw (e : PyExc) : Returns Q (MonadExcept.throw e : PyM σ β) := by
  intro s a s' hx
  cases hx

theorem bind {x : PyM σ α} {f : α → PyM σ β} (hf : ∀ a, Returns Q (f a)) :
    Returns Q (x >>= f) := by
  intro s b s' h
  cases hx : x s with
  | ok a s₁ => rw [bind_ok hx] at h; exact hf a s₁ b s' h
  | error e s₁ => rw [bind_error hx] at h; cases h

theorem tryCatch {x : PyM σ β} {h : PyExc → PyM σ β} (hx : Returns Q x)
    (hh : ∀ e, Returns Q (h e)) : Returns Q (MonadExcept.tryCatch x h) := by
  intro s b s' hr
  cases hxs : x s with
  | ok a s₁ => rw [tryCatch_ok hxs] at hr; exact hx s b s' (hxs.trans hr)
  | error e s₁ => rw [tryCatch_error hxs] at hr; exact hh e s₁ b s' hr

theorem imp {Q' : β → Prop} {x : PyM σ β} (hx : Returns Q x) (h : ∀ b, Q b → Q' b) :
    Returns Q' x :=
  fun s b s' hr => h b (hx s b s' hr)

end Returns

end PyM

end LibStorageMgmt.Py

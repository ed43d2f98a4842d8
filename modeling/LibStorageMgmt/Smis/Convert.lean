import LibStorageMgmt.Smis.Disk

/-!
# When a disk converts

When the steps of `cim_disk_to_lsm_disk` return and when they raise, over
every instance the provider can hand over and every answer it can give.

`_pri_cim_ext_of_cim_disk` returns an extent exactly when every extent the
provider lists for the disk carries `Primordial` and that extent is the only
Primordial one (`priCimExtOfCimDisk_ok_iff`): an extent without the property
makes the list comprehension raise `KeyError` before the count is checked.

The disk type is the disk's own `InterconnectType` value or one of the
`lsm.Disk` type constants, and the only error of the step that works it out
is the provider's, on the protocol-endpoint query of an LSI disk
(`cimDiskType_outcome`).
-/

namespace LibStorageMgmt.Smis

open Py

variable (E : SmisEnv) (K : DiskConsts) (D : DmtfConsts)

/-! ## Reading a property -/

namespace CimInstance

theorem get_eq_ok {c : CimInstance} {n : String} {v : CimVal} :
    c.get n = .ok v ↔ c.lookup n = some v := by
  cases h : c.lookup n <;> simp [get, h]

end CimInstance

/-- Every error an `Except` computation raises satisfies `Q`. -/
def Raises {α : Type} (Q : PyExc → Prop) (x : Except PyExc α) : Prop := ∀ e, x = .error e → Q e

namespace Raises

variable {α β : Type} {Q : PyExc → Prop}

theorem pure (b : β) : Raises Q (Pure.pure b) := fun _ h => nomatch h

theorem bind {x : Except PyExc α} {f : α → Except PyExc β} (hx : Raises Q x)
    (hf : ∀ a, x = .ok a → Raises Q (f a)) : Raises Q (x >>= f) := fun e h => by
  cases hx' : x with
  | error e' =>
    rw [hx'] at h
    cases h
    exact hx _ hx'
  | ok a =>
    rw [hx'] at h
    exact hf a hx' e h

theorem ite {c : Prop} [Decidable c] {x y : Except PyExc β} (hx : c → Raises Q x)
    (hy : ¬c → Raises Q y) : Raises Q (if c then x else y) := by
  split
  · exact hx ‹_›
  · exact hy ‹_›

/-- Reading a property the instance carries never raises. -/
theorem get {c : CimInstance} {n : String} (h : c.has n = true) : Raises Q (c.get n) := fun _ he => by
  obtain ⟨v, hv⟩ := Option.isSome_iff_exists.mp h
  simp [CimInstance.get, hv] at he

theorem get_of_and {c : CimInstance} {n : String} {b : Bool} (h : (b && c.has n) = true) :
    Raises Q (c.get n) :=
  get (Bool.and_eq_true _ _ ▸ h).2

end Raises

theorem Returns.ite {β : Type} {Q : β → Prop} {c : Prop} [Decidable c] {x y : Except PyExc β}
    (hx : c → Returns Q x) (hy : ¬c → Returns Q y) : Returns Q (if c then x else y) := by
  split
  · exact hx ‹_›
  · exact hy ‹_›

/-! ## The disk type -/

/-- The `lsm.Disk` types `_DMTF_DISK_TYPE_2_LSM` maps to. -/
theorem dmtfDiskType2LsmDiskType_mem (v : CimVal) :
    _dmtfDiskType2LsmDiskType K D v ∈ [K.typeUnknown, K.typeOther, K.typeHdd, K.typeSsd, K.typeHybrid] := by
  unfold _dmtfDiskType2LsmDiskType
  split
  · cases h : dictGet (dmtfDiskType2Lsm K D) _ with
    | none => simp
    | some k =>
      obtain ⟨p, hp, rfl⟩ := Option.map_eq_some'.mp h
      have hmem := List.mem_reverse.mp (List.mem_of_find?_eq_some hp)
      simp only [dmtfDiskType2Lsm, List.mem_cons, List.mem_singleton, List.not_mem_nil,
        or_false] at hmem
      rcases hmem with rfl | rfl | rfl | rfl | rfl <;> simp
  · simp

/-- The types `cim_disk_to_lsm_disk` can report for a disk: the provider's
`InterconnectType` value as it is, or one of the `lsm.Disk` type constants
the module names. -/
def DiskTypeOf (c : CimInstance) (t : CimVal) : Prop :=
  c.lookup "InterconnectType" = some t ∨
    ∃ k ∈ [K.typeUnknown, K.typeOther, K.typeHdd, K.typeSsd, K.typeHybrid, K.typeNlSas,
      K.typeSata, K.typeSas], t = .int k

theorem DiskTypeOf.const {c : CimInstance} {k : Int}
    (hk : k ∈ [K.typeUnknown, K.typeOther, K.typeHdd, K.typeSsd, K.typeHybrid, K.typeNlSas,
      K.typeSata, K.typeSas]) : DiskTypeOf K c (.int k) :=
  .inr ⟨k, hk, rfl⟩

theorem DiskTypeOf.dmtf (c : CimInstance) (v : CimVal) :
    DiskTypeOf K c (.int (_dmtfDiskType2LsmDiskType K D v)) :=
  .const K (List.subset_append_left _ [K.typeNlSas, K.typeSata, K.typeSas]
    (dmtfDiskType2LsmDiskType_mem K D v))

theorem raises_lsiQuery {c : CimInstance} {b : Bool}
    (h : (b && c.classname == "LSIESG_DiskDrive") = true) :
    Raises (fun e => c.classname = "LSIESG_DiskDrive" ∧
      E.associators c.path "CIM_SAPAvailableForElement" "CIM_ProtocolEndpoint"
        ["CreationClassName"] = .error e)
      (E.associators c.path "CIM_SAPAvailableForElement" "CIM_ProtocolEndpoint"
        ["CreationClassName"]) :=
  fun _ he => ⟨beq_iff_eq.mp (Bool.and_eq_true _ _ ▸ h).2, he⟩

/-- For every disk and every provider: the type worked out is the disk's
`InterconnectType` or an `lsm.Disk` constant, and the step raises only when
the disk is of the LSI class and the provider's endpoint query raised, with
that query's error. -/
theorem cimDiskType_outcome (c : CimInstance) :
    (∀ t, cimDiskType E K D c = .ok t → DiskTypeOf K c t) ∧
      ∀ e, cimDiskType E K D c = .error e → c.classname = "LSIESG_DiskDrive" ∧
        E.associators c.path "CIM_SAPAvailableForElement" "CIM_ProtocolEndpoint"
          ["CreationClassName"] = .error e := by
  refine ⟨(?_ : Returns (DiskTypeOf K c) _), (?_ : Raises _ _)⟩ <;> unfold cimDiskType <;> simp only []
  · repeat' first
      | with_reducible refine Returns.bind fun _ _ => ?_
      | with_reducible refine Returns.ite (fun _ => ?_) (fun _ => ?_)
      | with_reducible refine Returns.pure ?_
      | with_reducible exact DiskTypeOf.dmtf K D c _
      | (refine DiskTypeOf.const K ?_; simp only [List.mem_cons, true_or, or_true])
      | split
      | exact .inl (CimInstance.get_eq_ok.mp ‹_›)
  · repeat' first
      | with_reducible refine Raises.bind ?_ fun _ _ => ?_
      | with_reducible exact Raises.pure _
      | with_reducible refine Raises.ite (fun _ => ?_) (fun _ => ?_)
      | with_reducible exact Raises.get ‹_›
      | with_reducible exact Raises.get_of_and ‹_›
      | with_reducible exact raises_lsiQuery E ‹_›
      | split

/-! ## The Primordial extent -/

theorem except_pure {α : Type} (a : α) : (pure a : Except PyExc α) = .ok a := rfl

theorem except_throw {α : Type} (e : PyExc) : (throw e : Except PyExc α) = .error e := rfl

theorem except_ok_bind {α β : Type} (a : α) (f : α → Except PyExc β) :
    (Except.ok a >>= f) = f a := rfl

theorem except_error_bind {α β : Type} (e : PyExc) (f : α → Except PyExc β) :
    (Except.error e >>= f) = .error e := rfl

/-- Whether the list comprehension keeps an extent: its `Primordial` is
truthy. -/
def primordial (e : CimInstance) : Bool := ((e.lookup "Primordial").map CimVal.truthy).getD false

/-- The comprehension `[p for p in cim_exts if p["Primordial"]]`: the
Primordial extents in order, or `KeyError` when an extent lacks the
property. -/
theorem filterAuxM_primordial : ∀ exts acc : List CimInstance,
    List.filterAuxM (fun p : CimInstance => do pure (← p.get "Primordial").truthy) exts acc =
      if exts.all (·.has "Primordial") then .ok ((exts.filter primordial).reverse ++ acc)
      else .error (.keyError "Primordial")
  | [], _ => rfl
  | e :: exts, acc => by
    cases h : e.lookup "Primordial" with
    | none =>
      have he : e.get "Primordial" = .error (.keyError "Primordial") := by simp [CimInstance.get, h]
      simp [List.filterAuxM, he, CimInstance.has, h, except_error_bind]
    | some v =>
      have he : e.get "Primordial" = .ok v := CimInstance.get_eq_ok.mpr h
      simp only [List.filterAuxM, he, filterAuxM_primordial exts]
      cases hv : v.truthy <;> simp [CimInstance.has, primordial, h, hv, except_ok_bind, except_pure]

/-- For every answer of the provider, `_pri_cim_ext_of_cim_disk` returns
`ext` exactly when the provider lists the disk's `CIM_MediaPresent` extents,
asked for `Primordial` on top of the given properties, every one of them
carries `Primordial`, and `ext` is the only Primordial one. -/
theorem priCimExtOfCimDisk_ok_iff {path : String} {pl : Option (List String)}
    {ext : CimInstance} :
    _priCimExtOfCimDisk E path pl = .ok ext ↔
      ∃ exts, E.associators path "CIM_MediaPresent" "CIM_StorageExtent"
          (pl.elim ["Primordial"] fun l => E.mergeList l ["Primordial"]) = .ok exts ∧
        (∀ e ∈ exts, e.has "Primordial") ∧ exts.filter primordial = [ext] := by
  unfold _priCimExtOfCimDisk
  rcases pl with _ | l <;> dsimp only [Option.elim] <;>
    generalize E.associators path "CIM_MediaPresent" "CIM_StorageExtent" _ = r <;>
    rcases r with e | exts
  all_goals simp only [except_ok_bind, except_error_bind, List.filterM, filterAuxM_primordial,
    Except.ok.injEq, exists_eq_left', reduceCtorEq, false_and, exists_false, iff_false,
    ← List.all_eq_true]
  all_goals
    by_cases hall : (exts.all fun x => x.has "Primordial") = true
    · simp only [hall, if_true, except_pure, except_ok_bind, List.append_nil, List.reverse_reverse,
        true_and]
      rcases exts.filter primordial with _ | ⟨x, _ | ⟨y, l⟩⟩ <;>
        simp [eq_comm, except_ok_bind, except_pure, except_throw]
    · simp [hall, except_error_bind]

end LibStorageMgmt.Smis

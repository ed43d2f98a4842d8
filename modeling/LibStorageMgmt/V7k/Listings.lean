import LibStorageMgmt.V7k.Hosts
import Mathlib.Algebra.Field.Rat

/-!
# The listings over the array

The plugin's reads of pools and volumes, and its volume commands, on the
array of `Array`.

`int()` and `float()` read back the naturals the array prints:
`int(str(n))` is `n` and `float(str(n))` is the double nearest to `n`
(`pyInt_natToString`, `pyFloat_natToString`). So a pool's row reads back as
the pool with its capacity and free capacity (`_pool_poolAttrs`), and a
volume's row as the volume (`_volume_vdiskAttrs`), its number of blocks the
double `float(capacity) / 512` (`blocksOf`). That is exactly `capacity / 512`
for every capacity below `2^53` bytes (`blocksOf_value`); above, `float()`
rounds.

On an array that keeps `Wf`, `pools()` and `volumes()` report one object per
pool and per volume of the array, in the array's order, and with a search
key exactly those whose attribute equals the value (`pools_array`,
`volumes_array`). `volume_create` either adds the volume `mkvdisk` makes
(`createdVdisk`) and returns it as `lsvdisk` then shows it, or raises the
array's error and changes nothing (`volumeCreate_array`). `volume_delete`
removes the volume and its mappings, or raises for a volume the array does
not have (`volumeDelete_array`). `volumes_accessible_by_initiator` reports
the volumes mapped to the host with the initiator's port, one per mapping
(`volumesAccessibleByInitiator_array`).
-/

namespace LibStorageMgmt.V7k

open Py PyM ArrayState

/-! ## Reading numbers back -/

theorem dropWhile_of_forall_false {p : Char → Bool} :
    ∀ {l : List Char}, (∀ c ∈ l, p c = false) → l.dropWhile p = l
  | [], _ => rfl
  | c :: l, h => by simp [List.dropWhile_cons, h c (List.mem_cons_self _ _)]

/-- A text with no whitespace strips to itself. -/
theorem strip_of_no_space {s : String} (h : ∀ c ∈ s.data, isSpace c = false) : strip s = s := by
  unfold strip
  rw [dropWhile_of_forall_false h,
    dropWhile_of_forall_false fun c hc => h c (List.mem_reverse.mp hc), List.reverse_reverse]

/-- The left fold `int()` and `float()` read digits with is `digitsValue`. -/
theorem foldl_digits : ∀ (acc : Nat) (ds : List Char),
    ds.foldl (fun n d => 10 * n + (d.toNat - '0'.toNat)) acc = digitsValue acc ds
  | _, [] => rfl
  | _, _ :: ds => foldl_digits _ ds

/-- A printed natural starts with a digit, so with no sign. -/
theorem natToString_data_cons (n : Nat) :
    ∃ c cs, (toString n).data = c :: cs ∧ c ≠ '-' ∧ c ≠ '+' := by
  obtain ⟨c, cs, hcs⟩ := List.exists_cons_of_ne_nil (isNumeral_natToString n).1
  have hc : c.isDigit := isDigit_natToString n c (hcs ▸ List.mem_cons_self _ _)
  exact ⟨c, cs, hcs, fun h => absurd (h ▸ hc) (by decide),
    fun h => absurd (h ▸ hc) (by decide)⟩

/-- `int(str(n))` is `n`. -/
theorem pyInt_natToString (n : Nat) : pyInt (toString n) = .ok n := by
  have hds : pyInt.digits (toString n).data = .ok n := by
    rw [pyInt.digits, if_pos ⟨(isNumeral_natToString n).1, isDigit_natToString n⟩, foldl_digits,
      digitsValue_natToString]
  obtain ⟨c, cs, hcs, hm, hp⟩ := natToString_data_cons n
  unfold pyInt
  rw [strip_of_no_space (isNumeral_natToString n).isWord.2, hcs]
  split
  · next heq => exact absurd (List.cons.inj heq).1 hm
  · next heq => exact absurd (List.cons.inj heq).1 hp
  · rw [← hcs, hds]
    rfl

/-- `float(str(n))` is the double nearest to `n`. -/
theorem pyFloat_natToString (n : Nat) :
    pyFloat (toString n) = .ok (.ofScaled false (n * 2 ^ 1074) 1) := by
  have hdec : pyFloat.decimal false (toString n).data = .ok (.ofScaled false (n * 2 ^ 1074) 1) := by
    have hdot : '.' ∉ (toString n).data := fun h => absurd (isDigit_natToString n _ h) (by decide)
    rw [pyFloat.decimal, span_of_not_mem hdot]
    simp only [if_pos (And.intro (isNumeral_natToString n).1 (isDigit_natToString n)),
      pyFloat.value, foldl_digits, digitsValue_natToString]
  obtain ⟨c, cs, hcs, hm, hp⟩ := natToString_data_cons n
  unfold pyFloat
  rw [strip_of_no_space (isNumeral_natToString n).isWord.2, hcs]
  split
  · next heq => exact absurd (List.cons.inj heq).1 hm
  · next heq => exact absurd (List.cons.inj heq).1 hp
  · rw [← hcs, hdec]

/-! ## Numbers of blocks -/

/-- The number of blocks `_volume` reports for a capacity of `c` bytes: the
double `float(str(c)) / 512`. -/
def blocksOf (c : Nat) : PyFloat := (PyFloat.ofScaled false (c * 2 ^ 1074) 1).div 512

/-- Below `2^53` bytes the number of blocks is exact: `float(c)` is `c`, and
dividing by a power of two only moves the exponent. -/
theorem blocksOf_value {c : Nat} (hc : c < 2 ^ 53) :
    (blocksOf c).value? = some (c / 512 : ℚ) := by
  rcases Nat.eq_zero_or_pos c with rfl | hpos
  · rw [blocksOf, Nat.zero_mul, PyFloat.ofScaled_zero, PyFloat.div, Nat.zero_mul,
      PyFloat.ofScaled_zero]
    simp [PyFloat.value?]
  have hL := log2_le (k := 52) hc
  rw [blocksOf, show (512 : Nat) = 2 ^ 9 from rfl,
    PyFloat.div_pow_of_mul_pow false hpos hc (by omega) (by omega),
    PyFloat.value?_mul_pow false (by omega)]
  refine congrArg some ?_
  have h2 : (2 : ℚ) ^ 1074 = 2 ^ 9 * 2 ^ (1074 - 9) := by rw [← pow_add]
  rw [if_neg Bool.false_ne_true, one_mul, Nat.cast_mul, Nat.cast_pow, Nat.cast_ofNat, h2,
    mul_div_mul_right _ _ (pow_ne_zero _ two_ne_zero)]
  norm_num

/-! ## What the array's rows read back as -/

theorem VdiskStatus.isField_text (st : VdiskStatus) : IsField st.text := by
  cases st <;> decide

namespace ArrayState

variable {s : ArrayState}

/-- A concise listing of objects, each with a value for every attribute of
the header, reads back as the objects' attributes. -/
theorem parseConcise_attrListing {α : Type} {keys : List String} {attrs : α → Dict}
    {objs : List α} (hkeys : keys ≠ []) (hfield : ∀ k ∈ keys, IsField k)
    (hvis : ∃ k ∈ keys, ∃ c ∈ k.data, isSpace c = false) (hnd : keys.Nodup)
    (hattrs : ∀ o ∈ objs, (attrs o).map Prod.fst = keys ∧ ∀ a ∈ attrs o, IsField a.2) :
    parseConcise (attrListing keys attrs objs) = .ok (objs.map attrs) := by
  have hrows : objs.map (fun o => sepJoin '!' ((attrs o).map Prod.snd)) =
      (objs.map fun o => (attrs o).map Prod.snd).map (sepJoin '!') := by
    rw [List.map_map]
    rfl
  rw [attrListing, hrows, parseConcise_unlines hkeys hfield hvis hnd, List.map_map]
  · refine congrArg Except.ok (List.map_congr_left fun o ho => ?_)
    show keys.zip ((attrs o).map Prod.snd) = attrs o
    rw [← (hattrs o ho).1, ← List.unzip_fst, ← List.unzip_snd, List.zip_unzip]
  · simp only [List.mem_map]
    rintro _ ⟨o, ho, rfl⟩
    refine ⟨by rw [List.length_map, ← (hattrs o ho).1, List.length_map], ?_⟩
    simp only [List.mem_map]
    rintro _ ⟨a, ha, rfl⟩
    exact (hattrs o ho).2 a ha

theorem poolAttrs_fields {g : MdiskGrp} (hg : IsField g.name) :
    ∀ a ∈ s.poolAttrs g, IsField a.2 := by
  simp only [poolAttrs, List.mem_cons, List.mem_singleton, List.not_mem_nil, or_false]
  rintro a (rfl | rfl | rfl | rfl) <;> first | exact isField_natToString _ | exact hg

theorem vdiskAttrs_fields {v : Vdisk} (hv : IsField v.name ∧ IsField v.uid) :
    ∀ a ∈ vdiskAttrs v, IsField a.2 := by
  simp only [vdiskAttrs, List.mem_cons, List.mem_singleton, List.not_mem_nil, or_false]
  rintro a (rfl | rfl | rfl | rfl | rfl | rfl)
  all_goals first
    | exact isField_natToString _
    | exact VdiskStatus.isField_text _
    | exact hv.1
    | exact hv.2

theorem parseConcise_poolListing (hwf : s.Wf) :
    parseConcise s.poolListing = .ok (s.pools.map s.poolAttrs) :=
  parseConcise_attrListing (by decide) (by decide) (by decide) (by decide) fun g hg =>
    ⟨rfl, poolAttrs_fields (hwf.pools_printable g hg)⟩

theorem parseConcise_vdiskListing (hwf : s.Wf) :
    parseConcise s.vdiskListing = .ok (s.volumes.map vdiskAttrs) :=
  parseConcise_attrListing (by decide) (by decide) (by decide) (by decide) fun v hv =>
    ⟨rfl, vdiskAttrs_fields (hwf.vdisks_printable v hv)⟩

theorem parseDetailed_vdiskView {v : Vdisk} (hv : IsField v.name ∧ IsField v.uid) :
    parseDetailed (attrView (vdiskAttrs v)) = vdiskAttrs v := by
  have hkeys : (vdiskAttrs v).map Prod.fst =
      ["id", "name", "status", "mdisk_grp_id", "capacity", "vdisk_UID"] := rfl
  have hname : ∀ k ∈ (vdiskAttrs v).map Prod.fst, IsName k := by rw [hkeys]; decide
  exact parseDetailed_unlines (List.cons_ne_nil _ _)
    (fun a ha => hname a.1 (List.mem_map_of_mem _ ha)) (fun a ha => (vdiskAttrs_fields hv a ha).2)
    (by rw [hkeys]; decide)

/-- A row of the `lshostvdiskmap -delim !` view, as parsed. -/
def hostMapRow (h : Host) (m : Nat × Nat) : Dict :=
  [("id", toString h.id), ("name", h.name), ("vdisk_id", toString m.2)]

theorem parseConcise_hostMapListing (hinv : s.Inv) {h : Host} (hh : h ∈ s.hosts) :
    parseConcise (hostMapListing h s.maps) =
      .ok ((s.maps.filter (·.1 = h.id)).map (hostMapRow h)) := by
  have hrows : (s.maps.filter (·.1 = h.id)).map
      (fun m => sepJoin '!' [toString h.id, h.name, toString m.2]) =
      ((s.maps.filter (·.1 = h.id)).map fun m => [toString h.id, h.name, toString m.2]).map
        (sepJoin '!') := by
    rw [List.map_map]
    rfl
  rw [hostMapListing, hrows, parseConcise_unlines (by decide) (by decide) (by decide) (by decide)]
  · rw [List.map_map]
    rfl
  · simp only [List.mem_map]
    rintro _ ⟨m, -, rfl⟩
    refine ⟨rfl, ?_⟩
    simp only [List.mem_cons, List.mem_singleton, List.not_mem_nil, or_false]
    rintro v (rfl | rfl | rfl)
    · exact isField_natToString h.id
    · exact (hinv.printable h hh).1
    · exact isField_natToString m.2

end ArrayState

/-! ## The plugin's objects -/

/-- The status `_volume` reads from a status text. -/
def VdiskStatus.volumeStatus : VdiskStatus → VolumeStatus
  | .online => .ok
  | .offline => .dormant
  | .degraded => .err

theorem VdiskStatus.status_text (st : VdiskStatus) :
    (if st.text = "online" then VolumeStatus.ok else if st.text = "offline" then .dormant
      else .err) = st.volumeStatus := by
  cases st <;> rfl

/-- The pool `_pool` reads from a pool's row, on the system `sysId`. -/
def ArrayState.toPool (s : ArrayState) (sysId : String) (g : MdiskGrp) : Pool :=
  ⟨toString g.id, g.name, g.capacity, s.freeCapacity g, sysId⟩

/-- The volume `_volume` reads from a volume's row, on the system `sysId`. -/
def Vdisk.toVolume (sysId : String) (v : Vdisk) : Volume :=
  ⟨toString v.id, v.name, v.uid, 512, blocksOf v.capacity, v.status.volumeStatus, sysId,
    toString v.poolId⟩

/-! ## What the array answers the plugin -/

namespace ArrayState

variable (s : ArrayState)

theorem run_getPoolsCmd : s.run (splitWs getPoolsCmd) = done s.poolListing s := by
  have hw : splitWs getPoolsCmd = ["lsmdiskgrp", "-bytes", "-delim", "!"] := by decide
  rw [hw]
  rfl

theorem run_getVolumesCmd : s.run (splitWs getVolumesCmd) = done s.vdiskListing s := by
  have hw : splitWs getVolumesCmd = ["lsvdisk", "-bytes", "-delim", "!"] := by decide
  rw [hw]
  rfl

variable {s}

theorem run_getVolumeCmd {t : String} (ht : IsWord t.data) {v : Vdisk}
    (hv : s.findVolume t = some v) :
    s.run (splitWs (getVolumeCmd t)) = done (attrView (vdiskAttrs v)) s := by
  rw [splitWs_getVolumeCmd ht]
  show s.lsvdisk (["-bytes", "-delim", "!"] ++ [t]) = _
  rw [lsvdisk, listCmd_view, hv]
  rfl

theorem run_hostMapCmd (hnd : (s.hosts.map Host.id).Nodup) {h : Host} (hh : h ∈ s.hosts) :
    s.run (splitWs (getVolumesAccessibleByInitiatorCmd (toString h.id))) =
      done (hostMapListing h s.maps) s := by
  rw [splitWs_getVolumesAccessibleByInitiatorCmd (isNumeral_natToString h.id).isWord]
  show s.lshostvdiskmap (["-delim", "!"] ++ [toString h.id]) = _
  rw [lshostvdiskmap, viewCmd_view, findHost_of_mem s hnd hh]
  rfl

theorem run_deleteVolumeCmd {t : String} (ht : IsWord t.data) :
    s.run (splitWs (deleteVolumeCmd true t)) = match s.findVolume t with
      | some v => done "" (s.removeVdisk v)
      | none => s.failed notFound := by
  rw [splitWs_deleteVolumeCmd ht]
  rfl

/-! ## What `mkvdisk` makes of the plugin's command -/

/-- The percentage of a new volume's size that `_create_volume` asks the pool
for: the 5 % `-rsize` of a thin volume, else all of it. -/
def provPercent : Provisioning → Nat
  | .thin => 5
  | _ => 100

variable (s)

/-- The volume `mkvdisk` makes of `volume_create(pool, name, size, prov)`:
the next volume, of `size` bytes in the pool the word `pool` names, taking
`provPercent prov` percent of it; none unless the size is positive, the name
valid and new, and the pool has that much free. -/
def createdVdisk (name pool : String) (size : Int) (prov : Provisioning) : Option Vdisk :=
  if 0 < size ∧ validName name ∧ ¬(s.volumes.any (·.name = name)) then
    match s.findPool pool with
    | some g =>
      if realCapacityOf size.toNat (provPercent prov) ≤ s.freeCapacity g then
        some (s.newVdisk name g size.toNat (realCapacityOf size.toNat (provPercent prov)))
      else none
    | none => none
  else none

variable {s}

theorem natOfWord_natToString (n : Nat) : natOfWord (toString n) = some n := by
  rw [natOfWord, if_pos ⟨(isNumeral_natToString n).1, isDigit_natToString n⟩,
    digitsValue_natToString]

theorem natOfWord_negSucc (m : Nat) : natOfWord (toString (Int.negSucc m)) = none := by
  rw [natOfWord, if_neg]
  rintro ⟨-, hd⟩
  exact absurd (hd '-' (by show '-' ∈ ("-" ++ toString (m + 1)).data; simp)) (by decide)

theorem allocPercent_provisioning (prov : Provisioning) :
    allocPercent (if prov = .thin then ["-rsize", "5%", "-warning", "0", "-autoexpand"] else []) =
      some (provPercent prov) := by
  cases prov <;> rfl

theorem isDigit_of_isAlpha {c : Char} (h : c.isAlpha = true) : c.isDigit = false := by
  simp only [Char.isAlpha, Char.isUpper, Char.isLower, Char.isDigit, Bool.or_eq_true,
    Bool.and_eq_true, decide_eq_true_eq, GE.ge, UInt32.le_def, BitVec.le_def,
    UInt32.toBitVec_ofNat, BitVec.toNat_ofNat] at h ⊢
  simp only [Bool.and_eq_false_iff, decide_eq_false_iff_not]
  omega

/-- A name `mkvdisk` accepts is not an id: it starts with a letter or `_`. -/
theorem isIdWord_of_validName {n : String} (h : validName n = true) : isIdWord n = false := by
  unfold validName at h
  split at h
  · next c cs hcs =>
    simp only [Bool.and_eq_true, Bool.or_eq_true, beq_iff_eq] at h
    have hc : c.isDigit = false := by
      rcases h.1 with ha | rfl
      · exact isDigit_of_isAlpha ha
      · rfl
    simp only [isIdWord, hcs, decide_eq_false_iff_not, not_and]
    exact fun _ hall => absurd (hall c (List.mem_cons_self c cs)) (by simp [hc])
  · exact absurd h Bool.false_ne_true

/-- A new volume with a valid name no other volume has is found by its name. -/
theorem findVolume_addVdisk {v : Vdisk} (hname : validName v.name = true)
    (hfresh : ¬(s.volumes.any (·.name = v.name)) = true) :
    (s.addVdisk v).findVolume v.name = some v := by
  have hnone : s.volumes.find? (·.name = v.name) = none :=
    List.find?_eq_none.mpr fun w hw hwn => hfresh (List.any_eq_true.mpr ⟨w, hw, hwn⟩)
  rw [findVolume, findObj, isIdWord_of_validName hname, if_neg Bool.false_ne_true,
    addVdisk_volumes, List.find?_append, hnone]
  simp

theorem createdVdisk_some {name pool : String} {size : Int} {prov : Provisioning} {v : Vdisk}
    (h : s.createdVdisk name pool size prov = some v) :
    0 < size ∧ v.name = name ∧ validName name = true ∧
      ¬(s.volumes.any (·.name = name)) = true ∧ IsField v.uid := by
  unfold createdVdisk at h
  split at h
  · next hc =>
    split at h
    · split at h
      · obtain rfl := Option.some.inj h
        exact ⟨hc.1, rfl, hc.2.1, hc.2.2, isField_vdiskUid _⟩
      · exact absurd h (by simp)
    · exact absurd h (by simp)
  · exact absurd h (by simp)

/-- The plugin's `mkvdisk` command line adds the volume `createdVdisk`
describes, or fails when there is none. -/
theorem run_createVolumeCmd {name pool : String} (hname : IsWord name.data)
    (hpool : IsWord pool.data) (size : Int) (prov : Provisioning) :
    (∀ v, s.createdVdisk name pool size prov = some v →
      ∃ out, s.run (splitWs (createVolumeCmd name pool size prov)) = done out (s.addVdisk v)) ∧
    (s.createdVdisk name pool size prov = none →
      ∃ err, s.run (splitWs (createVolumeCmd name pool size prov)) = s.failed err) := by
  have hrun : s.run (splitWs (createVolumeCmd name pool size prov)) =
      s.mkvdisk ("-name" :: name :: "-mdiskgrp" :: pool :: "-iogrp" :: "0" :: "-size" ::
        toString size :: "-unit" :: "b" ::
          if prov = .thin then ["-rsize", "5%", "-warning", "0", "-autoexpand"] else []) := by
    rw [splitWs_createVolumeCmd hname hpool]
    rfl
  rw [hrun]
  show (∀ v, _ → ∃ out, s.mkvdiskWith name pool (toString size) _ = _) ∧
    (_ → ∃ err, s.mkvdiskWith name pool (toString size) _ = _)
  unfold mkvdiskWith
  rw [allocPercent_provisioning]
  cases size with
  | negSucc m =>
    rw [natOfWord_negSucc]
    exact ⟨fun v hv =>
      absurd (createdVdisk_some hv).1 (Int.not_lt.mpr (Int.negSucc_lt_zero m).le),
      fun _ => ⟨_, rfl⟩⟩
  | ofNat n =>
    rw [show toString (Int.ofNat n) = toString n from rfl, natOfWord_natToString]
    cases n with
    | zero =>
      exact ⟨fun v hv => absurd (createdVdisk_some hv).1 (Int.lt_irrefl 0), fun _ => ⟨_, rfl⟩⟩
    | succ b =>
      have hpos : (0 : Int) < Int.ofNat (b + 1) := Int.ofNat_succ_pos b
      have htoNat : (Int.ofNat (b + 1)).toNat = b + 1 := rfl
      dsimp only
      unfold createdVdisk
      by_cases hc : validName name = true ∧ ¬(s.volumes.any (·.name = name)) = true
      · obtain ⟨hv, hf⟩ := hc
        rw [if_pos ⟨hpos, hv, hf⟩, htoNat, if_neg (by simp [hv]), if_neg hf]
        cases s.findPool pool with
        | none => exact ⟨fun v h => (nomatch h), fun _ => ⟨_, rfl⟩⟩
        | some g =>
          dsimp only
          by_cases hcap : realCapacityOf (b + 1) (provPercent prov) ≤ s.freeCapacity g
          · rw [if_pos hcap, if_neg (Nat.not_lt.mpr hcap)]
            refine ⟨fun v h => ?_, fun h => (nomatch h)⟩
            obtain rfl := Option.some.inj h
            exact ⟨_, rfl⟩
          · rw [if_neg hcap, if_pos (Nat.lt_of_not_le hcap)]
            exact ⟨fun v h => (nomatch h), fun _ => ⟨_, rfl⟩⟩
      · rw [if_neg fun h => hc ⟨h.2.1, h.2.2⟩]
        refine ⟨fun v h => (nomatch h), fun _ => ?_⟩
        by_cases hv : validName name = true
        · rw [if_neg (by simp [hv]), if_pos (by simpa [hv] using hc)]
          exact ⟨_, rfl⟩
        · rw [if_pos (by simpa using hv)]
          exact ⟨_, rfl⟩

/-- A command that failed printed a vendor code and a reason. -/
theorem space_of_run_failed {argv : List String} {err : String} (h : s.run argv = s.failed err) :
    ' ' ∈ err.data := by
  rcases s.run_outcome argv with ⟨e, he, hsp⟩ | ⟨out, s', hd⟩
  · rw [h] at he
    obtain rfl : err = e := congrArg (·.1.stderr) he
    exact hsp
  · rw [h] at hd
    exact absurd (congrArg (·.1.exitCode) hd) (by simp [failed, done])

variable (s)

/-- The volumes mapped to a host, one per mapping of it in the order of the
mapping table: for each, the first volume with the mapped id. -/
def accessibleVdisks (h : Host) : List Vdisk :=
  (s.maps.filter (·.1 = h.id)).filterMap fun m => s.volumes.find? (·.id = m.2)

end ArrayState

/-! ## The plugin's objects read back -/

theorem mapM_filterMap_ok {σ γ δ α β : Type} {f : δ → PyM σ β} {row : γ → δ}
    {k : γ → Option α} {g : α → β} {s : σ} : ∀ {l : List γ},
      (∀ c ∈ l, ∃ a, k c = some a ∧ f (row c) s = .ok (g a) s) →
        (l.map row).mapM f s = .ok ((l.filterMap k).map g) s
  | [], _ => rfl
  | c :: l, h => by
    obtain ⟨a, hk, hf⟩ := h c (List.mem_cons_self c l)
    rw [List.map_cons, List.mapM_cons, PyM.bind_ok hf,
      PyM.bind_ok (mapM_filterMap_ok fun c' hc' => h c' (List.mem_cons_of_mem c hc')),
      List.filterMap_cons_some hk]
    rfl

namespace IbmV7k

/-- `search_property` with a key every object has: the objects whose
attribute equals the value, in order. -/
theorem searchProperty_keep {β : Type} {attr : β → String → Option PyVal} {v : PyVal}
    {key : String} : ∀ {objs : List β}, (∀ o ∈ objs, (attr o key).isSome) →
      searchProperty.keep attr v key objs =
        .ok (objs.filter fun o => (attr o key).any (·.pyEq v))
  | [], _ => rfl
  | o :: os, h => by
    obtain ⟨a, ha⟩ := Option.isSome_iff_exists.mp (h o (List.mem_cons_self _ _))
    rw [searchProperty.keep, ha,
      searchProperty_keep fun o' ho' => h o' (List.mem_cons_of_mem _ ho')]
    cases hv : a.pyEq v <;> simp [List.filter_cons, ha, hv]

theorem poolAttr_isSome {key : String}
    (hkey : key ∈ ["id", "name", "total_space", "free_space", "system_id"]) (pl : Pool) :
    (poolAttr pl key).isSome := by
  simp only [List.mem_cons, List.mem_singleton, List.not_mem_nil, or_false] at hkey
  rcases hkey with rfl | rfl | rfl | rfl | rfl <;> rfl

theorem volumeAttr_isSome {key : String}
    (hkey : key ∈ ["id", "name", "vpd83", "block_size", "system_id", "pool_id"]) (v : Volume) :
    (volumeAttr v key).isSome := by
  simp only [List.mem_cons, List.mem_singleton, List.not_mem_nil, or_false] at hkey
  rcases hkey with rfl | rfl | rfl | rfl | rfl | rfl <;> rfl

section Objects

variable {σ : Type} {p : IbmV7k σ} {si : System} (hsys : p.sysInfo = some si)
include hsys

theorem _pool_poolAttrs (s : ArrayState) (g : MdiskGrp) :
    _pool (s.poolAttrs g) p = .ok (s.toPool si.id g) p := by
  have hint : ∀ n : Nat, (Except.ok (toString n) >>= pyInt) = .ok (n : Int) := pyInt_natToString
  have hid : (s.poolAttrs g).getItem "id" = .ok (toString g.id) := rfl
  have hname : (s.poolAttrs g).getItem "name" = .ok g.name := rfl
  have hcap : (s.poolAttrs g).getItem "capacity" = .ok (toString g.capacity) := rfl
  have hfree : (s.poolAttrs g).getItem "free_capacity" = .ok (toString (s.freeCapacity g)) := rfl
  simp only [_pool, sysInfoId, hid, hname, hcap, hfree, PyM.ofExcept_bind, hint, bind_assoc,
    PyM.get_bind, hsys, pure_bind]
  rfl

theorem _volume_vdiskAttrs (v : Vdisk) : _volume (vdiskAttrs v) p = .ok (v.toVolume si.id) p := by
  have hfloat : ∀ n : Nat,
      (Except.ok (toString n) >>= pyFloat) = .ok (.ofScaled false (n * 2 ^ 1074) 1) :=
    pyFloat_natToString
  have hst : (vdiskAttrs v).getItem "status" = .ok v.status.text := rfl
  have hid : (vdiskAttrs v).getItem "id" = .ok (toString v.id) := rfl
  have hname : (vdiskAttrs v).getItem "name" = .ok v.name := rfl
  have huid : (vdiskAttrs v).getItem "vdisk_UID" = .ok v.uid := rfl
  have hcap : (vdiskAttrs v).getItem "capacity" = .ok (toString v.capacity) := rfl
  have hpool : (vdiskAttrs v).getItem "mdisk_grp_id" = .ok (toString v.poolId) := rfl
  simp only [_volume, sysInfoId, hst, hid, hname, huid, hcap, hpool, PyM.ofExcept_bind, hfloat,
    bind_assoc, PyM.get_bind, hsys, pure_bind, VdiskStatus.status_text]
  rfl

end Objects

/-- A listing method over the rows its query returned, each read back as an
object: the search over those objects. -/
theorem listing_ok {σ α β : Type} {p : IbmV7k σ} {getRows : PyM (IbmV7k σ) (List Dict)}
    {read : Dict → PyM (IbmV7k σ) α} {attr : α → String → Option PyVal} {wrap : α → PyVal}
    {objs : List β} {row : β → Dict} {obj : β → α} (hget : getRows p = .ok (objs.map row) p)
    (hread : ∀ o ∈ objs, read (row o) p = .ok (obj o) p) (k v : PyVal) :
    (do
      let g ← getRows
      let xs ← g.mapM read
      let found ← PyM.ofExcept (searchProperty attr xs k v)
      pure (PyVal.list (found.map wrap))) p =
      match searchProperty attr (objs.map obj) k v with
      | .ok found => .ok (.list (found.map wrap)) p
      | .error e => .error e p := by
  rw [PyM.bind_ok hget, PyM.bind_ok (PyM.mapM_map_ok hread)]
  cases searchProperty attr (objs.map obj) k v <;> rfl

/-! ## The plugin on the array -/

variable {p : IbmV7k ArrayState} {ssh : SSHClient} {si : System} (hssh : p.ssh = some ssh)
  (hopen : ssh.isOpen)
include hssh hopen

theorem getPools_array (hwf : p.array.Wf) :
    _getPools ArrayState.server p = .ok (p.array.pools.map p.array.poolAttrs) p := by
  unfold _getPools _executeCommandAndParseConcise
  rw [PyM.bind_ok (sshExecute_done hssh hopen p.array.run_getPoolsCmd)]
  simp only [parseConcise_poolListing hwf]
  rfl

theorem getVolumes_array (hwf : p.array.Wf) :
    _getVolumes ArrayState.server p = .ok (p.array.volumes.map vdiskAttrs) p := by
  unfold _getVolumes _executeCommandAndParseConcise
  rw [PyM.bind_ok (sshExecute_done hssh hopen p.array.run_getVolumesCmd)]
  simp only [parseConcise_vdiskListing hwf]
  rfl

theorem getVolume_array {t : String} (ht : IsWord t.data) {v : Vdisk}
    (hv : p.array.findVolume t = some v) (hprint : IsField v.name ∧ IsField v.uid) :
    _getVolume ArrayState.server t p = .ok (vdiskAttrs v) p := by
  unfold _getVolume _executeCommandAndParseDetailed
  rw [PyM.bind_ok (sshExecute_done hssh hopen (run_getVolumeCmd ht hv))]
  simp only [parseDetailed_vdiskView hprint]
  rfl

/-- On every array that keeps `Wf`, `pools()` reports one pool per pool of
the array, in the array's order, with its id, name, capacity and free
capacity, and changes nothing; with a search key a pool has, exactly the
pools whose attribute equals the value. -/
theorem pools_array (hsys : p.sysInfo = some si) (hwf : p.array.Wf) :
    pools ArrayState.server .none .none p =
        .ok (.list ((p.array.pools.map (p.array.toPool si.id)).map .pool)) p ∧
      ∀ key ∈ ["id", "name", "total_space", "free_space", "system_id"], ∀ v : PyVal,
        pools ArrayState.server (.str key) v p = .ok (.list (((p.array.pools.map
          (p.array.toPool si.id)).filter fun pl => (poolAttr pl key).any (·.pyEq v)).map .pool)) p := by
  have hread :
      ∀ g ∈ p.array.pools, _pool (p.array.poolAttrs g) p = .ok (p.array.toPool si.id g) p :=
    fun g _ => _pool_poolAttrs hsys p.array g
  refine ⟨listing_ok (getPools_array hssh hopen hwf) hread .none .none, fun key hkey v => ?_⟩
  rw [pools, listing_ok (getPools_array hssh hopen hwf) hread, searchProperty,
    searchProperty_keep fun pl _ => poolAttr_isSome hkey pl]

/-- On every array that keeps `Wf`, `volumes()` reports one volume per volume
of the array, in the array's order, and changes nothing; with a search key a
volume has, exactly the volumes whose attribute equals the value. Each
volume's number of blocks is `float(capacity) / 512`, exactly
`capacity / 512` for a capacity below `2^53` bytes. -/
theorem volumes_array (hsys : p.sysInfo = some si) (hwf : p.array.Wf) :
    volumes ArrayState.server .none .none p =
        .ok (.list ((p.array.volumes.map (Vdisk.toVolume si.id)).map .volume)) p ∧
      (∀ key ∈ ["id", "name", "vpd83", "block_size", "system_id", "pool_id"], ∀ v : PyVal,
        volumes ArrayState.server (.str key) v p = .ok (.list (((p.array.volumes.map
          (Vdisk.toVolume si.id)).filter fun vol => (volumeAttr vol key).any (·.pyEq v)).map .volume)) p) ∧
      ∀ v ∈ p.array.volumes, v.capacity < 2 ^ 53 →
        (v.toVolume si.id).numOfBlocks.value? = some (v.capacity / 512 : ℚ) := by
  have hread : ∀ w ∈ p.array.volumes, _volume (vdiskAttrs w) p = .ok (w.toVolume si.id) p :=
    fun w _ => _volume_vdiskAttrs hsys w
  refine ⟨listing_ok (getVolumes_array hssh hopen hwf) hread .none .none, fun key hkey v => ?_,
    fun v _ hc => ?_⟩
  swap
  · dsimp only [Vdisk.toVolume]
    exact blocksOf_value hc
  rw [volumes, listing_ok (getVolumes_array hssh hopen hwf) hread, searchProperty,
    searchProperty_keep fun vol _ => volumeAttr_isSome hkey vol]

/-- `volume_create` on the array, for a name and a pool id that are each one
word: when `mkvdisk` makes a volume, the array gains it and the plugin
returns it as `lsvdisk` shows it; otherwise the array's error is raised and
nothing changes. -/
theorem volumeCreate_array (hsys : p.sysInfo = some si) {pool : Pool} {volumeName : String}
    (hname : IsWord volumeName.data) (hpool : IsWord pool.id.data) (sizeBytes : Int)
    (prov : Provisioning) :
    (∀ v, p.array.createdVdisk volumeName pool.id sizeBytes prov = some v →
      volumeCreate ArrayState.server pool volumeName sizeBytes prov p =
        .ok (.tuple [.none, .volume (v.toVolume si.id)]) { p with array := p.array.addVdisk v }) ∧
    (p.array.createdVdisk volumeName pool.id sizeBytes prov = none →
      ∃ msg, volumeCreate ArrayState.server pool volumeName sizeBytes prov p =
        .error (.lsm ⟨.pluginError, msg⟩) p) := by
  obtain ⟨hdone, hfail⟩ := p.array.run_createVolumeCmd hname hpool sizeBytes prov
  refine ⟨fun v hv => ?_, fun hn => ?_⟩
  · obtain ⟨out, hrun⟩ := hdone v hv
    obtain ⟨-, rfl, hvalid, hfresh, huid⟩ := createdVdisk_some hv
    have hcreate : _createVolume ArrayState.server pool.id v.name sizeBytes prov p =
        .ok () { p with array := p.array.addVdisk v } :=
      PyM.bind_ok (sshExecute_done hssh hopen hrun) _
    have hget := getVolume_array (p := { p with array := p.array.addVdisk v }) hssh hopen hname
      (findVolume_addVdisk hvalid hfresh) ⟨isField_of_validName hvalid, huid⟩
    rw [volumeCreate, PyM.bind_ok hcreate, PyM.bind_ok hget,
      PyM.bind_ok (_volume_vdiskAttrs (p := { p with array := p.array.addVdisk v }) hsys v)]
    rfl
  · obtain ⟨err, hrun⟩ := hfail hn
    obtain ⟨msg, h⟩ := sshExecute_failed hssh hopen hrun (space_of_run_failed hrun)
    exact ⟨msg, PyM.bind_error (PyM.bind_error h _) _⟩

/-- `volume_delete` on the array, for a volume id that is one word: the
volume that word names is deleted with its mappings (`-force`); a volume the
array does not have raises the array's error and changes nothing. -/
theorem volumeDelete_array {volume : Volume} (hvol : IsWord volume.id.data) :
    (∀ v, p.array.findVolume volume.id = some v →
      volumeDelete ArrayState.server volume p = .ok .none { p with array := p.array.removeVdisk v }) ∧
    (p.array.findVolume volume.id = none →
      ∃ msg, volumeDelete ArrayState.server volume p = .error (.lsm ⟨.pluginError, msg⟩) p) := by
  have hrun := p.array.run_deleteVolumeCmd hvol
  refine ⟨fun v hv => ?_, fun hn => ?_⟩
  · rw [hv] at hrun
    have hdel : _deleteVolume ArrayState.server volume.id true p =
        .ok () { p with array := p.array.removeVdisk v } :=
      PyM.bind_ok (sshExecute_done hssh hopen hrun) _
    rw [volumeDelete, PyM.bind_ok hdel]
    rfl
  · rw [hn] at hrun
    obtain ⟨msg, h⟩ := sshExecute_failed hssh hopen hrun (space_mem_error (.inl rfl))
    exact ⟨msg, PyM.bind_error (PyM.bind_error h _) _⟩

/-- On every array that keeps `Wf`, `volumes_accessible_by_initiator` for an
initiator whose id is a port of a host reports the volumes mapped to that
host, one per mapping, and changes nothing; for an id on no host it raises
`NOT_FOUND_INITIATOR`. -/
theorem volumesAccessibleByInitiator_array (hsys : p.sysInfo = some si) (hwf : p.array.Wf)
    (initiator : Initiator) :
    (∀ h ∈ p.array.hosts, initiator.id ∈ h.ports →
      volumesAccessibleByInitiator ArrayState.server initiator p =
        .ok (.list (((p.array.accessibleVdisks h).map (Vdisk.toVolume si.id)).map .volume)) p) ∧
    ((∀ h ∈ p.array.hosts, initiator.id ∉ h.ports) →
      volumesAccessibleByInitiator ArrayState.server initiator p = .error initiatorNotFound p) := by
  refine ⟨fun h hh hid => ?_, fun hx => ?_⟩
  · have hrows : _getVolumesAccessibleByInitiator ArrayState.server initiator.id p =
        .ok ((p.array.maps.filter (·.1 = h.id)).map (hostMapRow h)) p := by
      unfold _getVolumesAccessibleByInitiator _executeCommandAndParseConcise
      rw [PyM.bind_ok (mapLsmInitIdToV7k_found hssh hopen hwf.toInv hh hid),
        PyM.bind_ok (sshExecute_done hssh hopen (run_hostMapCmd hwf.ids_nodup hh))]
      simp only [parseConcise_hostMapListing hwf.toInv hh]
      rfl
    rw [volumesAccessibleByInitiator, PyM.bind_ok hrows, PyM.bind_ok (mapM_filterMap_ok ?_)]
    · rfl
    intro m hm
    obtain ⟨w, hw, hwid⟩ := mem_vdisks.mp (hwf.maps_vdisks m (List.mem_filter.mp hm).1)
    obtain ⟨u, hu⟩ := Option.isSome_iff_exists.mp (List.find?_isSome.mpr ⟨w, hw, by simp [hwid]⟩ :
      (p.array.volumes.find? (·.id = m.2)).isSome)
    have hfind : p.array.findVolume (toString m.2) = some u := by
      rw [findVolume, findObj_natToString, hu]
    refine ⟨u, hu, ?_⟩
    show (PyM.ofExcept ((hostMapRow h m).getItem "vdisk_id") >>= fun x =>
      _getVolume ArrayState.server x >>= fun gv => _volume gv) p = _
    rw [show (hostMapRow h m).getItem "vdisk_id" = .ok (toString m.2) from rfl,
      PyM.bind_ok (PyM.ofExcept_ok _ p),
      PyM.bind_ok (getVolume_array hssh hopen (isNumeral_natToString m.2).isWord hfind
        (hwf.vdisks_printable u (List.mem_of_find?_eq_some hu))), _volume_vdiskAttrs hsys u]
  · exact PyM.bind_error (PyM.bind_error (mapLsmInitIdToV7k_absent hssh hopen hwf.toInv hx) _) _

end IbmV7k

/-! ## On a small array -/

/-- A registered plugin whose array has the host `host0`, of WWPN `W0`,
mapped to the volume 5 of the pool 0. -/
def mappedPlugin : IbmV7k ArrayState :=
  ⟨some ⟨"sys", "sys"⟩, some ⟨30, true⟩, 30, none, none,
    sampleArray [⟨0, "host0", some "W0", none⟩] [(0, 5)] 1⟩

theorem mappedPlugin_sysInfo : mappedPlugin.sysInfo = some ⟨"sys", "sys"⟩ := rfl

/-- The pool 0 as `pools()` reports it: 1 GiB, of which the volume 5 takes
1 MiB. -/
def pool0 : Pool := ⟨"0", "pool0", 1073741824, 1072693248, "sys"⟩

/-- The volume 5 as `volumes()` reports it. -/
def vol5 : Volume := ⟨"5", "vol5", "600507685", 512, blocksOf 1048576, .ok, "sys", "0"⟩

theorem pools_mapped :
    IbmV7k.pools ArrayState.server .none .none mappedPlugin = .ok (.list [.pool pool0]) mappedPlugin :=
  (IbmV7k.pools_array rfl rfl mappedPlugin_sysInfo (by decide)).1

theorem volumes_mapped :
    IbmV7k.volumes ArrayState.server .none .none mappedPlugin =
      .ok (.list [.volume vol5]) mappedPlugin :=
  (IbmV7k.volumes_array rfl rfl mappedPlugin_sysInfo (by decide)).1

/-- The volume `mkvdisk` makes for a thin `vol6` of 2 MiB in the pool 0,
which takes 5 % of it from the pool. -/
def vdisk6 : Vdisk := ⟨6, "vol6", "600507686", 0, 2097152, 104858, .online⟩

theorem volumeCreate_thin_vol6 :
    IbmV7k.volumeCreate ArrayState.server pool0 "vol6" 2097152 .thin mappedPlugin =
      .ok (.tuple [.none, .volume (vdisk6.toVolume "sys")])
        ⟨some ⟨"sys", "sys"⟩, some ⟨30, true⟩, 30, none, none, mappedPlugin.array.addVdisk vdisk6⟩ :=
  (IbmV7k.volumeCreate_array rfl rfl mappedPlugin_sysInfo (by decide) (by decide) 2097152
    .thin).1 vdisk6 (by decide)

/-- A second volume named `vol5` is refused. -/
theorem volumeCreate_taken_name :
    ∃ msg, IbmV7k.volumeCreate ArrayState.server pool0 "vol5" 2097152 .full mappedPlugin =
      .error (.lsm ⟨.pluginError, msg⟩) mappedPlugin :=
  (IbmV7k.volumeCreate_array rfl rfl mappedPlugin_sysInfo (by decide) (by decide) 2097152
    .full).2 (by decide)

theorem volumeDelete_vol5 :
    IbmV7k.volumeDelete ArrayState.server vol5 mappedPlugin =
      .ok .none ⟨some ⟨"sys", "sys"⟩, some ⟨30, true⟩, 30, none, none,
        mappedPlugin.array.removeVdisk ⟨5, "vol5", "600507685", 0, 1048576, 1048576, .online⟩⟩ :=
  (IbmV7k.volumeDelete_array rfl rfl (by decide)).1 _ (by decide)

theorem volumesAccessibleByInitiator_w0 :
    IbmV7k.volumesAccessibleByInitiator ArrayState.server ⟨"W0", .portWwn, "host0"⟩ mappedPlugin =
      .ok (.list [.volume vol5]) mappedPlugin :=
  (IbmV7k.volumesAccessibleByInitiator_array rfl rfl mappedPlugin_sysInfo (by decide) _).1
    ⟨0, "host0", some "W0", none⟩ (by decide) (by decide)

end LibStorageMgmt.V7k

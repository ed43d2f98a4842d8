import LibStorageMgmt.Py.Value
import Mathlib.Data.Nat.Digits

/-!
# The command lines the plugin builds

Every `ssh_cmd` of `IbmV7k`, built as the source builds it with `%`: the
caller's values are pasted in without quoting. The array's shell reads a
command line as its whitespace-separated words, so a command means what it
says only when each pasted value is one word. Then the words are the command,
its options and each value in its place, the empty `'-force' if force else ''`
slot leaving no word (`commands_split`). A value holding whitespace becomes
several words and an empty value none, and the words after it shift
(`createVolumeCmd_spaced_name`).
-/

namespace LibStorageMgmt.V7k

open Py

/-- `Volume.PROVISION_*`; `_create_volume` tests only for `PROVISION_THIN`. -/
inductive Provisioning where
  | unknown
  | thin
  | full
  | default
  deriving DecidableEq, Repr

/-! ## The commands -/

/-- The `ssh_cmd` of `_get_system_info`. -/
def getSystemInfoCmd : String := "lssystem -delim !"

/-- The `ssh_cmd` of `_get_pools`. -/
def getPoolsCmd : String := "lsmdiskgrp -bytes -delim !"

/-- The `ssh_cmd` of `_get_volumes`. -/
def getVolumesCmd : String := "lsvdisk -bytes -delim !"

/-- The `ssh_cmd` of `_get_volume`. -/
def getVolumeCmd (volume : String) : String := "lsvdisk -bytes -delim ! " ++ volume

/-- The `ssh_cmd` of `_create_volume`, with the thin-provisioning defaults
`rsize = 5`, `warning = 0` and `autoex = '-autoexpand'`. -/
def createVolumeCmd (volName pool : String) (sizeBytes : Int) (prov : Provisioning) : String :=
  "mkvdisk -name " ++ volName ++ " -mdiskgrp " ++ pool ++ " -iogrp 0 -size " ++
    toString sizeBytes ++ " -unit b" ++
    if prov = .thin then
      let rsize : Nat := 5
      let warning : Nat := 0
      let autoex := "-autoexpand"
      " -rsize " ++ toString rsize ++ "% -warning " ++ toString warning ++ " " ++ autoex
    else ""

/-- The `ssh_cmd` of `_delete_volume`. -/
def deleteVolumeCmd (force : Bool) (volume : String) : String :=
  "rmvdisk " ++ (if force then "-force" else "") ++ " " ++ volume

/-- The `ssh_cmd` of `_get_initiators`. -/
def getInitiatorsCmd : String := "lshost -delim !"

/-- The `ssh_cmd` of `_get_initiator`. -/
def getInitiatorCmd (init : String) : String := "lshost -delim ! " ++ init

/-- The `ssh_cmd` of `_get_volumes_accessible_by_initiator`. -/
def getVolumesAccessibleByInitiatorCmd (v7kInitId : String) : String :=
  "lshostvdiskmap -delim ! " ++ v7kInitId

/-- The `ssh_cmd` of `_get_initiators_granted_to_volume`. -/
def getInitiatorsGrantedToVolumeCmd (v : String) : String := "lsvdiskhostmap -delim ! " ++ v

/-- The `type_option` of `_initiator_create`, for the two types it supports. -/
def typeOption : InitiatorType → Option String
  | .portWwn => some "-hbawwpn"
  | .iscsi => some "-iscsiname"
  | .other => none

theorem typeOption_eq_some {t : InitiatorType} {opt : String} (h : typeOption t = some opt) :
    opt = "-hbawwpn" ∨ opt = "-iscsiname" := by
  cases t <;> simp only [typeOption, Option.some.injEq, reduceCtorEq] at h <;> simp [← h]

/-- The `ssh_cmd` of `_initiator_create`. -/
def initiatorCreateCmd (typeOption initId : String) : String :=
  "mkhost " ++ typeOption ++ " " ++ initId

/-- The `ssh_cmd` of `_initiator_grant`. -/
def initiatorGrantCmd (force : Bool) (v7kInitId volId : String) : String :=
  "mkvdiskhostmap " ++ (if force then "-force" else "") ++ " -host " ++ v7kInitId ++ " " ++ volId

/-- The `ssh_cmd` of `_initiator_delete`. -/
def initiatorDeleteCmd (force : Bool) (v7kInitId : String) : String :=
  "rmhost " ++ (if force then "-force" else "") ++ " " ++ v7kInitId

/-- The `ssh_cmd` of `_initiator_revoke`. -/
def initiatorRevokeCmd (v7kInitId volId : String) : String :=
  "rmvdiskhostmap -host " ++ v7kInitId ++ " " ++ volId

/-! ## Each command is its words joined by spaces -/

section Words

variable (force : Bool) (a b : String)

/-- The `'-force' if force else ''` slot. -/
def forceSlot : String := if force then "-force" else ""

theorem createVolumeCmd_eq (sizeBytes : Int) (prov : Provisioning) :
    createVolumeCmd a b sizeBytes prov = sepJoin ' ' (["mkvdisk", "-name", a, "-mdiskgrp", b,
      "-iogrp", "0", "-size", toString sizeBytes, "-unit", "b"] ++
      if prov = .thin then ["-rsize", "5%", "-warning", "0", "-autoexpand"] else []) := by
  unfold createVolumeCmd
  split <;> simp only [sepJoin, List.cons_append, List.nil_append, String.append_assoc] <;> rfl

theorem deleteVolumeCmd_eq : deleteVolumeCmd force a = sepJoin ' ' ["rmvdisk", forceSlot force, a] := by
  simp only [deleteVolumeCmd, forceSlot, sepJoin, String.append_assoc]; rfl

theorem getVolumeCmd_eq : getVolumeCmd a = sepJoin ' ' ["lsvdisk", "-bytes", "-delim", "!", a] := by
  simp only [getVolumeCmd, sepJoin, String.append_assoc]; rfl

theorem getInitiatorCmd_eq : getInitiatorCmd a = sepJoin ' ' ["lshost", "-delim", "!", a] := by
  simp only [getInitiatorCmd, sepJoin, String.append_assoc]; rfl

theorem getVolumesAccessibleByInitiatorCmd_eq :
    getVolumesAccessibleByInitiatorCmd a = sepJoin ' ' ["lshostvdiskmap", "-delim", "!", a] := by
  simp only [getVolumesAccessibleByInitiatorCmd, sepJoin, String.append_assoc]; rfl

theorem getInitiatorsGrantedToVolumeCmd_eq :
    getInitiatorsGrantedToVolumeCmd a = sepJoin ' ' ["lsvdiskhostmap", "-delim", "!", a] := by
  simp only [getInitiatorsGrantedToVolumeCmd, sepJoin, String.append_assoc]; rfl

theorem initiatorCreateCmd_eq : initiatorCreateCmd a b = sepJoin ' ' ["mkhost", a, b] := by
  simp only [initiatorCreateCmd, sepJoin, String.append_assoc]; rfl

theorem initiatorGrantCmd_eq :
    initiatorGrantCmd force a b = sepJoin ' ' ["mkvdiskhostmap", forceSlot force, "-host", a, b] := by
  simp only [initiatorGrantCmd, forceSlot, sepJoin, String.append_assoc]; rfl

theorem initiatorDeleteCmd_eq :
    initiatorDeleteCmd force a = sepJoin ' ' ["rmhost", forceSlot force, a] := by
  simp only [initiatorDeleteCmd, forceSlot, sepJoin, String.append_assoc]; rfl

theorem initiatorRevokeCmd_eq :
    initiatorRevokeCmd a b = sepJoin ' ' ["rmvdiskhostmap", "-host", a, b] := by
  simp only [initiatorRevokeCmd, sepJoin, String.append_assoc]; rfl

end Words

/-! ## Numbers are words -/

/-- The characters `str` of an integer is made of. -/
def numeralChars : List Char :=
  ['-', '0', '1', '2', '3', '4', '5', '6', '7', '8', '9', 'a', 'b', 'c', 'd', 'e', 'f', '*']

/-- A non-empty text of numeral characters. -/
def IsNumeral (t : List Char) : Prop := t ≠ [] ∧ ∀ c ∈ t, c ∈ numeralChars

theorem digitChar_mem (k : Nat) : Nat.digitChar k ∈ numeralChars := by
  rcases Nat.lt_or_ge k 16 with h | h
  · interval_cases k <;> decide
  · simp (disch := omega) only [Nat.digitChar, if_neg]
    decide

theorem isNumeral_toDigitsCore (b : Nat) : ∀ (fuel n : Nat) {ds : List Char}, IsNumeral ds →
    IsNumeral (Nat.toDigitsCore b fuel n ds)
  | 0, _, _, h => h
  | fuel + 1, n, ds, h => by
    have hd : IsNumeral (Nat.digitChar (n % b) :: ds) :=
      ⟨List.cons_ne_nil _ _, by simpa [digitChar_mem] using h.2⟩
    simp only [Nat.toDigitsCore]
    split
    · exact hd
    · exact isNumeral_toDigitsCore b fuel _ hd

theorem isNumeral_natToString (n : Nat) : IsNumeral (toString n).data := by
  have h1 : IsNumeral [Nat.digitChar (n % 10)] :=
    ⟨List.cons_ne_nil _ _, by simp [digitChar_mem]⟩
  show IsNumeral (Nat.toDigitsCore 10 (n + 1) n [])
  simp only [Nat.toDigitsCore]
  split
  · exact h1
  · exact isNumeral_toDigitsCore 10 n _ h1

theorem isNumeral_intToString (n : Int) : IsNumeral (toString n).data := by
  cases n with
  | ofNat m => exact isNumeral_natToString m
  | negSucc m =>
    have h := isNumeral_natToString (m + 1)
    show IsNumeral ('-' :: (toString (m + 1)).data)
    exact ⟨List.cons_ne_nil _ _, by simpa [numeralChars] using h.2⟩

/-- The value of decimal digits read left to right, from `acc`. -/
def digitsValue (acc : Nat) : List Char → Nat
  | [] => acc
  | d :: ds => digitsValue (10 * acc + (d.toNat - 48)) ds

theorem digitsValue_cons (acc : Nat) (d : Char) (ds : List Char) :
    digitsValue acc (d :: ds) = digitsValue (10 * acc + (d.toNat - 48)) ds := rfl

theorem digitChar_toNat {k : Nat} (hk : k < 10) : (Nat.digitChar k).toNat - 48 = k := by
  interval_cases k <;> rfl

theorem digitsValue_toDigitsCore : ∀ (fuel n : Nat) (ds : List Char), n < fuel →
    digitsValue 0 (Nat.toDigitsCore 10 fuel n ds) = digitsValue n ds
  | 0, _, _, h => absurd h (Nat.not_lt_zero _)
  | fuel + 1, n, ds, h => by
    have hd := digitChar_toNat (Nat.mod_lt n (show 10 > 0 by decide))
    simp only [Nat.toDigitsCore]
    split
    · rw [digitsValue_cons, hd, Nat.mod_eq_of_lt (by omega)]
      simp
    · rw [digitsValue_toDigitsCore fuel (n / 10) _ (by omega), digitsValue_cons, hd]
      congr 1
      omega

/-- Distinct numbers print differently. -/
theorem isDigit_toDigitsCore : ∀ (fuel n : Nat) {ds : List Char}, (∀ d ∈ ds, d.isDigit) →
    ∀ d ∈ Nat.toDigitsCore 10 fuel n ds, d.isDigit
  | 0, _, _, h => h
  | fuel + 1, n, ds, h => by
    have hc : (Nat.digitChar (n % 10)).isDigit := by
      have := Nat.mod_lt n (show 10 > 0 by decide)
      interval_cases n % 10 <;> rfl
    have hd : ∀ d ∈ Nat.digitChar (n % 10) :: ds, d.isDigit := by
      simpa [hc] using h
    simp only [Nat.toDigitsCore]
    split
    · exact hd
    · exact isDigit_toDigitsCore fuel _ hd

theorem isDigit_natToString (n : Nat) : ∀ d ∈ (toString n).data, d.isDigit :=
  isDigit_toDigitsCore (n + 1) n (fun _ h => nomatch h)

theorem digitsValue_natToString (n : Nat) : digitsValue 0 (toString n).data = n :=
  digitsValue_toDigitsCore (n + 1) n [] (Nat.lt_succ_self n)

theorem natToString_injective {a b : Nat} (h : toString a = toString b) : a = b := by
  have ha : digitsValue 0 (toString a).data = a :=
    digitsValue_toDigitsCore (a + 1) a [] (Nat.lt_succ_self a)
  have hb : digitsValue 0 (toString b).data = b :=
    digitsValue_toDigitsCore (b + 1) b [] (Nat.lt_succ_self b)
  rw [← ha, ← hb, h]

theorem IsNumeral.isWord {t : List Char} (h : IsNumeral t) : IsWord t :=
  ⟨h.1, fun c hc => (by decide : ∀ c ∈ numeralChars, isSpace c = false) c (h.2 c hc)⟩

theorem isWord_intToString (n : Int) : IsWord (toString n).data :=
  (isNumeral_intToString n).isWord

theorem IsNumeral.no_bang {t : List Char} (h : IsNumeral t) : '!' ∉ t ∧ '\n' ∉ t :=
  ⟨fun hc => absurd (h.2 _ hc) (by decide), fun hc => absurd (h.2 _ hc) (by decide)⟩

/-! ## The words of each command -/

/-- Whatever the type option and the initiator id, the command is a `mkhost`. -/
theorem splitWs_initiatorCreateCmd_head (a b : String) :
    splitWs (initiatorCreateCmd a b) = "mkhost" :: splitWs (sepJoin ' ' [a, b]) := by
  rw [initiatorCreateCmd_eq, splitWs_word_cons (by decide)]

section Split

variable {a b : String} (ha : IsWord a.data) (hb : IsWord b.data) (force : Bool)
include ha

theorem splitWs_getVolumeCmd : splitWs (getVolumeCmd a) = ["lsvdisk", "-bytes", "-delim", "!", a] := by
  rw [getVolumeCmd_eq]
  simp (disch := first | decide | assumption) only [splitWs_word_cons, splitWs_single]

theorem splitWs_getInitiatorCmd : splitWs (getInitiatorCmd a) = ["lshost", "-delim", "!", a] := by
  rw [getInitiatorCmd_eq]
  simp (disch := first | decide | assumption) only [splitWs_word_cons, splitWs_single]

theorem splitWs_getVolumesAccessibleByInitiatorCmd :
    splitWs (getVolumesAccessibleByInitiatorCmd a) = ["lshostvdiskmap", "-delim", "!", a] := by
  rw [getVolumesAccessibleByInitiatorCmd_eq]
  simp (disch := first | decide | assumption) only [splitWs_word_cons, splitWs_single]

theorem splitWs_getInitiatorsGrantedToVolumeCmd :
    splitWs (getInitiatorsGrantedToVolumeCmd a) = ["lsvdiskhostmap", "-delim", "!", a] := by
  rw [getInitiatorsGrantedToVolumeCmd_eq]
  simp (disch := first | decide | assumption) only [splitWs_word_cons, splitWs_single]

theorem splitWs_deleteVolumeCmd :
    splitWs (deleteVolumeCmd force a) = "rmvdisk" :: (if force then ["-force"] else []) ++ [a] := by
  rw [deleteVolumeCmd_eq]
  cases force <;> simp (disch := first | decide | assumption) only [forceSlot, splitWs_word_cons,
    splitWs_single, splitWs_empty_cons, ↓reduceIte, Bool.false_eq_true, List.cons_append,
    List.nil_append]

theorem splitWs_initiatorDeleteCmd :
    splitWs (initiatorDeleteCmd force a) = "rmhost" :: (if force then ["-force"] else []) ++ [a] := by
  rw [initiatorDeleteCmd_eq]
  cases force <;> simp (disch := first | decide | assumption) only [forceSlot, splitWs_word_cons,
    splitWs_single, splitWs_empty_cons, ↓reduceIte, Bool.false_eq_true, List.cons_append,
    List.nil_append]

include hb

theorem splitWs_initiatorCreateCmd : splitWs (initiatorCreateCmd a b) = ["mkhost", a, b] := by
  rw [initiatorCreateCmd_eq]
  simp (disch := first | decide | assumption) only [splitWs_word_cons, splitWs_single]

theorem splitWs_initiatorRevokeCmd :
    splitWs (initiatorRevokeCmd a b) = ["rmvdiskhostmap", "-host", a, b] := by
  rw [initiatorRevokeCmd_eq]
  simp (disch := first | decide | assumption) only [splitWs_word_cons, splitWs_single]

theorem splitWs_initiatorGrantCmd : splitWs (initiatorGrantCmd force a b) =
    "mkvdiskhostmap" :: (if force then ["-force"] else []) ++ ["-host", a, b] := by
  rw [initiatorGrantCmd_eq]
  cases force <;> simp (disch := first | decide | assumption) only [forceSlot, splitWs_word_cons,
    splitWs_single, splitWs_empty_cons, ↓reduceIte, Bool.false_eq_true, List.cons_append,
    List.nil_append]

theorem splitWs_createVolumeCmd (sizeBytes : Int) (prov : Provisioning) :
    splitWs (createVolumeCmd a b sizeBytes prov) = ["mkvdisk", "-name", a, "-mdiskgrp", b,
      "-iogrp", "0", "-size", toString sizeBytes, "-unit", "b"] ++
      if prov = .thin then ["-rsize", "5%", "-warning", "0", "-autoexpand"] else [] := by
  have hsize := isWord_intToString sizeBytes
  rw [createVolumeCmd_eq]
  split <;> simp (disch := first | decide | assumption) only [splitWs_word_cons, splitWs_single,
    List.cons_append, List.nil_append, List.append_nil]

end Split

/-- When each value pasted into a command is one word, the words of every
command the plugin builds are the command, its fixed options and each value
in its place. -/
theorem commands_split {volName pool volume hostId initId volId : String}
    (hname : IsWord volName.data) (hpool : IsWord pool.data) (hvolume : IsWord volume.data)
    (hhost : IsWord hostId.data) (hinit : IsWord initId.data) (hvolId : IsWord volId.data)
    (sizeBytes : Int) (prov : Provisioning) (force : Bool) :
    splitWs (createVolumeCmd volName pool sizeBytes prov) = ["mkvdisk", "-name", volName,
      "-mdiskgrp", pool, "-iogrp", "0", "-size", toString sizeBytes, "-unit", "b"] ++
      (if prov = .thin then ["-rsize", "5%", "-warning", "0", "-autoexpand"] else []) ∧
    splitWs (deleteVolumeCmd force volume) =
      "rmvdisk" :: (if force then ["-force"] else []) ++ [volume] ∧
    splitWs (getVolumeCmd volume) = ["lsvdisk", "-bytes", "-delim", "!", volume] ∧
    splitWs (getInitiatorCmd hostId) = ["lshost", "-delim", "!", hostId] ∧
    splitWs (initiatorCreateCmd "-hbawwpn" initId) = ["mkhost", "-hbawwpn", initId] ∧
    splitWs (initiatorCreateCmd "-iscsiname" initId) = ["mkhost", "-iscsiname", initId] ∧
    splitWs (initiatorGrantCmd force hostId volId) =
      "mkvdiskhostmap" :: (if force then ["-force"] else []) ++ ["-host", hostId, volId] ∧
    splitWs (initiatorRevokeCmd hostId volId) = ["rmvdiskhostmap", "-host", hostId, volId] ∧
    splitWs (initiatorDeleteCmd force hostId) =
      "rmhost" :: (if force then ["-force"] else []) ++ [hostId] :=
  ⟨splitWs_createVolumeCmd hname hpool sizeBytes prov, splitWs_deleteVolumeCmd hvolume force,
    splitWs_getVolumeCmd hvolume, splitWs_getInitiatorCmd hhost,
    splitWs_initiatorCreateCmd (by decide) hinit, splitWs_initiatorCreateCmd (by decide) hinit,
    splitWs_initiatorGrantCmd hhost hvolId force, splitWs_initiatorRevokeCmd hhost hvolId,
    splitWs_initiatorDeleteCmd hhost force⟩

theorem commands_split_vol1 :
    splitWs (createVolumeCmd "vol1" "0" 1073741824 .thin) = ["mkvdisk", "-name", "vol1",
      "-mdiskgrp", "0", "-iogrp", "0", "-size", "1073741824", "-unit", "b",
      "-rsize", "5%", "-warning", "0", "-autoexpand"] ∧
    splitWs (deleteVolumeCmd true "vol1") = ["rmvdisk", "-force", "vol1"] ∧
    splitWs (getVolumeCmd "vol1") = ["lsvdisk", "-bytes", "-delim", "!", "vol1"] ∧
    splitWs (getInitiatorCmd "3") = ["lshost", "-delim", "!", "3"] ∧
    splitWs (initiatorCreateCmd "-hbawwpn" "210100E08B251DD4") =
      ["mkhost", "-hbawwpn", "210100E08B251DD4"] ∧
    splitWs (initiatorCreateCmd "-iscsiname" "210100E08B251DD4") =
      ["mkhost", "-iscsiname", "210100E08B251DD4"] ∧
    splitWs (initiatorGrantCmd true "3" "7") = ["mkvdiskhostmap", "-force", "-host", "3", "7"] ∧
    splitWs (initiatorRevokeCmd "3" "7") = ["rmvdiskhostmap", "-host", "3", "7"] ∧
    splitWs (initiatorDeleteCmd true "3") = ["rmhost", "-force", "3"] :=
  commands_split (by decide) (by decide) (by decide) (by decide) (by decide) (by decide)
    1073741824 .thin true

/-- A volume name holding a space is pasted as two words: the array is asked
for a volume named `my`, with a stray positional word `vol`. -/
theorem createVolumeCmd_spaced_name :
    splitWs (createVolumeCmd "my vol" "0" 1073741824 .full) = ["mkvdisk", "-name", "my", "vol",
      "-mdiskgrp", "0", "-iogrp", "0", "-size", "1073741824", "-unit", "b"] := by
  decide

end LibStorageMgmt.V7k

import LibStorageMgmt.Py.Value

/-!
# Reading the CLI's `-delim !` views

What `_execute_command_and_parse_detailed` and
`_execute_command_and_parse_concise` make of a command's stdout (the command
itself runs in `IbmV7k`). A detailed view is one `name!value` line per
attribute; a concise view is a header line of names and one line of values
per object, each cut at every `!`.

Both read back what the array prints, as long as what it prints is a table:
names pairwise distinct, each holding a character other than whitespace, and
no field holding a line break or (but for a detailed value) a `!`
(`parseDetailed_unlines`, `parseConcise_unlines`). A concise row with fewer
values than the header has names raises `IndexError` (`parseRow_short`).
-/

namespace LibStorageMgmt.V7k

open Py

/-- One turn of the loop of `_execute_command_and_parse_detailed`. -/
def parseDetailedLine (cmdOutput : Dict) (line : String) : Dict :=
  match partition '!' line with
  | (name, _, value) => if strip name = "" then cmdOutput else cmdOutput.set name value

/-- What `_execute_command_and_parse_detailed` builds from the command's
stdout. -/
def parseDetailed (stdout : String) : Dict :=
  if strip stdout = "" then []
  else
    let outputLines := split '\n' stdout
    if outputLines = [] then [] else outputLines.foldl parseDetailedLine []

/-- The inner loop of `_execute_command_and_parse_concise`: each name of the
header takes the value at its index in the row. -/
def parseRow (keylist valuelist : List String) : Except PyExc Dict :=
  go keylist 0 []
where
  go : List String → Nat → Dict → Except PyExc Dict
    | [], _, attributes => .ok attributes
    | key :: keys, valueindex, attributes => do
      let value ← subscript valuelist valueindex
      go keys (valueindex + 1) (attributes.set key value)

/-- What `_execute_command_and_parse_concise` builds from the command's
stdout: `cmd_output[lineindex]` for each line between the header and the last
line, in that order (the order in which Python 2 iterates a dictionary keyed
by `0, 1, 2, ...`). -/
def parseConcise (stdout : String) : Except PyExc (List Dict) :=
  if strip stdout = "" then .ok []
  else
    match split '\n' stdout with
    | [] => .ok []
    | headerLine :: rest =>
      let keylist := split '!' headerLine
      ((headerLine :: rest).drop 1).dropLast.mapM fun attribLine =>
        parseRow keylist (split '!' attribLine)

/-! ## Dictionaries built one new key at a time -/

theorem Dict.set_of_not_mem {d : Dict} {k : String} (v : String) (h : k ∉ d.map Prod.fst) :
    d.set k v = d ++ [(k, v)] := by
  have hc : d.contains k = false := by
    simp only [Dict.contains, List.any_eq_false, beq_iff_eq]
    exact fun p hp hpk => h (hpk ▸ List.mem_map_of_mem Prod.fst hp)
  simp [Dict.set, hc]

/-! ## Rows -/

theorem parseRow_go {valuelist : List String} :
    ∀ (keys : List String) (i : Nat) (acc : Dict), keys.length + i ≤ valuelist.length →
      keys.Nodup → (∀ k ∈ keys, k ∉ acc.map Prod.fst) →
      parseRow.go valuelist keys i acc = .ok (acc ++ keys.zip (valuelist.drop i))
  | [], _, acc, _, _, _ => by simp [parseRow.go]
  | k :: keys, i, acc, hlen, hnd, hfresh => by
    have hi : i < valuelist.length := by simp at hlen; omega
    have hk := hfresh k (List.mem_cons_self k keys)
    rw [List.nodup_cons] at hnd
    have ih := @parseRow_go valuelist keys (i + 1) (acc ++ [(k, valuelist[i])])
      (by simp at hlen ⊢; omega) hnd.2 fun k' hk' => by
        simpa [ne_of_mem_of_not_mem hk' hnd.1] using hfresh k' (List.mem_cons_of_mem k hk')
    simp only [parseRow.go, subscript, List.get?_eq_getElem?, List.getElem?_eq_getElem hi]
    show parseRow.go valuelist keys (i + 1) (acc.set k valuelist[i]) = _
    rw [Dict.set_of_not_mem _ hk, ih, List.drop_eq_getElem_cons hi, List.zip_cons_cons,
      List.append_assoc]
    rfl

/-- A row with as many values as the header has names pairs the names with
the values. -/
theorem parseRow_eq {keylist valuelist : List String} (hlen : keylist.length ≤ valuelist.length)
    (hnd : keylist.Nodup) : parseRow keylist valuelist = .ok (keylist.zip valuelist) := by
  simpa using parseRow_go keylist 0 [] (by simpa using hlen) hnd (by simp)

theorem parseRow_go_short {valuelist : List String} :
    ∀ (keys : List String) (i : Nat) (acc : Dict), valuelist.length < keys.length + i → i ≤ valuelist.length →
      parseRow.go valuelist keys i acc = .error .indexError
  | [], _, _, h, hi => by simp at h; omega
  | k :: keys, i, acc, h, hi => by
    rcases Nat.lt_or_ge i valuelist.length with hlt | hge
    · simp only [parseRow.go, subscript, List.get?_eq_getElem?, List.getElem?_eq_getElem hlt]
      exact @parseRow_go_short valuelist keys (i + 1) _ (by simp at h; omega) hlt
    · simp [parseRow.go, subscript, List.getElem?_eq_none hge]
      rfl

/-- A row with fewer values than the header has names raises `IndexError`. -/
theorem parseRow_short {keylist valuelist : List String} (h : valuelist.length < keylist.length) :
    parseRow keylist valuelist = .error .indexError :=
  parseRow_go_short keylist 0 [] (by simpa using h) (Nat.zero_le _)

/-! ## Round trips -/

/-- A field of a `-delim !` view: no `!` and no line break. -/
def IsField (t : String) : Prop := '!' ∉ t.data ∧ '\n' ∉ t.data

instance : DecidablePred IsField := fun t =>
  inferInstanceAs (Decidable ('!' ∉ t.data ∧ '\n' ∉ t.data))

/-- A name of a view: a field with a character other than whitespace. -/
def IsName (t : String) : Prop := IsField t ∧ ∃ c ∈ t.data, isSpace c = false

instance : DecidablePred IsName := fun t =>
  inferInstanceAs (Decidable (IsField t ∧ ∃ c ∈ t.data, isSpace c = false))

/-- A line of a detailed view. -/
def detailLine (attr : String × String) : String := attr.1 ++ "!" ++ attr.2

theorem detailLine_data (attr : String × String) :
    (detailLine attr).data = attr.1.data ++ '!' :: attr.2.data := by
  simp [detailLine]

theorem parseDetailedLine_detailLine {acc : Dict} {k : String} (v : String) (hk : IsName k)
    (hfresh : k ∉ acc.map Prod.fst) :
    parseDetailedLine acc (detailLine (k, v)) = acc ++ [(k, v)] := by
  rw [parseDetailedLine, partition_of_eq_append (detailLine_data (k, v)) hk.1.1]
  simp only [strip_ne_empty hk.2, if_false]
  exact Dict.set_of_not_mem v hfresh

theorem parseDetailedLine_foldl :
    ∀ (attrs acc : Dict), (∀ p ∈ attrs, IsName p.1) → (attrs.map Prod.fst).Nodup →
      (∀ p ∈ attrs, p.1 ∉ acc.map Prod.fst) →
      (attrs.map detailLine).foldl parseDetailedLine acc = acc ++ attrs
  | [], acc, _, _, _ => by simp
  | (k, v) :: attrs, acc, hname, hnd, hfresh => by
    rw [List.map_cons, List.nodup_cons] at hnd
    rw [List.map_cons, List.foldl_cons, parseDetailedLine_detailLine v (hname _ (List.mem_cons_self _ _))
      (hfresh _ (List.mem_cons_self _ _))]
    rw [parseDetailedLine_foldl attrs _ (fun p hp => hname p (List.mem_cons_of_mem _ hp)) hnd.2
      fun p hp => by
        have hk : p.1 ≠ k := fun h => hnd.1 (by simpa [h] using List.mem_map_of_mem Prod.fst hp)
        simpa [hk] using hfresh p (List.mem_cons_of_mem _ hp)]
    simp

theorem detailLines_no_newline {attrs : Dict} (hname : ∀ p ∈ attrs, IsName p.1)
    (hvalue : ∀ p ∈ attrs, '\n' ∉ p.2.data) : ∀ l ∈ attrs.map detailLine, '\n' ∉ l.data := by
  simp only [List.mem_map]
  rintro _ ⟨p, hp, rfl⟩ h
  rw [detailLine_data, List.mem_append, List.mem_cons] at h
  rcases h with h | h | h
  · exact (hname p hp).1.2 h
  · cases h
  · exact hvalue p hp h

/-- A stdout that cuts into the attributes' lines, and perhaps one empty line
after them, reads back as the attributes. -/
theorem parseDetailed_of_split {stdout : String} {attrs : Dict} (hstrip : strip stdout ≠ "")
    (hname : ∀ p ∈ attrs, IsName p.1) (hnd : (attrs.map Prod.fst).Nodup)
    (hsplit : split '\n' stdout = attrs.map detailLine ∨
      split '\n' stdout = attrs.map detailLine ++ [""]) :
    parseDetailed stdout = attrs := by
  have hfold := parseDetailedLine_foldl attrs [] hname hnd (by simp)
  rw [parseDetailed, if_neg hstrip]
  dsimp only
  rcases hsplit with h | h <;> rw [h]
  · split
    · exact (List.map_eq_nil_iff.mp ‹_›).symm
    · simpa using hfold
  · rw [if_neg (by simp), List.foldl_append, hfold]
    rfl

/-- A detailed view of attributes with distinct names, no name holding `!`
or a line break and no value a line break, reads back as those attributes. -/
theorem parseDetailed_unlines {attrs : Dict} (hne : attrs ≠ [])
    (hname : ∀ p ∈ attrs, IsName p.1) (hvalue : ∀ p ∈ attrs, '\n' ∉ p.2.data)
    (hnd : (attrs.map Prod.fst).Nodup) :
    parseDetailed (unlines (attrs.map detailLine)) = attrs := by
  obtain ⟨⟨k, v⟩, rest, rfl⟩ := List.exists_cons_of_ne_nil hne
  obtain ⟨c, hc, hsp⟩ := (hname _ (List.mem_cons_self _ _)).2
  refine parseDetailed_of_split (strip_ne_empty ⟨c, ?_, hsp⟩) hname hnd
    (.inr (split_unlines (detailLines_no_newline hname hvalue)))
  rw [List.map_cons, unlines_cons_data, detailLine_data]
  exact List.mem_append_left _ (List.mem_append_left _ hc)

/-- The same view with no line break after its last line. -/
theorem parseDetailed_sepJoin {attrs : Dict} (hne : attrs ≠ [])
    (hname : ∀ p ∈ attrs, IsName p.1) (hvalue : ∀ p ∈ attrs, '\n' ∉ p.2.data)
    (hnd : (attrs.map Prod.fst).Nodup) :
    parseDetailed (sepJoin '\n' (attrs.map detailLine)) = attrs := by
  obtain ⟨⟨k, v⟩, rest, rfl⟩ := List.exists_cons_of_ne_nil hne
  obtain ⟨c, hc, hsp⟩ := (hname _ (List.mem_cons_self _ _)).2
  refine parseDetailed_of_split (strip_ne_empty ⟨c, ?_, hsp⟩) hname hnd
    (.inl (split_sepJoin (by simp) (detailLines_no_newline hname hvalue)))
  refine mem_sepJoin_data_of_mem (List.mem_cons_self (detailLine (k, v)) _) ?_
  rw [detailLine_data]
  exact List.mem_append_left _ hc

/-- Every detailed view of attributes with distinct names, no name holding
`!` or a line break and no value a line break, its lines joined by line
breaks with or without one after the last, reads back as the attributes; so
does the view of no attribute. -/
theorem parseDetailed_view {attrs : Dict} (hname : ∀ p ∈ attrs, IsName p.1)
    (hvalue : ∀ p ∈ attrs, '\n' ∉ p.2.data) (hnd : (attrs.map Prod.fst).Nodup) {stdout : String}
    (hout : stdout = sepJoin '\n' (attrs.map detailLine) ∨
      stdout = sepJoin '\n' (attrs.map detailLine) ++ "\n") :
    parseDetailed stdout = attrs := by
  cases attrs with
  | nil => rcases hout with rfl | rfl <;> decide
  | cons a rest =>
    have hne : (a :: rest).map detailLine ≠ [] := List.cons_ne_nil _ _
    rcases hout with rfl | rfl
    · exact parseDetailed_sepJoin (List.cons_ne_nil a rest) hname hvalue hnd
    · rw [sepJoin_newline_append hne]
      exact parseDetailed_unlines (List.cons_ne_nil a rest) hname hvalue hnd

theorem not_mem_sepJoin_of_fields {sep c : Char} {ts : List String} (hc : c ≠ sep)
    (h : ∀ t ∈ ts, c ∉ t.data) : c ∉ (sepJoin sep ts).data := fun hm => by
  rcases mem_sepJoin_data hm with hm | ⟨t, ht, hm⟩
  · exact hc hm
  · exact h t ht hm

theorem mapM_parseRow {keys : List String} (hkeys : keys ≠ []) (hnd : keys.Nodup) :
    ∀ rows : List (List String), (∀ r ∈ rows, r.length = keys.length ∧ ∀ v ∈ r, IsField v) →
      (rows.map (sepJoin '!')).mapM (fun l => parseRow keys (split '!' l)) =
        .ok (rows.map keys.zip)
  | [], _ => rfl
  | r :: rows, h => by
    have hr := h r (List.mem_cons_self r rows)
    have hrne : r ≠ [] := fun he => hkeys (List.length_eq_zero.mp (by rw [← hr.1, he]; rfl))
    rw [List.map_cons, List.mapM_cons, split_sepJoin hrne fun v hv => (hr.2 v hv).1,
      parseRow_eq hr.1.ge hnd,
      mapM_parseRow hkeys hnd rows fun r' hr' => h r' (List.mem_cons_of_mem r hr')]
    rfl

/-- A concise view of rows each with a value for every name reads back as the
rows, each paired with the names. -/
theorem parseConcise_unlines {keys : List String} {rows : List (List String)} (hkeys : keys ≠ [])
    (hfield : ∀ k ∈ keys, IsField k) (hvis : ∃ k ∈ keys, ∃ c ∈ k.data, isSpace c = false)
    (hnd : keys.Nodup) (hrows : ∀ r ∈ rows, r.length = keys.length ∧ ∀ v ∈ r, IsField v) :
    parseConcise (unlines (sepJoin '!' keys :: rows.map (sepJoin '!'))) =
      .ok (rows.map keys.zip) := by
  have hlines : ∀ l ∈ sepJoin '!' keys :: rows.map (sepJoin '!'), '\n' ∉ l.data := by
    simp only [List.mem_cons, List.mem_map]
    rintro l (rfl | ⟨r, hr, rfl⟩)
    · exact not_mem_sepJoin_of_fields (by decide) fun k hk => (hfield k hk).2
    · exact not_mem_sepJoin_of_fields (by decide) fun v hv => ((hrows r hr).2 v hv).2
  have hstrip : strip (unlines (sepJoin '!' keys :: rows.map (sepJoin '!'))) ≠ "" := by
    obtain ⟨k, hk, c, hc, hsp⟩ := hvis
    refine strip_ne_empty ⟨c, ?_, hsp⟩
    rw [unlines_cons_data]
    exact List.mem_append_left _ (mem_sepJoin_data_of_mem hk hc)
  rw [parseConcise, if_neg hstrip, split_unlines hlines, List.cons_append]
  simp only [List.drop_succ_cons, List.drop_zero, List.dropLast_concat]
  rw [split_sepJoin hkeys fun k hk => (hfield k hk).1]
  exact mapM_parseRow hkeys hnd rows hrows

end LibStorageMgmt.V7k

import Mathlib.Data.List.Basic
import Mathlib.Data.List.Infix

/-!
# Python `str` operations

The string methods the client library and the v7k plugin call, written over
`String.data` so that their lemmas are list lemmas. Python 2's `str.split()`
and `str.strip()` cut at the six ASCII whitespace characters of `isSpace`; the
array's CLI reads a command line the same way.

* `split sep s` is `s.split(sep)` for a one-character separator: Mathlib's
  `List.splitOn`, which keeps the empty pieces between adjacent separators.
* `splitWs s` is `s.split()`: cut at every whitespace character and drop the
  empty pieces, so that runs of whitespace, and whitespace at either end,
  produce no word.
* `splitOnce sep s` is `s.split(sep, 1)`, `partition sep s` is
  `s.partition(sep)`, `strip s` is `s.strip()`, `sepJoin sep ts` is
  `sep.join(ts)` and `contains s t` is `t in s`.

`splitWs_sepJoin`: splitting words joined by single spaces gives the words
back, less the empty ones, provided no word holds whitespace; `split_sepJoin`
and `split_unlines` are the same round trips for a separator that no piece
holds.
-/

namespace LibStorageMgmt.Py

/-- The whitespace of Python 2's `str.split()` and `str.strip()`. -/
def isSpace (c : Char) : Bool :=
  c == ' ' || c == '\t' || c == '\n' || c == '\r' || c == '\x0b' || c == '\x0c'

/-- `s.split(sep)`. -/
def split (sep : Char) (s : String) : List String :=
  (s.data.splitOn sep).map String.mk

/-- `str.split()` on a character list: the maximal runs of non-whitespace. -/
def words (cs : List Char) : List (List Char) :=
  (cs.splitOnP isSpace).filter (fun w => !w.isEmpty)

/-- `s.split()`. -/
def splitWs (s : String) : List String :=
  (words s.data).map String.mk

/-- `s.split(sep, 1)`: the text before the first `sep` and the text after it,
or `[s]` when `sep` does not occur. -/
def splitOnce (sep : Char) (s : String) : List String :=
  match s.data.span (· != sep) with
  | (before, []) => [String.mk before]
  | (before, _ :: after) => [String.mk before, String.mk after]

/-- `s.partition(sep)`. -/
def partition (sep : Char) (s : String) : String × String × String :=
  match s.data.span (· != sep) with
  | (before, []) => (String.mk before, "", "")
  | (before, _ :: after) => (String.mk before, String.mk [sep], String.mk after)

/-- `s.strip()`. -/
def strip (s : String) : String :=
  String.mk ((s.data.dropWhile isSpace).reverse.dropWhile isSpace).reverse

/-- `sep.join(ts)` for a one-character separator. -/
def sepJoin (sep : Char) : List String → String
  | [] => ""
  | [t] => t
  | t :: ts => t ++ String.mk [sep] ++ sepJoin sep ts

/-- `''.join(line + '\n' for line in lines)`: each line followed by a line
break, as a command prints them. -/
def unlines : List String → String
  | [] => ""
  | line :: lines => line ++ "\n" ++ unlines lines

/-- `needle in s` for strings. -/
def contains (s needle : String) : Bool :=
  decide (needle.data <:+: s.data)

/-- `s.lower()` of a byte string: ASCII capitals become small letters. -/
def lower (s : String) : String := ⟨s.data.map Char.toLower⟩

/-! ## Joined texts -/

theorem sepJoin_cons_cons_data (sep : Char) (t t' : String) (ts : List String) :
    (sepJoin sep (t :: t' :: ts)).data = t.data ++ sep :: (sepJoin sep (t' :: ts)).data := by
  simp [sepJoin]

theorem unlines_cons_data (l : String) (ls : List String) :
    (unlines (l :: ls)).data = l.data ++ '\n' :: (unlines ls).data := by
  simp [unlines]

/-- Lines joined by line breaks, with one more after the last, are the lines
each ended by a line break. -/
theorem sepJoin_newline_append : ∀ {ls : List String}, ls ≠ [] →
    sepJoin '\n' ls ++ "\n" = unlines ls
  | [l], _ => by simp [sepJoin, unlines]
  | l :: l' :: ls, _ => by
    show l ++ "\n" ++ sepJoin '\n' (l' :: ls) ++ "\n" = _
    rw [String.append_assoc, sepJoin_newline_append (List.cons_ne_nil l' ls)]
    rfl

/-! ## Splitting at a separator -/

theorem splitOnP_append_cons {α : Type} {p : α → Bool} {c : α} (hc : p c)
    (xs ys : List α) :
    (xs ++ c :: ys).splitOnP p = xs.splitOnP p ++ ys.splitOnP p := by
  induction xs with
  | nil => simp [hc]
  | cons x xs ih =>
    by_cases hx : p x
    · simp [hx, ih]
    · obtain ⟨w, ws, hw⟩ := List.exists_cons_of_ne_nil (List.splitOnP_ne_nil p xs)
      simp [hx, ih, hw]

/-- A list with no separator in it is one piece. -/
theorem split_of_not_mem {sep : Char} {s : String} (h : sep ∉ s.data) :
    split sep s = [s] := by
  rw [split, List.splitOn, List.splitOnP_eq_single]
  · rfl
  · intro x hx hsep
    exact h (by simpa [beq_iff_eq.mp hsep] using hx)

/-- One separator between two separator-free pieces gives exactly the two
pieces. -/
theorem split_of_eq_append {sep : Char} {s : String} {a b : List Char}
    (hs : s.data = a ++ sep :: b) (ha : sep ∉ a) (hb : sep ∉ b) :
    split sep s = [String.mk a, String.mk b] := by
  have hfree : ∀ l : List Char, sep ∉ l → l.splitOn sep = [l] := fun l hl =>
    List.splitOnP_eq_single _ _ fun x hx hsep => hl (by simpa [beq_iff_eq.mp hsep] using hx)
  rw [split, hs, List.splitOn, splitOnP_append_cons (by simp), ← List.splitOn,
    ← List.splitOn, hfree a ha, hfree b hb]
  rfl

/-- Cutting at one separator cuts the two sides apart. -/
theorem split_append_sep {sep : Char} {s : String} {a b : List Char}
    (hs : s.data = a ++ sep :: b) : split sep s = split sep ⟨a⟩ ++ split sep ⟨b⟩ := by
  rw [split, hs, List.splitOn,
    @splitOnP_append_cons _ (fun x => x == sep) sep (beq_self_eq_true sep), List.map_append]
  rfl

theorem split_sepJoin {sep : Char} : ∀ {ts : List String}, ts ≠ [] → (∀ t ∈ ts, sep ∉ t.data) →
    split sep (sepJoin sep ts) = ts
  | [t], _, h => split_of_not_mem (h t (List.mem_singleton_self t))
  | t :: t' :: ts, _, h => by
    rw [split_append_sep (sepJoin_cons_cons_data sep t t' ts), split_of_not_mem (h t (List.mem_cons_self t _)),
      split_sepJoin (List.cons_ne_nil t' ts) fun u hu => h u (List.mem_cons_of_mem t hu)]
    rfl

theorem split_unlines : ∀ {lines : List String}, (∀ l ∈ lines, '\n' ∉ l.data) →
    split '\n' (unlines lines) = lines ++ [""]
  | [], _ => rfl
  | l :: ls, h => by
    rw [split_append_sep (unlines_cons_data l ls), split_of_not_mem (h l (List.mem_cons_self l _)),
      split_unlines fun u hu => h u (List.mem_cons_of_mem l hu)]
    rfl

/-- A character of a joined text is the separator or a character of a piece. -/
theorem mem_sepJoin_data {sep c : Char} : ∀ {ts : List String}, c ∈ (sepJoin sep ts).data →
    c = sep ∨ ∃ t ∈ ts, c ∈ t.data
  | [], h => absurd h (List.not_mem_nil c)
  | [t], h => .inr ⟨t, List.mem_singleton_self t, h⟩
  | t :: t' :: ts, h => by
    rw [sepJoin_cons_cons_data, List.mem_append, List.mem_cons] at h
    rcases h with h | h | h
    · exact .inr ⟨t, List.mem_cons_self t _, h⟩
    · exact .inl h
    · obtain h | ⟨u, hu, hc⟩ := mem_sepJoin_data h
      · exact .inl h
      · exact .inr ⟨u, List.mem_cons_of_mem t hu, hc⟩

theorem mem_sepJoin_data_of_mem {sep c : Char} {t : String} : ∀ {ts : List String}, t ∈ ts →
    c ∈ t.data → c ∈ (sepJoin sep ts).data
  | [u], ht, hc => by rw [List.mem_singleton.mp ht] at hc; exact hc
  | u :: u' :: us, ht, hc => by
    rw [sepJoin_cons_cons_data]
    rcases List.mem_cons.mp ht with rfl | ht
    · exact List.mem_append_left _ hc
    · exact List.mem_append_right _ (List.mem_cons_of_mem _ (mem_sepJoin_data_of_mem ht hc))

/-! ## Cutting at the first separator -/

section First

variable {sep : Char} {s : String} {a b : List Char}

/-- A list holding `sep` cuts at its first `sep`. -/
theorem exists_first_of_mem : ∀ {l : List Char}, sep ∈ l → ∃ a b, l = a ++ sep :: b ∧ sep ∉ a
  | c :: cs, h => by
    by_cases hc : c = sep
    · exact ⟨[], cs, by rw [hc]; rfl, List.not_mem_nil _⟩
    · obtain ⟨a, b, rfl, ha⟩ := exists_first_of_mem (List.mem_of_ne_of_mem (Ne.symm hc) h)
      exact ⟨c :: a, b, rfl, by simp [Ne.symm hc, ha]⟩

theorem span_of_eq_append (ha : sep ∉ a) : (a ++ sep :: b).span (· != sep) = (a, sep :: b) := by
  have hpos : ∀ c ∈ a, (c != sep) = true := fun c hc => bne_iff_ne.mpr fun h => ha (h ▸ hc)
  rw [List.span_eq_take_drop, List.takeWhile_append_of_pos hpos,
    List.dropWhile_append_of_pos hpos]
  simp

theorem span_of_not_mem (h : sep ∉ s.data) : s.data.span (· != sep) = (s.data, []) := by
  have hpos : ∀ c ∈ s.data, (c != sep) = true := fun c hc => bne_iff_ne.mpr fun h' => h (h' ▸ hc)
  rw [List.span_eq_take_drop, List.takeWhile_eq_self_iff.mpr hpos,
    List.dropWhile_eq_nil_iff.mpr hpos]

theorem splitOnce_of_eq_append (hs : s.data = a ++ sep :: b) (ha : sep ∉ a) :
    splitOnce sep s = [String.mk a, String.mk b] := by
  simp only [splitOnce, hs, span_of_eq_append ha]

theorem splitOnce_of_not_mem (h : sep ∉ s.data) : splitOnce sep s = [s] := by
  simp only [splitOnce, span_of_not_mem h]

theorem partition_of_eq_append (hs : s.data = a ++ sep :: b) (ha : sep ∉ a) :
    partition sep s = (String.mk a, String.mk [sep], String.mk b) := by
  simp only [partition, hs, span_of_eq_append ha]

theorem partition_of_not_mem (h : sep ∉ s.data) : partition sep s = (s, "", "") := by
  simp only [partition, span_of_not_mem h]

end First

/-- A text with a character other than whitespace does not strip to nothing. -/
theorem strip_ne_empty {s : String} (h : ∃ c ∈ s.data, isSpace c = false) : strip s ≠ "" := by
  obtain ⟨c, hc, hsp⟩ := h
  intro he
  have hnil : ((s.data.dropWhile isSpace).reverse.dropWhile isSpace).reverse = [] :=
    congrArg String.data he
  rw [List.reverse_eq_nil_iff, List.dropWhile_eq_nil_iff] at hnil
  have hdrop : s.data.dropWhile isSpace = [] := by
    by_contra hne
    have := List.head_dropWhile_not isSpace s.data hne
    rw [hnil _ (List.mem_reverse.mpr (List.head_mem hne))] at this
    cases this
  rw [List.dropWhile_eq_nil_iff] at hdrop
  rw [hdrop c hc] at hsp
  cases hsp

/-! ## Splitting at whitespace -/

/-- A token: a non-empty character list with no whitespace in it. -/
def IsWord (t : List Char) : Prop := t ≠ [] ∧ ∀ c ∈ t, isSpace c = false

instance : DecidablePred IsWord := fun t =>
  inferInstanceAs (Decidable (t ≠ [] ∧ ∀ c ∈ t, isSpace c = false))

@[simp] theorem words_nil : words [] = [] := rfl

theorem words_append_cons {c : Char} (hc : isSpace c) (xs ys : List Char) :
    words (xs ++ c :: ys) = words xs ++ words ys := by
  simp [words, splitOnP_append_cons hc]

/-- A whitespace-free piece is one word, or none when it is empty. -/
theorem words_of_no_space {t : List Char} (ht : ∀ c ∈ t, isSpace c = false) :
    words t = if t = [] then [] else [t] := by
  rw [words, List.splitOnP_eq_single _ _ (by simpa using ht)]
  cases t <;> simp

theorem words_of_isWord {t : List Char} (ht : IsWord t) : words t = [t] := by
  simp [words_of_no_space ht.2, ht.1]

theorem data_eq_nil_iff {t : String} : t.data = [] ↔ t = "" :=
  ⟨String.ext, fun h => h ▸ rfl⟩

theorem IsWord.ne_empty {t : String} (h : IsWord t.data) : t ≠ "" :=
  fun he => h.1 (data_eq_nil_iff.mpr he)

theorem words_sepJoin : ∀ ts : List String, (∀ t ∈ ts, ∀ c ∈ t.data, isSpace c = false) →
    words (sepJoin ' ' ts).data = (ts.filter (· ≠ "")).map String.data
  | [], _ => rfl
  | [t], h => by
    rw [sepJoin, words_of_no_space (h t (List.mem_singleton_self t))]
    by_cases ht : t = "" <;> simp [ht, data_eq_nil_iff]
  | t :: t' :: ts, h => by
    have ih := words_sepJoin (t' :: ts) fun u hu => h u (List.mem_cons_of_mem t hu)
    rw [sepJoin_cons_cons_data, words_append_cons (show isSpace ' ' = true from rfl), ih,
      words_of_no_space (h t (List.mem_cons_self t _))]
    by_cases ht : t = "" <;> simp [ht, data_eq_nil_iff, List.filter_cons]

/-- Splitting whitespace-free words joined by single spaces gives the words
back, less the empty ones. -/
theorem splitWs_sepJoin {ts : List String} (h : ∀ t ∈ ts, ∀ c ∈ t.data, isSpace c = false) :
    splitWs (sepJoin ' ' ts) = ts.filter (· ≠ "") := by
  simp [splitWs, words_sepJoin ts h, Function.comp_def]

/-- A word joined in front of others comes out of the split first. -/
theorem splitWs_word_cons {w : String} (hw : IsWord w.data) (t : String) (ts : List String) :
    splitWs (sepJoin ' ' (w :: t :: ts)) = w :: splitWs (sepJoin ' ' (t :: ts)) := by
  simp [splitWs, sepJoin_cons_cons_data, words_append_cons (show isSpace ' ' = true from rfl),
    words_of_isWord hw]

theorem splitWs_single {w : String} (hw : IsWord w.data) : splitWs (sepJoin ' ' [w]) = [w] := by
  simp [splitWs, sepJoin, words_of_isWord hw]

theorem forall_not_of_mem_splitOnP {α : Type} {p : α → Bool} :
    ∀ {xs w : List α}, w ∈ xs.splitOnP p → ∀ c ∈ w, p c = false
  | [], w, hw => by
    rw [List.splitOnP_nil, List.mem_singleton] at hw
    subst hw
    exact fun _ h => nomatch h
  | x :: xs, w, hw => by
    rw [List.splitOnP_cons] at hw
    split at hw
    · rcases List.mem_cons.mp hw with rfl | hw
      · exact fun _ h => nomatch h
      · exact forall_not_of_mem_splitOnP hw
    · next hx =>
      obtain ⟨w₀, ws, hsplit⟩ := List.exists_cons_of_ne_nil (List.splitOnP_ne_nil p xs)
      rw [hsplit, List.modifyHead_cons] at hw
      rcases List.mem_cons.mp hw with rfl | hw
      · intro c hc
        rcases List.mem_cons.mp hc with rfl | hc
        · simpa using hx
        · exact forall_not_of_mem_splitOnP (hsplit ▸ List.mem_cons_self _ _) c hc
      · exact forall_not_of_mem_splitOnP (hsplit ▸ List.mem_cons_of_mem _ hw)

/-- Every piece of `s.split()` is a word. -/
theorem isWord_of_mem_splitWs {s w : String} (hw : w ∈ splitWs s) : IsWord w.data := by
  obtain ⟨t, ht, rfl⟩ := List.mem_map.mp hw
  obtain ⟨ht, hne⟩ := List.mem_filter.mp ht
  exact ⟨by simpa using hne, forall_not_of_mem_splitOnP ht⟩

/-- An empty piece joined in front of others leaves no word. -/
theorem splitWs_empty_cons (t : String) (ts : List String) :
    splitWs (sepJoin ' ' ("" :: t :: ts)) = splitWs (sepJoin ' ' (t :: ts)) := by
  simp only [splitWs, sepJoin_cons_cons_data]
  exact congrArg _ (words_append_cons (show isSpace ' ' = true from rfl) [] _)

end LibStorageMgmt.Py

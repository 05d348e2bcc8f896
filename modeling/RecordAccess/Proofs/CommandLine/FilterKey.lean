import RecordAccess.Proofs.CommandLine.Filtering
import RecordAccess.Proofs.Text.Parts

/-!
# The keys of filters

A filter key is read twice: among the arguments, where the value is cut off after the characters of the
comparator, and in the query, where the comparator is found among its spellings. Both find the same
path. The spellings are tried from the longest on, so that the longest with which a key begins is taken
(`exists_longest`); and as a path does not begin with a character of a comparator, that is the one
which was written in front of it (`split_append`).

Among the arguments a comparator, a path and a value are parts of the text that is put together of them
(`Parts.of_written`), and a path is cut into its tables and its column (`ofText_intercalate`). The
headline `keys_read_alike` puts the readings side by side, over the eight spellings and the four
characters that they consist of.
-/

namespace RecordAccess
open CommandLine (isComparatorChar)

namespace Comparator

/-- What may stand in front of a path, and the comparator that it means. -/
def written : List (String × Comparator) := ("", eq) :: spellings

/-- The spellings of the comparators consist of the four marks. -/
lemma isComparatorChar_of_written :
    ∀ e ∈ written, ∀ c ∈ e.1.toList, isComparatorChar c = true := by
  have hall : ∀ e ∈ written, e.1.toList.all isComparatorChar = true := by decide
  exact fun e he => List.all_eq_true.1 (hall e he)

/-- Different comparators are written differently. -/
lemma eq_of_written : ∀ e ∈ written, ∀ e' ∈ written, e.1 = e'.1 → e.2 = e'.2 := by
  decide

/-- No spelling in the list is longer than one before it, so that the first that fits is the longest. -/
lemma spellings_descending :
    spellings.Pairwise fun e e' => e'.1.toList.length ≤ e.1.toList.length := by
  decide

/-- Of spellings that are tried from the longest on, the longest is found with which a key begins. -/
lemma exists_splitBy_longest {list : List (String × Comparator)}
    (hlist : list.Pairwise fun e e' => e'.1.toList.length ≤ e.1.toList.length) (key : List Char) :
    ∃ e ∈ ("", eq) :: list, ∃ rest, key = e.1.toList ++ rest ∧ splitBy list key = (e.2, rest) ∧
      ∀ e' ∈ list, e'.1.toList <+: key → e'.1.toList.length ≤ e.1.toList.length := by
  induction list with
  | nil => exact ⟨_, List.mem_cons_self, key, rfl, rfl, nofun⟩
  | cons first more ih =>
    obtain ⟨hfirst, hmore⟩ := List.pairwise_cons.1 hlist
    cases hstart : afterStart? first.1.toList key with
    | some rest =>
      refine ⟨first, by simp, rest, eq_append_of_afterStart? hstart, ?_, ?_⟩
      · rw [splitBy, hstart]
      · intro e' he' _
        obtain rfl | he' := List.mem_cons.1 he'
        · exact Nat.le_refl _
        · exact hfirst e' he'
    | none =>
      obtain ⟨e, he, rest, hkey, hsplit, hlongest⟩ := ih hmore
      refine ⟨e, ?_, rest, hkey, ?_, ?_⟩
      · obtain rfl | he := List.mem_cons.1 he
        · exact List.mem_cons_self
        · exact List.mem_cons_of_mem _ (List.mem_cons_of_mem _ he)
      · rw [splitBy, hstart, hsplit]
      · intro e' he' hprefix
        obtain rfl | he' := List.mem_cons.1 he'
        · obtain ⟨rest', rfl⟩ := hprefix
          rw [afterStart?_append] at hstart
          cases hstart
        · exact hlongest e' he' hprefix

/-- A key is cut after the longest of the spellings with which it begins. -/
lemma exists_longest (key : String) :
    ∃ e ∈ written, ∃ rest, key = e.1 ++ rest ∧ split key = (e.2, rest) ∧
      ∀ e' ∈ spellings, e'.1.toList <+: key.toList → e'.1.length ≤ e.1.length := by
  obtain ⟨e, he, rest, hkey, hsplit, hlongest⟩ :=
    exists_splitBy_longest spellings_descending key.toList
  refine ⟨e, he, String.ofList rest, ?_, ?_, ?_⟩
  · apply String.toList_inj.1
    rw [hkey, String.toList_append, String.toList_ofList]
  · rw [split, hsplit]
  · intro e' he' hprefix
    rw [← String.length_toList, ← String.length_toList]
    exact hlongest e' he' hprefix

/-- A comparator is found in front of a path that does not begin with a character of one. -/
lemma split_append {spelling path : String} {comparator : Comparator}
    (hwritten : (spelling, comparator) ∈ written)
    (hpath : ∀ c ∈ path.toList.head?, isComparatorChar c = false) :
    split (spelling ++ path) = (comparator, path) := by
  obtain ⟨e, he, rest, hkey, hsplit, hlongest⟩ := exists_longest (spelling ++ path)
  have hchars : spelling.toList ++ path.toList = e.1.toList ++ rest.toList := by
    rw [← String.toList_append, hkey, String.toList_append]
  have hle : spelling.toList.length ≤ e.1.toList.length := by
    obtain heq | hspelling := List.mem_cons.1 hwritten
    · cases heq
      exact Nat.zero_le _
    · rw [String.length_toList, String.length_toList]
      apply hlongest _ hspelling
      rw [String.toList_append]
      exact List.prefix_append _ _
  -- what is found begins with what was written, and goes on with characters of a comparator
  obtain ⟨more, hmore⟩ : spelling.toList <+: e.1.toList := by
    apply List.prefix_of_prefix_length_le (List.prefix_append _ path.toList) _ hle
    rw [hchars]
    exact List.prefix_append _ _
  cases more with
  | nil =>
    have hspelling : spelling = e.1 := String.toList_inj.1 (by simpa using hmore)
    have hrest : path = rest := by
      rw [hspelling] at hchars
      exact String.toList_inj.1 (List.append_cancel_left hchars)
    have hcomparator : comparator = e.2 := eq_of_written _ hwritten e he hspelling
    rw [hsplit, hrest, hcomparator]
  | cons c more =>
    have hhead : path.toList.head? = some c := by
      rw [← hmore, List.append_assoc] at hchars
      rw [List.append_cancel_left hchars, List.cons_append, List.head?_cons]
    have hc := isComparatorChar_of_written e he c (by simp [← hmore])
    rw [hpath c hhead] at hc
    cases hc

end Comparator

/-- A text without the mark is not cut. -/
lemma cutAtLast?_eq_none {mark : Char} {cs : List Char} (h : ¬ mark ∈ cs) :
    cutAtLast? mark cs = none := by
  induction cs with
  | nil => rfl
  | cons c cs ih =>
    obtain ⟨hc, hcs⟩ := List.ne_and_not_mem_of_not_mem_cons h
    rw [cutAtLast?, ih hcs]
    exact if_neg fun heq => hc heq.symm

/-- A text is cut at the mark after which there is none. -/
lemma cutAtLast?_append {mark : Char} {after : List Char} (h : ¬ mark ∈ after)
    (before : List Char) : cutAtLast? mark (before ++ mark :: after) = some (before, after) := by
  induction before with
  | nil => simp [cutAtLast?, cutAtLast?_eq_none h]
  | cons c before ih => rw [List.cons_append, cutAtLast?, ih]

/-- A path of names and a column, parted by dots, has as its tables the names that are not empty. -/
lemma FieldPath.ofText_intercalate {names : List String} {column : String}
    (hnames : ∀ name ∈ names, ¬ '.' ∈ name.toList) (hcolumn : ¬ '.' ∈ column.toList) :
    FieldPath.ofText (".".intercalate (names ++ [column])) =
      ⟨(names.filter fun name => name ≠ "").map lowercase, column⟩ := by
  by_cases hnil : names = []
  · rw [hnil, List.nil_append, String.intercalate_singleton, ofText, cutAtLast?_eq_none hcolumn]
    rfl
  · have htext : (".".intercalate (names ++ [column])).toList =
        ['.'].intercalate (names.map String.toList) ++ '.' :: column.toList := by
      rw [String.intercalate_append_of_ne_nil hnil (by simp), String.intercalate_singleton,
        String.toList_append, String.toList_append, String.toList_intercalate]
      simp
    have hparts : ∀ part ∈ names.map String.toList, '.' ∉ part := by
      intro part hpart
      obtain ⟨name, hname, rfl⟩ := List.mem_map.1 hpart
      exact hnames name hname
    have hsplit : splitAt '.' (['.'].intercalate (names.map String.toList)) =
        names.map String.toList := by
      rw [splitAt_eq, List.splitOn_intercalate '.' hparts (by simpa using hnil)]
    have hempty (name : String) : name.toList.isEmpty = decide (name = "") := by
      rw [Bool.eq_iff_iff, List.isEmpty_iff, String.toList_eq_nil_iff, decide_eq_true_iff]
    rw [ofText, htext, cutAtLast?_append hcolumn]
    simp [hsplit, List.filter_map, Function.comp_def, hempty]

namespace CommandLine

/-- The characters of comparators. -/
lemma isComparatorChar_eq : isComparatorChar = fun c => decide (c ∈ ['=', '!', '<', '>']) := by
  funext c
  simp [isComparatorChar, Bool.decide_or, Bool.or_assoc]

/-- A comparator and a path, an equals sign and a value are a key and a value. -/
lemma Parts.of_written {spelling path : String} {comparator : Comparator}
    (hwritten : (spelling, comparator) ∈ Comparator.written) (hne : path ≠ "")
    (hpath : ¬ '=' ∈ path.toList) (hhead : ∀ c ∈ path.toList.head?, isComparatorChar c = false)
    (value : String) : Parts (spelling ++ path ++ "=" ++ value) (spelling ++ path) value := by
  cases hchars : path.toList with
  | nil => exact absurd (String.toList_eq_nil_iff.1 hchars) hne
  | cons c rest =>
    refine ⟨rfl, spelling.toList, c, rest, ?_, ?_, ?_, ?_⟩
    · rw [String.toList_append, hchars]
    · exact Comparator.isComparatorChar_of_written _ hwritten
    · exact hhead c (by rw [hchars]; rfl)
    · rw [hchars] at hpath
      exact (List.ne_and_not_mem_of_not_mem_cons hpath).2

/-- After the characters of comparators a key goes on, and without an equals sign. -/
lemma Parts.dropWhile_key {text key value : String} (h : Parts text key value) :
    ∃ c path, key.toList.dropWhile isComparatorChar = c :: path ∧ ¬ '=' ∈ c :: path := by
  obtain ⟨-, comparator, c, path, hkey, hcomparator, hc, hpath⟩ := h
  refine ⟨c, path, ?_, not_mem_cons_of_not_comparator hc hpath⟩
  rw [hkey, List.dropWhile_append_of_pos hcomparator, List.dropWhile_cons_of_neg (by simp [hc])]

/-- A key that is written as a comparator and a path is read so among the arguments and in the query,
and the path as its tables and its column. An argument that is read as a key and a value consists of
these, and its key has a path. The comparator of every key is that of the longest of the eight spellings
with which the key begins, and equality if it begins with none. -/
theorem keys_read_alike :
    let spellings : List (String × Comparator) :=
      [("==", .eq), ("!=", .ne), ("<=", .le), (">=", .ge), ("=", .eq), ("!", .ne), ("<", .lt),
        (">", .gt)]
    let marks : List Char := ['=', '!', '<', '>']
    (∀ (spelling path value : String) (comparator : Comparator),
      (spelling, comparator) ∈ ("", .eq) :: spellings →
      path ≠ "" → ¬ '=' ∈ path.toList →
      (∀ c ∈ path.toList.head?, c ∉ marks) →
      splitFilter? (spelling ++ path ++ "=" ++ value) = some (spelling ++ path, value) ∧
        Comparator.split (spelling ++ path) = (comparator, path) ∧
        ∀ (names : List String) (column : String),
          (∀ name ∈ names, ¬ '.' ∈ name.toList) → ¬ '.' ∈ column.toList →
          path = ".".intercalate (names ++ [column]) →
          FieldPath.ofText path = ⟨(names.filter fun name => name ≠ "").map lowercase, column⟩) ∧
    (∀ text key value : String, splitFilter? text = some (key, value) →
      text = key ++ "=" ++ value ∧
        key.toList.dropWhile (fun c => c ∈ marks) ≠ [] ∧
        ¬ '=' ∈ key.toList.dropWhile fun c => c ∈ marks) ∧
    ∀ key : String, ∃ e ∈ ("", .eq) :: spellings, ∃ rest,
      key = e.1 ++ rest ∧ Comparator.split key = (e.2, rest) ∧
        ∀ e' ∈ spellings, e'.1.toList <+: key.toList → e'.1.length ≤ e.1.length := by
  intro spellings marks
  refine ⟨?_, ?_, Comparator.exists_longest⟩
  · intro spelling path value comparator hwritten hne hpath hmarks
    have hhead : ∀ c ∈ path.toList.head?, isComparatorChar c = false := by
      intro c hc
      rw [isComparatorChar_eq, decide_eq_false_iff_not]
      exact hmarks c hc
    have hparts := Parts.of_written hwritten hne hpath hhead value
    refine ⟨splitFilter?_eq_some.2 hparts, Comparator.split_append hwritten hhead, ?_⟩
    rintro names column hnames hcolumn rfl
    exact FieldPath.ofText_intercalate hnames hcolumn
  · intro text key value h
    have hparts := splitFilter?_eq_some.1 h
    obtain ⟨c, path, hdrop, hequals⟩ := hparts.dropWhile_key
    rw [isComparatorChar_eq] at hdrop
    rw [hdrop]
    exact ⟨hparts.text_eq, List.cons_ne_nil c path, hequals⟩

/-- A comparator that begins like another one, a path with an empty name, and a value with the character
that ends a key. -/
theorem keys_read_alike_plant :
    splitFilter? ">=Maker..Plant.qty=a=b" = some (">=Maker..Plant.qty", "a=b") ∧
      Comparator.split ">=Maker..Plant.qty" = (.ge, "Maker..Plant.qty") ∧
      FieldPath.ofText "Maker..Plant.qty" = ⟨["maker", "plant"], "qty"⟩ ∧
      ">=Maker..Plant.qty=a=b" = ">=Maker..Plant.qty" ++ "=" ++ "a=b" ∧
      ">=Maker..Plant.qty".toList.dropWhile (fun c => c ∈ ['=', '!', '<', '>']) ≠ [] := by
  obtain ⟨hwritten, hread, -⟩ := keys_read_alike
  obtain ⟨hsplit, hcomparator, hpaths⟩ := hwritten ">=" "Maker..Plant.qty" "a=b" .ge
    (by decide) (by decide) (by decide) (fun c hc => Option.some.inj hc ▸ by decide)
  have hpath := hpaths ["Maker", "", "Plant"] "qty" (by decide) (by decide) (by decide)
  have hnames : (["Maker", "", "Plant"].filter fun name => name ≠ "").map lowercase =
      ["maker", "plant"] := by
    decide +kernel
  have hkey : ">=" ++ "Maker..Plant.qty" = ">=Maker..Plant.qty" := by decide
  have htext : ">=Maker..Plant.qty" ++ "=" ++ "a=b" = ">=Maker..Plant.qty=a=b" := by decide
  rw [hkey] at hsplit hcomparator
  rw [htext] at hsplit
  obtain ⟨hjoined, hrest, -⟩ := hread _ _ _ hsplit
  exact ⟨hsplit, hcomparator, hnames ▸ hpath, hjoined, hrest⟩

end CommandLine
end RecordAccess

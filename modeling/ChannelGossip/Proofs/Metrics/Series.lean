import ChannelGossip.Proofs.Metrics.Counter
import ChannelGossip.Proofs.Text.Numeral

/-! # Series in text

In the text of a counter a series is told from every other by what stands before its number,
whatever the values of its labels are, and no value breaks a line.  Main statements:

* `row_inj`   a line of a counter shows one series and one number
* `seriesText_eq_iff`   series of different counters, or with other labels, are written differently
* `series_never_collide`   each series of a counter has one line of its own -/

namespace ChannelGossip

namespace CounterName

/-- `all` lists all counters. -/
theorem mem_all (name : CounterName) : name ∈ all := by
  cases name <;> decide

/-- `series` gives different counters different names. -/
theorem series_inj {a b : CounterName} : a.series = b.series ↔ a = b := by
  have hall : ∀ a ∈ all, ∀ b ∈ all, a.series = b.series → a = b := by decide
  constructor
  · exact hall a a.mem_all b b.mem_all
  · rintro rfl
    rfl

/-- No name of `series` has a brace in it. -/
theorem brace_notMem_series (name : CounterName) : '{' ∉ name.series.toList := by
  cases name <;> decide

end CounterName

namespace Counter

variable {additions : List (Labels × UInt64)} {labels labels' : Labels} {name name' : String}

/-- A series in text: the name of a counter, and labels in braces. -/
def seriesText (name labels : String) : String := name ++ "\x7b" ++ labels ++ "\x7d"

/-- The line that shows a number for a series. -/
def row (name labels : String) (n : Nat) : String := seriesText name labels ++ " " ++ toString n

/-! ## One line -/

/-- The characters of `seriesText`. -/
theorem toList_seriesText (name labels : String) :
    (seriesText name labels).toList = name.toList ++ '{' :: (labels.toList ++ ['}']) := by
  simp [seriesText]

/-- The characters of `row`. -/
theorem toList_row (name labels : String) (n : Nat) :
    (row name labels n).toList = (seriesText name labels).toList ++ ' ' :: Nat.toDigits 10 n := by
  simp [row]

/-- Labels are told from `seriesText`. -/
theorem seriesText_inj {name text text' : String} :
    seriesText name text = seriesText name text' ↔ text = text' := by
  simp only [← String.toList_inj, toList_seriesText, List.append_cancel_left_eq, List.cons.injEq,
    true_and, List.append_cancel_right_eq]

/-- `seriesText` is different if the counters are different or their labels, as long as no brace is
    in the names of the counters. -/
theorem seriesText_eq_iff (hname : '{' ∉ name.toList) (hname' : '{' ∉ name'.toList)
    (h : labels.HasPlainNames) (h' : labels'.HasPlainNames) :
    seriesText name labels.sorted.render = seriesText name' labels'.sorted.render ↔
      name = name' ∧ labels.Perm labels' := by
  constructor
  · intro heq
    have hchars := congrArg String.toList heq
    rw [toList_seriesText, toList_seriesText] at hchars
    -- The name ends at the first brace.
    obtain rfl := String.toList_inj.1 (Text.append_cons_inj hname hname' hchars).1
    exact ⟨rfl, (Labels.render_sorted_eq_iff h h').1 (seriesText_inj.1 heq)⟩
  · rintro ⟨rfl, hperm⟩
    rw [(Labels.render_sorted_eq_iff h h').2 hperm]

/-- A `row` shows one series and one number. -/
theorem row_inj {text text' : String} {n n' : Nat} (h : row name text n = row name' text' n') :
    seriesText name text = seriesText name' text' ∧ n = n' := by
  have hchars := congrArg String.toList h
  rw [toList_row, toList_row] at hchars
  -- The number stands behind the last blank.
  obtain ⟨hseries, hdigits⟩ := Text.append_cons_inj_last (Text.Numeral.notMem_toDigits rfl n)
    (Text.Numeral.notMem_toDigits rfl n') hchars
  exact ⟨String.toList_inj.1 hseries, Text.Numeral.toDigits_inj hdigits⟩

/-- The line with the type of a counter is no `row`. -/
theorem type_ne_row {text : String} {n : Nat} : s!"# TYPE {name} counter" ≠ row name' text n := by
  intro h
  have htype : ("# TYPE " ++ name ++ " counter").toList =
      ("# TYPE ".toList ++ name.toList) ++ ' ' :: "counter".toList := by
    simp
  have hchars : ("# TYPE " ++ name ++ " counter").toList = (row name' text n).toList :=
    congrArg String.toList h
  rw [toList_row, htype] at hchars
  -- Behind the last blank there is a word, and not a number.
  obtain ⟨-, hdigits⟩ := Text.append_cons_inj_last (by decide)
    (Text.Numeral.notMem_toDigits rfl n) hchars
  have hletter := Text.Numeral.notMem_toDigits (c := 'c') rfl n
  rw [← hdigits] at hletter
  exact hletter (by decide)

/-- A `row` has no line break inside if none is in the name and in the labels. -/
theorem newline_notMem_row {text : String} (hname : '\n' ∉ name.toList) (htext : '\n' ∉ text.toList)
    (n : Nat) : '\n' ∉ (row name text n).toList := by
  have hdigits := Text.Numeral.notMem_toDigits (c := '\n') rfl n
  simp [toList_row, toList_seriesText, hname, htext, hdigits]

/-! ## All lines -/

/-- The text of each series of a counter, with its number. -/
def rows (c : Counter) : List (String × UInt64) :=
  (c.cells.entries.map fun (labels, n) => (labels.render, n)).mergeSort rowPrecedes

/-- Behind its type `render` writes a `row` for each of the series of a counter. -/
theorem render_eq (c : Counter) (name : String) :
    c.render name =
      s!"# TYPE {name} counter" :: c.rows.map fun (text, n) => row name text n.toNat := by
  have hrow : ∀ (text : String) (n : UInt64),
      name ++ "\x7b" ++ text ++ "\x7d " ++ toString n.toNat = row name text n.toNat := by
    intro text n
    rw [← String.toList_inj]
    simp [row, seriesText]
  simp only [render, rows, hrow]

/-- A counter has one of `rows` for each set of labels that was counted. -/
theorem mem_rows_ofAdditions_iff {text : String} {n : UInt64} :
    (text, n) ∈ (ofAdditions additions).rows ↔
      ∃ addition ∈ additions, addition.1.sorted.render = text ∧
        (ofAdditions additions).get addition.1 = n := by
  simp only [rows, List.mem_mergeSort, List.mem_map, Prod.mk.injEq]
  constructor
  · rintro ⟨⟨key, n⟩, hentry, rfl, rfl⟩
    obtain ⟨addition, haddition, rfl, hn⟩ := mem_entries_ofAdditions_iff.1 hentry
    exact ⟨addition, haddition, rfl, hn⟩
  · rintro ⟨addition, haddition, rfl, rfl⟩
    exact ⟨(addition.1.sorted, _),
      mem_entries_ofAdditions_iff.2 ⟨addition, haddition, rfl, rfl⟩, rfl, rfl⟩

/-- No two of `rows` have the same text, if by `hplain` names are plain. -/
theorem nodup_rows_ofAdditions (hplain : ∀ addition ∈ additions, addition.1.HasPlainNames) :
    ((ofAdditions additions).rows.map Prod.fst).Nodup := by
  have hkeys : ∀ entry ∈ (ofAdditions additions).cells.entries, entry.1.HasPlainNames := by
    rintro ⟨key, n⟩ hentry
    obtain ⟨addition, haddition, rfl, -⟩ := mem_entries_ofAdditions_iff.1 hentry
    exact (hplain addition haddition).of_perm (Labels.sorted_perm _)
  -- Sorting changes nothing about that, and before it there is one text for each key.
  have hperm := (List.mergeSort_perm ((ofAdditions additions).cells.entries.map
    fun (labels, n) => (labels.render, n)) rowPrecedes).map Prod.fst
  rw [rows, hperm.nodup_iff, List.map_map]
  have hnodup := (ofAdditions additions).cells.nodup_keys
  rw [List.Nodup, List.pairwise_map] at *
  refine hnodup.imp_of_mem fun {e e'} he he' hne heq => hne ?_
  exact (Labels.render_inj (hkeys e he) (hkeys e' he')).1 heq

/-- Each set of labels that was counted has exactly one `row`. -/
theorem existsUnique_row (hplain : ∀ addition ∈ additions, addition.1.HasPlainNames)
    {addition : Labels × UInt64} (haddition : addition ∈ additions) (name : String) :
    ∃! i : Nat, ∃ n, ((ofAdditions additions).render name)[i]? =
      some (row name addition.1.sorted.render n) := by
  obtain ⟨i, hi⟩ := List.mem_iff_getElem?.1
    (mem_rows_ofAdditions_iff.2 ⟨addition, haddition, rfl, rfl⟩)
  rw [render_eq]
  refine ⟨i + 1, ⟨_, by rw [List.getElem?_cons_succ, List.getElem?_map, hi]; rfl⟩, ?_⟩
  rintro (_ | j) ⟨n, hn⟩
  · -- The first line has the type.
    exact absurd (Option.some.inj hn) type_ne_row
  · -- Any other line has a series, and there is one with this text only.
    rw [List.getElem?_cons_succ, List.getElem?_map, Option.map_eq_some_iff] at hn
    obtain ⟨⟨text, m⟩, hj, hrow⟩ := hn
    obtain rfl := seriesText_inj.1 (row_inj hrow).1
    have hlt : i < ((ofAdditions additions).rows.map Prod.fst).length := by
      rw [List.length_map]
      exact (List.getElem?_eq_some_iff.1 hi).1
    have hsame : i = j := by
      apply (List.getElem?_inj hlt (nodup_rows_ofAdditions hplain)).1
      rw [List.getElem?_map, List.getElem?_map, hi, hj]
      rfl
    rw [hsame]

/-- What the lines that `render` writes show. -/
theorem mem_render_ofAdditions_iff {line : String} :
    line ∈ (ofAdditions additions).render name ↔
      line = s!"# TYPE {name} counter" ∨ ∃ addition ∈ additions,
        line =
          row name addition.1.sorted.render ((ofAdditions additions).get addition.1).toNat := by
  rw [render_eq, List.mem_cons, List.mem_map]
  refine or_congr_right ⟨?_, ?_⟩
  · rintro ⟨⟨text, n⟩, hrow, rfl⟩
    obtain ⟨addition, haddition, rfl, rfl⟩ := mem_rows_ofAdditions_iff.1 hrow
    exact ⟨addition, haddition, rfl⟩
  · rintro ⟨addition, haddition, rfl⟩
    exact ⟨(_, _), mem_rows_ofAdditions_iff.2 ⟨addition, haddition, rfl, rfl⟩, rfl⟩

/-- `render` breaks no line, if the name of the counter does not do it. -/
theorem newline_notMem_of_mem_render (hplain : ∀ addition ∈ additions, addition.1.HasPlainNames)
    (hname : '\n' ∉ name.toList) {line : String} (h : line ∈ (ofAdditions additions).render name) :
    '\n' ∉ line.toList := by
  obtain rfl | ⟨addition, haddition, rfl⟩ := mem_render_ofAdditions_iff.1 h
  · show '\n' ∉ ("# TYPE " ++ name ++ " counter").toList
    simpa using hname
  · have hplain := (hplain addition haddition).of_perm (Labels.sorted_perm _)
    exact newline_notMem_row hname (Labels.newline_notMem_render hplain) _

/-- Lines as they are written out, with a line break behind each. -/
def written (lines : List String) : List Char := lines.flatMap fun line => line.toList ++ ['\n']

/-- Lines are what `written` falls into at the line breaks, if none has one inside. -/
theorem splitOn_written {lines : List String} (h : ∀ line ∈ lines, '\n' ∉ line.toList) :
    (written lines).splitOn '\n' = lines.map String.toList ++ [[]] := by
  induction lines with
  | nil => rfl
  | cons line lines ih =>
    rw [List.forall_mem_cons] at h
    rw [written, List.flatMap_cons, List.append_assoc, List.singleton_append,
      List.splitOn_append_cons_self_of_not_mem h.1, ← written, ih h.2]
    rfl

/-- Labels with plain names have the same text exactly if they differ in nothing but their order,
    and it has no line break in it.  In what `render` writes for a counter each set of labels that
    was counted has exactly one `row`, and beside the line with the type there are no others than
    those with the numbers of these sets.  Sets of labels that differ in more than their order do
    not have the same `seriesText`, and those of different counters of a node do not either.  By
    `written` the text falls into just these lines, if the name of the counter has no line break in
    it. -/
theorem series_never_collide (name : String) (additions : List (Labels × UInt64))
    (hplain : ∀ addition ∈ additions, addition.1.HasPlainNames) :
    (∀ labels labels' : Labels, labels.HasPlainNames → labels'.HasPlainNames →
      (labels.sorted.render = labels'.sorted.render ↔ labels.Perm labels')) ∧
    (∀ labels : Labels, labels.HasPlainNames → '\n' ∉ labels.sorted.render.toList) ∧
    (∀ addition ∈ additions, ∃! i : Nat, ∃ n, ((ofAdditions additions).render name)[i]? =
      some (row name addition.1.sorted.render n)) ∧
    (∀ line, line ∈ (ofAdditions additions).render name ↔
      line = s!"# TYPE {name} counter" ∨ ∃ addition ∈ additions,
        line = row name addition.1.sorted.render ((ofAdditions additions).get addition.1).toNat) ∧
    (∀ a ∈ additions, ∀ b ∈ additions,
      seriesText name a.1.sorted.render = seriesText name b.1.sorted.render → a.1.Perm b.1) ∧
    (∀ (a b : CounterName) (labels labels' : Labels),
      labels.HasPlainNames → labels'.HasPlainNames →
        (seriesText a.series labels.sorted.render = seriesText b.series labels'.sorted.render ↔
          a = b ∧ labels.Perm labels')) ∧
    ('\n' ∉ name.toList → (written ((ofAdditions additions).render name)).splitOn '\n' =
      ((ofAdditions additions).render name).map String.toList ++ [[]]) := by
  refine ⟨fun labels labels' => Labels.render_sorted_eq_iff, fun labels h => ?_,
    fun addition haddition => existsUnique_row hplain haddition name,
    fun line => mem_render_ofAdditions_iff, fun a ha b hb hseries => ?_,
    fun a b labels labels' h h' => ?_, fun hname => ?_⟩
  · exact Labels.newline_notMem_render (h.of_perm (Labels.sorted_perm labels))
  · exact (Labels.render_sorted_eq_iff (hplain a ha) (hplain b hb)).1 (seriesText_inj.1 hseries)
  · rw [seriesText_eq_iff a.brace_notMem_series b.brace_notMem_series h h', CounterName.series_inj]
  · exact splitOn_written fun line => newline_notMem_of_mem_render hplain hname

/-- A value that looks like the end of one label and the beginning of another makes a series of its
    own, and a line break in it does not break the line. -/
theorem series_never_collide_with_quoted_labels :
    let quoted : Labels := [("a", "1\",b=\"2\n")]
    let apart : Labels := [("b", "2\n"), ("a", "1")]
    let lines := (ofAdditions [(quoted, 1), (apart, 2)]).render "total"
    quoted.sorted.render ≠ apart.sorted.render ∧
      (∃! i : Nat, ∃ n, lines[i]? = some (row "total" quoted.sorted.render n)) ∧
      (written lines).splitOn '\n' = lines.map String.toList ++ [[]] := by
  intro quoted apart lines
  have hplain : ∀ addition ∈ [(quoted, (1 : UInt64)), (apart, 2)], addition.1.HasPlainNames := by
    decide
  obtain ⟨htexts, -, hone, -, -, -, hlines⟩ := series_never_collide "total" _ hplain
  refine ⟨fun htext => ?_, hone (quoted, 1) List.mem_cons_self, hlines (by decide)⟩
  have hperm := (htexts quoted apart (by decide) (by decide)).1 htext
  exact absurd hperm.length_eq (by decide)

end Counter

end ChannelGossip

import Mathlib.Data.Prod.Lex
import Mathlib.Data.String.Basic
import ChannelGossip.Metrics.Labels
import ChannelGossip.Proofs.Text.Delimited

/-! # Labels and their text

Labels that are sorted do not show the order that they came in, and nothing else is lost.  Neither
is it in their text, as long as no name of a label has an equals sign in it: values may be any text.
Main statements:

* `Labels.sorted_eq_sorted_iff`   which labels are sorted to the same ones
* `Labels.map_snd_filter_sorted`   which operations are on the same labels
* `Labels.flatMap_escape`   values are escaped as by one replacement after the other
* `Labels.render_inj`   which labels have the same text
* `Labels.render_sorted_eq_iff`   which labels make the same series -/

namespace ChannelGossip

/-! ## Sorting -/

/-- Sorting by a key that by `hkey` tells elements apart comes to one list, in whatever order they
    were. -/
theorem mergeSort_eq_of_perm {α γ : Type} [LinearOrder γ] {le : α → α → Bool} {key : α → γ}
    (hkey : key.Injective) (hle : ∀ a b, le a b = true ↔ key a ≤ key b) {l l' : List α}
    (h : l.Perm l') : l.mergeSort le = l'.mergeSort le := by
  have hsorted : ∀ l : List α, (l.mergeSort le).Pairwise fun a b => key a ≤ key b := by
    intro l
    have htrans : ∀ a b c, le a b = true → le b c = true → le a c = true := by
      intro a b c hab hbc
      rw [hle] at *
      exact hab.trans hbc
    have htotal : ∀ a b, (le a b || le b a) = true := by
      intro a b
      rw [Bool.or_eq_true, hle, hle]
      exact le_total _ _
    exact (List.pairwise_mergeSort htrans htotal l).imp fun {a b} => (hle a b).1
  -- Both are in order and have the same elements, of which no two can stand either way round.
  have hperm : (l.mergeSort le).Perm (l'.mergeSort le) :=
    (List.mergeSort_perm l le).trans (h.trans (List.mergeSort_perm l' le).symm)
  exact hperm.eq_of_pairwise (fun a b _ _ hab hba => hkey (le_antisymm hab hba)) (hsorted l)
    (hsorted l')

namespace Labels

variable {a b : String × String} {labels labels' : Labels} {x y : List Char}

/-- By `precedes` labels are in order by name, and by value if the names are the same. -/
theorem precedes_iff (a b : String × String) : precedes a b = true ↔ toLex a ≤ toLex b := by
  simp only [precedes, Bool.or_eq_true, Bool.and_eq_true, decide_eq_true_eq, beq_iff_eq,
    Prod.Lex.toLex_le_toLex]

/-- `sorted` neither adds nor drops labels. -/
theorem sorted_perm (labels : Labels) : labels.sorted.Perm labels := List.mergeSort_perm labels _

/-- `sorted` gives the same labels if they differ in nothing but their order. -/
theorem sorted_eq_sorted_iff : labels.sorted = labels'.sorted ↔ labels.Perm labels' := by
  constructor
  · intro h
    have hperm := sorted_perm labels
    rw [h] at hperm
    exact hperm.symm.trans (sorted_perm labels')
  · exact mergeSort_eq_of_perm toLex.injective precedes_iff

/-- What the operations on a set of labels, given in one order or another, work in. -/
def operands {β : Type} (operations : List (Labels × β)) (labels : Labels) : List β :=
  (operations.filter (·.1.Perm labels)).map Prod.snd

/-- The `operands` for a set of labels are those of the operations that sort their labels to the
    same ones. -/
theorem map_snd_filter_sorted {β : Type} (operations : List (Labels × β)) (labels : Labels) :
    (operations.filter (·.1.sorted = labels.sorted)).map Prod.snd = operands operations labels := by
  simp only [operands, sorted_eq_sorted_iff]

/-! ## Values -/

/-- Writes a text in place of a character. -/
def replacing (c : Char) (text : List Char) (d : Char) : List Char := if d = c then text else [d]

/-- `escape` is replacing first backslashes, then quotation marks and then line breaks. The
    backslashes that the later replacements bring in are not replaced again. -/
theorem flatMap_escape (s : List Char) :
    s.flatMap escape =
      ((s.flatMap (replacing '\\' ['\\', '\\'])).flatMap (replacing '"' ['\\', '"'])).flatMap
        (replacing '\n' ['\\', 'n']) := by
  rw [List.flatMap_assoc, List.flatMap_assoc]
  apply List.flatMap_congr
  intro c _
  -- Character by character: each is replaced by one of the three at most.
  by_cases hbackslash : c = '\\'
  · subst hbackslash
    rfl
  by_cases hquote : c = '"'
  · subst hquote
    rfl
  by_cases hbreak : c = '\n'
  · subst hbreak
    rfl
  simp [escape, replacing, hbackslash, hquote, hbreak]

/-- The character that an escaped text begins with, and what follows it. -/
def unescape : List Char → Option (Char × List Char)
  | '"' :: _ => none
  | '\\' :: 'n' :: rest => some ('\n', rest)
  | '\\' :: c :: rest => some (c, rest)
  | c :: rest => some (c, rest)
  | [] => none

/-- `unescape` reads every character of a value back from its `escape`. -/
theorem undoes_unescape : Text.Undoes unescape escape where
  escape_append := by
    intro c x
    unfold escape
    split
    · rename_i hbackslash
      rw [hbackslash]
      rfl
    split
    · rename_i hquote
      rw [hquote]
      rfl
    split
    · rename_i hbreak
      rw [hbreak]
      rfl
    · rename_i hbackslash _ _
      simp [unescape, hbackslash]
  quote_cons := fun _ => rfl

/-- `escape` leaves no line break in a value. -/
theorem newline_notMem_escape (c : Char) : '\n' ∉ escape c := by
  unfold escape
  split
  · decide
  split
  · decide
  split
  · decide
  · rename_i hbreak
    simpa using Ne.symm hbreak

/-! ## Labels in text -/

/-- What it takes of the names of labels for their text to be read back: they have neither an equals
    sign nor a line break in them. -/
def HasPlainNames (labels : Labels) : Prop :=
  ∀ label ∈ labels, '=' ∉ label.1.toList ∧ '\n' ∉ label.1.toList

instance (labels : Labels) : Decidable labels.HasPlainNames :=
  inferInstanceAs (Decidable (∀ label ∈ labels, _))

/-- `HasPlainNames` does not depend on the order of labels. -/
theorem HasPlainNames.of_perm (h : labels.HasPlainNames) (hperm : labels'.Perm labels) :
    labels'.HasPlainNames := fun label hlabel => h label (hperm.mem_iff.1 hlabel)

/-- The characters of `renderOne`. -/
theorem toList_renderOne (label : String × String) :
    (renderOne label).toList =
      label.1.toList ++ '=' :: '"' :: (label.2.toList.flatMap escape ++ ['"']) := by
  simp [renderOne]

/-- What `renderOne` writes is told from what follows it. -/
theorem renderOne_append_inj (ha : '=' ∉ a.1.toList) (hb : '=' ∉ b.1.toList)
    (h : (renderOne a).toList ++ x = (renderOne b).toList ++ y) : a = b ∧ x = y := by
  simp only [toList_renderOne, List.append_assoc, List.cons_append, List.nil_append] at h
  -- The name ends at the first equals sign, the value at the first mark that is not escaped.
  obtain ⟨hname, hrest⟩ := Text.append_cons_inj ha hb h
  obtain ⟨hvalue, hrest⟩ := undoes_unescape.flatMap_append_inj (List.cons.inj hrest).2
  exact ⟨Prod.ext (String.toList_inj.1 hname) (String.toList_inj.1 hvalue), hrest⟩

/-- The characters of `render`. -/
theorem toList_render (labels : Labels) :
    labels.render.toList =
      [','].intercalate (labels.map fun label => (renderOne label).toList) := by
  rw [render, String.toList_intercalate, List.map_map]
  rfl

/-- Nothing follows the last label. -/
theorem closes_nil :
    Text.Closes (fun label => (renderOne label).toList) ',' (fun _ => True) [] where
  follows := trivial
  ne_separator := by simp
  ne_item := by simp [toList_renderOne]

/-- Labels with plain names are told from what `render` writes. -/
theorem render_inj (h : labels.HasPlainNames) (h' : labels'.HasPlainNames) :
    labels.render = labels'.render ↔ labels = labels' := by
  constructor
  · intro htext
    have hchars := congrArg String.toList htext
    rw [toList_render, toList_render] at hchars
    -- A label ends where its value does, so that it may have anything behind it.
    refine (Text.intercalate_append_inj (fun a ha b hb _ _ _ _ heq => ?_) (fun _ => trivial)
      closes_nil closes_nil (by rw [hchars])).1
    exact renderOne_append_inj (h a ha).1 (h' b hb).1 heq
  · rintro rfl
    rfl

/-- Labels with plain names make the same series if they differ in nothing but their order. -/
theorem render_sorted_eq_iff (h : labels.HasPlainNames) (h' : labels'.HasPlainNames) :
    labels.sorted.render = labels'.sorted.render ↔ labels.Perm labels' := by
  rw [render_inj (h.of_perm (sorted_perm labels)) (h'.of_perm (sorted_perm labels')),
    sorted_eq_sorted_iff]

/-- What `render` writes of labels with plain names has no line break in it. -/
theorem newline_notMem_render (h : labels.HasPlainNames) : '\n' ∉ labels.render.toList := by
  -- Names have no line break by assumption, and values have none after they are escaped.
  have hone : ∀ label ∈ labels, '\n' ∉ (renderOne label).toList := by
    intro label hlabel
    have hvalue : '\n' ∉ label.2.toList.flatMap escape := by
      simp [newline_notMem_escape]
    simp [toList_renderOne, (h label hlabel).2, hvalue]
  rw [toList_render]
  cases labels with
  | nil => simp [List.intercalate]
  | cons label labels =>
    rw [Text.intercalate_map_cons]
    simp only [List.forall_mem_cons] at hone
    simpa [hone.1] using hone.2

end Labels

end ChannelGossip

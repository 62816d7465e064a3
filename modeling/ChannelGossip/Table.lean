/-! # Tables

A table holds one value for each of finitely many keys.  It lists them in the order in which the
keys came in, but nothing that is answered from a table depends on that order.  The view of a
table is its look-up function `find?`:

* `find?_insert`   `(t.insert k a).find? j = if k = j then some a else t.find? j`
* `find?_erase`   `(t.erase k).find? j = if k = j then none else t.find? j`
* `mem_entries_iff`   `(k, a) ∈ t.entries ↔ t.find? k = some a`
* `find?_eq_of_perm`   the order of the entries makes no difference to it -/

namespace ChannelGossip

/-- Values under keys, each key once. -/
structure Table (κ : Type) (α : Type) where
  entries : List (κ × α)
  nodup_keys : (entries.map Prod.fst).Nodup
deriving Repr

namespace Table

variable {κ α : Type}

/-- The table without keys. -/
def empty : Table κ α := ⟨[], by simp⟩

instance : Inhabited (Table κ α) := ⟨empty⟩

/-- The keys in the order in which they came in. -/
def keys (t : Table κ α) : List κ := t.entries.map Prod.fst

/-- The number of keys. -/
def size (t : Table κ α) : Nat := t.entries.length

variable [DecidableEq κ]

/-- The value under a key. -/
def find? (t : Table κ α) (k : κ) : Option α := (t.entries.find? (·.1 = k)).map Prod.snd

/-- Whether there is a value under a key. -/
def contains (t : Table κ α) (k : κ) : Bool := (t.find? k).isSome

/-- The entries with the value under a key replaced, or added at the end. -/
def insertEntry (k : κ) (a : α) : List (κ × α) → List (κ × α)
  | [] => [(k, a)]
  | e :: es => if e.1 = k then (k, a) :: es else e :: insertEntry k a es

/-- An insertion brings no key but its own. -/
private theorem mem_keys_insertEntry {k j : κ} {a : α} {es : List (κ × α)}
    (h : j ∈ (insertEntry k a es).map Prod.fst) : j = k ∨ j ∈ es.map Prod.fst := by
  induction es with
  | nil => simpa [insertEntry] using h
  | cons e es ih => grind [insertEntry]

/-- An insertion repeats no key. -/
private theorem nodup_insertEntry {k : κ} {a : α} {es : List (κ × α)}
    (h : (es.map Prod.fst).Nodup) : ((insertEntry k a es).map Prod.fst).Nodup := by
  induction es with
  | nil => simp [insertEntry]
  | cons e es ih =>
    simp only [List.map_cons, List.nodup_cons] at h
    unfold insertEntry
    split
    · rename_i hk
      simpa [hk ▸ h.1] using h.2
    · rename_i hk
      simp only [List.map_cons, List.nodup_cons]
      refine ⟨fun hmem => ?_, ih h.2⟩
      rcases mem_keys_insertEntry hmem with rfl | hmem
      · exact hk rfl
      · exact h.1 hmem

/-- The table with a value put under a key. -/
def insert (t : Table κ α) (k : κ) (a : α) : Table κ α :=
  ⟨insertEntry k a t.entries, nodup_insertEntry t.nodup_keys⟩

/-- The table without a key. -/
def erase (t : Table κ α) (k : κ) : Table κ α where
  entries := t.entries.filter (·.1 ≠ k)
  nodup_keys := t.nodup_keys.sublist (List.filter_sublist.map _)

/-- The empty table has nothing under any key. -/
@[simp] theorem find?_empty (k : κ) : (empty : Table κ α).find? k = none := rfl

/-- An insertion shows under its own key and nowhere else. -/
theorem find?_insert (t : Table κ α) (k j : κ) (a : α) :
    (t.insert k a).find? j = if k = j then some a else t.find? j := by
  obtain ⟨es, h⟩ := t
  simp only [insert, find?]
  clear h
  induction es with
  | nil => grind [insertEntry]
  | cons e es ih => grind [insertEntry]

/-- An erasure shows under its own key and nowhere else. -/
theorem find?_erase (t : Table κ α) (k j : κ) :
    (t.erase k).find? j = if k = j then none else t.find? j := by
  obtain ⟨es, h⟩ := t
  simp only [erase, find?]
  clear h
  induction es with
  | nil => simp
  | cons e es ih => grind

/-- The entries are what look-ups find. -/
theorem mem_entries_iff (t : Table κ α) (k : κ) (a : α) :
    (k, a) ∈ t.entries ↔ t.find? k = some a := by
  obtain ⟨es, h⟩ := t
  simp only [find?]
  induction es with
  | nil => simp
  | cons e es ih =>
    simp only [List.map_cons, List.nodup_cons] at h
    have := ih h.2
    have : (k, a) ∈ es → k ∈ es.map Prod.fst := fun hm => List.mem_map_of_mem (f := Prod.fst) hm
    grind

/-- Tables with the same entries in different orders answer look-ups in one way. -/
theorem find?_eq_of_perm {t t' : Table κ α} (h : t'.entries.Perm t.entries) :
    t'.find? = t.find? := by
  funext k
  refine Option.ext fun a => ?_
  rw [← mem_entries_iff, ← mem_entries_iff, h.mem_iff]

end Table

end ChannelGossip

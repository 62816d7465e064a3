import Mathlib.Data.List.TakeWhile
import Mathlib.Tactic.SplitIfs
import ChannelGossip.Proofs.Text.Delimited
import ChannelGossip.Proofs.Text.Numeral
import ChannelGossip.Text.Json

/-! # JSON text that shows where it ends

A value in JSON text is told from what follows it, unless that is a digit behind a number, so that
the text of an object determines the names and the texts of its members.  Main statements:

* `undoes_unescape`   escaped characters are read back
* `IsValue`   the texts of numbers, strings and objects
* `IsValue.append_inj`   a value is told from what may follow it
* `object_inj`   an object is told from its text -/

namespace ChannelGossip.Text.Json

variable {x y : List Char}

/-! ## Strings -/

/-- The character that an escaped text begins with, and what follows it. -/
def unescape : List Char → Option (Char × List Char)
  | '\\' :: '"' :: rest => some ('"', rest)
  | '\\' :: '\\' :: rest => some ('\\', rest)
  | '\\' :: 'b' :: rest => some ('\x08', rest)
  | '\\' :: 'f' :: rest => some ('\x0c', rest)
  | '\\' :: 'n' :: rest => some ('\n', rest)
  | '\\' :: 'r' :: rest => some ('\r', rest)
  | '\\' :: 't' :: rest => some ('\t', rest)
  | '\\' :: 'u' :: '0' :: '0' :: high :: low :: rest => do
    let high ← Numeral.digitValue? 16 high
    let low ← Numeral.digitValue? 16 low
    return (Char.ofNat (16 * high + low), rest)
  | c :: rest => if c = '\\' ∨ c = '"' then none else some (c, rest)
  | [] => none

/-- `unescape` reads every character back that `escape` has written. -/
theorem undoes_unescape : Undoes unescape escape where
  escape_append := by
    intro c x
    have hdigit : ∀ n < 16, Numeral.digitValue? 16 (Nat.digitChar n) = some n := by decide
    -- One case for each short escape, then the control characters, then all others.
    unfold escape
    split_ifs with h₁ h₂ h₃ h₄ h₅ h₆ h₇ h₈
    · rw [h₁]; rfl
    · rw [h₂]; rfl
    · rw [h₃]; rfl
    · rw [h₄]; rfl
    · rw [h₅]; rfl
    · rw [h₆]; rfl
    · rw [h₇]; rfl
    · -- Two hexadecimal digits are enough for the code of a control character.
      have hhigh := hdigit (c.toNat / 16) (by omega)
      have hlow := hdigit (c.toNat % 16) (Nat.mod_lt _ (by decide))
      simp only [List.cons_append, List.nil_append, unescape, hhigh, hlow, Option.bind_eq_bind,
        Option.bind_some, Nat.div_add_mod, Char.ofNat_toNat, Option.pure_def]
    · simp [unescape, h₁, h₂]
  quote_cons := fun _ => rfl

/-- `quote` escapes the characters of a string between two quotation marks. -/
theorem toList_quote (s : String) :
    (quote s).toList = '"' :: (s.toList.flatMap escape ++ ['"']) := by
  rw [quote, String.toList_ofList]
  rfl

/-- A text of `quote` is told from what follows it. -/
theorem quote_append_inj {s t : String} (h : (quote s).toList ++ x = (quote t).toList ++ y) :
    s = t ∧ x = y := by
  simp only [toList_quote, List.cons_append, List.append_assoc, List.cons.injEq, true_and,
    List.nil_append] at h
  obtain ⟨hs, hrest⟩ := undoes_unescape.flatMap_append_inj h
  exact ⟨String.toList_inj.1 hs, hrest⟩

/-- `quote` writes different texts for different strings. -/
theorem quote_inj {s t : String} : quote s = quote t ↔ s = t := by
  constructor
  · intro h
    exact (quote_append_inj (x := []) (y := []) (by rw [h])).1
  · rintro rfl
    rfl

/-! ## Numbers -/

/-- What may follow a value: something that does not go on with a number. -/
def Follows (x : List Char) : Prop := ∀ c ∈ x.head?, c.isDigit = false

/-- The digits of `n` end where `x` begins, if that is with no digit. -/
theorem takeWhile_toDigits_append (n : Nat) (hx : Follows x) :
    (Nat.toDigits 10 n ++ x).takeWhile Char.isDigit = Nat.toDigits 10 n := by
  have hdigits : ∀ c ∈ Nat.toDigits 10 n, c.isDigit := fun c hc =>
    Nat.isDigit_of_mem_toDigits (by decide) (by decide) hc
  have hrest : x.takeWhile Char.isDigit = [] := by
    cases x with
    | nil => rfl
    | cons c x => simp [hx c rfl]
  rw [List.takeWhile_append_of_pos hdigits, hrest, List.append_nil]

/-- A number is told from what follows it, if that is no digit. -/
theorem toDigits_append_inj {m n : Nat} (hx : Follows x) (hy : Follows y)
    (h : Nat.toDigits 10 m ++ x = Nat.toDigits 10 n ++ y) : m = n ∧ x = y := by
  have hdigits : Nat.toDigits 10 m = Nat.toDigits 10 n := by
    rw [← takeWhile_toDigits_append m hx, h, takeWhile_toDigits_append n hy]
  rw [hdigits] at h
  exact ⟨Numeral.toDigits_inj hdigits, List.append_cancel_left h⟩

/-- `toString n` begins with a digit. -/
theorem toString_append_ne {n : Nat} {c : Char} (hc : c.isDigit = false) :
    (toString n).toList ++ x ≠ c :: y := by
  intro h
  obtain ⟨d, ds, hds⟩ : ∃ d ds, Nat.toDigits 10 n = d :: ds :=
    List.exists_cons_of_ne_nil Nat.toDigits_ne_nil
  rw [Numeral.toList_toString, hds] at h
  obtain ⟨rfl, -⟩ := List.cons.inj h
  exact Numeral.notMem_toDigits hc n (by simp [hds])

/-! ## Objects -/

/-- A member of an object in text. -/
def member (m : String × String) : List Char := (quote m.1 ++ ":" ++ m.2).toList

/-- `object` puts commas between the members and braces around them. -/
theorem toList_object (members : List (String × String)) :
    (object members).toList = '{' :: ([','].intercalate (members.map member) ++ ['}']) := by
  rw [object, String.toList_append, String.toList_append, String.toList_intercalate, List.map_map]
  rfl

/-- A closing brace can stand after the last `member`, whatever follows it. -/
theorem closes_brace (x : List Char) : Closes member ',' Follows ('}' :: x) where
  follows := by
    rintro c ⟨⟩
    rfl
  ne_separator := by simp
  ne_item := by simp [member, toList_quote]

/-- A comma may follow a value. -/
theorem follows_comma (rest : List Char) : Follows (',' :: rest) := by
  rintro c ⟨⟩
  rfl

/-- A text of `object` is told from what follows it, if `hvalue` tells its values from what may
    follow them. -/
theorem object_append_inj {as bs : List (String × String)}
    (hvalue : ∀ a ∈ as, ∀ b ∈ bs, ∀ {x y}, Follows x → Follows y →
      a.2.toList ++ x = b.2.toList ++ y → a.2 = b.2 ∧ x = y)
    (h : (object as).toList ++ x = (object bs).toList ++ y) : as = bs ∧ x = y := by
  simp only [toList_object, List.cons_append, List.append_assoc, List.cons.injEq, true_and,
    List.nil_append] at h
  have hmember : ∀ a ∈ as, ∀ b ∈ bs, ∀ {x y}, Follows x → Follows y →
      member a ++ x = member b ++ y → a = b ∧ x = y := by
    intro a ha b hb x y hx hy h
    simp only [member, String.toList_append, List.append_assoc] at h
    -- The name comes first, and the value behind the colon.
    obtain ⟨hname, hrest⟩ := quote_append_inj h
    obtain ⟨hval, rfl⟩ := hvalue a ha b hb hx hy (List.cons.inj hrest).2
    exact ⟨Prod.ext hname hval, rfl⟩
  obtain ⟨rfl, hrest⟩ :=
    intercalate_append_inj hmember follows_comma (closes_brace x) (closes_brace y) h
  exact ⟨rfl, (List.cons.inj hrest).2⟩

/-! ## Values -/

/-- The texts of the values that are written: numbers, strings, and objects of such values. -/
inductive IsValue : String → Prop where
  | number (n : Nat) : IsValue (toString n)
  | string (s : String) : IsValue (quote s)
  | object {members : List (String × String)} (values : ∀ m ∈ members, IsValue m.2) :
    IsValue (object members)

/-- A text of `IsValue` is told from what may follow it. -/
theorem IsValue.append_inj {u v : String} (hu : IsValue u) (hv : IsValue v) (hx : Follows x)
    (hy : Follows y) (h : u.toList ++ x = v.toList ++ y) : u = v ∧ x = y := by
  -- The first character tells what kind of value it is.
  induction hu generalizing v x y with
  | number m =>
    cases hv with
    | number n =>
      rw [Numeral.toList_toString, Numeral.toList_toString] at h
      obtain ⟨rfl, rfl⟩ := toDigits_append_inj hx hy h
      exact ⟨rfl, rfl⟩
    | string t =>
      rw [toList_quote] at h
      exact absurd h (toString_append_ne rfl)
    | object =>
      rw [toList_object] at h
      exact absurd h (toString_append_ne rfl)
  | string s =>
    cases hv with
    | number n =>
      rw [toList_quote] at h
      exact absurd h.symm (toString_append_ne rfl)
    | string t =>
      obtain ⟨rfl, rfl⟩ := quote_append_inj h
      exact ⟨rfl, rfl⟩
    | object =>
      rw [toList_quote, toList_object] at h
      cases h
  | object values ih =>
    cases hv with
    | number n =>
      rw [toList_object] at h
      exact absurd h.symm (toString_append_ne rfl)
    | string t =>
      rw [toList_quote, toList_object] at h
      cases h
    | object values' =>
      obtain ⟨rfl, rfl⟩ :=
        object_append_inj (fun a ha b hb _ _ hx hy => ih a ha (values' b hb) hx hy) h
      exact ⟨rfl, rfl⟩

/-- `object` writes different texts for different members, if all of them are values. -/
theorem object_inj {as bs : List (String × String)} (has : ∀ a ∈ as, IsValue a.2)
    (hbs : ∀ b ∈ bs, IsValue b.2) : object as = object bs ↔ as = bs := by
  constructor
  · intro h
    refine (object_append_inj (x := []) (y := []) ?_ (by rw [h])).1
    intro a ha b hb x y hx hy
    exact (has a ha).append_inj (hbs b hb) hx hy
  · rintro rfl
    rfl

end ChannelGossip.Text.Json

import ChannelGossip.Text.Numeral

/-! # Decimal numerals

A numeral is an optional plus sign and one or more decimal digits, of which the leading ones may be
zero.  Reading in base ten accepts exactly the numerals for the numbers below its limit, and what is
printed for a number is a numeral for it.  Main statements:

* `Spells`   what a numeral is, and which number it stands for
* `parse?_eq_some_iff`   which texts are read, and as which numbers
* `spells_toDigits`   printed numbers are numerals
* `toString_inj`   numbers that are printed in the same way are the same -/

namespace ChannelGossip.Text.Numeral

/-- `cs` is at least one decimal digit, and nothing else. -/
def IsDigits (cs : List Char) : Prop := cs ≠ [] ∧ ∀ c ∈ cs, c.isDigit

/-- `Spells cs n` says that `cs` is a numeral for `n`: digits, or a plus sign before digits. -/
inductive Spells : List Char → Nat → Prop where
  | unsigned {ds : List Char} (digits : IsDigits ds) : Spells ds (Nat.ofDigitChars 10 ds 0)
  | plus {ds : List Char} (digits : IsDigits ds) : Spells ('+' :: ds) (Nat.ofDigitChars 10 ds 0)

/-! ## Digits -/

/-- `digitValue? 10` knows the decimal digits and nothing else: letters are digits of higher bases
    only. -/
theorem digitValue?_ten (c : Char) :
    digitValue? 10 c = if c.isDigit then some (c.toNat - '0'.toNat) else none := by
  have hdigit : c.isDigit = true ↔ 48 ≤ c.toNat ∧ c.toNat ≤ 57 := by
    rw [Char.isDigit, Bool.and_eq_true, decide_eq_true_eq, decide_eq_true_eq]
    exact Iff.rfl
  have hzero : '0'.toNat = 48 := rfl
  -- A letter is worth ten at least, which base ten excludes.
  simp only [digitValue?, hdigit, hzero]
  split
  · rw [if_pos (by omega)]
  · split
    · rw [if_neg (by omega)]
    · split
      · rw [if_neg (by omega)]
      · rw [if_neg (by omega)]

/-- The fold in `ofDigits?` goes on from the number that the digits before it stand for, and comes
    through if all characters are digits. -/
theorem foldlM_digits_eq_some_iff {cs : List Char} {start n : Nat} :
    cs.foldlM (fun n c => (digitValue? 10 c).map (10 * n + ·)) start = some n ↔
      (∀ c ∈ cs, c.isDigit) ∧ n = Nat.ofDigitChars 10 cs start := by
  induction cs generalizing start with
  | nil =>
    simp only [List.foldlM_nil, Option.pure_def, Option.some.injEq, List.not_mem_nil,
      false_implies, implies_true, true_and, Nat.ofDigitChars_nil]
    exact eq_comm
  | cons c cs ih =>
    rw [List.foldlM_cons, digitValue?_ten]
    by_cases hc : c.isDigit
    · rw [if_pos hc, Option.map_some, Nat.ofDigitChars_cons, List.forall_mem_cons]
      simp only [hc, true_and]
      exact ih
    · rw [if_neg hc, Option.map_none]
      simp [hc]

/-- `ofDigits? 10` reads what `IsDigits` accepts and nothing else. -/
theorem ofDigits?_eq_some_iff {cs : List Char} {n : Nat} :
    ofDigits? 10 cs = some n ↔ IsDigits cs ∧ n = Nat.ofDigitChars 10 cs 0 := by
  unfold ofDigits? IsDigits
  cases cs with
  | nil => simp
  | cons c cs =>
    rw [List.isEmpty_cons, if_neg Bool.false_ne_true, foldlM_digits_eq_some_iff]
    simp

/-! ## Numerals -/

/-- No text of `IsDigits` starts with a plus sign. -/
theorem not_isDigits_plus (cs : List Char) : ¬IsDigits ('+' :: cs) := by
  rintro ⟨-, hdigits⟩
  exact absurd (hdigits '+' List.mem_cons_self) (by decide)

/-- `parse? 10 limit` reads exactly the numerals of `Spells` for numbers below `limit`. -/
theorem parse?_eq_some_iff {limit : Nat} {cs : List Char} {n : Nat} :
    parse? 10 limit cs = some n ↔ Spells cs n ∧ n < limit := by
  unfold parse?
  rw [Option.filter_eq_some_iff, decide_eq_true_eq, ofDigits?_eq_some_iff]
  refine and_congr_left fun _ => ?_
  -- Behind a plus sign the digits are looked for, and digits do not start with one.
  split
  · rename_i rest
    constructor
    · rintro ⟨hdigits, rfl⟩
      exact .plus hdigits
    · intro h
      cases h with
      | unsigned digits => exact absurd digits (not_isDigits_plus rest)
      | plus digits => exact ⟨digits, rfl⟩
  · rename_i hplus
    constructor
    · rintro ⟨hdigits, rfl⟩
      exact .unsigned hdigits
    · intro h
      cases h with
      | unsigned digits => exact ⟨digits, rfl⟩
      | plus digits => exact absurd rfl (hplus _)

/-! ## Printed numbers -/

/-- `toString` prints the digits of a number and no more. -/
theorem toList_toString (n : Nat) : (toString n).toList = Nat.toDigits 10 n := by
  rw [Nat.toString_eq_repr, Nat.toList_repr]

/-- `Nat.toDigits` gives different numbers different digits. -/
theorem toDigits_inj {m n : Nat} (h : Nat.toDigits 10 m = Nat.toDigits 10 n) : m = n := by
  -- The number can be read back from its digits.
  have hread : ∀ k : Nat, Nat.ofDigitChars 10 (Nat.toDigits 10 k) 0 = k := fun _ =>
    Nat.ofDigitChars_toDigits (by decide) (by decide)
  rw [← hread m, h, hread]

/-- `toString` prints different numbers differently. -/
theorem toString_inj {m n : Nat} : toString m = toString n ↔ m = n := by
  constructor
  · intro h
    have htext := congrArg String.toList h
    rw [toList_toString, toList_toString] at htext
    exact toDigits_inj htext
  · rintro rfl
    rfl

/-- `Nat.toDigits` gives digits only, so no other character is among them. -/
theorem notMem_toDigits {c : Char} (hc : c.isDigit = false) (n : Nat) : c ∉ Nat.toDigits 10 n := by
  intro hmem
  have hdigit : c.isDigit := Nat.isDigit_of_mem_toDigits (by decide) (by decide) hmem
  rw [hc] at hdigit
  cases hdigit

/-- `Nat.toDigits 10 n` is a numeral for `n`. -/
theorem spells_toDigits (n : Nat) : Spells (Nat.toDigits 10 n) n := by
  have hdigits : IsDigits (Nat.toDigits 10 n) :=
    ⟨Nat.toDigits_ne_nil, fun c hc => Nat.isDigit_of_mem_toDigits (by decide) (by decide) hc⟩
  have hspells := Spells.unsigned hdigits
  rwa [Nat.ofDigitChars_ten_toDigits] at hspells

end ChannelGossip.Text.Numeral

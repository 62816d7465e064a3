import Mathlib.Data.List.Basic

/-! # Texts that show where they end

A text that is put together from parts can be taken apart again if each part shows where it ends.
Here are the ways in which texts are put together: two parts with a separator that one of them does
not contain, strings whose characters are escaped, up to a closing quotation mark, and items with a
separator between them.  Main statements:

* `append_cons_inj`   a separator that does not occur before tells two parts apart
* `Undoes.flatMap_append_inj`   an escaped string is told from what follows its closing mark
* `intercalate_append_inj`   separated items are told apart if each of them shows where it ends -/

namespace ChannelGossip.Text

variable {x y : List Char}

/-! ## One separator -/

/-- If `separator` is neither in `s` nor in `t` then texts that are the same up to it and behind it
    have the same parts. -/
theorem append_cons_inj {separator : Char} {s t : List Char} (hs : separator ∉ s)
    (ht : separator ∉ t) (h : s ++ separator :: x = t ++ separator :: y) : s = t ∧ x = y := by
  -- What stands before the first separator is found with `takeWhile`.
  have hfirst : ∀ {s x : List Char}, separator ∉ s →
      (s ++ separator :: x).takeWhile (· != separator) = s := by
    intro s x hs
    have hall : ∀ c ∈ s, (c != separator) = true := fun c hc =>
      bne_iff_ne.2 fun heq => hs (heq ▸ hc)
    rw [List.takeWhile_append_of_pos hall]
    simp
  obtain rfl : s = t := by rw [← hfirst hs (x := x), h, hfirst ht]
  exact ⟨rfl, (List.cons.inj (List.append_cancel_left h)).2⟩

/-- If `separator` is neither in `x` nor in `y` then the last one divides both texts, and the parts
    are the same. -/
theorem append_cons_inj_last {separator : Char} {s t : List Char} (hx : separator ∉ x)
    (hy : separator ∉ y) (h : s ++ separator :: x = t ++ separator :: y) : s = t ∧ x = y := by
  -- Read backwards, the last separator is the first one.
  have hreverse := congrArg List.reverse h
  simp only [List.reverse_append, List.reverse_cons, List.append_assoc, List.singleton_append]
    at hreverse
  obtain ⟨hback, hfront⟩ := append_cons_inj (by simpa using hx) (by simpa using hy) hreverse
  exact ⟨List.reverse_inj.1 hfront, List.reverse_inj.1 hback⟩

/-! ## Escaped strings -/

/-- `unescape` undoes the escaping of characters between quotation marks: it finds the character
    that `escape` wrote something for, whatever follows, and finds none at the closing mark. -/
structure Undoes (unescape : List Char → Option (Char × List Char))
    (escape : Char → List Char) : Prop where
  escape_append : ∀ (c : Char) (x : List Char), unescape (escape c ++ x) = some (c, x)
  quote_cons : ∀ x : List Char, unescape ('"' :: x) = none

variable {unescape : List Char → Option (Char × List Char)} {escape : Char → List Char}

/-- What `escape` writes for a character does not begin like the closing mark. -/
theorem Undoes.escape_append_ne (h : Undoes unescape escape) {c : Char} :
    escape c ++ x ≠ '"' :: y := by
  intro heq
  have hread := h.escape_append c x
  rw [heq, h.quote_cons] at hread
  cases hread

/-- Escaped strings that begin the same text up to a closing mark are the same string. -/
theorem Undoes.flatMap_append_inj (hundoes : Undoes unescape escape) {s t : List Char}
    (h : s.flatMap escape ++ '"' :: x = t.flatMap escape ++ '"' :: y) : s = t ∧ x = y := by
  -- Character by character: `unescape` finds the same first character in both, and the same rest.
  induction s generalizing t with
  | nil =>
    cases t with
    | nil => exact ⟨rfl, (List.cons.inj h).2⟩
    | cons d t =>
      rw [List.flatMap_cons, List.append_assoc] at h
      exact absurd h.symm hundoes.escape_append_ne
  | cons c s ih =>
    rw [List.flatMap_cons, List.append_assoc] at h
    cases t with
    | nil => exact absurd h hundoes.escape_append_ne
    | cons d t =>
      rw [List.flatMap_cons, List.append_assoc] at h
      have hread := hundoes.escape_append c (s.flatMap escape ++ '"' :: x)
      rw [h, hundoes.escape_append] at hread
      obtain ⟨rfl, hrest⟩ := Prod.mk.inj (Option.some.inj hread)
      obtain ⟨rfl, rfl⟩ := ih hrest.symm
      exact ⟨rfl, rfl⟩

/-! ## Separated items -/

variable {α : Type} {item : α → List Char} {separator : Char} {Follows : List Char → Prop}

/-- `x` can stand after the last of some items: it is something that may follow an item, and begins
    neither like a `separator` nor like an `item`. -/
structure Closes (item : α → List Char) (separator : Char) (Follows : List Char → Prop)
    (x : List Char) : Prop where
  follows : Follows x
  ne_separator : ∀ rest, separator :: rest ≠ x
  ne_item : ∀ a rest, item a ++ rest ≠ x

/-- In `List.intercalate` the first item has no separator in front of it, and all others have
    one. -/
theorem intercalate_map_cons (a : α) (as : List α) :
    [separator].intercalate ((a :: as).map item) =
      item a ++ as.flatMap fun b => separator :: item b := by
  induction as generalizing a with
  | nil => simp [List.intercalate]
  | cons b as ih =>
    rw [List.map_cons, List.map_cons, List.intercalate_cons_cons, ← List.map_cons, ih,
      List.flatMap_cons, List.append_assoc]
    rfl

/-- Items with a separator in front of each, then `x`, may follow an item if a separator may and `x`
    may. -/
private theorem follows_flatMap (hseparator : ∀ rest, Follows (separator :: rest))
    (hx : Follows x) (as : List α) :
    Follows ((as.flatMap fun a => separator :: item a) ++ x) := by
  cases as with
  | nil => exact hx
  | cons a as => exact hseparator _

/-- Items with a separator in front of each are told apart, and from what follows them, if `hitem`
    tells single items apart. -/
private theorem flatMap_separator_append_inj {as bs : List α}
    (hitem : ∀ a ∈ as, ∀ b ∈ bs, ∀ {x y}, Follows x → Follows y →
      item a ++ x = item b ++ y → a = b ∧ x = y)
    (hseparator : ∀ rest, Follows (separator :: rest))
    (hx : Closes item separator Follows x) (hy : Closes item separator Follows y)
    (h : (as.flatMap fun a => separator :: item a) ++ x =
      (bs.flatMap fun b => separator :: item b) ++ y) : as = bs ∧ x = y := by
  induction as generalizing bs with
  | nil =>
    cases bs with
    | nil => exact ⟨rfl, h⟩
    | cons b bs => exact absurd h.symm (hx.ne_separator _)
  | cons a as ih =>
    cases bs with
    | nil => exact absurd h (hy.ne_separator _)
    | cons b bs =>
      simp only [List.flatMap_cons, List.cons_append, List.append_assoc, List.cons.injEq,
        true_and] at h
      -- The first items are followed by separators or by the end, which `Follows` allows.
      obtain ⟨rfl, hrest⟩ := hitem a List.mem_cons_self b List.mem_cons_self
        (follows_flatMap hseparator hx.follows as) (follows_flatMap hseparator hy.follows bs) h
      obtain ⟨rfl, rfl⟩ := ih (fun a ha b hb =>
        hitem a (List.mem_cons_of_mem _ ha) b (List.mem_cons_of_mem _ hb)) hrest
      exact ⟨rfl, rfl⟩

/-- Items with separators between them are told apart, and from the `x` and `y` that close them, if
    `hitem` tells each item from what may follow it. -/
theorem intercalate_append_inj {as bs : List α}
    (hitem : ∀ a ∈ as, ∀ b ∈ bs, ∀ {x y}, Follows x → Follows y →
      item a ++ x = item b ++ y → a = b ∧ x = y)
    (hseparator : ∀ rest, Follows (separator :: rest))
    (hx : Closes item separator Follows x) (hy : Closes item separator Follows y)
    (h : [separator].intercalate (as.map item) ++ x = [separator].intercalate (bs.map item) ++ y) :
    as = bs ∧ x = y := by
  cases as with
  | nil =>
    cases bs with
    | nil => exact ⟨rfl, h⟩
    | cons b bs =>
      rw [intercalate_map_cons, List.append_assoc] at h
      exact absurd h.symm (hx.ne_item b _)
  | cons a as =>
    rw [intercalate_map_cons, List.append_assoc] at h
    cases bs with
    | nil => exact absurd h (hy.ne_item a _)
    | cons b bs =>
      rw [intercalate_map_cons, List.append_assoc] at h
      -- With one more separator in front of them all items have one.
      refine flatMap_separator_append_inj hitem hseparator hx hy ?_
      rw [List.flatMap_cons, List.flatMap_cons, List.append_assoc, List.append_assoc]
      exact congrArg (separator :: ·) h

end ChannelGossip.Text

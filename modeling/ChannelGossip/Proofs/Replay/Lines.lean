import ChannelGossip.Proofs.Except
import ChannelGossip.Proofs.Text.Utf8
import ChannelGossip.Replay

/-! # The frames in a text

A replay reads its input line by line as bytes.  If the input is UTF-8 then every line is, and what
comes out are the lines of the text without white space around them, blank lines and comments left
out.  Main statements:

* `Replay.frameTexts`   the frames in a text
* `Replay.exists_frames_lines`   the lines of the input hold these frames and no others -/

namespace ChannelGossip

namespace Text

/-- `trim` takes white space at the end of a text off with all the rest. -/
theorem trim_concat {c : Char} (hc : isWhiteSpace c = true) (cs : List Char) :
    trim (String.ofList (cs ++ [c])) = trim (String.ofList cs) := by
  have hlast : [c].dropWhile isWhiteSpace = [] := by simp [hc]
  simp only [trim, String.toList_ofList, List.dropWhile_append, hlast]
  split
  · rename_i hblank
    rw [List.isEmpty_iff.1 hblank]
  · -- The character is the first to be dropped from the reversed text.
    rw [List.reverse_append, List.reverse_singleton, List.singleton_append,
      List.dropWhile_cons_of_pos hc]

end Text

namespace Replay

/-- Whether a trimmed line holds a frame: it is not blank and no comment. -/
def holdsFrame (line : String) : Bool := !(line.isEmpty || line.toList.head? == some '#')

/-- The frames in a text: its lines without white space around them that hold frames by
    `holdsFrame`. -/
def frameTexts (text : String) : List String :=
  ((text.toList.splitOn '\n').map fun line => Text.trim (String.ofList line)).filter holdsFrame

/-- The frame in a line of characters. -/
def frameIn? (line : List Char) : Option String :=
  let text := Text.trim (String.ofList line)
  if holdsFrame text then some text else none

theorem frameTexts_eq (text : String) :
    frameTexts text = (text.toList.splitOn '\n').filterMap frameIn? := by
  rw [frameTexts, List.filter_map, ← List.filterMap_eq_filter, List.map_filterMap]
  refine List.filterMap_congr fun line _ => ?_
  by_cases h : holdsFrame (Text.trim (String.ofList line)) = true
  · simp [frameIn?, h]
  · simp [frameIn?, h]

/-- `frame?` finds the frame that the characters of a line make. -/
theorem frame?_of_spells {line : Bytes} {cs : List Char} (h : Text.Utf8.Spells line cs) :
    frame? line = .ok (frameIn? cs) := by
  have hdecode : Text.Utf8.decode line = .ok (String.ofList cs) :=
    Text.Utf8.decode_eq_ok_iff.2 (by simpa using h)
  simp only [frame?, hdecode, frameIn?, holdsFrame]
  by_cases hskip : ((Text.trim (String.ofList cs)).isEmpty ||
      (Text.trim (String.ofList cs)).toList.head? == some '#') = true
  · simp [hskip, Except.mapError, bind, Except.bind, pure, Except.pure]
  · simp [hskip, Except.mapError, bind, Except.bind, pure, Except.pure]

/-- For `frame?` a carriage return at the end of a line makes no difference. -/
theorem frame?_dropReturn {line : Bytes} {cs : List Char} (h : Text.Utf8.Spells line cs) :
    frame? (Text.dropReturn line) = .ok (frameIn? cs) := by
  unfold Text.dropReturn
  split
  · rename_i hlast
    -- It is white space, which is taken off anyway.
    obtain ⟨front, rfl⟩ := List.getLast?_eq_some_iff.1 hlast
    obtain ⟨cs', rfl, hfront⟩ := h.of_concat (d := '\r') (by decide) (by decide)
    rw [List.dropLast_concat, frame?_of_spells hfront]
    simp only [frameIn?, Text.trim_concat (c := '\r') (by decide)]
  · exact frame?_of_spells h

/-- If the input is UTF-8 then `frame?` reads each of its lines, and they hold `frameTexts` of the
    text. -/
theorem exists_frames_lines {input : Bytes} {text : String}
    (h : Text.Utf8.decode input = .ok text) :
    ∃ frames : List (Option String), (Text.lines input).map frame? = frames.map .ok ∧
      frames.reduceOption = frameTexts text := by
  have hpieces := (Text.Utf8.decode_eq_ok_iff.1 h).splitOn (b := 10) (d := '\n') (by decide)
    (by decide)
  rw [frameTexts_eq, Text.lines]
  generalize input.splitOn 10 = pieces at hpieces ⊢
  generalize text.toList.splitOn '\n' = texts at hpieces ⊢
  -- The pieces between line breaks, as bytes and as characters, side by side.
  induction hpieces with
  | nil => exact ⟨[], rfl, rfl⟩
  | @cons piece cs pieces texts hpiece hpieces ih =>
    cases hpieces with
    | nil =>
      -- The last line, which is left out if nothing is in it
      by_cases hempty : piece = []
      · subst hempty
        cases hpiece
        exact ⟨[], rfl, rfl⟩
      · have hkept : (!piece.isEmpty) = true := by simpa using hempty
        refine ⟨[frameIn? cs], by simp [hkept, frame?_of_spells hpiece], ?_⟩
        rw [List.filterMap_cons]
        cases frameIn? cs <;> rfl
    | @cons piece' cs' pieces texts hpiece' hpieces =>
      -- A line before others, of which a carriage return is taken off
      obtain ⟨frames, hframes, htexts⟩ := ih
      refine ⟨frameIn? cs :: frames, ?_, ?_⟩
      · rw [List.map_cons, ← hframes, ← frame?_dropReturn hpiece]
        rfl
      · rw [List.filterMap_cons, ← htexts]
        cases frameIn? cs <;> rfl

end Replay

end ChannelGossip

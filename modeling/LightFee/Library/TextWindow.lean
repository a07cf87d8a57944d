import LightFee.Library.DecimalText
import LightFee.Library.Utf8Text
import Mathlib.Data.List.DropRight

/-!
# Windows of a text file

A reader may start at a byte offset of a text file or read no more than its last
bytes. An offset in front of a character is a cut of the text. A window at the
end may cut the character it starts in; each byte that is left of it is replaced.
-/

namespace TextWindow

open DecimalText

/-- The bytes that a text takes in its file. -/
def textSize (text : List Char) : Nat := (Utf8Text.encode text).length

@[simp] theorem textSize_nil : textSize [] = 0 := rfl

@[simp] theorem textSize_append (first second : List Char) :
    textSize (first ++ second) = textSize first + textSize second := by
  simp [textSize]

@[simp] theorem textSize_cons (c : Char) (rest : List Char) :
    textSize (c :: rest) = c.utf8Size + textSize rest := by
  simp [textSize, Utf8Text.encode_cons]

/-! ## Seeking -/

/-- The text from a byte offset on. -/
def seekText : Nat → List Char → List Char
  | 0, text => text
  | _ + 1, [] => []
  | offset + 1, c :: rest => seekText (offset + 1 - c.utf8Size) rest

/-- Seeking behind a front of the text leaves what follows it. -/
theorem seekText_append (before rest : List Char) :
    seekText (textSize before) (before ++ rest) = rest := by
  induction before with
  | nil => rw [textSize_nil, seekText, List.nil_append]
  | cons c before ih =>
    obtain ⟨size, sized⟩ : ∃ size, c.utf8Size + textSize before = size + 1 :=
      Nat.exists_eq_succ_of_ne_zero (Nat.add_pos_left c.utf8Size_pos _).ne'
    rw [textSize_cons, sized, List.cons_append, seekText, ← sized, Nat.add_sub_cancel_left]
    exact ih

/-! ## The end of a text -/

/-- The longest end of a text that fits into a number of bytes. -/
def lastChunk (size : Nat) : List Char → List Char
  | [] => []
  | c :: rest => if textSize (c :: rest) ≤ size then c :: rest else lastChunk size rest

/-- The last bytes of a text, with a replacement for each byte of a cut character. -/
def windowText (size : Nat) (text : List Char) : List Char :=
  List.replicate (min size (textSize text) - textSize (lastChunk size text)) '\uFFFD' ++
    lastChunk size text

/-- An end that fits is part of the longest one. -/
theorem lastChunk_append (size : Nat) (before rest : List Char) (fits : textSize rest ≤ size) :
    ∃ more, lastChunk size (before ++ rest) = more ++ rest ∧ more <:+ before := by
  induction before with
  | nil =>
    refine ⟨[], ?_, List.suffix_rfl⟩
    cases rest with
    | nil => rfl
    | cons c rest => rw [List.nil_append, lastChunk, if_pos fits]
  | cons c before ih =>
    rw [List.cons_append, lastChunk]
    split_ifs with whole
    · exact ⟨c :: before, rfl, List.suffix_rfl⟩
    · obtain ⟨more, found, isSuffix⟩ := ih
      exact ⟨more, found, isSuffix.trans (List.suffix_cons c before)⟩

/-! ## Lines at the end -/

/-- The text is empty or ends with a line feed. -/
def EndsLine (text : List Char) : Prop := text = [] ∨ ∃ front, text = front ++ ['\n']

theorem endsLine_suffix {text rest : List Char} (ends : EndsLine text) (isSuffix : rest <:+ text) :
    EndsLine rest := by
  obtain rfl | ⟨front, rfl⟩ := ends
  · exact Or.inl (List.suffix_nil.mp isSuffix)
  · obtain ⟨before, whole⟩ := isSuffix
    obtain rfl | ⟨others, last, rfl⟩ := rest.eq_nil_or_concat'
    · exact Or.inl rfl
    · rw [← List.append_assoc] at whole
      have same := List.append_inj_right' whole rfl
      rw [same]
      exact Or.inr ⟨others, rfl⟩

/-- A window that holds the last line has nothing or a line end in front of it. -/
theorem windowText_line {size : Nat} {before line : List Char} (ends : EndsLine before)
    (fits : textSize (line ++ ['\n']) ≤ size) :
    ∃ front, windowText size (before ++ (line ++ ['\n'])) = front ++ (line ++ ['\n']) ∧
      EndsLine front := by
  obtain ⟨more, chunk, isSuffix⟩ := lastChunk_append size before (line ++ ['\n']) fits
  refine ⟨List.replicate (min size (textSize (before ++ (line ++ ['\n']))) -
    textSize (lastChunk size (before ++ (line ++ ['\n'])))) '\uFFFD' ++ more, ?_, ?_⟩
  · rw [windowText, chunk, List.append_assoc]
  · obtain rfl | ⟨front, rfl⟩ := ends
    · have empty := List.suffix_nil.mp isSuffix
      subst empty
      rw [chunk]
      simp [EndsLine]
    · obtain ending | ⟨others, ending⟩ := endsLine_suffix (Or.inr ⟨front, rfl⟩) isSuffix
      · subst ending
        -- an unfinished character in front of the line would leave room for the line feed
        have room : size ≤ textSize (line ++ ['\n']) := by
          by_contra less
          have also : textSize ('\n' :: (line ++ ['\n'])) ≤ size := by
            rw [textSize_cons, show ('\n' : Char).utf8Size = 1 from rfl]
            omega
          obtain ⟨larger, same, _⟩ := lastChunk_append size front ('\n' :: (line ++ ['\n'])) also
          rw [List.append_assoc, List.singleton_append, same] at chunk
          have lengths := congrArg List.length chunk
          simp only [List.length_append, List.length_cons, List.length_nil] at lengths
          omega
        rw [chunk, List.nil_append, List.append_nil, textSize_append]
        have none_left : min size (textSize (front ++ ['\n']) + textSize (line ++ ['\n'])) -
            textSize (line ++ ['\n']) = 0 := by omega
        rw [none_left]
        exact Or.inl rfl
      · rw [ending, ← List.append_assoc]
        exact Or.inr ⟨_, rfl⟩

/-- The last of the pieces between line feeds. -/
def lastLine (text : List Char) : List Char := (text.reverse.takeWhile (· ≠ '\n')).reverse

/-! ## Blanks at the ends -/

/-- White space removed from the end. -/
def stripEnd (text : List Char) : List Char := (text.reverse.dropWhile isSpace).reverse

theorem strip_eq (text : List Char) : strip text = stripEnd (text.dropWhile isSpace) := rfl

theorem stripEnd_append_blank (text : List Char) {blanks : List Char}
    (blank : ∀ c ∈ blanks, isSpace c = true) : stripEnd (text ++ blanks) = stripEnd text := by
  rw [stripEnd, List.reverse_append,
    List.dropWhile_append_of_pos (fun c member => blank c (List.mem_reverse.mp member)), stripEnd]

theorem stripEnd_append {rest : List Char} (kept : stripEnd rest ≠ []) (front : List Char) :
    stripEnd (front ++ rest) = front ++ stripEnd rest := by
  have remains : (rest.reverse.dropWhile isSpace).isEmpty = false := by
    rw [List.isEmpty_eq_false_iff]
    intro none
    rw [stripEnd, none] at kept
    exact kept rfl
  rw [stripEnd, List.reverse_append, List.dropWhile_append, remains]
  simp [stripEnd]

/-- What is removed at the end is blank. -/
theorem stripEnd_split (text : List Char) :
    ∃ blanks, text = stripEnd text ++ blanks ∧ ∀ c ∈ blanks, isSpace c = true := by
  refine ⟨(text.reverse.takeWhile isSpace).reverse, ?_, ?_⟩
  · rw [stripEnd, ← List.reverse_append, List.takeWhile_append_dropWhile, List.reverse_reverse]
  · intro c member
    exact List.mem_takeWhile_imp (List.mem_reverse.mp member)

theorem stripEnd_starts (text : List Char) : stripEnd text <+: text := by
  obtain ⟨blanks, split, _⟩ := stripEnd_split text
  exact ⟨blanks, split.symm⟩

/-- Blanks at the end do not matter to what is stripped at both ends. -/
theorem strip_append_blank (text : List Char) {blanks : List Char}
    (blank : ∀ c ∈ blanks, isSpace c = true) : strip (text ++ blanks) = strip text := by
  rw [strip_eq, strip_eq, List.dropWhile_append]
  split_ifs with none
  · have gone : blanks.dropWhile isSpace = [] := List.dropWhile_eq_nil_iff.mpr blank
    rw [gone, List.isEmpty_iff.mp none]
  · exact stripEnd_append_blank _ blank

theorem strip_stripEnd (text : List Char) : strip (stripEnd text) = strip text := by
  obtain ⟨blanks, split, blank⟩ := stripEnd_split text
  conv_rhs => rw [split, strip_append_blank _ blank]

theorem strip_strip (text : List Char) : strip (strip text) = strip text := by
  rw [strip_eq text, strip_stripEnd, strip_eq, List.dropWhile_idempotent]

theorem lastLine_single {text : List Char} (oneLine : '\n' ∉ text) : lastLine text = text := by
  have all : ∀ c ∈ text.reverse, decide (c ≠ '\n') = true := by
    intro c member
    rw [decide_eq_true_eq]
    rintro rfl
    exact oneLine (List.mem_reverse.mp member)
  rw [lastLine, List.takeWhile_eq_self_iff.mpr all, List.reverse_reverse]

theorem lastLine_append {rest : List Char} (oneLine : '\n' ∉ rest) (front : List Char) :
    lastLine (front ++ '\n' :: rest) = rest := by
  have all : ∀ c ∈ rest.reverse, decide (c ≠ '\n') = true := by
    intro c member
    rw [decide_eq_true_eq]
    rintro rfl
    exact oneLine (List.mem_reverse.mp member)
  rw [lastLine, List.reverse_append, List.reverse_cons, List.append_assoc,
    List.takeWhile_append_of_pos all]
  simp

/-- The last line of a stripped text that ends with a line, stripped itself. -/
theorem strip_lastLine {front line : List Char} (ends : EndsLine front) (oneLine : '\n' ∉ line)
    (written : strip line ≠ []) :
    strip (lastLine (strip (front ++ (line ++ ['\n'])))) = strip line := by
  have feed : ∀ c ∈ ['\n'], isSpace c = true := by
    intro c member
    rw [List.mem_singleton.mp member]
    rfl
  have keptEnd : stripEnd line ≠ [] := by
    intro none
    rw [← strip_stripEnd, none] at written
    exact written rfl
  rw [← List.append_assoc, strip_append_blank _ feed, strip_eq (front ++ line), List.dropWhile_append]
  split_ifs with none
  · rw [← strip_eq, lastLine_single, strip_strip]
    intro member
    have inside := (stripEnd_starts _).subset member
    exact oneLine ((List.dropWhile_suffix isSpace).subset inside)
  · rw [stripEnd_append keptEnd]
    have ending := endsLine_suffix ends (List.dropWhile_suffix isSpace)
    obtain empty | ⟨others, ending⟩ := ending
    · rw [empty] at none
      exact absurd rfl none
    · rw [ending, List.append_assoc, List.singleton_append, lastLine_append, strip_stripEnd]
      intro member
      exact oneLine ((stripEnd_starts line).subset member)

end TextWindow

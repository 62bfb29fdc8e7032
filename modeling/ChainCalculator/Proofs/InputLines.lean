import ChainCalculator.CommandLine.Run

namespace ChainCalculator

/-!
# Lines of an input

Bytes are broken into lines at line feeds, and characters can be broken into lines in the same way.
A text in UTF-8 has a line feed among its bytes only where one stands among its characters, so the
lines of its bytes are the encoded lines of the text, and each of them can be decoded.
-/

namespace Lines

variable {α β : Type} [DecidableEq α] [DecidableEq β] {mark : α}

/-- Put something in front of lines: a mark ends a line, anything else belongs to the first. -/
def add
    (mark character : α)
    (lines : List (List α)) :
    List (List α) :=
  if character = mark then
    [] :: lines
  else
    match lines with
    | [] => [[character]]
    | line :: others => (character :: line) :: others

/-- What stands between marks.  The last line may lack its mark. -/
def split
    (mark : α)
    (text : List α) :
    List (List α) :=
  text.foldr (add mark) []

/-- A text that ends between two lines. -/
def IsComplete
    (mark : α)
    (text : List α) :
    Prop :=
  text = [] ∨ text.getLast? = some mark

theorem add_mark
    (lines : List (List α)) :
    add mark mark lines = [] :: lines :=
  if_pos rfl

theorem add_cons
    {character : α}
    (other : character ≠ mark)
    (line : List α)
    (lines : List (List α)) :
    add mark character (line :: lines) = (character :: line) :: lines :=
  if_neg other

/-- A character belongs to a line, or ends one. -/
theorem add_ne_nil
    (character : α)
    (lines : List (List α)) :
    add mark character lines ≠ [] := by
  by_cases isMark : character = mark
  · simp [add, isMark]
  · cases lines <;> simp [add, isMark]

/-- Lines are made from the end of the text to its front. -/
theorem split_cons
    (character : α)
    (text : List α) :
    split mark (character :: text) = add mark character (split mark text) :=
  rfl

/-- A text that is not empty has a line. -/
theorem split_ne_nil
    {text : List α}
    (nonempty : text ≠ []) :
    split mark text ≠ [] := by
  obtain ⟨first, rest, rfl⟩ := List.exists_cons_of_ne_nil nonempty
  exact add_ne_nil _ _

/-- A character in front belongs to the first line, whatever follows the last. -/
theorem add_append
    (character : α)
    {lines : List (List α)}
    (nonempty : lines ≠ [])
    (others : List (List α)) :
    add mark character (lines ++ others) = add mark character lines ++ others := by
  obtain ⟨line, later, rfl⟩ := List.exists_cons_of_ne_nil nonempty
  by_cases isMark : character = mark
  · simp [add, isMark]
  · simp [add, isMark]

omit [DecidableEq α] in
/-- The rest of a text is complete if the text is. -/
theorem IsComplete.of_cons
    {character : α}
    {text : List α}
    (complete : IsComplete mark (character :: text)) :
    IsComplete mark text := by
  rcases complete with empty | ends
  · cases empty
  · cases text with
    | nil => exact Or.inl rfl
    | cons next rest => exact Or.inr (by simpa using ends)

/-- Behind a complete text the lines begin anew. -/
theorem split_append
    {earlier : List α}
    (complete : IsComplete mark earlier)
    (later : List α) :
    split mark (earlier ++ later) = split mark earlier ++ split mark later := by
  induction earlier with
  | nil =>
      rfl
  | cons character rest inductionHypothesis =>
      rw [List.cons_append, split_cons, inductionHypothesis complete.of_cons, split_cons]
      by_cases last : rest = []
      · subst last
        have isMark : character = mark := by
          simpa [IsComplete] using complete
        rw [isMark]
        simp [add_mark, split]
      · exact add_append character (split_ne_nil last) _

/-- A mark behind a text that lacks it ends the last line and begins no other. -/
theorem split_concat_mark
    {text : List α}
    (incomplete : ¬IsComplete mark text) :
    split mark (text ++ [mark]) = split mark text := by
  induction text with
  | nil =>
      exact absurd (Or.inl rfl) incomplete
  | cons character rest inductionHypothesis =>
      rw [List.cons_append, split_cons, split_cons]
      by_cases last : rest = []
      · subst last
        have other : character ≠ mark := by
          rintro rfl
          exact incomplete (Or.inr rfl)
        simp [split, add, other]
      · have restIncomplete : ¬IsComplete mark rest := by
          rintro (empty | ends)
          · exact last empty
          · exact incomplete (Or.inr (by rw [List.getLast?_cons, ends]; rfl))
        rw [inductionHypothesis restIncomplete]

/-- Without a mark there is one line. -/
theorem split_of_not_mem
    {line : List α}
    (oneLine : mark ∉ line)
    (nonempty : line ≠ []) :
    split mark line = [line] := by
  induction line with
  | nil =>
      exact absurd rfl nonempty
  | cons character rest inductionHypothesis =>
      have other : character ≠ mark := fun same => oneLine (by simp [same])
      rw [split_cons]
      by_cases last : rest = []
      · simp [last, split, add, other]
      · rw [inductionHypothesis (fun member => oneLine (List.mem_cons_of_mem _ member)) last,
          add_cons other]

/-- Up to the first mark stands the first line. -/
theorem split_append_mark
    {line : List α}
    (oneLine : mark ∉ line)
    (rest : List α) :
    split mark (line ++ mark :: rest) = line :: split mark rest := by
  induction line with
  | nil =>
      exact add_mark _
  | cons character later inductionHypothesis =>
      have other : character ≠ mark := fun same => oneLine (by simp [same])
      rw [List.cons_append, split_cons,
        inductionHypothesis fun member => oneLine (List.mem_cons_of_mem _ member), add_cons other]

/-- A text is empty, or one line without a mark, or it has a first line with a mark behind it. -/
theorem split_cases
    (mark : α)
    (text : List α) :
    text = [] ∨
      (text ≠ [] ∧ mark ∉ text) ∨
      ∃ line rest, text = line ++ mark :: rest ∧ mark ∉ line := by
  by_cases marked : mark ∈ text
  · obtain ⟨line, rest, shape, oneLine⟩ := List.eq_append_cons_of_mem marked
    exact Or.inr (Or.inr ⟨line, rest, shape, oneLine⟩)
  · by_cases empty : text = []
    · exact Or.inl empty
    · exact Or.inr (Or.inl ⟨empty, marked⟩)

/-- Several characters without a mark are put in front of the first line together. -/
theorem foldr_add
    {line : List α}
    (oneLine : mark ∉ line)
    (nonempty : line ≠ [])
    (lines : List (List α)) :
    line.foldr (add mark) lines = (line ++ lines.headD []) :: lines.tail := by
  induction line with
  | nil =>
      exact absurd rfl nonempty
  | cons character rest inductionHypothesis =>
      have other : character ≠ mark := fun same => oneLine (by simp [same])
      rw [List.foldr_cons]
      by_cases last : rest = []
      · subst last
        cases lines <;> simp [add, other]
      · rw [inductionHypothesis (fun member => oneLine (List.mem_cons_of_mem _ member)) last,
          add_cons other]
        rfl

/-- A code that keeps marks apart from everything else keeps the lines. -/
theorem split_flatMap
    {otherMark : β}
    {encode : α → List β}
    (marked : encode mark = [otherMark])
    (unmarked : ∀ character, character ≠ mark → otherMark ∉ encode character)
    (nonempty : ∀ character, encode character ≠ [])
    (text : List α) :
    split otherMark (text.flatMap encode) =
      (split mark text).map fun line => line.flatMap encode := by
  induction text with
  | nil =>
      rfl
  | cons character rest inductionHypothesis =>
      have encoded :
          split otherMark ((character :: rest).flatMap encode) =
            (encode character).foldr (add otherMark)
              ((split mark rest).map fun line => line.flatMap encode) := by
        rw [← inductionHypothesis, List.flatMap_cons, split, List.foldr_append]
        rfl
      rw [encoded, split_cons]
      by_cases isMark : character = mark
      · subst isMark
        rw [marked, add_mark]
        exact add_mark _
      · rw [foldr_add (unmarked character isMark) (nonempty character)]
        cases split mark rest with
        | nil => simp [add, isMark]
        | cons line lines => simp [add_cons isMark]

end Lines

/-! ## Lines of bytes -/

/-- The bytes of a text. -/
def utf8
    (text : List Char) :
    List UInt8 :=
  text.flatMap String.utf8EncodeChar

/-- Only the line feed has a line feed among its bytes. -/
theorem lineFeed_not_mem_utf8EncodeChar
    {character : Char}
    (other : character ≠ '\n') :
    10 ∉ String.utf8EncodeChar character := by
  have codeNe : character.val.toNat ≠ 10 :=
    fun same => other (Char.toNat_inj.mp same)
  have small := character.val.toNat_lt
  generalize codeShape : character.val.toNat = code at *
  have byteNe (byte : Nat) (range : byte < 256) (byteNe : byte ≠ 10) : 10 ≠ UInt8.ofNat byte := by
    intro same
    have sameNumber := congrArg UInt8.toNat same
    rw [UInt8.toNat_ofNat', Nat.mod_eq_of_lt range] at sameNumber
    exact byteNe sameNumber.symm
  rw [String.utf8EncodeChar, codeShape]
  split
  · simpa using byteNe code (by omega) codeNe
  · split
    · simp only [List.mem_cons, List.not_mem_nil, or_false, not_or]
      exact ⟨byteNe _ (by omega) (by omega), byteNe _ (by omega) (by omega)⟩
    · split
      · simp only [List.mem_cons, List.not_mem_nil, or_false, not_or]
        exact
          ⟨byteNe _ (by omega) (by omega), byteNe _ (by omega) (by omega),
            byteNe _ (by omega) (by omega)⟩
      · simp only [List.mem_cons, List.not_mem_nil, or_false, not_or]
        exact
          ⟨byteNe _ (by omega) (by omega), byteNe _ (by omega) (by omega),
            byteNe _ (by omega) (by omega), byteNe _ (by omega) (by omega)⟩

namespace CommandLine

/-- The lines of the input end at its line feeds. -/
theorem inputLines_eq_split
    (input : List UInt8) :
    inputLines input = Lines.split 10 input := by
  have sameAdd : addByte = Lines.add 10 := by
    funext byte lines
    cases lines <;> rfl
  rw [inputLines, sameAdd, Lines.split]

/-- The lines of an encoded text are the encoded lines of the text. -/
theorem inputLines_utf8
    (text : List Char) :
    inputLines (utf8 text) = (Lines.split '\n' text).map utf8 := by
  rw [inputLines_eq_split]
  exact
    Lines.split_flatMap (by decide) (fun _ => lineFeed_not_mem_utf8EncodeChar)
      (fun _ => String.utf8EncodeChar_ne_nil) text

/-- A text is decoded from its own encoding and from nothing else. -/
theorem fromUTF8?_eq_some_iff
    {bytes : ByteArray}
    {text : String} :
    String.fromUTF8? bytes = some text ↔ bytes = text.toByteArray := by
  constructor
  · intro decoded
    rw [String.fromUTF8?] at decoded
    split at decoded
    · exact congrArg String.toByteArray (Option.some.inj decoded)
    · cases decoded
  · rintro rfl
    rw [String.fromUTF8?, dif_pos text.isValidUTF8]
    rfl

/-- A line can be decoded if and only if it is the code of a text. -/
theorem lineText?_eq_some_iff
    {line : List UInt8}
    {text : String} :
    lineText? line = some text ↔ line = utf8 text.toList := by
  have code : text.toByteArray = ⟨(utf8 text.toList).toArray⟩ := by
    rw [← String.utf8Encode_toList]
    exact ByteArray.ext List.data_toByteArray
  rw [lineText?, fromUTF8?_eq_some_iff, code, ByteArray.mk.injEq]
  exact ⟨List.toArray_inj, congrArg List.toArray⟩

/-- What was encoded can be decoded. -/
theorem lineText?_utf8
    (text : List Char) :
    lineText? (utf8 text) = some (String.ofList text) := by
  rw [lineText?_eq_some_iff, String.toList_ofList]

/-- The texts of the lines of a text are its lines. -/
theorem map_lineText?_inputLines
    (text : List Char) :
    (inputLines (utf8 text)).map lineText? =
      (Lines.split '\n' text).map fun line => some (String.ofList line) := by
  rw [inputLines_utf8, List.map_map]
  exact List.map_congr_left fun line _ => lineText?_utf8 line

end CommandLine

/-! ## Words -/

namespace Text

/-- A blank in front is no part of a word. -/
theorem words_cons_of_isBlank
    {blank : Char}
    (isBlank : isBlank blank)
    (text : List Char) :
    words (blank :: text) = words text := by
  rw [words, if_pos isBlank]

/-- A character that can be seen belongs to a word. -/
theorem words_cons_ne_nil
    {character : Char}
    (visible : ¬isBlank character)
    (text : List Char) :
    words (character :: text) ≠ [] := by
  rw [words, if_neg visible]
  split
  · exact List.cons_ne_nil _ _
  · split <;> exact List.cons_ne_nil _ _

/-- A blank separates words. -/
theorem words_append_blank
    {blank : Char}
    (blankShape : isBlank blank)
    (earlier later : List Char) :
    words (earlier ++ blank :: later) = words earlier ++ words later := by
  induction earlier with
  | nil =>
      exact words_cons_of_isBlank blankShape later
  | cons character rest inductionHypothesis =>
      rw [List.cons_append, words, words, inductionHypothesis]
      by_cases characterBlank : isBlank character
      · rw [if_pos characterBlank, if_pos characterBlank]
      · rw [if_neg characterBlank, if_neg characterBlank]
        cases rest with
        | nil =>
            simp [blankShape, words]
        | cons next others =>
            by_cases nextBlank : isBlank next
            · simp [nextBlank]
            · -- The word goes on, so the first word of the rest is still there.
              obtain ⟨word, more, wordsShape⟩ :=
                List.exists_cons_of_ne_nil (words_cons_ne_nil nextBlank others)
              simp [nextBlank, wordsShape]

/-- There are no words among blanks. -/
theorem words_of_forall_isBlank
    {text : List Char}
    (allBlank : ∀ character ∈ text, isBlank character) :
    words text = [] := by
  induction text with
  | nil =>
      rfl
  | cons blank rest inductionHypothesis =>
      rw [words_cons_of_isBlank (allBlank blank List.mem_cons_self)]
      exact inductionHypothesis fun _ member => allBlank _ (List.mem_cons_of_mem _ member)

/-- Blanks in front may be cut off. -/
theorem words_dropWhile_isBlank
    (text : List Char) :
    words (text.dropWhile isBlank) = words text := by
  induction text with
  | nil =>
      rfl
  | cons character rest inductionHypothesis =>
      by_cases characterBlank : isBlank character
      · rw [List.dropWhile_cons_of_pos characterBlank, inductionHypothesis,
          words_cons_of_isBlank characterBlank]
      · rw [List.dropWhile_cons_of_neg characterBlank]

/-- Blanks at the end may be cut off. -/
theorem words_append_of_forall_isBlank
    (text : List Char)
    {blanks : List Char}
    (allBlank : ∀ character ∈ blanks, isBlank character) :
    words (text ++ blanks) = words text := by
  cases blanks with
  | nil =>
      rw [List.append_nil]
  | cons blank rest =>
      rw [words_append_blank (allBlank blank List.mem_cons_self),
        words_of_forall_isBlank fun _ member => allBlank _ (List.mem_cons_of_mem _ member),
        List.append_nil]

/-- Trimming a text keeps its words. -/
theorem words_trim
    (text : List Char) :
    words (trim text) = words text := by
  rw [trim, ← words_dropWhile_isBlank text]
  generalize text.dropWhile isBlank = front
  have blanks : ∀ character ∈ (front.reverse.takeWhile isBlank).reverse, isBlank character := by
    intro character member
    exact List.all_eq_true.mp List.all_takeWhile character (List.mem_reverse.mp member)
  have whole :
      (front.reverse.dropWhile isBlank).reverse ++ (front.reverse.takeWhile isBlank).reverse =
        front := by
    rw [← List.reverse_append, List.takeWhile_append_dropWhile, List.reverse_reverse]
  rw [← words_append_of_forall_isBlank _ blanks, whole]

/-- The words of a text are those of its lines. -/
theorem words_eq_flatMap_split
    (text : List Char) :
    words text = (Lines.split '\n' text).flatMap words := by
  induction lengthShape : text.length using Nat.strongRecOn generalizing text with
  | ind length inductionHypothesis =>
      rcases Lines.split_cases '\n' text with rfl | ⟨nonempty, oneLine⟩ | ⟨line, rest, rfl, oneLine⟩
      · rfl
      · rw [Lines.split_of_not_mem oneLine nonempty, List.flatMap_singleton]
      · have shorter : rest.length < length := by
          rw [← lengthShape, List.length_append, List.length_cons]
          omega
        rw [Lines.split_append_mark oneLine, words_append_blank (by decide), List.flatMap_cons,
          inductionHypothesis rest.length shorter rest rfl]

/-- The words of texts with a space between two of them are the words of the texts. -/
theorem words_intercalate_space
    (texts : List (List Char)) :
    words ([' '].intercalate texts) = texts.flatMap words := by
  induction texts with
  | nil =>
      rfl
  | cons text rest inductionHypothesis =>
      cases rest with
      | nil =>
          simp
      | cons next others =>
          rw [List.intercalate_cons_cons, List.append_assoc, List.singleton_append,
            words_append_blank (by decide), inductionHypothesis, List.flatMap_cons,
            List.flatMap_cons, List.flatMap_cons]

end Text

end ChainCalculator

import ChainCalculator.Proofs.PrintedLines

namespace ChainCalculator

/-!
# The keys of a line

A line that is no command is read as keys.  They spell the line without its blanks, each of them
stands within one word of it, and it is the whole word if that is bound and one character else.

A key is a word without blanks, and as a word it is read as itself again.  So the keys with spaces
between them are another line for the same keys.  That line cannot be a command: a command would be
its only key, and then the first line had no other word and was the command itself.
-/

namespace Text

/-- A longest piece of a text without a blank. -/
structure IsWord
    (text word : List Char) :
    Prop where
  nonempty : word ≠ []
  visible : ∀ character ∈ word, isBlank character = false
  placed :
    ∃ before after,
      text = before ++ word ++ after ∧
        (∀ character ∈ before.getLast?, isBlank character) ∧
          ∀ character ∈ after.head?, isBlank character

/-- A text is broken where its characters cease to have a property. -/
theorem exists_span
    (holds : Char → Bool)
    (text : List Char) :
    ∃ front rest,
      text = front ++ rest ∧
        (∀ character ∈ front, holds character) ∧
          ∀ character ∈ rest.head?, holds character = false := by
  refine
    ⟨text.takeWhile holds, text.dropWhile holds, List.takeWhile_append_dropWhile.symm,
      List.all_eq_true.mp List.all_takeWhile, ?_⟩
  intro character isHead
  have headShape := List.head?_dropWhile_not holds text
  rwa [Option.mem_def.mp isHead] at headShape

/-- A text without words is blank. -/
theorem forall_isBlank_of_words_eq_nil
    {text : List Char}
    (noWords : words text = []) :
    ∀ character ∈ text, isBlank character := by
  induction text with
  | nil =>
      exact List.forall_mem_nil _
  | cons character rest inductionHypothesis =>
      by_cases characterBlank : isBlank character
      · rw [words_cons_of_isBlank characterBlank] at noWords
        exact List.forall_mem_cons.mpr ⟨characterBlank, inductionHypothesis noWords⟩
      · exact absurd noWords (words_cons_ne_nil characterBlank rest)

/-- Blanks in front of a text are no part of its words. -/
theorem words_append_of_isBlank
    {blanks : List Char}
    (blank : ∀ character ∈ blanks, isBlank character)
    (text : List Char) :
    words (blanks ++ text) = words text := by
  rw [← words_dropWhile_isBlank, List.dropWhile_append_of_pos blank, words_dropWhile_isBlank]

section

variable
  {word : List Char}
  (nonempty : word ≠ [])
  (visible : ∀ character ∈ word, isBlank character = false)

include nonempty visible

/-- A text that is seen throughout is one word. -/
theorem words_of_visible :
    words word = [word] := by
  obtain ⟨character, rest, rfl⟩ := List.exists_cons_of_ne_nil nonempty
  induction rest generalizing character with
  | nil =>
      simp [words, visible]
  | cons next later inductionHypothesis =>
      obtain ⟨characterVisible, restVisible⟩ := List.forall_mem_cons.mp visible
      have restWords := inductionHypothesis next (List.cons_ne_nil _ _) restVisible
      have nextVisible : isBlank next = false := restVisible next List.mem_cons_self
      rw [words, restWords]
      simp [characterVisible, nextVisible]

/-- Characters without a blank are the first word if a blank or nothing follows them. -/
theorem words_append_of_ends
    {rest : List Char}
    (ends : ∀ character ∈ rest.head?, isBlank character) :
    words (word ++ rest) = word :: words rest := by
  cases rest with
  | nil =>
      rw [List.append_nil, words_of_visible nonempty visible]
      rfl
  | cons blank later =>
      have blankShape : isBlank blank := ends blank rfl
      rw [words_append_blank blankShape, words_of_visible nonempty visible,
        words_cons_of_isBlank blankShape, List.singleton_append]

/-- A word in front keeps all that follows it. -/
theorem dropWhile_isBlank_append
    (rest : List Char) :
    (word ++ rest).dropWhile isBlank = word ++ rest := by
  obtain ⟨character, others, rfl⟩ := List.exists_cons_of_ne_nil nonempty
  rw [List.cons_append, List.dropWhile_cons_of_neg]
  simp [visible character List.mem_cons_self]

end

/-- The first word stands behind blanks, and the other words are those of what follows it. -/
theorem exists_of_words_eq_cons
    {text word : List Char}
    {others : List (List Char)}
    (shape : words text = word :: others) :
    ∃ blanks rest,
      text = blanks ++ (word ++ rest) ∧
        (∀ character ∈ blanks, isBlank character) ∧
        word ≠ [] ∧
        (∀ character ∈ word, isBlank character = false) ∧
        (∀ character ∈ rest.head?, isBlank character) ∧
        words rest = others := by
  obtain ⟨blanks, behind, rfl, blank, begins⟩ := exists_span isBlank text
  obtain ⟨first, rest, rfl, visible, ends⟩ :=
    exists_span (fun character => !isBlank character) behind
  simp only [Bool.not_eq_true', Bool.not_eq_false'] at visible ends
  rw [words_append_of_isBlank blank] at shape
  have nonempty : first ≠ [] := by
    rintro rfl
    cases rest with
    | nil =>
        cases shape
    | cons character later =>
        -- The character would end the blanks, and it would end the word as a blank.
        have characterBlank := ends character rfl
        rw [begins character rfl] at characterBlank
        cases characterBlank
  rw [words_append_of_ends nonempty visible ends] at shape
  cases shape
  exact ⟨blanks, rest, rfl, blank, nonempty, visible, ends, rfl⟩

/-- The words of a text are longest pieces of it without a blank. -/
theorem isWord_of_mem_words
    {text word : List Char}
    (member : word ∈ words text) :
    IsWord text word := by
  generalize wordsShape : words text = all at member
  induction all generalizing text with
  | nil =>
      cases member
  | cons first others inductionHypothesis =>
      obtain ⟨blanks, rest, rfl, blank, nonempty, visible, ends, restShape⟩ :=
        exists_of_words_eq_cons wordsShape
      rcases List.mem_cons.mp member with rfl | later
      · exact
          { nonempty := nonempty
            visible := visible
            placed :=
              ⟨blanks, rest, (List.append_assoc _ _ _).symm,
                fun character isLast => blank character (List.mem_of_mem_getLast? isLast), ends⟩ }
      · -- The word stands somewhere in the rest, and not at its beginning, which is blank.
        obtain ⟨wordNonempty, wordVisible, before, after, rfl, begins, wordEnds⟩ :=
          inductionHypothesis restShape later
        have separated : before ≠ [] := by
          rintro rfl
          obtain ⟨character, characters, rfl⟩ := List.exists_cons_of_ne_nil wordNonempty
          have characterBlank := ends character rfl
          rw [wordVisible character List.mem_cons_self] at characterBlank
          cases characterBlank
        refine ⟨wordNonempty, wordVisible, blanks ++ first ++ before, after, by simp, ?_, wordEnds⟩
        rwa [List.getLast?_append_of_ne_nil _ separated]

/-- The words of a text spell it without its blanks. -/
theorem flatten_words
    (text : List Char) :
    (words text).flatten = text.filter fun character => !isBlank character := by
  induction text with
  | nil =>
      rfl
  | cons character rest inductionHypothesis =>
      rw [words]
      by_cases characterBlank : isBlank character
      · rw [if_pos characterBlank, List.filter_cons_of_neg (by simpa using characterBlank),
          inductionHypothesis]
      · rw [if_neg characterBlank, List.filter_cons_of_pos (by simpa using characterBlank),
          ← inductionHypothesis]
        split
        · rfl
        · split
          case h_1 noWords => rw [noWords]; rfl
          case h_2 word others wordsShape => rw [wordsShape]; rfl

/-- A text with a single word has nothing but blanks around it. -/
theorem trim_of_words_eq_singleton
    {text word : List Char}
    (single : words text = [word]) :
    trim text = word := by
  obtain ⟨blanks, rest, rfl, blank, nonempty, visible, -, noWords⟩ :=
    exists_of_words_eq_cons single
  have restBlank : ∀ character ∈ rest.reverse, isBlank character := fun character member =>
    forall_isBlank_of_words_eq_nil noWords character (List.mem_reverse.mp member)
  have reversed : word.reverse.dropWhile isBlank = word.reverse := by
    simpa using
      dropWhile_isBlank_append (List.reverse_ne_nil_iff.mpr nonempty)
        (fun character member => visible character (List.mem_reverse.mp member)) []
  rw [trim, List.dropWhile_append_of_pos blank, dropWhile_isBlank_append nonempty visible,
    List.reverse_append, List.dropWhile_append_of_pos restBlank, reversed, List.reverse_reverse]

/-- Texts with spaces between them have the words of all the texts. -/
theorem words_intercalate_keys
    (keys : List String) :
    words (String.intercalate " " keys).toList = keys.flatMap fun key => words key.toList := by
  have space : " ".toList = [' '] := rfl
  rw [String.toList_intercalate, space, words_intercalate_space, List.flatMap_map]

end Text

namespace Bindings

variable {bindings : Bindings} {word key : String}

/-- The keys of a word spell it. -/
theorem join_keysOfWord
    (bindings : Bindings)
    (word : String) :
    String.join (bindings.keysOfWord word) = word := by
  rw [← String.toList_inj, String.toList_join, keysOfWord]
  split
  · simp
  · simp [List.flatMap_map]

/-- Every word presses a key. -/
theorem keysOfWord_ne_nil
    (nonempty : word ≠ "") :
    bindings.keysOfWord word ≠ [] := by
  intro noKeys
  have spelled := bindings.join_keysOfWord word
  rw [noKeys] at spelled
  exact nonempty spelled.symm

/-- A key of a word is the word itself if that is bound, or one of its characters. -/
theorem mem_keysOfWord
    (member : key ∈ bindings.keysOfWord word) :
    (key = word ∧ (bindings.bound? word).isSome) ∨
      ∃ character ∈ word.toList, key = String.singleton character := by
  rw [keysOfWord] at member
  split at member
  case isTrue bound => exact Or.inl ⟨List.mem_singleton.mp member, bound⟩
  case isFalse =>
    obtain ⟨character, inWord, rfl⟩ := List.mem_map.mp member
    exact Or.inr ⟨character, inWord, rfl⟩

/-- A key that is taken for a word is its own only key. -/
theorem keysOfWord_of_mem
    (member : key ∈ bindings.keysOfWord word) :
    bindings.keysOfWord key = [key] := by
  rcases mem_keysOfWord member with ⟨rfl, bound⟩ | ⟨character, -, rfl⟩
  · rw [keysOfWord, if_pos bound]
  · rw [keysOfWord]
    split
    · rfl
    · rw [String.toList_singleton, List.map_singleton]

/-- A key that is bound has a button. -/
theorem isSome_resolve?_of_bound
    (bound : (bindings.bound? key).isSome) :
    (bindings.resolve? key).isSome := by
  rw [resolve?, Option.or_of_isSome bound]
  exact bound

end Bindings

namespace Request

/-- A whole bound word of a line, or one character of a word. -/
structure IsKey
    (bindings : Bindings)
    (line : List Char)
    (key : String) :
    Prop where
  nonempty : key ≠ ""
  visible : ∀ character ∈ key.toList, Text.isBlank character = false
  within :
    ∃ word,
      Text.IsWord line word ∧
        key.toList <:+: word ∧
          (key.toList = word ∧ (bindings.bound? key).isSome ∧ (bindings.resolve? key).isSome ∨
            ∃ character, key = String.singleton character)

variable {bindings : Bindings} {line : List Char} {key : String}

/-- A line presses keys if and only if it is no command. -/
theorem read_eq_keys_iff
    {line : String}
    {keys : List String} :
    read bindings line = .keys keys ↔
      ¬IsCommand line ∧ keysOfLine bindings line.toList = keys := by
  by_cases command : IsCommand line
  · refine iff_of_false ?_ fun split => split.1 command
    rw [IsCommand] at command
    rw [read]
    generalize String.ofList (Text.trim line.toList) = trimmed at command
    split <;> simp_all
  · rw [read_of_not_isCommand command, Request.keys.injEq]
    exact ⟨fun same => ⟨command, same⟩, fun split => split.2⟩

/-- The keys of a line spell it without its blanks. -/
theorem toList_join_keysOfLine
    (bindings : Bindings)
    (line : List Char) :
    (String.join (keysOfLine bindings line)).toList =
      line.filter fun character => !Text.isBlank character := by
  rw [← Text.flatten_words, keysOfLine]
  induction Text.words line with
  | nil =>
      rfl
  | cons word others inductionHypothesis =>
      rw [List.flatMap_cons, String.join_append, String.toList_append, inductionHypothesis,
        Bindings.join_keysOfWord, String.toList_ofList, List.flatten_cons]

/-- A key of a line comes from one of its words. -/
theorem exists_word_of_mem_keysOfLine
    (member : key ∈ keysOfLine bindings line) :
    ∃ word, Text.IsWord line word ∧ key ∈ bindings.keysOfWord (String.ofList word) := by
  obtain ⟨word, isWord, inWord⟩ := List.mem_flatMap.mp member
  exact ⟨word, Text.isWord_of_mem_words isWord, inWord⟩

/-- The keys of a line are as they should be: bound words, or the characters of the others. -/
theorem isKey_of_mem_keysOfLine
    (member : key ∈ keysOfLine bindings line) :
    IsKey bindings line key := by
  obtain ⟨word, isWord, ofWord⟩ := exists_word_of_mem_keysOfLine member
  rcases Bindings.mem_keysOfWord ofWord with ⟨rfl, bound⟩ | ⟨character, inWord, rfl⟩
  · refine
      { nonempty := by simpa using isWord.nonempty
        visible := by simpa using isWord.visible
        within := ⟨word, isWord, ?_, Or.inl ⟨?_, bound, Bindings.isSome_resolve?_of_bound bound⟩⟩ }
    · rw [String.toList_ofList]
    · exact String.toList_ofList
  · rw [String.toList_ofList] at inWord
    refine
      { nonempty := by simp
        visible := by simpa using isWord.visible character inWord
        within := ⟨word, isWord, ?_, Or.inr ⟨character, rfl⟩⟩ }
    rwa [String.toList_singleton, List.singleton_infix_iff]

/-- Behind one another, with a space between two of them, the keys of a line are its words. -/
theorem words_intercalate_keysOfLine
    (bindings : Bindings)
    (line : List Char) :
    Text.words (String.intercalate " " (keysOfLine bindings line)).toList =
      (keysOfLine bindings line).map String.toList := by
  rw [Text.words_intercalate_keys, List.map_eq_flatMap]
  apply List.flatMap_congr
  intro key member
  have isKey := isKey_of_mem_keysOfLine member
  exact Text.words_of_visible (by simpa using isKey.nonempty) isKey.visible

/-- The keys of a line are read from themselves again. -/
theorem keysOfLine_intercalate_keysOfLine
    (bindings : Bindings)
    (line : List Char) :
    keysOfLine bindings (String.intercalate " " (keysOfLine bindings line)).toList =
      keysOfLine bindings line := by
  rw [keysOfLine, words_intercalate_keysOfLine, List.flatMap_map]
  have own :
      ∀ key ∈ keysOfLine bindings line,
        bindings.keysOfWord (String.ofList key.toList) = [key] := by
    intro key member
    obtain ⟨word, -, inWord⟩ := exists_word_of_mem_keysOfLine member
    rw [String.ofList_toList]
    exact Bindings.keysOfWord_of_mem inWord
  rw [List.flatMap_congr own, List.flatMap_singleton']

/-- A line with a single key has that key for its only word. -/
theorem words_of_keysOfLine_eq_singleton
    (single : keysOfLine bindings line = [key]) :
    Text.words line = [key.toList] := by
  have someKey : ∀ word ∈ Text.words line, bindings.keysOfWord (String.ofList word) ≠ [] := by
    intro word member
    apply Bindings.keysOfWord_ne_nil
    simpa using (Text.isWord_of_mem_words member).nonempty
  have spelled := toList_join_keysOfLine bindings line
  rw [single, ← Text.flatten_words] at spelled
  rw [keysOfLine] at single
  cases wordsShape : Text.words line with
  | nil =>
      rw [wordsShape] at single
      cases single
  | cons word others =>
      rw [wordsShape] at single someKey spelled
      obtain ⟨firstKey, otherKeys⟩ := List.forall_mem_cons.mp someKey
      rw [List.flatMap_cons, List.append_eq_singleton_iff] at single
      rcases single with ⟨none, -⟩ | ⟨-, rest⟩
      · exact absurd none firstKey
      · have noOthers : others = [] := by
          rw [List.flatMap_eq_nil_iff] at rest
          exact List.eq_nil_iff_forall_not_mem.mpr fun other member =>
            otherKeys other member (rest other member)
        rw [noOthers] at spelled ⊢
        simpa using spelled.symm

/-- A line with a command for its only key is that command. -/
theorem isCommand_of_keysOfLine_eq_singleton
    {line : String}
    (single : keysOfLine bindings line.toList = [key])
    (command : key ∈ ["copy", "paste", "quit", "exit"]) :
    IsCommand line := by
  rw [IsCommand, Text.trim_of_words_eq_singleton (words_of_keysOfLine_eq_singleton single),
    String.ofList_toList]
  exact command

/-- A command is the only word of its line. -/
theorem words_of_isCommand
    {line : String}
    (command : IsCommand line) :
    Text.words line.toList = [Text.trim line.toList] := by
  have commandWords :
      ∀ word ∈ ["copy", "paste", "quit", "exit"], Text.words word.toList = [word.toList] := by
    decide
  have single := commandWords _ command
  rwa [String.toList_ofList, Text.words_trim] at single

/-- The keys of a line that is no command are no command as a line of their own. -/
theorem not_isCommand_intercalate_keysOfLine
    {line : String}
    (noCommand : ¬IsCommand line) :
    ¬IsCommand (String.intercalate " " (keysOfLine bindings line.toList)) := by
  intro command
  have single := words_of_isCommand command
  rw [words_intercalate_keysOfLine, List.map_eq_singleton_iff] at single
  obtain ⟨key, keysShape, keyShape⟩ := single
  rw [IsCommand, ← keyShape, String.ofList_toList] at command
  exact noCommand (isCommand_of_keysOfLine_eq_singleton keysShape command)

/--
Whatever the bindings, the keys of a line that is no command spell the line without its blanks.
Each of them is a whole word of the line that has a button bound to it, or one character of a word.
With spaces between them they are a line for the same keys again, even if some are named like
commands.
-/
theorem read_keys_again
    {bindings : Bindings}
    {line : String}
    {keys : List String}
    (pressed : read bindings line = .keys keys) :
    (String.join keys).toList = line.toList.filter (fun character => !Text.isBlank character) ∧
      (∀ key ∈ keys, IsKey bindings line.toList key) ∧
      read bindings (String.intercalate " " keys) = .keys keys := by
  obtain ⟨noCommand, rfl⟩ := read_eq_keys_iff.mp pressed
  refine ⟨toList_join_keysOfLine bindings line.toList, fun key => isKey_of_mem_keysOfLine, ?_⟩
  exact
    read_eq_keys_iff.mpr
      ⟨not_isCommand_intercalate_keysOfLine noCommand,
        keysOfLine_intercalate_keysOfLine bindings line.toList⟩

/-- With `copy` bound, a line of two copies is one of keys, and so is the line of those keys. -/
theorem read_keys_again_named_like_commands :
    let bindings : Bindings := ⟨("copy", .equals) :: Bindings.standard.buttons⟩
    Bindings.standard.bind "COPY" "=" = .ok bindings ∧
      read bindings "\u3000copy  Copy 1x\t" = .keys ["copy", "Copy", "1", "x"] ∧
        IsKey bindings "\u3000copy  Copy 1x\t".toList "Copy" ∧
          read bindings "copy Copy 1 x" = .keys ["copy", "Copy", "1", "x"] := by
  intro bindings
  have pressed :
      read bindings "\u3000copy  Copy 1x\t" = .keys ["copy", "Copy", "1", "x"] := by
    decide +kernel
  obtain ⟨-, areKeys, again⟩ := read_keys_again pressed
  exact ⟨by decide +kernel, pressed, areKeys "Copy" (by decide), again⟩

end Request

end ChainCalculator

import ChainCalculator.Proofs.DisputedKeys

namespace ChainCalculator.CommandLine

/-!
# A run answers line by line

Without keys among its arguments the program answers its input as far as it has read it.  What it
has printed for some whole lines stays, whatever follows.  A line that ends the dialogue makes the
rest of the input irrelevant, and a line that cannot be decoded ends the run with an error after all
that was printed before it.  The line feed at the end of the input does not matter.
-/

variable {σ : Type} [Clipboard σ]

/-- A line that ends the run hides all lines behind it. -/
theorem takeLines_append_of_ends
    (options : Options)
    (desk : Desk σ)
    {earlier : List (List UInt8)}
    (ends : ∃ line ∈ earlier, ¬goesOn line)
    (later : List (List UInt8)) :
    takeLines options desk (earlier ++ later) = takeLines options desk earlier := by
  induction earlier generalizing desk with
  | nil =>
      obtain ⟨line, member, -⟩ := ends
      cases member
  | cons line rest inductionHypothesis =>
      rw [List.cons_append, takeLines, takeLines]
      by_cases continues : goesOn line
      · have endsLater : ∃ line ∈ rest, ¬goesOn line := by
          obtain ⟨ending, member, lineEnds⟩ := ends
          rcases List.mem_cons.mp member with rfl | later
          · exact absurd continues lineEnds
          · exact ⟨ending, later, lineEnds⟩
        obtain ⟨next, steps, -, taken⟩ := takeLine_of_goesOn continues options desk
        simp only [taken, inductionHypothesis next endsLater]
      · rcases takeLine_of_not_goesOn continues options desk with taken | taken
        all_goals simp only [taken]

/-- A line that cannot be decoded ends the run with an error and takes nothing back. -/
theorem takeLines_append_of_undecodable
    (options : Options)
    (desk : Desk σ)
    {earlier : List (List UInt8)}
    (continues : ∀ line ∈ earlier, goesOn line)
    {line : List UInt8}
    (undecodable : lineText? line = none)
    (later : List (List UInt8)) :
    (takeLines options desk (earlier ++ line :: later)).toResult =
      ⟨(takeLines options desk earlier).output, 1⟩ := by
  induction earlier generalizing desk with
  | nil =>
      simp only [List.nil_append, takeLines, takeLine, undecodable]
      rfl
  | cons first rest inductionHypothesis =>
      obtain ⟨next, steps, -, taken⟩ :=
        takeLine_of_goesOn (continues first List.mem_cons_self) options desk
      have later :=
        inductionHypothesis next fun _ member => continues _ (List.mem_cons_of_mem _ member)
      rw [Result.mk.injEq] at later
      simp only [List.cons_append, takeLines, taken, Ending.after, later]

/-- All lines of a decodable input without a line that ends the dialogue go on. -/
theorem goesOn_of_mem_inputLines
    {input : List UInt8}
    (decodable : (String.fromUTF8? ⟨input.toArray⟩).isSome)
    (noEnd :
      ∀ line ∈ inputLines input, ∀ text, lineText? line = some text → ¬Request.Quits text)
    {line : List UInt8}
    (member : line ∈ inputLines input) :
    goesOn line := by
  obtain ⟨text, decoded⟩ := Option.isSome_iff_exists.mp decodable
  have inputShape : input = utf8 text.toList := lineText?_eq_some_iff.mp decoded
  have lineMember : lineText? line ∈ (inputLines input).map lineText? :=
    List.mem_map_of_mem member
  rw [inputShape, map_lineText?_inputLines] at lineMember
  obtain ⟨characters, -, lineShape⟩ := List.mem_map.mp lineMember
  exact (goesOn_iff_of_decoded lineShape.symm).mpr (noEnd line member _ lineShape.symm)

/-- Behind whole lines the lines begin anew. -/
theorem inputLines_append
    {earlier : List UInt8}
    (complete : Lines.IsComplete 10 earlier)
    (later : List UInt8) :
    inputLines (earlier ++ later) = inputLines earlier ++ inputLines later := by
  simp only [inputLines_eq_split, Lines.split_append complete]

section

variable
  (clipboard : σ)
  {arguments : List String}
  {options : Options}
  (read : Invocation.read? arguments = some (.run options))
  (noKeys : options.keys = [])
  {stored : String → Stored}
  {usual : SettingsFile}
  {settings : Settings}
  (configured : IsConfigured options.settingsPath? stored usual settings)
  (order : TableOrder)

include read noKeys configured

/-- A run without keys takes its lines at a desk that was just set up. -/
theorem exists_runWith_eq_takeLines :
    ∃ desk : Desk σ,
      desk.console.Reached ∧
        ∀ input,
          runWith order clipboard arguments stored usual input =
            takeLines options desk (inputLines input) := by
  obtain ⟨bindings, made, -⟩ := Bindings.Attainable.exists_of_order configured.named order
  refine
    ⟨⟨Console.start bindings, settings.copyOnEquals, clipboard⟩, Console.reached_start bindings,
      fun input => ?_⟩
  rw [runWith_eq_runDesk read configured made, runDesk, if_pos noKeys]

/-- The exit code depends on the lines of the input only. -/
theorem exitCode_runWith
    (input : List UInt8) :
    (runWith order clipboard arguments stored usual input).exitCode =
      exitCodeOf (inputLines input) := by
  obtain ⟨desk, -, takes⟩ :=
    exists_runWith_eq_takeLines clipboard read noKeys configured order
  rw [takes, exitCode_takeLines]

/-- What is printed for whole lines is the beginning of what is printed for more. -/
theorem output_prefix_append
    {earlier : List UInt8}
    (complete : Lines.IsComplete 10 earlier)
    (later : List UInt8) :
    (runWith order clipboard arguments stored usual earlier).output.toList <+:
      (runWith order clipboard arguments stored usual (earlier ++ later)).output.toList := by
  obtain ⟨desk, -, takes⟩ :=
    exists_runWith_eq_takeLines clipboard read noKeys configured order
  obtain ⟨more, moreShape⟩ :=
    exists_answers_append options desk (inputLines earlier) (inputLines later)
  rw [takes, takes, inputLines_append complete, output_takeLines, output_takeLines, moreShape,
    String.join_append, String.toList_append]
  exact List.prefix_append _ _

/-- Nothing counts behind a line that ends the dialogue. -/
theorem runWith_append_of_quits
    {earlier : List UInt8}
    (complete : Lines.IsComplete 10 earlier)
    (quits :
      ∃ line ∈ inputLines earlier, ∃ text, lineText? line = some text ∧ Request.Quits text)
    (later : List UInt8) :
    runWith order clipboard arguments stored usual (earlier ++ later) =
      runWith order clipboard arguments stored usual earlier := by
  obtain ⟨desk, -, takes⟩ :=
    exists_runWith_eq_takeLines clipboard read noKeys configured order
  obtain ⟨line, member, text, decoded, lineQuits⟩ := quits
  rw [takes, takes, inputLines_append complete]
  apply takeLines_append_of_ends
  exact ⟨line, member, fun continues => (goesOn_iff_of_decoded decoded).mp continues lineQuits⟩

/-- Behind lines that go on, a line that cannot be decoded adds nothing but the exit code. -/
theorem toResult_append_of_undecodable
    {earlier later line : List UInt8}
    (complete : Lines.IsComplete 10 earlier)
    (decodable : (String.fromUTF8? ⟨earlier.toArray⟩).isSome)
    (noEnd :
      ∀ whole ∈ inputLines earlier,
        ∀ text, lineText? whole = some text → ¬Request.Quits text)
    (next : (inputLines later).head? = some line)
    (undecodable : lineText? line = none) :
    (runWith order clipboard arguments stored usual (earlier ++ later)).toResult =
      ⟨(runWith order clipboard arguments stored usual earlier).output, 1⟩ := by
  obtain ⟨desk, -, takes⟩ :=
    exists_runWith_eq_takeLines clipboard read noKeys configured order
  obtain ⟨rest, laterShape⟩ := List.head?_eq_some_iff.mp next
  rw [takes, takes, inputLines_append complete, laterShape]
  exact
    takeLines_append_of_undecodable options _
      (fun _ member => goesOn_of_mem_inputLines decodable noEnd member) undecodable rest

/-- The line feed at the end of an input does not matter. -/
theorem runWith_concat_lineFeed
    {input : List UInt8}
    (incomplete : ¬Lines.IsComplete 10 input) :
    runWith order clipboard arguments stored usual (input ++ [10]) =
      runWith order clipboard arguments stored usual input := by
  obtain ⟨desk, -, takes⟩ :=
    exists_runWith_eq_takeLines clipboard read noKeys configured order
  rw [takes, takes, inputLines_eq_split, Lines.split_concat_mark incomplete,
    ← inputLines_eq_split]

/-- Without a trace every line that goes on prints one line. -/
theorem exists_printed_of_quiet
    (quiet : options.trace = false)
    (input : List UInt8) :
    ∃ printed : List String,
      (runWith order clipboard arguments stored usual input).output =
          String.join (printed.map (· ++ "\n")) ∧
        (∀ text ∈ printed, '\n' ∉ text.toList) ∧
        printed.length = ((inputLines input).takeWhile goesOn).length := by
  obtain ⟨desk, reached, takes⟩ :=
    exists_runWith_eq_takeLines clipboard read noKeys configured order
  obtain ⟨printed, answersShape, oneLine⟩ :=
    exists_answers_eq_map quiet reached (inputLines input)
  refine ⟨printed, ?_, oneLine, ?_⟩
  · rw [takes, output_takeLines, answersShape]
  · have sameLength := congrArg List.length answersShape
    rw [length_answers, List.length_map] at sameLength
    exact sameLength.symm

/-- Behind `7` and `+`, a bound word in the input leads to the line of its state. -/
theorem output_runWith_line_keysBehindSum
    {bindings : Bindings}
    (made : settings.bindingsIn order = .ok bindings)
    {word : String}
    (nonempty : word ≠ "")
    (visible : ∀ character ∈ word.toList, Text.isBlank character = false)
    (bound : (bindings.bound? word).isSome)
    (json : options.json)
    (quiet : options.trace = false) :
    (runWith order clipboard arguments stored usual
        (utf8 (String.intercalate " " (keysBehindSum word)).toList)).output =
      ((Console.start bindings).pressAll (keysBehindSum word)).calculator.stateLine ++ "\n" := by
  have oneLine : '\n' ∉ (String.intercalate " " (keysBehindSum word)).toList := by
    have inWord : '\n' ∉ word.toList := fun member => absurd (visible _ member) (by decide)
    simp [keysBehindSum, inWord]
  have someCharacters : (String.intercalate " " (keysBehindSum word)).toList ≠ [] := by
    intro empty
    have words := words_keysBehindSum nonempty visible
    rw [empty] at words
    cases words
  have noCommand :
      ¬Request.IsCommand
          (String.ofList (String.intercalate " " (keysBehindSum word)).toList) := by
    rw [String.ofList_toList]
    exact not_isCommand_keysBehindSum nonempty visible
  have bindingsShape : (Console.start bindings).bindings = bindings := rfl
  rw [runWith_eq_runDesk read configured made, runDesk, if_pos noKeys, inputLines_utf8,
    Lines.split_of_not_mem oneLine someCharacters, List.map_singleton, takeLines,
    takeLine_utf8_of_not_isCommand options _ noCommand]
  simp only [bindingsShape, keysOfLine_keysBehindSum nonempty visible bound,
    report_of_not_trace quiet, stateText, json, if_true]
  exact String.append_empty

end

/-- The lines that are entered of an encoded text are lines of the text. -/
theorem exists_of_mem_enteredLines
    {options : Options}
    (noKeys : options.keys = [])
    {text : List Char}
    {line : String}
    (entered : line ∈ enteredLines options (utf8 text)) :
    ∃ characters ∈ Lines.split '\n' text, line = String.ofList characters := by
  rw [enteredLines, if_pos noKeys, inputLines_utf8] at entered
  obtain ⟨bytes, member, decoded⟩ := List.mem_filterMap.mp entered
  obtain ⟨characters, inText, rfl⟩ := List.mem_map.mp (List.takeWhile_subset _ member)
  rw [lineText?_utf8] at decoded
  exact ⟨characters, inText, (Option.some.inj decoded).symm⟩

/--
Two runs on the lines of an input stream, whatever the clipboard does and in whatever orders they
bind.  What is printed for whole lines is the beginning of what is printed for any longer input.
Nothing counts behind the first line that ends the dialogue.  A line that cannot be decoded, behind
lines that go on, adds nothing but the exit code.  A line feed at the end that is missing may be
added.  For all this the runs have to press the same buttons; the exit code is the same anyway.
Without a trace every line that is decoded prints one line, up to the first that ends the dialogue.

Where the overrides disagree on a word, two runs on the line of `7`, `+` and that word print
different states in some two orders, unless the settings rebind `7` or `+`.
-/
theorem run_streams
    (clipboard : σ)
    {arguments : List String}
    {options : Options}
    (read : Invocation.read? arguments = some (.run options))
    (noKeys : options.keys = [])
    {stored : String → Stored}
    {usual : SettingsFile}
    {settings : Settings}
    (configured : IsConfigured options.settingsPath? stored usual settings) :
    (∀ order otherOrder earlier later,
        Lines.IsComplete 10 earlier →
          PressSame settings options order otherOrder earlier →
            (runWith order clipboard arguments stored usual earlier).output.toList <+:
              (runWith otherOrder clipboard arguments stored usual
                (earlier ++ later)).output.toList) ∧
      (∀ order otherOrder earlier later,
        Lines.IsComplete 10 earlier →
          (∃ line ∈ inputLines earlier,
              ∃ text, lineText? line = some text ∧ Request.Quits text) →
            (runWith otherOrder clipboard arguments stored usual (earlier ++ later)).exitCode =
                (runWith order clipboard arguments stored usual earlier).exitCode ∧
              (PressSame settings options order otherOrder earlier →
                runWith otherOrder clipboard arguments stored usual (earlier ++ later) =
                  runWith order clipboard arguments stored usual earlier)) ∧
      (∀ order otherOrder earlier later line,
        Lines.IsComplete 10 earlier →
          (String.fromUTF8? ⟨earlier.toArray⟩).isSome →
          (∀ whole ∈ inputLines earlier,
              ∀ text, lineText? whole = some text → ¬Request.Quits text) →
          (inputLines later).head? = some line →
          lineText? line = none →
            (runWith otherOrder clipboard arguments stored usual (earlier ++ later)).exitCode = 1 ∧
              (PressSame settings options order otherOrder earlier →
                (runWith otherOrder clipboard arguments stored usual (earlier ++ later)).output =
                  (runWith order clipboard arguments stored usual earlier).output)) ∧
      (∀ order otherOrder input,
        ¬Lines.IsComplete 10 input →
          (runWith otherOrder clipboard arguments stored usual (input ++ [10])).exitCode =
              (runWith order clipboard arguments stored usual input).exitCode ∧
            (PressSame settings options order otherOrder input →
              runWith otherOrder clipboard arguments stored usual (input ++ [10]) =
                runWith order clipboard arguments stored usual input)) ∧
      (options.trace = false →
        ∀ order input,
          ∃ printed : List String,
            (runWith order clipboard arguments stored usual input).output =
                String.join (printed.map (· ++ "\n")) ∧
              (∀ text ∈ printed, '\n' ∉ text.toList) ∧
              printed.length =
                ((inputLines input).takeWhile fun line =>
                  (lineText? line).any fun text => !decide (Request.Quits text)).length) ∧
      (options.json →
        options.trace = false →
          ∀ word,
            word ≠ "" →
              (∀ character ∈ word.toList, Text.isBlank character = false) →
                ¬Bindings.AgreeOn settings.keys (Text.lowercase word) →
                  (∀ override ∈ settings.keys, Text.lowercase override.1 ∉ ["7", "+"]) →
                    let input := utf8 (String.intercalate " " (keysBehindSum word)).toList
                    ∃ order otherOrder,
                      (runWith order clipboard arguments stored usual input).output ≠
                        (runWith otherOrder clipboard arguments stored usual input).output) := by
  -- Runs that press the same buttons are equal, which leaves runs in one order to be compared.
  refine ⟨?_, ?_, ?_, ?_, ?_, ?_⟩
  · intro order otherOrder earlier later complete same
    rw [← runWith_eq_of_pressSame read configured same]
    exact output_prefix_append clipboard read noKeys configured otherOrder complete later
  · intro order otherOrder earlier later complete quits
    have ends :=
      runWith_append_of_quits clipboard read noKeys configured otherOrder complete quits later
    rw [ends]
    exact
      ⟨by simp only [exitCode_runWith clipboard read noKeys configured],
        runWith_eq_of_pressSame read configured⟩
  · intro order otherOrder earlier later line complete decodable noEnd next undecodable
    have fails :=
      toResult_append_of_undecodable clipboard read noKeys configured otherOrder complete decodable
        noEnd next undecodable
    rw [Result.mk.injEq] at fails
    refine ⟨fails.2, fun same => ?_⟩
    rw [fails.1, runWith_eq_of_pressSame read configured same]
  · intro order otherOrder input incomplete
    rw [runWith_concat_lineFeed clipboard read noKeys configured otherOrder incomplete]
    exact
      ⟨by simp only [exitCode_runWith clipboard read noKeys configured],
        runWith_eq_of_pressSame read configured⟩
  · intro quiet order input
    exact exists_printed_of_quiet clipboard read noKeys configured order quiet input
  · intro json quiet word nonempty visible disputed alone input
    obtain ⟨order, otherOrder, first, second, firstMade, secondMade, firstBound, secondBound,
        different⟩ :=
      exists_orders_of_disputed configured.named alone disputed
    refine ⟨order, otherOrder, fun sameOutput => different ?_⟩
    rw [output_runWith_line_keysBehindSum clipboard read noKeys configured order firstMade
        nonempty visible firstBound json quiet,
      output_runWith_line_keysBehindSum clipboard read noKeys configured otherOrder secondMade
        nonempty visible secondBound json quiet] at sameOutput
    exact (String.append_left_inj "\n").mp sameOutput

/-- The settings dispute `q`, but a sum that is copied and cut short at a bad byte does not use it. -/
theorem run_streams_of_undecodable_byte :
    let stored : String → Stored := fun _ => .absent
    Invocation.read? [] = some (.run .plain) ∧
      IsConfigured none stored Settings.disputedFile Settings.disputed ∧
        (runWith .reversed (⟨none⟩ : OwnClipboard) [] stored Settings.disputedFile
            (utf8 "12\ncopy\n+\npaste\n=\n".toList ++ [255, 10, 54, 10])).toResult =
          ⟨"12\n12\n12\n12\n24\n", 1⟩ := by
  intro stored
  have read : Invocation.read? [] = some (.run .plain) := rfl
  have lines :
      Lines.split '\n' "12\ncopy\n+\npaste\n=\n".toList =
        ["12".toList, "copy".toList, "+".toList, "paste".toList, "=".toList] := by
    decide +kernel
  obtain ⟨-, -, undecodable, -, -, -⟩ :=
    run_streams (⟨none⟩ : OwnClipboard) read rfl Settings.isConfigured_disputed
  have before :
      (runWith .asWritten (⟨none⟩ : OwnClipboard) [] stored Settings.disputedFile
          (utf8 "12\ncopy\n+\npaste\n=\n".toList)).output =
        "12\n12\n12\n12\n24\n" := by
    decide +kernel
  have noEnd :
      ∀ whole ∈ inputLines (utf8 "12\ncopy\n+\npaste\n=\n".toList),
        ∀ text, lineText? whole = some text → ¬Request.Quits text := by
    intro whole member text decoded
    rw [inputLines_utf8, lines] at member
    obtain ⟨characters, characterMember, rfl⟩ := List.mem_map.mp member
    rw [lineText?_utf8] at decoded
    cases decoded
    simp only [List.mem_cons, List.not_mem_nil, or_false] at characterMember
    rcases characterMember with rfl | rfl | rfl | rfl | rfl <;> decide +kernel
  have undisputed :
      ∀ key ∈ (Lines.split '\n' "12\ncopy\n+\npaste\n=\n".toList).flatMap Request.candidates,
        Bindings.AgreeOn Settings.disputed.keys (Text.lowercase key) := by
    decide +kernel
  have same :
      PressSame Settings.disputed .plain .asWritten .reversed
        (utf8 "12\ncopy\n+\npaste\n=\n".toList) := by
    refine Or.inr fun line entered => ?_
    obtain ⟨characters, member, rfl⟩ := exists_of_mem_enteredLines rfl entered
    apply Bindings.agreeOnLine_of_candidates
    intro key candidate
    rw [String.toList_ofList] at candidate
    exact undisputed key (List.mem_flatMap_of_mem member candidate)
  obtain ⟨fails, printsSame⟩ :=
    undecodable .asWritten .reversed (utf8 "12\ncopy\n+\npaste\n=\n".toList) [255, 10, 54, 10]
      [255] (Or.inr (by decide +kernel)) (by decide +kernel) noEnd rfl (by decide +kernel)
  refine ⟨read, Settings.isConfigured_disputed, ?_⟩
  rw [Ending.toResult, Result.mk.injEq]
  exact ⟨(printsSame same).trans before, fails⟩

/-- With the keys `Q` and `q` in one file, even the same line is answered in two ways. -/
theorem not_forall_run_streams :
    ¬∀ (stored : String → Stored) (usual : SettingsFile) (settings : Settings)
        (order otherOrder : TableOrder) (earlier later : List UInt8),
        IsConfigured none stored usual settings →
          Lines.IsComplete 10 earlier →
            (runWith order NoClipboard.unreachable [] stored usual earlier).output.toList <+:
              (runWith otherOrder NoClipboard.unreachable [] stored usual
                (earlier ++ later)).output.toList := by
  intro streams
  have printed :=
    streams (fun _ => .absent) Settings.disputedFile Settings.disputed .asWritten .reversed
      (utf8 "5+3 q\n".toList) [] Settings.isConfigured_disputed (Or.inr (by decide +kernel))
  revert printed
  decide +kernel

end ChainCalculator.CommandLine

import ChainCalculator.Proofs.DisputedKeys

namespace ChainCalculator

/-!
# Keys among the arguments and keys in the input

The keys among the arguments are pressed as one line, those of the input line by line.  If none of
the lines is a command, a line presses the keys of its words, and no key depends on where the lines
are broken.  So the same words press the same keys.  The traces of the lines, one behind the other,
are the trace of the one line, and the state after the last line is the state after the one line.
-/

/-- Lines press the keys of all their words, wherever the lines are broken. -/
theorem Request.flatMap_keysOfLine
    (bindings : Bindings)
    (lines : List (List Char)) :
    lines.flatMap (keysOfLine bindings) =
      (lines.flatMap Text.words).flatMap fun word =>
        bindings.keysOfWord (String.ofList word) := by
  rw [List.flatMap_assoc]
  rfl

namespace CommandLine

variable {σ τ : Type} [Clipboard σ] [Clipboard τ]

/-- A trace without the state is the lines of the keystrokes. -/
theorem report_of_trace
    {options : Options}
    (traced : options.trace)
    (noJson : options.json = false)
    (console : Console)
    (steps : List Keystroke) :
    report options console steps = String.join (steps.map traceLine) := by
  simp [report, traced, noJson]

/-- The traces of lines of keys make up the trace of all the keys. -/
theorem join_answers_of_trace
    {options : Options}
    (traced : options.trace)
    (noJson : options.json = false)
    (desk : Desk σ)
    {lines : List (List Char)}
    (noCommands : ∀ line ∈ lines, ¬Request.IsCommand (String.ofList line)) :
    String.join (answers options desk (lines.map utf8)) =
      String.join
        ((desk.console.keystrokes
            (lines.flatMap (Request.keysOfLine desk.console.bindings))).map
          traceLine) := by
  induction lines generalizing desk with
  | nil =>
      rfl
  | cons line rest inductionHypothesis =>
      have taken :=
        takeLine_utf8_of_not_isCommand options desk (noCommands line List.mem_cons_self)
      have later :=
        inductionHypothesis (desk.pressAll (Request.keysOfLine desk.console.bindings line))
          fun _ member => noCommands _ (List.mem_cons_of_mem _ member)
      rw [Desk.console_pressAll, Console.bindings_pressAll] at later
      simp only [List.map_cons, answers, taken, String.join_cons, later,
        report_of_trace traced noJson, List.flatMap_cons, Console.keystrokes_append,
        List.map_append, String.join_append]

/-- Without a trace, the last answer to lines of keys is the state after all the keys. -/
theorem exists_answers_eq_concat
    {options : Options}
    (quiet : options.trace = false)
    (desk : Desk σ)
    {lines : List (List Char)}
    (nonempty : lines ≠ [])
    (noCommands : ∀ line ∈ lines, ¬Request.IsCommand (String.ofList line)) :
    ∃ earlier,
      answers options desk (lines.map utf8) =
        earlier ++
          [stateText options
              (desk.console.pressAll
                (lines.flatMap (Request.keysOfLine desk.console.bindings))) ++
            "\n"] := by
  induction lines generalizing desk with
  | nil =>
      exact absurd rfl nonempty
  | cons line rest inductionHypothesis =>
      have taken :=
        takeLine_utf8_of_not_isCommand options desk (noCommands line List.mem_cons_self)
      by_cases last : rest = []
      · exact ⟨[], by simp [last, answers, taken, report_of_not_trace quiet]⟩
      · obtain ⟨earlier, laterShape⟩ :=
          inductionHypothesis (desk.pressAll (Request.keysOfLine desk.console.bindings line)) last
            fun _ member => noCommands _ (List.mem_cons_of_mem _ member)
        rw [Desk.console_pressAll, Console.bindings_pressAll, ← Console.pressAll_append]
          at laterShape
        refine
          ⟨report options
              (desk.console.pressAll (Request.keysOfLine desk.console.bindings line))
              (desk.console.keystrokes (Request.keysOfLine desk.console.bindings line)) ::
            earlier, ?_⟩
        simp only [List.map_cons, answers, taken, laterShape, List.flatMap_cons, List.cons_append]

/-- The keys among the arguments are pressed as one line. -/
theorem output_runKeys
    {options : Options}
    {desk : Desk σ}
    (noCommand : ¬Request.IsCommand (String.intercalate " " options.keys)) :
    (runKeys options desk).output =
      report options
        (desk.console.pressAll
          (Request.keysOfLine desk.console.bindings
            (String.intercalate " " options.keys).toList))
        (desk.console.keystrokes
          (Request.keysOfLine desk.console.bindings
            (String.intercalate " " options.keys).toList)) := by
  simp only [runKeys, answerLine, Desk.enter?_of_not_isCommand noCommand, Desk.console_pressAll]
  rfl

/-- Lines with the words of some arguments press the keys of those arguments. -/
theorem flatMap_keysOfLine_split
    (bindings : Bindings)
    {keys : List String}
    {text : List Char}
    (sameWords : Text.words text = keys.flatMap fun key => Text.words key.toList) :
    (Lines.split '\n' text).flatMap (Request.keysOfLine bindings) =
      Request.keysOfLine bindings (String.intercalate " " keys).toList := by
  rw [Request.flatMap_keysOfLine, ← Text.words_eq_flatMap_split, sameWords,
    ← Text.words_intercalate_keys]
  rfl

/-- The lines of several printed lines are the lines that were printed. -/
theorem split_join_lines
    {printed : List String}
    (oneLine : ∀ text ∈ printed, '\n' ∉ text.toList) :
    Lines.split '\n' (String.join (printed.map (· ++ "\n"))).toList =
      printed.map String.toList := by
  induction printed with
  | nil =>
      rfl
  | cons text rest inductionHypothesis =>
      obtain ⟨textLine, restLines⟩ := List.forall_mem_cons.mp oneLine
      have lineFeed : "\n".toList = ['\n'] := rfl
      rw [List.map_cons, String.join_cons, String.toList_append, String.toList_append, lineFeed,
        List.append_assoc, List.singleton_append, Lines.split_append_mark textLine,
        inductionHypothesis restLines, List.map_cons]

/-- Two lists of arguments choose the same, the first of them with keys and the second without. -/
structure AreReadAs
    (arguments bareArguments : List String)
    (path? : Option String)
    (options : Options) :
    Prop where
  samePath : options.settingsPath? = path?
  read : Invocation.read? arguments = some (.run options)
  bareRead : Invocation.read? bareArguments = some (.run { options with keys := [] })

/-- An input is text with the words of some keys, broken into lines that are no commands. -/
structure SpellsKeys
    (keys : List String)
    (input : List UInt8) :
    Prop where
  someKeys : keys ≠ []
  someBytes : input ≠ []
  sameWords :
    ∃ text,
      String.fromUTF8? ⟨input.toArray⟩ = some text ∧
        Text.words text.toList = keys.flatMap fun key => Text.words key.toList
  noCommand : ¬Request.IsCommand (String.intercalate " " keys)
  noCommands :
    ∀ line ∈ inputLines input,
      ∀ text, lineText? line = some text → ¬Request.IsCommand text

/-- An encoded text spells keys if it has their words and none of its lines is a command. -/
theorem SpellsKeys.of_text
    {keys : List String}
    {text : String}
    (someKeys : keys ≠ [])
    (someText : text ≠ "")
    (sameWords : Text.words text.toList = keys.flatMap fun key => Text.words key.toList)
    (noCommand : ¬Request.IsCommand (String.intercalate " " keys))
    (noCommands :
      ∀ line ∈ Lines.split '\n' text.toList, ¬Request.IsCommand (String.ofList line)) :
    SpellsKeys keys (utf8 text.toList) where
  someKeys := someKeys
  someBytes := by
    intro noBytes
    have empty := lineText?_utf8 text.toList
    rw [noBytes, String.ofList_toList] at empty
    exact someText (Option.some.inj empty).symm
  sameWords := ⟨text, lineText?_eq_some_iff.mpr rfl, sameWords⟩
  noCommand := noCommand
  noCommands := by
    intro line member lineText decoded
    rw [inputLines_utf8] at member
    obtain ⟨characters, inText, rfl⟩ := List.mem_map.mp member
    rw [lineText?_utf8] at decoded
    exact Option.some.inj decoded ▸ noCommands characters inText

/-- An input that spells keys has lines, none of them a command, and they press those keys. -/
theorem SpellsKeys.exists_lines
    {keys : List String}
    {input : List UInt8}
    (spells : SpellsKeys keys input) :
    ∃ lines : List (List Char),
      lines ≠ [] ∧
        inputLines input = lines.map utf8 ∧
        (∀ line ∈ lines, ¬Request.IsCommand (String.ofList line)) ∧
        ∀ bindings,
          lines.flatMap (Request.keysOfLine bindings) =
            Request.keysOfLine bindings (String.intercalate " " keys).toList := by
  obtain ⟨text, decoded, sameWords⟩ := spells.sameWords
  have inputShape : input = utf8 text.toList := lineText?_eq_some_iff.mp decoded
  have linesShape : inputLines input = (Lines.split '\n' text.toList).map utf8 := by
    rw [inputShape, inputLines_utf8]
  refine
    ⟨Lines.split '\n' text.toList, ?_, linesShape, ?_, fun bindings =>
      flatMap_keysOfLine_split bindings sameWords⟩
  · apply Lines.split_ne_nil
    intro noText
    exact spells.someBytes (by rw [inputShape, noText]; rfl)
  · intro line member
    apply spells.noCommands (utf8 line) _ _ (lineText?_utf8 line)
    rw [linesShape]
    exact List.mem_map_of_mem member

/--
What is printed for keys among the arguments fits what is printed for lines.  Of traces both are the
same; without a trace the first is the last line of the second.
-/
def Fits
    (options : Options)
    (oneShot lineByLine : String) :
    Prop :=
  (options.trace → options.json = false → oneShot = lineByLine) ∧
    (options.trace = false →
      ∃ (printed : List String) (last : String),
        lineByLine = String.join (printed.map (· ++ "\n")) ∧
          (∀ text ∈ printed, '\n' ∉ text.toList) ∧
          printed.getLast? = some last ∧
          oneShot = last ++ "\n")

/-- Without a trace only one text fits what is printed for lines. -/
theorem Fits.eq_of_quiet
    {options : Options}
    {first second lineByLine : String}
    (quiet : options.trace = false)
    (firstFits : Fits options first lineByLine)
    (secondFits : Fits options second lineByLine) :
    first = second := by
  obtain ⟨printed, last, shape, oneLine, isLast, rfl⟩ := firstFits.2 quiet
  obtain ⟨otherPrinted, otherLast, otherShape, otherOneLine, otherIsLast, rfl⟩ :=
    secondFits.2 quiet
  have sameLines : printed = otherPrinted := by
    have sameText := congrArg String.toList (shape.symm.trans otherShape)
    have sameSplit := congrArg (Lines.split '\n') sameText
    rwa [split_join_lines oneLine, split_join_lines otherOneLine,
      List.map_inj_right fun _ _ => String.toList_inj.mp] at sameSplit
  rw [sameLines, otherIsLast] at isLast
  cases isLast
  rfl

/-- Runs in the same order give answers that fit. -/
theorem fits_of_order_eq
    (clipboard : σ)
    (otherClipboard : τ)
    (order : TableOrder)
    {options : Options}
    {arguments bareArguments : List String}
    (read : Invocation.read? arguments = some (.run options))
    (bareRead : Invocation.read? bareArguments = some (.run { options with keys := [] }))
    {stored : String → Stored}
    {usual : SettingsFile}
    {settings : Settings}
    (configured : IsConfigured options.settingsPath? stored usual settings)
    {input : List UInt8}
    (spells : SpellsKeys options.keys input)
    (unread : List UInt8) :
    Fits options
      (runWith order clipboard arguments stored usual unread).output
      (runWith order otherClipboard bareArguments stored usual input).output := by
  obtain ⟨bindings, made, -⟩ := Bindings.Attainable.exists_of_order configured.named order
  obtain ⟨lines, someLines, linesShape, noLineCommands, sameKeys⟩ := spells.exists_lines
  -- Both runs are now told in terms of the same keys, pressed on the same console.
  have oneShot :
      (runWith order clipboard arguments stored usual unread).output =
        report options
          ((Console.start bindings).pressAll
            (Request.keysOfLine bindings (String.intercalate " " options.keys).toList))
          ((Console.start bindings).keystrokes
            (Request.keysOfLine bindings (String.intercalate " " options.keys).toList)) := by
    rw [runWith_eq_runDesk read configured made, runDesk, if_neg spells.someKeys]
    exact output_runKeys spells.noCommand
  let bareOptions : Options := { options with keys := [] }
  let desk : Desk τ := ⟨Console.start bindings, settings.copyOnEquals, otherClipboard⟩
  have lineByLine :
      (runWith order otherClipboard bareArguments stored usual input).output =
        String.join (answers bareOptions desk (lines.map utf8)) := by
    rw [runWith_eq_runDesk bareRead configured made, runDesk, if_pos rfl, output_takeLines,
      linesShape]
  have bindingsShape : desk.console.bindings = bindings := rfl
  constructor
  · intro traced noJson
    have lineTraces := @join_answers_of_trace _ _ bareOptions traced noJson desk _ noLineCommands
    rw [bindingsShape, sameKeys] at lineTraces
    rw [oneShot, lineByLine, report_of_trace traced noJson, lineTraces]
  · intro quiet
    obtain ⟨printed, answersShape, oneLine⟩ :=
      @exists_answers_eq_map _ _ bareOptions quiet desk (Console.reached_start bindings)
        (lines.map utf8)
    obtain ⟨earlier, lastShape⟩ :=
      @exists_answers_eq_concat _ _ bareOptions quiet desk _ someLines noLineCommands
    rw [bindingsShape, sameKeys] at lastShape
    have lastAnswer := congrArg List.getLast? (answersShape.symm.trans lastShape)
    rw [List.getLast?_map, List.getLast?_concat, Option.map_eq_some_iff] at lastAnswer
    obtain ⟨last, isLast, lastText⟩ := lastAnswer
    refine ⟨printed, last, ?_, oneLine, isLast, ?_⟩
    · rw [lineByLine, answersShape]
    · rw [oneShot, report_of_not_trace quiet, lastText]
      rfl

/-- Behind `7` and `+`, a bound word among the arguments leads to the line of its state. -/
theorem output_runWith_keysBehindSum
    {clipboard : σ}
    {order : TableOrder}
    {options : Options}
    {arguments : List String}
    (read : Invocation.read? arguments = some (.run options))
    {stored : String → Stored}
    {usual : SettingsFile}
    {settings : Settings}
    (configured : IsConfigured options.settingsPath? stored usual settings)
    {bindings : Bindings}
    (made : settings.bindingsIn order = .ok bindings)
    {word : String}
    (nonempty : word ≠ "")
    (visible : ∀ character ∈ word.toList, Text.isBlank character = false)
    (bound : (bindings.bound? word).isSome)
    (keys : options.keys = keysBehindSum word)
    (json : options.json)
    (quiet : options.trace = false)
    (unread : List UInt8) :
    (runWith order clipboard arguments stored usual unread).output =
      ((Console.start bindings).pressAll (keysBehindSum word)).calculator.stateLine ++ "\n" := by
  have someKeys : options.keys ≠ [] := by
    rw [keys]
    exact List.cons_ne_nil _ _
  have noCommand : ¬Request.IsCommand (String.intercalate " " options.keys) := by
    rw [keys]
    exact not_isCommand_keysBehindSum nonempty visible
  rw [runWith_eq_runDesk read configured made, runDesk, if_neg someKeys, output_runKeys noCommand,
    report_of_not_trace quiet, stateText, if_pos json, keys]
  have bindingsShape : (Console.start bindings).bindings = bindings := rfl
  rw [bindingsShape, keysOfLine_keysBehindSum nonempty visible bound]

/--
Keys among the arguments and an input with the same words, broken into lines in any way, lead to
answers that fit if both runs press the same buttons.  So they do in any two orders if the overrides
agree on each of the keys.  Where they disagree on a word, the answers behind `7`, `+` and that word
do not fit in some two orders, unless the settings rebind `7` or `+`.
-/
theorem run_keys_agrees_with_input
    {path? : Option String}
    {stored : String → Stored}
    {usual : SettingsFile}
    {settings : Settings}
    (configured : IsConfigured path? stored usual settings) :
    (∀ {σ τ : Type} [Clipboard σ] [Clipboard τ] (clipboard : σ) (otherClipboard : τ)
        (order otherOrder : TableOrder) (options : Options)
        (arguments bareArguments : List String) (input unread : List UInt8),
        AreReadAs arguments bareArguments path? options →
          SpellsKeys options.keys input →
            PressSame settings options order otherOrder unread →
              Fits options
                (runWith order clipboard arguments stored usual unread).output
                (runWith otherOrder otherClipboard bareArguments stored usual input).output) ∧
      ∀ word,
        word ≠ "" →
          (∀ character ∈ word.toList, Text.isBlank character = false) →
            ¬Bindings.AgreeOn settings.keys (Text.lowercase word) →
              (∀ override ∈ settings.keys, Text.lowercase override.1 ∉ ["7", "+"]) →
                ∃ order otherOrder,
                  ∀ {σ τ : Type} [Clipboard σ] [Clipboard τ] (clipboard : σ) (otherClipboard : τ)
                    (options : Options) (arguments bareArguments : List String)
                    (input unread : List UInt8),
                    AreReadAs arguments bareArguments path? options →
                      SpellsKeys options.keys input →
                        options.keys = keysBehindSum word →
                          options.json →
                            options.trace = false →
                              ¬Fits options
                                  (runWith order clipboard arguments stored usual unread).output
                                  (runWith otherOrder otherClipboard bareArguments stored usual
                                    input).output := by
  constructor
  · rintro σ τ _ _ clipboard otherClipboard order otherOrder options arguments bareArguments input
      unread ⟨rfl, read, bareRead⟩ spells same
    rw [← runWith_eq_of_pressSame read configured same]
    exact
      fits_of_order_eq clipboard otherClipboard otherOrder read bareRead configured spells unread
  · intro word nonempty visible disputed alone
    -- The input is answered in the second order, and only one text fits that answer.
    obtain ⟨order, otherOrder, first, second, firstMade, secondMade, firstBound, secondBound,
        different⟩ :=
      exists_orders_of_disputed configured.named alone disputed
    refine ⟨order, otherOrder, ?_⟩
    rintro σ τ _ _ clipboard otherClipboard options arguments bareArguments input unread
      ⟨rfl, read, bareRead⟩ spells keys json quiet fits
    have own :=
      fits_of_order_eq clipboard otherClipboard otherOrder read bareRead configured spells unread
    have sameOutput := fits.eq_of_quiet quiet own
    rw [output_runWith_keysBehindSum read configured firstMade nonempty visible firstBound keys
        json quiet,
      output_runWith_keysBehindSum read configured secondMade nonempty visible secondBound keys
        json quiet] at sameOutput
    exact different ((String.append_left_inj "\n").mp sameOutput)

/-- That `Q` and `q` are disputed does not matter for a sum, but behind `7` and `+` it does. -/
theorem run_keys_agrees_with_input_of_sum :
    let stored : String → Stored := fun _ => .absent
    let quiet : Options := { Options.plain with json := true, keys := keysBehindSum "q" }
    IsConfigured none stored Settings.disputedFile Settings.disputed ∧
      (runWith .asWritten (⟨none⟩ : OwnClipboard) ["12+3", "="] stored Settings.disputedFile
            []).output =
          "15\n" ∧
        (∃ printed : List String,
          (runWith .reversed NoClipboard.unreachable [] stored Settings.disputedFile
                (utf8 "12+3\n\n =".toList)).output =
              String.join (printed.map (· ++ "\n")) ∧
            printed.getLast? = some "15") ∧
          ∃ order otherOrder,
            ¬Fits quiet
                (runWith order NoClipboard.unreachable ["-j", "7", "+", "q"] stored
                  Settings.disputedFile []).output
                (runWith otherOrder NoClipboard.unreachable ["-j"] stored
                  Settings.disputedFile (utf8 "7 +\nq".toList)).output := by
  intro stored quiet
  obtain ⟨agrees, differs⟩ := run_keys_agrees_with_input Settings.isConfigured_disputed
  have sum :
      (runWith .asWritten (⟨none⟩ : OwnClipboard) ["12+3", "="] stored Settings.disputedFile
          []).output =
        "15\n" := by
    decide +kernel
  have undisputed :
      ∀ key ∈ Request.candidates "12+3 =".toList,
        Bindings.AgreeOn Settings.disputed.keys (Text.lowercase key) := by
    decide +kernel
  have same :
      PressSame Settings.disputed { Options.plain with keys := ["12+3", "="] } .asWritten
        .reversed [] := by
    refine Or.inr fun line entered => ?_
    cases List.mem_singleton.mp entered
    exact Bindings.agreeOnLine_of_candidates undisputed
  have fits :=
    agrees (⟨none⟩ : OwnClipboard) NoClipboard.unreachable _ _ _ ["12+3", "="] []
      (utf8 "12+3\n\n =".toList) []
      ⟨rfl, by decide +kernel, rfl⟩
      (.of_text (by decide) (by decide) (by decide +kernel) (by decide +kernel)
        (by decide +kernel))
      same
  obtain ⟨printed, last, outputShape, -, isLast, lastShape⟩ := fits.2 rfl
  have lastText : "15" = last := by
    have shown : "15\n" = "15" ++ "\n" := by
      decide +kernel
    rw [sum, shown] at lastShape
    exact (String.append_left_inj "\n").mp lastShape
  have visible : ∀ character ∈ "q".toList, Text.isBlank character = false := by
    intro character member
    cases List.mem_singleton.mp member
    decide
  obtain ⟨order, otherOrder, unfit⟩ :=
    differs "q" (by decide) visible (by decide +kernel) (by decide +kernel)
  refine
    ⟨Settings.isConfigured_disputed, sum, ⟨printed, outputShape, lastText ▸ isLast⟩, order,
      otherOrder, ?_⟩
  exact
    unfit NoClipboard.unreachable NoClipboard.unreachable quiet ["-j", "7", "+", "q"] ["-j"]
      (utf8 "7 +\nq".toList) []
      ⟨rfl, by decide +kernel, by decide +kernel⟩
      (.of_text (by decide) (by decide) (by decide +kernel) (by decide +kernel)
        (by decide +kernel))
      rfl rfl rfl

/-- With the keys `Q` and `q` in one file, the keys `5+3 q` print `8` in one order, `0` in the other. -/
theorem not_forall_run_keys_agrees_with_input :
    ¬∀ (stored : String → Stored) (usual : SettingsFile) (path? : Option String)
        (settings : Settings) (options : Options) (arguments bareArguments : List String)
        (input unread : List UInt8) (order otherOrder : TableOrder),
        IsConfigured path? stored usual settings →
          AreReadAs arguments bareArguments path? options →
            SpellsKeys options.keys input →
              Fits options
                (runWith order NoClipboard.unreachable arguments stored usual unread).output
                (runWith otherOrder NoClipboard.unreachable bareArguments stored usual
                  input).output := by
  intro agrees
  have instanceOf :=
    agrees (fun _ => .absent) Settings.disputedFile none Settings.disputed
      { Options.plain with keys := ["5+3", "q"] } ["5+3", "q"] [] (utf8 "5+3 q".toList) []
  have fits (order otherOrder : TableOrder) :=
    instanceOf order otherOrder Settings.isConfigured_disputed ⟨rfl, by decide +kernel, rfl⟩
      (.of_text (by decide) (by decide) (by decide +kernel) (by decide +kernel)
        (by decide +kernel))
  have sameOutput :=
    (fits .asWritten .reversed).eq_of_quiet rfl (fits .reversed .reversed)
  revert sameOutput
  decide +kernel

end CommandLine

end ChainCalculator

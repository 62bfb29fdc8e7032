import ChainCalculator.Proofs.InputLines
import ChainCalculator.Proofs.StateLineReading

namespace ChainCalculator

/-!
# What is printed for the lines of an input

Every line prints its own answer, until a line cannot be decoded or ends the dialogue.  Which line
that is does not depend on the calculator.  Without a trace an answer is exactly one line, because
neither the screen nor the line of a state holds a line feed.
-/

/-- A line asks to end the dialogue. -/
def Request.Quits
    (line : String) :
    Prop :=
  String.ofList (Text.trim line.toList) ∈ ["quit", "exit"]

instance (line : String) : Decidable (Request.Quits line) :=
  inferInstanceAs (Decidable (_ ∈ _))

/-- The words that end the dialogue do so under any bindings. -/
theorem Request.read_eq_quit_iff
    {bindings : Bindings}
    {line : String} :
    Request.read bindings line = .quit ↔ Request.Quits line := by
  rw [Request.read, Request.Quits]
  generalize String.ofList (Text.trim line.toList) = trimmed
  split <;> simp_all

/-- A line is a command and presses no keys. -/
def Request.IsCommand
    (line : String) :
    Prop :=
  String.ofList (Text.trim line.toList) ∈ ["copy", "paste", "quit", "exit"]

instance (line : String) : Decidable (Request.IsCommand line) :=
  inferInstanceAs (Decidable (_ ∈ _))

/-- Blanks at the ends of a line press no keys. -/
theorem Request.keysOfLine_trim
    (bindings : Bindings)
    (line : List Char) :
    keysOfLine bindings (Text.trim line) = keysOfLine bindings line := by
  rw [keysOfLine, keysOfLine, Text.words_trim]

/-- A line that is no command presses the keys of its words. -/
theorem Request.read_of_not_isCommand
    {bindings : Bindings}
    {line : String}
    (noCommand : ¬IsCommand line) :
    read bindings line = .keys (keysOfLine bindings line.toList) := by
  rw [IsCommand] at noCommand
  rw [read, keysOfLine_trim]
  generalize String.ofList (Text.trim line.toList) = trimmed at noCommand
  split
  case h_5 => rfl
  all_goals exact absurd (by simp) noCommand

namespace Console

/-! ## Consoles under way -/

/-- A console whose calculator some actions have led to. -/
def Reached
    (console : Console) :
    Prop :=
  ∃ actions, console.calculator = Calculator.fresh.actAll actions

theorem reached_start
    (bindings : Bindings) :
    (start bindings).Reached :=
  ⟨[], rfl⟩

/-- A key leads from a state that is reached to another. -/
theorem Reached.press
    {console : Console}
    (reached : console.Reached)
    (key : String) :
    (console.press key).Reached := by
  obtain ⟨actions, reachedShape⟩ := reached
  refine ⟨actions ++ [Action.press console.bindings key], ?_⟩
  rw [Calculator.actAll_concat, ← reachedShape, Console.press, Calculator.act]

/-- Keys in a row lead from a state that is reached to another. -/
theorem Reached.pressAll
    {console : Console}
    (reached : console.Reached)
    (keys : List String) :
    (console.pressAll keys).Reached := by
  induction keys generalizing console with
  | nil => exact reached
  | cons key rest inductionHypothesis => exact inductionHypothesis (reached.press key)

/-- Pasting leads from a state that is reached to another. -/
theorem Reached.paste
    {console : Console}
    (reached : console.Reached)
    (text : String) :
    (console.paste text).Reached := by
  obtain ⟨actions, reachedShape⟩ := reached
  refine ⟨actions ++ [Action.paste text], ?_⟩
  rw [Calculator.actAll_concat, ← reachedShape, Console.paste, Calculator.act]

end Console

namespace Desk

variable {σ : Type} [Clipboard σ]

/-- Only a line that ends the dialogue is not entered. -/
theorem enter?_eq_none_iff
    {desk : Desk σ}
    {line : String} :
    desk.enter? line = none ↔ Request.Quits line := by
  rw [← @Request.read_eq_quit_iff desk.console.bindings, enter?]
  split <;> simp_all

/-- A line that is no command presses its keys. -/
theorem enter?_of_not_isCommand
    {desk : Desk σ}
    {line : String}
    (noCommand : ¬Request.IsCommand line) :
    desk.enter? line =
      some
        (desk.pressAll (Request.keysOfLine desk.console.bindings line.toList),
          desk.console.keystrokes (Request.keysOfLine desk.console.bindings line.toList)) := by
  rw [enter?, Request.read_of_not_isCommand noCommand]

/-- A line that does not end the dialogue is entered. -/
theorem exists_enter?_of_not_quits
    (desk : Desk σ)
    {line : String}
    (stays : ¬Request.Quits line) :
    ∃ next steps, desk.enter? line = some (next, steps) := by
  have entered : desk.enter? line ≠ none := by
    rwa [Ne, enter?_eq_none_iff]
  obtain ⟨⟨next, steps⟩, enteredShape⟩ := Option.ne_none_iff_exists'.mp entered
  exact ⟨next, steps, enteredShape⟩

/-- Entering a line leaves the console as it was, presses keys or pastes. -/
theorem console_of_enter?
    {desk next : Desk σ}
    {line : String}
    {steps : List Keystroke}
    (entered : desk.enter? line = some (next, steps)) :
    next.console = desk.console ∨
      (∃ keys, next.console = desk.console.pressAll keys) ∨
      ∃ text, next.console = desk.console.paste text := by
  rw [enter?] at entered
  split at entered
  case h_1 keys _ =>
    cases entered
    exact Or.inr (Or.inl ⟨keys, console_pressAll desk keys⟩)
  case h_2 =>
    cases entered
    exact Or.inl rfl
  case h_3 =>
    cases entered
    rw [paste]
    split
    · exact Or.inr (Or.inr ⟨_, rfl⟩)
    · exact Or.inl rfl
  case h_4 =>
    cases entered

/-- Whatever a clipboard holds, only actions of the calculator work on it. -/
theorem reached_enter?
    {desk next : Desk σ}
    {line : String}
    {steps : List Keystroke}
    (reached : desk.console.Reached)
    (entered : desk.enter? line = some (next, steps)) :
    next.console.Reached := by
  rcases console_of_enter? entered with kept | ⟨keys, pressed⟩ | ⟨text, pasted⟩
  · rwa [kept]
  · rw [pressed]
    exact reached.pressAll keys
  · rw [pasted]
    exact reached.paste text

end Desk

/-! ## Texts in one line -/

namespace Json

/-- An escaped character is no line feed. -/
theorem newline_not_mem_escape
    (character : Char) :
    '\n' ∉ escape character := by
  rw [escape.eq_def]
  split
  case h_8 _ _ _ _ notNewline _ _ =>
    dsimp only
    split
    · have digits : ∀ value, value < 16 → hexDigit value ≠ '\n' := by
        decide
      have high := digits (character.toNat / 16) (by omega)
      have low := digits (character.toNat % 16) (by omega)
      simp [high.symm, low.symm]
    · simpa using Ne.symm notNewline
  all_goals decide

/-- A string is written on one line, since its line feeds are escaped. -/
theorem newline_not_mem_string
    (text : String) :
    '\n' ∉ (string text).toList := by
  rw [string, String.toList_ofList]
  simp only [List.mem_cons, List.mem_append, List.mem_flatMap, List.not_mem_nil, or_false]
  rintro (isQuote | ⟨character, -, escaped⟩ | isQuote)
  · revert isQuote
    decide
  · exact newline_not_mem_escape character escaped
  · revert isQuote
    decide

/-- A number is written on one line. -/
theorem newline_not_mem_number
    (value : Float) :
    '\n' ∉ (number value).toList := by
  by_cases finite : value.isFinite
  · exact not_mem_number finite (by decide)
  · rw [number, if_neg finite]
    decide

end Json

namespace StateLine

/-- A link is written on one line. -/
theorem newline_not_mem_link
    (place : Link) :
    '\n' ∉ (link place).toList := by
  rcases place with (text | value) | operation
  · exact Json.newline_not_mem_string text
  · exact Json.newline_not_mem_number value
  · exact Json.newline_not_mem_string _

/-- A list of texts without line feeds is written on one line. -/
theorem newline_not_mem_listed
    {texts : List (List Char)}
    (oneLine : ∀ text ∈ texts, '\n' ∉ text)
    {rest : List Char}
    (restOneLine : '\n' ∉ rest) :
    '\n' ∉ listed texts rest := by
  induction texts with
  | nil =>
      simpa [listed] using restOneLine
  | cons text others inductionHypothesis =>
      have later := inductionHypothesis fun _ member => oneLine _ (List.mem_cons_of_mem _ member)
      have behind : '\n' ∉ listedBehind others rest := by
        rw [listedBehind]
        split
        · simpa using restOneLine
        · simpa using later
      rw [listed_cons, List.mem_append]
      rintro (inText | inRest)
      · exact oneLine text List.mem_cons_self inText
      · exact behind inRest

theorem newline_not_mem_optional
    {α : Type}
    {write : α → String}
    (oneLine : ∀ present, '\n' ∉ (write present).toList)
    (present? : Option α) :
    '\n' ∉ (optional write present?).toList := by
  cases present? with
  | none =>
      have letters : '\n' ∉ "null".toList := by
        decide
      exact letters
  | some present =>
      exact oneLine present

end StateLine

/-- The line of a state is one line. -/
theorem Calculator.newline_not_mem_stateLine
    (calculator : Calculator) :
    '\n' ∉ calculator.stateLine.toList := by
  have links :
      ∀ text ∈ calculator.chain.links.map fun place => (StateLine.link place).toList,
        '\n' ∉ text := by
    intro text member
    obtain ⟨place, -, rfl⟩ := List.mem_map.mp member
    exact StateLine.newline_not_mem_link place
  have operator :=
    StateLine.newline_not_mem_optional
      (fun operation : Operator => Json.newline_not_mem_string (String.singleton operation.symbol))
      calculator.pendingOperator?
  have number :=
    StateLine.newline_not_mem_optional Json.newline_not_mem_number calculator.pendingNumber?
  have screen := Json.newline_not_mem_string calculator.screen.text
  rw [toList_stateLine, List.mem_append, not_or]
  refine ⟨by decide, StateLine.newline_not_mem_listed links ?_⟩
  simp only [List.mem_append, not_or]
  exact ⟨by decide, operator, by decide, number, by decide, screen, by decide⟩

namespace CommandLine

variable {σ : Type} [Clipboard σ]

/-- What is printed after each line unless a trace takes its place. -/
def stateText
    (options : Options)
    (console : Console) :
    String :=
  if options.json then console.calculator.stateLine else console.calculator.screen.text

/-- Without a trace, a report is the state and a line feed. -/
theorem report_of_not_trace
    {options : Options}
    (quiet : options.trace = false)
    (console : Console)
    (steps : List Keystroke) :
    report options console steps = stateText options console ++ "\n" := by
  rw [report, quiet, stateText]
  cases options.json <;> simp

/-- The state is told on one line, in either form. -/
theorem newline_not_mem_stateText
    (options : Options)
    {console : Console}
    (reached : console.Reached) :
    '\n' ∉ (stateText options console).toList := by
  rw [stateText]
  split
  · exact Calculator.newline_not_mem_stateLine _
  · obtain ⟨actions, reachedShape⟩ := reached
    rw [reachedShape]
    exact Calculator.newline_not_mem_screen_text (Calculator.allOperands_isLegible actions)

/-! ## Answers -/

/-- A line is decoded and does not end the dialogue. -/
def goesOn
    (line : List UInt8) :
    Bool :=
  (lineText? line).any fun text => !decide (Request.Quits text)

/-- A line that is text goes on unless it ends the dialogue. -/
theorem goesOn_iff_of_decoded
    {line : List UInt8}
    {text : String}
    (decoded : lineText? line = some text) :
    goesOn line ↔ ¬Request.Quits text := by
  simp [goesOn, decoded]

/-- A line that is no text does not go on. -/
theorem not_goesOn_of_undecodable
    {line : List UInt8}
    (undecodable : lineText? line = none) :
    ¬goesOn line := by
  simp [goesOn, undecodable]

/-- A line that does not go on cannot be decoded, or ends the dialogue. -/
theorem takeLine_of_not_goesOn
    {line : List UInt8}
    (ends : ¬goesOn line)
    (options : Options)
    (desk : Desk σ) :
    takeLine options desk line = .undecodable ∨ takeLine options desk line = .quit := by
  rw [takeLine]
  cases decoded : lineText? line with
  | none =>
      exact Or.inl rfl
  | some text =>
      have quits : desk.enter? text = none := by
        rw [Desk.enter?_eq_none_iff]
        rwa [goesOn_iff_of_decoded decoded, not_not] at ends
      exact Or.inr (by simp [answerLine, quits])

/-- A line that goes on prints its report. -/
theorem takeLine_of_goesOn
    {line : List UInt8}
    (continues : goesOn line)
    (options : Options)
    (desk : Desk σ) :
    ∃ next steps,
      (desk.console.Reached → next.console.Reached) ∧
        takeLine options desk line = .printed (report options next.console steps) next := by
  cases decoded : lineText? line with
  | none =>
      exact absurd continues (not_goesOn_of_undecodable decoded)
  | some text =>
      obtain ⟨next, steps, entered⟩ :=
        desk.exists_enter?_of_not_quits ((goesOn_iff_of_decoded decoded).mp continues)
      refine ⟨next, steps, fun reached => Desk.reached_enter? reached entered, ?_⟩
      simp [takeLine, decoded, answerLine, entered]

/-- The answers to lines, one text for each, up to a line that ends the run. -/
def answers
    (options : Options)
    (desk : Desk σ) :
    List (List UInt8) → List String
  | [] => []
  | line :: rest =>
      match takeLine options desk line with
      | .undecodable => []
      | .quit => []
      | .printed output next => output :: answers options next rest

/-- A run prints the answers one behind the other. -/
theorem output_takeLines
    (options : Options)
    (desk : Desk σ)
    (lines : List (List UInt8)) :
    (takeLines options desk lines).output = String.join (answers options desk lines) := by
  induction lines generalizing desk with
  | nil =>
      rfl
  | cons line rest inductionHypothesis =>
      rw [takeLines, answers]
      cases takeLine options desk line with
      | undecodable => rfl
      | quit => rfl
      | printed output next =>
          rw [String.join_cons, ← inductionHypothesis]
          rfl

/-- There is one answer for each line before the one that ends the run. -/
theorem length_answers
    (options : Options)
    (desk : Desk σ)
    (lines : List (List UInt8)) :
    (answers options desk lines).length = (lines.takeWhile goesOn).length := by
  induction lines generalizing desk with
  | nil =>
      rfl
  | cons line rest inductionHypothesis =>
      by_cases continues : goesOn line
      · obtain ⟨next, steps, -, taken⟩ := takeLine_of_goesOn continues options desk
        simp [answers, taken, inductionHypothesis, continues]
      · rcases takeLine_of_not_goesOn continues options desk with taken | taken
        all_goals simp [answers, taken, continues]

/-- More lines lead to no less answers, and the earlier answers stay. -/
theorem exists_answers_append
    (options : Options)
    (desk : Desk σ)
    (earlier later : List (List UInt8)) :
    ∃ more, answers options desk (earlier ++ later) = answers options desk earlier ++ more := by
  induction earlier generalizing desk with
  | nil =>
      exact ⟨answers options desk later, rfl⟩
  | cons line rest inductionHypothesis =>
      rw [List.cons_append, answers, answers]
      cases takeLine options desk line with
      | undecodable => exact ⟨[], rfl⟩
      | quit => exact ⟨[], rfl⟩
      | printed output next =>
          obtain ⟨more, laterShape⟩ := inductionHypothesis next
          exact ⟨more, congrArg (output :: ·) laterShape⟩

/-- Without a trace every answer is one line. -/
theorem exists_answers_eq_map
    {options : Options}
    (quiet : options.trace = false)
    {desk : Desk σ}
    (reached : desk.console.Reached)
    (lines : List (List UInt8)) :
    ∃ printed : List String,
      answers options desk lines = printed.map (· ++ "\n") ∧
        ∀ text ∈ printed, '\n' ∉ text.toList := by
  induction lines generalizing desk with
  | nil =>
      exact ⟨[], rfl, fun _ member => nomatch member⟩
  | cons line rest inductionHypothesis =>
      by_cases continues : goesOn line
      · obtain ⟨next, steps, nextReached, taken⟩ := takeLine_of_goesOn continues options desk
        obtain ⟨printed, laterShape, oneLine⟩ := inductionHypothesis (nextReached reached)
        refine ⟨stateText options next.console :: printed, ?_, ?_⟩
        · simp [answers, taken, laterShape, report_of_not_trace quiet]
        · intro text member
          rcases List.mem_cons.mp member with rfl | later
          · exact newline_not_mem_stateText options (nextReached reached)
          · exact oneLine text later
      · rcases takeLine_of_not_goesOn continues options desk with taken | taken
        all_goals exact ⟨[], by simp [answers, taken], fun _ member => nomatch member⟩

/-- What a line of keys prints, and the desk after it. -/
theorem takeLine_utf8_of_not_isCommand
    (options : Options)
    (desk : Desk σ)
    {line : List Char}
    (noCommand : ¬Request.IsCommand (String.ofList line)) :
    takeLine options desk (utf8 line) =
      .printed
        (report options
          (desk.console.pressAll (Request.keysOfLine desk.console.bindings line))
          (desk.console.keystrokes (Request.keysOfLine desk.console.bindings line)))
        (desk.pressAll (Request.keysOfLine desk.console.bindings line)) := by
  have entered := @Desk.enter?_of_not_isCommand _ _ desk _ noCommand
  rw [String.toList_ofList] at entered
  simp only [takeLine, lineText?_utf8, answerLine, entered, Desk.console_pressAll]

/-! ## Runs -/

/-- There are settings for a run, and each key in them has an action that names a button. -/
structure IsConfigured
    (path? : Option String)
    (stored : String → Stored)
    (usual : SettingsFile)
    (settings : Settings) :
    Prop where
  loaded : Settings.load (path?.map fun path => ⟨path, stored path⟩) usual = .ok settings
  named : ∀ override ∈ settings.keys, (Button.ofAction? override.2).isSome

/-- A run with valid settings works one console that was just switched on. -/
theorem runWith_eq_runDesk
    {order : TableOrder}
    {clipboard : σ}
    {arguments : List String}
    {options : Options}
    {stored : String → Stored}
    {usual : SettingsFile}
    {settings : Settings}
    {bindings : Bindings}
    (read : Invocation.read? arguments = some (.run options))
    (configured : IsConfigured options.settingsPath? stored usual settings)
    (made : settings.bindingsIn order = .ok bindings)
    (input : List UInt8) :
    runWith order clipboard arguments stored usual input =
      runDesk options ⟨Console.start bindings, settings.copyOnEquals, clipboard⟩ input := by
  simp only [runWith, read, configured.loaded, startDesk?, made]

end CommandLine

end ChainCalculator

import ChainCalculator.Proofs.BindingOrder
import ChainCalculator.Proofs.PrintedLines

namespace ChainCalculator

/-!
# Runs that bind in different orders

Every run binds the keys of its settings in an order of its own.  The order decides which button a
key has only where the overrides for its name disagree, and it never decides how words are split
into keys.  So runs with the same settings do the same as long as no key of a disputed name is
pressed.

That is shown with two desks that differ in their bindings only.  A line makes no other difference
between them if each of its keys has the same button with both bindings, and so neither do several
lines.  The exit code does not depend on the bindings at all.
-/

/-- The overrides agree on each key of a line, in whatever order they are bound. -/
def Bindings.AgreeOnLine
    (overrides : List (String × String))
    (line : String) :
    Prop :=
  ∀ bindings keys,
    Attainable overrides bindings →
      Request.read bindings line = .keys keys →
        ∀ key ∈ keys, AgreeOn overrides (Text.lowercase key)

namespace Request

variable {first second : Bindings} {line : String}

/-- A line asks for the same with either bindings, and its keys have the same buttons. -/
structure SameWith
    (first second : Bindings)
    (line : String) :
    Prop where
  request : read second line = read first line
  buttons :
    ∀ keys, read first line = .keys keys → ∀ key ∈ keys, second.resolve? key = first.resolve? key

/-- What a line asks for depends on how words are split into keys only. -/
theorem read_eq_of_keysOfWord_eq
    (same : ∀ word, first.keysOfWord word = second.keysOfWord word)
    (line : String) :
    read first line = read second line := by
  simp only [read, keysOfLine, same]

/-- Two orders make the same of a line if the overrides agree on its keys. -/
theorem sameWith_of_agreeOnLine
    {overrides : List (String × String)}
    (firstAttainable : Bindings.Attainable overrides first)
    (secondAttainable : Bindings.Attainable overrides second)
    (agree : Bindings.AgreeOnLine overrides line) :
    SameWith first second line where
  request := read_eq_of_keysOfWord_eq (secondAttainable.keysOfWord_eq firstAttainable) line
  buttons keys pressed key member :=
    secondAttainable.resolve?_eq_of_agreeOn firstAttainable
      (agree first keys firstAttainable pressed key member)

end Request

namespace Desk

variable {σ : Type} [Clipboard σ] {bindings : Bindings}

/-- The desk with other bindings. -/
def rebind
    (desk : Desk σ)
    (bindings : Bindings) :
    Desk σ :=
  { desk with console := { desk.console with bindings := bindings } }

/-- Pressing a key leaves the bindings as they were. -/
theorem bindings_press
    (desk : Desk σ)
    (key : String) :
    (desk.press key).console.bindings = desk.console.bindings := by
  rw [console_press]
  rfl

/-- A key with the same button leaves the bindings as the only difference. -/
theorem press_rebind
    {desk : Desk σ}
    {key : String}
    (same : bindings.resolve? key = desk.console.bindings.resolve? key) :
    (desk.rebind bindings).press key = (desk.press key).rebind bindings := by
  simp only [press, rebind, Console.press, Calculator.press, same]
  split <;> rfl

/-- Keys with the same buttons leave the bindings as the only difference. -/
theorem pressAll_rebind
    {desk : Desk σ}
    {keys : List String}
    (same : ∀ key ∈ keys, bindings.resolve? key = desk.console.bindings.resolve? key) :
    (desk.rebind bindings).pressAll keys = (desk.pressAll keys).rebind bindings := by
  induction keys generalizing desk with
  | nil =>
      rfl
  | cons key rest inductionHypothesis =>
      obtain ⟨sameKey, sameRest⟩ := List.forall_mem_cons.mp same
      -- A key changes no bindings, so the buttons of the other keys are still the same.
      rw [pressAll, List.foldl_cons, press_rebind sameKey]
      exact inductionHypothesis ((bindings_press desk key).symm ▸ sameRest)

/-- Keys with the same buttons bring the same to the screen. -/
theorem keystrokes_rebind
    {desk : Desk σ}
    {keys : List String}
    (same : ∀ key ∈ keys, bindings.resolve? key = desk.console.bindings.resolve? key) :
    (desk.rebind bindings).console.keystrokes keys = desk.console.keystrokes keys := by
  induction keys generalizing desk with
  | nil =>
      rfl
  | cons key rest inductionHypothesis =>
      obtain ⟨sameKey, sameRest⟩ := List.forall_mem_cons.mp same
      have pressed := congrArg console (press_rebind sameKey)
      rw [console_press] at pressed
      have later := inductionHypothesis ((bindings_press desk key).symm ▸ sameRest)
      rw [console_press] at later
      rw [Console.keystrokes, Console.keystrokes, pressed, later]
      simp only [rebind, console_press]

/-- Pasting leaves the bindings as the only difference. -/
theorem paste_rebind
    (desk : Desk σ) :
    (desk.rebind bindings).paste = desk.paste.rebind bindings := by
  rw [paste, paste]
  simp only [rebind, Console.paste]
  rcases Clipboard.read desk.clipboard with ⟨_ | text, clipboard⟩
  · rfl
  · rfl

/-- Entering a line leaves the bindings as they were. -/
theorem bindings_of_enter?
    {desk next : Desk σ}
    {line : String}
    {steps : List Keystroke}
    (entered : desk.enter? line = some (next, steps)) :
    next.console.bindings = desk.console.bindings := by
  rcases console_of_enter? entered with kept | ⟨keys, pressed⟩ | ⟨text, pasted⟩
  · rw [kept]
  · rw [pressed, Console.bindings_pressAll]
  · rw [pasted, Console.paste]

/-- A line that asks for the same leaves the bindings as the only difference. -/
theorem enter?_rebind
    {desk : Desk σ}
    {line : String}
    (same : Request.SameWith desk.console.bindings bindings line) :
    (desk.rebind bindings).enter? line =
      (desk.enter? line).map fun entered => (entered.1.rebind bindings, entered.2) := by
  have request : Request.read (desk.rebind bindings).console.bindings line = _ := same.request
  rw [enter?, enter?, request]
  cases pressed : Request.read desk.console.bindings line with
  | keys names =>
      have buttons := same.buttons names pressed
      simp only [Option.map_some, pressAll_rebind buttons, keystrokes_rebind buttons]
  | copy =>
      rfl
  | paste =>
      simp only [Option.map_some, paste_rebind]
  | quit =>
      rfl

end Desk

namespace CommandLine

variable {σ : Type} [Clipboard σ] {bindings : Bindings}

/-- The lines that a run enters: the keys among its arguments, or lines of its input. -/
def enteredLines
    (options : Options)
    (input : List UInt8) :
    List String :=
  if options.keys = [] then
    ((inputLines input).takeWhile goesOn).filterMap lineText?
  else
    [String.intercalate " " options.keys]

/--
Two runs press the same buttons, because they bind in the same order or because the overrides agree
on each key of the lines that they enter.
-/
def PressSame
    (settings : Settings)
    (options : Options)
    (order otherOrder : TableOrder)
    (input : List UInt8) :
    Prop :=
  order = otherOrder ∨
    ∀ line ∈ enteredLines options input, Bindings.AgreeOnLine settings.keys line

/-- A line that asks for the same is answered in the same way. -/
theorem answerLine_rebind
    (options : Options)
    {desk : Desk σ}
    {line : String}
    (same : Request.SameWith desk.console.bindings bindings line) :
    answerLine options (desk.rebind bindings) line =
      (answerLine options desk line).map fun answered =>
        (answered.1, answered.2.rebind bindings) := by
  rw [answerLine, answerLine, Desk.enter?_rebind same]
  cases desk.enter? line <;> rfl

/-- The bindings have no part in how a run ends. -/
theorem endWell_rebind
    (options : Options)
    (desk : Desk σ)
    (output : String) :
    endWell options (desk.rebind bindings) output = endWell options desk output := by
  rw [endWell, endWell]
  split <;> rfl

/-- A line that does not end the run is answered, and the desk keeps its bindings. -/
theorem exists_answerLine_of_not_quits
    (options : Options)
    (desk : Desk σ)
    {line : String}
    (stays : ¬Request.Quits line) :
    ∃ output next,
      answerLine options desk line = some (output, next) ∧
        next.console.bindings = desk.console.bindings := by
  obtain ⟨next, steps, entered⟩ := desk.exists_enter?_of_not_quits stays
  exact
    ⟨report options next.console steps, next, by rw [answerLine, entered],
      Desk.bindings_of_enter? entered⟩

/-- Lines that ask for the same lead to the same ending. -/
theorem takeLines_rebind
    (options : Options)
    {desk : Desk σ}
    {lines : List (List UInt8)}
    (same :
      ∀ text ∈ (lines.takeWhile goesOn).filterMap lineText?,
        Request.SameWith desk.console.bindings bindings text) :
    takeLines options (desk.rebind bindings) lines = takeLines options desk lines := by
  -- The lines behind the one that ends the run need not ask for the same: nobody enters them.
  induction lines generalizing desk with
  | nil =>
      exact endWell_rebind options desk ""
  | cons line rest inductionHypothesis =>
      rw [takeLines, takeLines, takeLine, takeLine]
      cases decoded : lineText? line with
      | none =>
          rfl
      | some text =>
          by_cases quits : Request.Quits text
          · simp only [answerLine, Desk.enter?_eq_none_iff.mpr quits, endWell_rebind]
          · have continues : goesOn line := (goesOn_iff_of_decoded decoded).mpr quits
            rw [List.takeWhile_cons_of_pos continues, List.filterMap_cons_some decoded] at same
            obtain ⟨sameLine, sameRest⟩ := List.forall_mem_cons.mp same
            obtain ⟨output, next, answered, kept⟩ :=
              exists_answerLine_of_not_quits options desk quits
            have later := inductionHypothesis (kept.symm ▸ sameRest)
            simp only [answerLine_rebind options sameLine, answered, Option.map_some, later]

/-- A run that enters lines which ask for the same ends in the same way. -/
theorem runDesk_rebind
    {options : Options}
    {desk : Desk σ}
    {input : List UInt8}
    (same :
      ∀ line ∈ enteredLines options input,
        Request.SameWith desk.console.bindings bindings line) :
    runDesk options (desk.rebind bindings) input = runDesk options desk input := by
  rw [enteredLines] at same
  rw [runDesk, runDesk]
  split
  case isTrue noKeys =>
    rw [if_pos noKeys] at same
    exact takeLines_rebind options same
  case isFalse someKeys =>
    rw [if_neg someKeys] at same
    rw [runKeys, runKeys, answerLine_rebind options (same _ (List.mem_singleton_self _))]
    cases answerLine options desk (String.intercalate " " options.keys) with
    | none => exact endWell_rebind options desk ""
    | some answered => exact endWell_rebind options answered.2 answered.1

/-- Runs that press the same buttons end in the same way, whatever the orders. -/
theorem runWith_eq_of_pressSame
    {order otherOrder : TableOrder}
    {clipboard : σ}
    {arguments : List String}
    {options : Options}
    {stored : String → Stored}
    {usual : SettingsFile}
    {settings : Settings}
    {input : List UInt8}
    (read : Invocation.read? arguments = some (.run options))
    (configured : IsConfigured options.settingsPath? stored usual settings)
    (same : PressSame settings options order otherOrder input) :
    runWith otherOrder clipboard arguments stored usual input =
      runWith order clipboard arguments stored usual input := by
  rcases same with rfl | agree
  · rfl
  · obtain ⟨first, firstMade, firstAttainable⟩ :=
      Bindings.Attainable.exists_of_order configured.named order
    obtain ⟨second, secondMade, secondAttainable⟩ :=
      Bindings.Attainable.exists_of_order configured.named otherOrder
    rw [runWith_eq_runDesk read configured firstMade,
      runWith_eq_runDesk read configured secondMade]
    exact
      @runDesk_rebind _ _ second options
        ⟨Console.start first, settings.copyOnEquals, clipboard⟩ input fun line entered =>
          Request.sameWith_of_agreeOnLine firstAttainable secondAttainable (agree line entered)

/-- How a run on lines ends: with an error if the first line that stops it is not text. -/
def exitCodeOf
    (lines : List (List UInt8)) :
    Nat :=
  match (lines.dropWhile goesOn).head? with
  | none => 0
  | some line => if (lineText? line).isSome then 0 else 1

/-- The exit code depends on the lines only. -/
theorem exitCode_takeLines
    (options : Options)
    (desk : Desk σ)
    (lines : List (List UInt8)) :
    (takeLines options desk lines).exitCode = exitCodeOf lines := by
  induction lines generalizing desk with
  | nil =>
      rfl
  | cons line rest inductionHypothesis =>
      rw [takeLines, takeLine, exitCodeOf]
      cases decoded : lineText? line with
      | none =>
          rw [List.dropWhile_cons_of_neg (not_goesOn_of_undecodable decoded)]
          simp only [List.head?_cons, decoded]
          rfl
      | some text =>
          by_cases quits : Request.Quits text
          · have stops : ¬goesOn line := by
              rwa [goesOn_iff_of_decoded decoded, not_not]
            rw [List.dropWhile_cons_of_neg stops]
            simp only [answerLine, Desk.enter?_eq_none_iff.mpr quits, List.head?_cons, decoded]
            rfl
          · have continues : goesOn line := (goesOn_iff_of_decoded decoded).mpr quits
            obtain ⟨output, next, answered, -⟩ :=
              exists_answerLine_of_not_quits options desk quits
            rw [List.dropWhile_cons_of_pos continues]
            simp only [answered]
            exact inductionHypothesis next

end CommandLine

end ChainCalculator

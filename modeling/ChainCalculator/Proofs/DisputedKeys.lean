import Mathlib.Data.List.Nodup
import ChainCalculator.Proofs.KeysOfLines
import ChainCalculator.Proofs.RunOrder

namespace ChainCalculator

/-!
# Disputed keys

If the overrides for a name disagree, some orders give its key different buttons.  Runs in such
orders can be told apart: behind `7` and `+` every button leads to a state of its own.  Only
settings that rebind these two keys may hide the difference.
-/

namespace Button

/-- All buttons of the calculator. -/
def all : List Button :=
  (List.finRange 10).map .digit ++
    [.dot, .operator .add, .operator .subtract, .operator .multiply, .operator .divide, .percent,
      .equals, .clearAll, .clearEntry]

/-- No button is missing. -/
theorem mem_all
    (button : Button) :
    button ∈ all := by
  cases button with
  | digit value => exact List.mem_append_left _ (List.mem_map_of_mem (List.mem_finRange value))
  | operator operation => cases operation <;> decide
  | dot => decide
  | percent => decide
  | equals => decide
  | clearAll => decide
  | clearEntry => decide

end Button

namespace Calculator

/-- The calculator after `7`, `+` and one more button. -/
def behindSum
    (button : Button) :
    Calculator :=
  fresh.pushAll [.digit ⟨7, by decide⟩, .operator .add, button]

/-- Behind `7` and `+` the line of the state tells which button was pushed. -/
theorem button_eq_of_stateLine_behindSum_eq
    {first second : Button}
    (same : (behindSum first).stateLine = (behindSum second).stateLine) :
    first = second := by
  -- The buttons are few, so all their lines are compared.
  have distinct : (Button.all.map fun button => (behindSum button).stateLine).Nodup := by
    decide +kernel
  exact List.inj_on_of_nodup_map distinct (Button.mem_all first) (Button.mem_all second) same

end Calculator

/-- The words of a line and their characters: all that can be a key of it. -/
def Request.candidates
    (line : List Char) :
    List String :=
  (Text.words line).flatMap fun word => String.ofList word :: word.map String.singleton

/-- It is enough that the overrides agree on the words of a line and on their characters. -/
theorem Bindings.agreeOnLine_of_candidates
    {overrides : List (String × String)}
    {line : String}
    (agree :
      ∀ key ∈ Request.candidates line.toList, AgreeOn overrides (Text.lowercase key)) :
    AgreeOnLine overrides line := by
  intro bindings keys _ pressed key member
  obtain ⟨-, rfl⟩ := Request.read_eq_keys_iff.mp pressed
  obtain ⟨word, isWord, ofWord⟩ := List.mem_flatMap.mp member
  apply agree
  refine List.mem_flatMap.mpr ⟨word, isWord, ?_⟩
  rcases mem_keysOfWord ofWord with ⟨rfl, -⟩ | ⟨character, inWord, rfl⟩
  · exact List.mem_cons_self
  · rw [String.toList_ofList] at inWord
    exact List.mem_cons_of_mem _ (List.mem_map_of_mem inWord)

/-- The keys `7` and `+`, and a word behind them. -/
def keysBehindSum
    (word : String) :
    List String :=
  ["7", "+", word]

section

variable
  {word : String}
  (nonempty : word ≠ "")
  (visible : ∀ character ∈ word.toList, Text.isBlank character = false)

include nonempty visible

/-- The three keys are the words of their line. -/
theorem words_keysBehindSum :
    Text.words (String.intercalate " " (keysBehindSum word)).toList =
      ["7".toList, "+".toList, word.toList] := by
  have wordShape :=
    Text.words_of_visible (mt String.toList_eq_nil_iff.mp nonempty) visible
  have seven : Text.words "7".toList = ["7".toList] := by
    decide
  have plus : Text.words "+".toList = ["+".toList] := by
    decide
  simp only [Text.words_intercalate_keys, keysBehindSum, List.flatMap_cons, List.flatMap_nil,
    seven, plus, wordShape]
  rfl

/-- A line of three words is no command. -/
theorem not_isCommand_keysBehindSum :
    ¬Request.IsCommand (String.intercalate " " (keysBehindSum word)) := by
  intro command
  have single := Request.words_of_isCommand command
  rw [words_keysBehindSum nonempty visible] at single
  exact absurd (congrArg List.length single) (by simp)

/-- The three keys are pressed if the word is bound. -/
theorem keysOfLine_keysBehindSum
    {bindings : Bindings}
    (bound : (bindings.bound? word).isSome) :
    Request.keysOfLine bindings (String.intercalate " " (keysBehindSum word)).toList =
      keysBehindSum word := by
  have single (key : String) (one : key.toList.map String.singleton = [key]) :
      bindings.keysOfWord key = [key] := by
    rw [Bindings.keysOfWord, one, ite_self]
  have seven := single "7" rfl
  have plus := single "+" rfl
  have whole : bindings.keysOfWord word = [word] := by
    rw [Bindings.keysOfWord, if_pos bound]
  rw [Request.keysOfLine, words_keysBehindSum nonempty visible]
  simp only [List.flatMap_cons, List.flatMap_nil, String.ofList_toList, seven, plus, whole]
  rfl

end

/-- The keys press the buttons that they stand for. -/
theorem calculator_pressAll_keysBehindSum
    {overrides : List (String × String)}
    {bindings : Bindings}
    (attainable : Bindings.Attainable overrides bindings)
    (alone : ∀ override ∈ overrides, Text.lowercase override.1 ∉ ["7", "+"])
    {word : String}
    {button : Button}
    (bound : bindings.bound? word = some button) :
    ((Console.start bindings).pressAll (keysBehindSum word)).calculator =
      Calculator.behindSum button := by
  have kept :
      ∀ key ∈ ["7", "+"], bindings.resolve? key = Bindings.standard.resolve? key := by
    have small : ∀ key ∈ ["7", "+"], Text.lowercase key = key := by
      decide +kernel
    intro key member
    apply attainable.resolve?_of_forall_ne
    intro override overrideMember same
    exact alone override overrideMember (by rwa [same, small key member])
  have seven : bindings.resolve? "7" = some (.digit 7) :=
    (kept "7" (by decide)).trans (by decide +kernel)
  have plus : bindings.resolve? "+" = some (.operator .add) :=
    (kept "+" (by decide)).trans (by decide +kernel)
  have last : bindings.resolve? word = some button := by
    rw [Bindings.resolve?, bound, Option.some_or]
  simp only [keysBehindSum, Console.pressAll, List.foldl_cons, List.foldl_nil, Console.press,
    Console.start, Calculator.press, seven, plus, last]
  rfl

/-- Of the orders of a disputed name some two lead to different states. -/
theorem exists_orders_of_disputed
    {settings : Settings}
    (named : ∀ override ∈ settings.keys, (Button.ofAction? override.2).isSome)
    (alone : ∀ override ∈ settings.keys, Text.lowercase override.1 ∉ ["7", "+"])
    {word : String}
    (disputed : ¬Bindings.AgreeOn settings.keys (Text.lowercase word)) :
    ∃ order otherOrder first second,
      settings.bindingsIn order = .ok first ∧
        settings.bindingsIn otherOrder = .ok second ∧
        (first.bound? word).isSome ∧
        (second.bound? word).isSome ∧
        ((Console.start first).pressAll (keysBehindSum word)).calculator.stateLine ≠
          ((Console.start second).pressAll (keysBehindSum word)).calculator.stateLine := by
  simp only [Bindings.AgreeOn, not_forall] at disputed
  obtain ⟨override, member, other, otherMember, overrideFor, otherFor, different⟩ := disputed
  -- Each of the two overrides comes last in some order, and then its action decides.
  obtain ⟨first, firstAttainable, firstFound⟩ := Bindings.Attainable.exists_of_mem named member
  obtain ⟨second, secondAttainable, secondFound⟩ :=
    Bindings.Attainable.exists_of_mem named otherMember
  obtain ⟨order, firstMade⟩ := firstAttainable.exists_order
  obtain ⟨otherOrder, secondMade⟩ := secondAttainable.exists_order
  obtain ⟨button, action⟩ := Option.isSome_iff_exists.mp (named override member)
  obtain ⟨otherButton, otherAction⟩ := Option.isSome_iff_exists.mp (named other otherMember)
  have bound := (firstFound word overrideFor).trans action
  have otherBound := (secondFound word otherFor).trans otherAction
  refine
    ⟨order, otherOrder, first, second, firstMade, secondMade, Option.isSome_of_eq_some bound,
      Option.isSome_of_eq_some otherBound, ?_⟩
  rw [calculator_pressAll_keysBehindSum firstAttainable alone bound,
    calculator_pressAll_keysBehindSum secondAttainable alone otherBound]
  intro same
  rw [action, otherAction, Calculator.button_eq_of_stateLine_behindSum_eq same] at different
  exact different rfl

/-! ## A file with a disputed key -/

/-- The entries of a table are taken from the last to the first. -/
def TableOrder.reversed : TableOrder :=
  ⟨List.reverse, fun table => (List.reverse_perm table).symm⟩

namespace Settings

/-- The text of settings with two keys that differ in letter case only. -/
def disputedText : String :=
  "[keys]\nQ = \"clear-all\"\nq = \"equals\"\n"

/-- Settings with two keys that differ in letter case only. -/
def disputed : Settings :=
  { standard with keys := [("Q", "clear-all"), ("q", "equals")] }

/-- A file with these settings. -/
def disputedFile : SettingsFile :=
  ⟨"", .bytes disputedText.toUTF8⟩

/-- The settings of the file are valid. -/
theorem isConfigured_disputed :
    CommandLine.IsConfigured none (fun _ => .absent) disputedFile disputed where
  loaded := by
    have decoded : disputedFile.text? = some disputedText :=
      CommandLine.fromUTF8?_eq_some_iff.mpr rfl
    have settings : read? disputedText = some disputed := by
      decide +kernel
    rw [Option.map_none, load]
    simp only [disputedFile] at decoded ⊢
    simp only [SettingsFile.settings, decoded, settings]
  named := by
    decide

end Settings

end ChainCalculator

import ChainCalculator.Proofs.JsonTexts
import ChainCalculator.Proofs.LegibleTexts
import ChainCalculator.Proofs.RejectedInput
import ChainCalculator.StateLine

namespace ChainCalculator

/-!
# The line of a state tells the state

The line names its four fields, but not what kind of thing stands in them: typed operands, operators
and the screen are all strings.  Still it can be read in one way only.  Every value can be told from
what follows it.  A typed operand is legible, so it is no operator and no word for an error, and
finite numbers have texts of their own.

What the line leaves out is which fault is remembered.  That changes no screen, now or later.
-/

namespace StateLine

/-! ## Values -/

/-- The marks that end a value in a line. -/
def endMarks : List Char :=
  [',', ']', '\x7d']

/-- What stands behind a value in a line. -/
def Ends
    (rest : List Char) :
    Prop :=
  ∃ mark later, rest = mark :: later ∧ mark ∈ endMarks

/-- The text of a value in a line: a string, or something without quotation marks and end marks. -/
inductive IsValue : List Char → Prop where
  | string
      (text : String) :
      IsValue (Json.string text).toList
  | bare
      {text : List Char}
      (nonempty : text ≠ [])
      (plain : ∀ character ∈ text, character ∉ '"' :: endMarks) :
      IsValue text

/-- A value begins with a character that ends no value. -/
theorem IsValue.head
    {text : List Char}
    (value : IsValue text) :
    ∃ first rest, text = first :: rest ∧ first ∉ endMarks := by
  cases value with
  | string content =>
      exact ⟨'"', _, String.toList_ofList, by decide⟩
  | bare nonempty plain =>
      obtain ⟨first, rest, shape⟩ := List.exists_cons_of_ne_nil nonempty
      refine ⟨first, rest, shape, ?_⟩
      have firstPlain := plain first (by simp [shape])
      exact fun isMark => firstPlain (List.mem_cons_of_mem _ isMark)

/-- Two texts without end marks are told from what follows them. -/
private theorem append_inj_of_bare
    {first second rest other : List Char}
    (firstPlain : ∀ character ∈ first, character ∉ endMarks)
    (secondPlain : ∀ character ∈ second, character ∉ endMarks)
    (firstEnds : Ends rest)
    (secondEnds : Ends other)
    (same : first ++ rest = second ++ other) :
    first = second ∧ rest = other := by
  have cut (text behind : List Char) (plain : ∀ character ∈ text, character ∉ endMarks)
      (ends : Ends behind) :
      (text ++ behind).takeWhile (fun character => decide (character ∉ endMarks)) = text := by
    obtain ⟨mark, later, rfl, isMark⟩ := ends
    rw [List.takeWhile_append_of_pos (by simpa using plain)]
    simp [isMark]
  have sameText : first = second := by
    rw [← cut first rest firstPlain firstEnds, same, cut second other secondPlain secondEnds]
  rw [sameText] at same
  exact ⟨sameText, List.append_cancel_left same⟩

/-- A string and a bare value begin with different characters. -/
private theorem string_append_ne_of_bare
    {content : String}
    {text rest other : List Char}
    (nonempty : text ≠ [])
    (plain : ∀ character ∈ text, character ∉ '"' :: endMarks) :
    (Json.string content).toList ++ rest ≠ text ++ other := by
  obtain ⟨first, later, rfl⟩ := List.exists_cons_of_ne_nil nonempty
  intro same
  have quote : (Json.string content).toList.head? = some '"' := by
    rw [Json.string, String.toList_ofList]
    rfl
  have firstShape := congrArg List.head? same
  rw [List.head?_append, quote] at firstShape
  have isQuote : '"' = first := Option.some.inj firstShape
  exact plain first List.mem_cons_self (by simp [← isQuote])

/-- A value can be told from what follows it. -/
theorem IsValue.append_inj
    {first second rest other : List Char}
    (firstValue : IsValue first)
    (secondValue : IsValue second)
    (firstEnds : Ends rest)
    (secondEnds : Ends other)
    (same : first ++ rest = second ++ other) :
    first = second ∧ rest = other := by
  cases firstValue with
  | string content =>
      cases secondValue with
      | string otherContent =>
          obtain ⟨rfl, sameRest⟩ := Json.string_append_inj same
          exact ⟨rfl, sameRest⟩
      | bare nonempty plain =>
          exact absurd same (string_append_ne_of_bare nonempty plain)
  | bare nonempty plain =>
      cases secondValue with
      | string otherContent =>
          exact absurd same.symm (string_append_ne_of_bare nonempty plain)
      | bare otherNonempty otherPlain =>
          exact
            append_inj_of_bare
              (fun character member isMark =>
                plain character member (List.mem_cons_of_mem _ isMark))
              (fun character member isMark =>
                otherPlain character member (List.mem_cons_of_mem _ isMark))
              firstEnds secondEnds same

/-! ## Lists of values -/

/-- Values between commas, up to the bracket that ends their list, and what follows it. -/
def listed
    (values : List (List Char))
    (rest : List Char) :
    List Char :=
  [','].intercalate values ++ ']' :: rest

/-- What stands behind the first of several values. -/
def listedBehind
    (values : List (List Char))
    (rest : List Char) :
    List Char :=
  if values = [] then ']' :: rest else ',' :: listed values rest

/-- A list is its first value and what is listed behind it. -/
theorem listed_cons
    (value : List Char)
    (values : List (List Char))
    (rest : List Char) :
    listed (value :: values) rest = value ++ listedBehind values rest := by
  cases values with
  | nil =>
      simp [listed, listedBehind]
  | cons next later =>
      simp [listed, listedBehind, List.intercalate_cons_cons]

/-- Behind a value comes a comma or the end of the list. -/
theorem ends_listedBehind
    (values : List (List Char))
    (rest : List Char) :
    Ends (listedBehind values rest) := by
  rw [listedBehind]
  split
  · exact ⟨']', rest, rfl, by decide⟩
  · exact ⟨',', _, rfl, by decide⟩

/-- A list that begins with a value does not end at once. -/
private theorem listed_nil_ne
    {value : List Char}
    (isValue : IsValue value)
    (values : List (List Char))
    (rest other : List Char) :
    listed [] rest ≠ listed (value :: values) other := by
  obtain ⟨first, later, rfl, noMark⟩ := isValue.head
  rw [listed_cons]
  intro same
  have bracket : ']' = first := (List.cons.inj same).1
  exact noMark (by simp [← bracket, endMarks])

/-- A list of values can be told from what follows it, and its values from each other. -/
theorem listed_inj
    {first second : List (List Char)}
    {rest other : List Char}
    (firstValues : ∀ value ∈ first, IsValue value)
    (secondValues : ∀ value ∈ second, IsValue value)
    (same : listed first rest = listed second other) :
    first = second ∧ rest = other := by
  -- A value tells where it ends, so the first values are equal, and then the mark behind them tells
  -- whether the list goes on.
  induction first generalizing second with
  | nil =>
      cases second with
      | nil =>
          exact ⟨rfl, (List.cons.inj same).2⟩
      | cons value values =>
          exact absurd same (listed_nil_ne (secondValues value List.mem_cons_self) _ _ _)
  | cons value values inductionHypothesis =>
      have isValue := firstValues value List.mem_cons_self
      cases second with
      | nil =>
          exact absurd same.symm (listed_nil_ne isValue _ _ _)
      | cons otherValue otherValues =>
          rw [listed_cons, listed_cons] at same
          obtain ⟨sameValue, sameBehind⟩ :=
            isValue.append_inj (secondValues otherValue List.mem_cons_self)
              (ends_listedBehind _ _) (ends_listedBehind _ _) same
          rw [listedBehind, listedBehind] at sameBehind
          have bracketNeComma : ']' ≠ ',' := by
            decide
          by_cases none : values = [] <;> by_cases otherNone : otherValues = []
          · rw [if_pos none, if_pos otherNone] at sameBehind
            rw [sameValue, none, otherNone]
            exact ⟨rfl, (List.cons.inj sameBehind).2⟩
          · rw [if_pos none, if_neg otherNone] at sameBehind
            exact absurd (List.cons.inj sameBehind).1 bracketNeComma
          · rw [if_neg none, if_pos otherNone] at sameBehind
            exact absurd (List.cons.inj sameBehind).1.symm bracketNeComma
          · rw [if_neg none, if_neg otherNone] at sameBehind
            obtain ⟨sameValues, sameRest⟩ :=
              inductionHypothesis
                (fun _ member => firstValues _ (List.mem_cons_of_mem _ member))
                (fun _ member => secondValues _ (List.mem_cons_of_mem _ member))
                (List.cons.inj sameBehind).2
            rw [sameValue, sameValues]
            exact ⟨rfl, sameRest⟩

/-! ## The fields of the line -/

/-- A finite number ends where its digits and marks end. -/
theorem isValue_number
    {value : Float}
    (finite : value.isFinite) :
    IsValue (Json.number value).toList := by
  refine .bare ?_ ?_
  · intro empty
    have read := Json.readFloat?_number finite
    have unread : Numeral.read? [] = none := by
      decide
    rw [readFloat?, empty, unread] at read
    cases read
  · intro character member isMark
    have part := Json.mem_number finite member
    revert part
    simp only [endMarks, List.mem_cons, List.not_mem_nil, or_false] at isMark
    rcases isMark with rfl | rfl | rfl | rfl <;> decide

/-- The absent value ends where its letters end. -/
theorem isValue_null :
    IsValue "null".toList := by
  have letters : "null".toList = ['n', 'u', 'l', 'l'] :=
    rfl
  rw [letters]
  exact .bare (by simp) (by simp [endMarks])

/-- A string begins with a quotation mark, and a number does not. -/
theorem string_ne_number
    {value : Float}
    (finite : value.isFinite)
    (text : String) :
    Json.string text ≠ Json.number value := by
  intro same
  apply @Json.not_mem_number value finite '"' (by decide)
  rw [← same, Json.string, String.toList_ofList]
  exact List.mem_cons_self

/-- Operators written in the same way are the same. -/
theorem operator_inj
    {first second : Operator}
    (same : operator first = operator second) :
    first = second := by
  have sameSymbols := congrArg String.toList (Json.string_inj same)
  rw [String.toList_singleton, String.toList_singleton, List.singleton_inj] at sameSymbols
  have sameRead := congrArg Operator.ofSymbol? sameSymbols
  rwa [Operator.ofSymbol?_symbol, Operator.ofSymbol?_symbol, Option.some_inj] at sameRead

/-- An operand that its text in the line tells: it is legible if it was typed, and finite if not. -/
def IsTold :
    Operand → Prop
  | .typed text => IsLegibleText text
  | .computed value => value.isFinite

/-- A link whose operand is told apart is one value of the list. -/
theorem isValue_link
    {place : Link}
    (told : ∀ number, place = .operand number → IsTold number) :
    IsValue (link place).toList := by
  cases place with
  | operator operation =>
      exact .string _
  | operand number =>
      cases number with
      | typed text => exact .string text
      | computed value => exact isValue_number (told _ rfl)

/-- A link is told by its text. -/
theorem link_inj
    {first second : Link}
    (firstTold : ∀ number, first = .operand number → IsTold number)
    (secondTold : ∀ number, second = .operand number → IsTold number)
    (same : link first = link second) :
    first = second := by
  rcases first with (text | value) | operation <;>
    rcases second with (otherText | otherValue) | otherOperation
  · have sameText : text = otherText := Json.string_inj same
    rw [sameText]
  · have finite : otherValue.isFinite := secondTold _ rfl
    exact absurd same (string_ne_number finite text)
  · have legible : IsLegibleText text := firstTold _ rfl
    exact absurd (Json.string_inj same) (legible.ne_symbol otherOperation)
  · have finite : value.isFinite := firstTold _ rfl
    exact absurd same.symm (string_ne_number finite otherText)
  · have sameValue : value = otherValue :=
      Json.number_inj (firstTold _ rfl) (secondTold _ rfl) same
    rw [sameValue]
  · have finite : value.isFinite := firstTold _ rfl
    exact absurd same.symm (string_ne_number finite _)
  · have legible : IsLegibleText otherText := secondTold _ rfl
    exact absurd (Json.string_inj same.symm) (legible.ne_symbol operation)
  · have finite : otherValue.isFinite := secondTold _ rfl
    exact absurd same (string_ne_number finite _)
  · rw [operator_inj same]

theorem isValue_links
    {links : List Link}
    (told : ∀ number, .operand number ∈ links → IsTold number) :
    ∀ text ∈ links.map fun place => (link place).toList, IsValue text := by
  intro text member
  obtain ⟨place, placeMember, rfl⟩ := List.mem_map.mp member
  apply isValue_link
  rintro number rfl
  exact told number placeMember

/-- Chains written in the same way are the same, if their operands are told apart. -/
theorem links_inj
    {first second : List Link}
    (firstTold : ∀ number, .operand number ∈ first → IsTold number)
    (secondTold : ∀ number, .operand number ∈ second → IsTold number)
    (same :
      (first.map fun place => (link place).toList) = second.map fun place => (link place).toList) :
    first = second := by
  induction first generalizing second with
  | nil =>
      exact (List.map_eq_nil_iff.mp same.symm).symm
  | cons place rest inductionHypothesis =>
      cases second with
      | nil =>
          cases same
      | cons otherPlace otherRest =>
          obtain ⟨samePlace, sameRest⟩ := List.cons.inj same
          have placeEq : place = otherPlace := by
            apply link_inj _ _ (String.toList_inj.mp samePlace)
            · rintro number rfl
              exact firstTold number List.mem_cons_self
            · rintro number rfl
              exact secondTold number List.mem_cons_self
          have restEq : rest = otherRest :=
            inductionHypothesis
              (fun number member => firstTold number (List.mem_cons_of_mem _ member))
              (fun number member => secondTold number (List.mem_cons_of_mem _ member))
              sameRest
          rw [placeEq, restEq]

/-- Pending operators written in the same way are the same. -/
theorem optional_operator_inj
    {first second : Option Operator}
    (same : optional operator first = optional operator second) :
    first = second := by
  have stringNeNull (operation : Operator) : operator operation ≠ "null" := by
    cases operation <;> decide
  rcases first with _ | first <;> rcases second with _ | second
  · rfl
  · exact absurd same.symm (stringNeNull second)
  · exact absurd same (stringNeNull first)
  · rw [operator_inj same]

/-- Pending numbers written in the same way are the same, if they are finite. -/
theorem optional_number_inj
    {first second : Option Float}
    (firstFinite : ∀ value ∈ first, value.isFinite)
    (secondFinite : ∀ value ∈ second, value.isFinite)
    (same : optional Json.number first = optional Json.number second) :
    first = second := by
  rcases first with _ | first <;> rcases second with _ | second
  · rfl
  · exact absurd same.symm (Json.number_ne_null (secondFinite second rfl))
  · exact absurd same (Json.number_ne_null (firstFinite first rfl))
  · have sameValue : first = second :=
      Json.number_inj (firstFinite first rfl) (secondFinite second rfl) same
    rw [sameValue]

theorem isValue_optional_operator
    (operator? : Option Operator) :
    IsValue (optional operator operator?).toList := by
  cases operator? with
  | none => exact isValue_null
  | some operation => exact .string _

theorem isValue_optional_number
    {number? : Option Float}
    (finite : ∀ value ∈ number?, value.isFinite) :
    IsValue (optional Json.number number?).toList := by
  cases number? with
  | none => exact isValue_null
  | some value => exact isValue_number (finite value rfl)

end StateLine

namespace Calculator

/-- Every computed operand and the remembered number are finite. -/
structure HoldsFinite
    (calculator : Calculator) :
    Prop where
  computed :
    ∀ value, .operand (.computed value) ∈ calculator.chain.links → value.isFinite
  pending : ∀ value ∈ calculator.pendingNumber?, value.isFinite

/-- The line of a state as a list of characters, field by field. -/
theorem toList_stateLine
    (calculator : Calculator) :
    calculator.stateLine.toList =
      "\x7b\"buffer\":[".toList ++
        StateLine.listed (calculator.chain.links.map fun place => (StateLine.link place).toList)
          (",\"last_operator\":".toList ++
            ((StateLine.optional StateLine.operator calculator.pendingOperator?).toList ++
              (",\"last_number\":".toList ++
                ((StateLine.optional Json.number calculator.pendingNumber?).toList ++
                  (",\"display\":".toList ++
                    ((Json.string calculator.screen.text).toList ++ "\x7d".toList)))))) := by
  delta stateLine
  simp only [StateLine.chain, StateLine.listed, String.toList_append, String.toList_intercalate,
    List.map_map, Function.comp_def, List.append_assoc]
  rfl

/-- Legible texts and finite numbers are told apart. -/
theorem isTold_of_holdsFinite
    {calculator : Calculator}
    (legible : calculator.chain.AllOperands Operand.IsLegible)
    (finite : calculator.HoldsFinite)
    (number : Operand)
    (member : .operand number ∈ calculator.chain.links) :
    StateLine.IsTold number := by
  cases number with
  | typed text => exact legible (.typed text) member
  | computed value => exact finite.computed value member

/-- The screen shows the word for an error if and only if a fault is remembered. -/
theorem screen_text_eq_errorWord_iff
    {calculator : Calculator}
    (legible : calculator.chain.AllOperands Operand.IsLegible)
    (finite : calculator.HoldsFinite) :
    calculator.screen.text = Screen.errorWord ↔ calculator.fault?.isSome := by
  rw [screen]
  cases calculator.fault? with
  | some fault =>
      exact iff_of_true rfl rfl
  | none =>
      refine iff_of_false ?_ Bool.false_ne_true
      dsimp only
      split
      · rename_i number latest
        have told :=
          isTold_of_holdsFinite legible finite number (Chain.mem_of_latestOperand?_eq_some latest)
        cases number with
        | typed text =>
            have textLegible : IsLegibleText text := told
            rw [Screen.ofOperand, Screen.ofText, if_neg textLegible.ne_empty]
            exact textLegible.ne_errorWord
        | computed value =>
            have valueFinite : value.isFinite := told
            rw [Screen.ofOperand, Screen.ofValue, if_pos valueFinite]
            exact (IsLegibleText.of_accepts (Figure.isCanonical_write valueFinite).1).ne_errorWord
      · decide

/-- The line of a state with legible texts and finite numbers tells the state, but for the fault. -/
theorem stateLine_inj
    {first second : Calculator}
    (firstLegible : first.chain.AllOperands Operand.IsLegible)
    (secondLegible : second.chain.AllOperands Operand.IsLegible)
    (firstFinite : first.HoldsFinite)
    (secondFinite : second.HoldsFinite)
    (same : first.stateLine = second.stateLine) :
    first.withoutFault = second.withoutFault ∧
      first.fault?.isSome = second.fault?.isSome := by
  have firstTold := isTold_of_holdsFinite firstLegible firstFinite
  have secondTold := isTold_of_holdsFinite secondLegible secondFinite
  have ends (field : String) (later : List Char) (comma : field.toList.head? = some ',') :
      StateLine.Ends (field.toList ++ later) := by
    obtain ⟨rest, shape⟩ := List.head?_eq_some_iff.mp comma
    exact ⟨',', rest ++ later, by simp [shape], by decide⟩
  have sameLists := congrArg String.toList same
  rw [toList_stateLine, toList_stateLine] at sameLists
  -- The fields are read off from left to right, each up to the name of the next one.
  obtain ⟨sameLinks, sameLists⟩ :=
    StateLine.listed_inj (StateLine.isValue_links firstTold) (StateLine.isValue_links secondTold)
      (List.append_cancel_left sameLists)
  obtain ⟨sameOperator, sameLists⟩ :=
    (StateLine.isValue_optional_operator _).append_inj (StateLine.isValue_optional_operator _)
      (ends _ _ rfl) (ends _ _ rfl) (List.append_cancel_left sameLists)
  obtain ⟨sameNumber, sameLists⟩ :=
    (StateLine.isValue_optional_number firstFinite.pending).append_inj
      (StateLine.isValue_optional_number secondFinite.pending)
      (ends _ _ rfl) (ends _ _ rfl) (List.append_cancel_left sameLists)
  obtain ⟨sameScreen, -⟩ := Json.string_append_inj (List.append_cancel_left sameLists)
  have chainEq : first.chain = second.chain :=
    congrArg Chain.mk (StateLine.links_inj firstTold secondTold sameLinks)
  have operatorEq := StateLine.optional_operator_inj (String.toList_inj.mp sameOperator)
  have numberEq :=
    StateLine.optional_number_inj firstFinite.pending secondFinite.pending
      (String.toList_inj.mp sameNumber)
  constructor
  · rw [withoutFault, withoutFault, chainEq, operatorEq, numberEq]
  · rw [Bool.eq_iff_iff, ← screen_text_eq_errorWord_iff firstLegible firstFinite, sameScreen,
      screen_text_eq_errorWord_iff secondLegible secondFinite]

/-! ## What the line leaves out -/

/-- Calculators that differ at most in which fault they remember. -/
structure SameButFault
    (first second : Calculator) :
    Prop where
  state : first.withoutFault = second.withoutFault
  faulty : first.fault?.isSome = second.fault?.isSome

namespace SameButFault

variable {first second : Calculator}

/-- The fault has no part in what shows. -/
theorem screen_eq
    (same : SameButFault first second) :
    first.screen = second.screen := by
  have sameChain : first.chain = second.chain :=
    congrArg (fun calculator => calculator.chain) same.state
  have faulty := same.faulty
  rw [screen, screen, sameChain]
  cases firstFault : first.fault? <;> cases secondFault : second.fault? <;>
    simp_all

/-- One action leaves calculators alike that were alike but for the fault. -/
theorem act
    (same : SameButFault first second)
    (action : Action) :
    SameButFault (first.act action) (second.act action) := by
  by_cases accepted : action.isAccepted
  · have sameAfter : first.act action = second.act action := by
      rw [← act_withoutFault first accepted, same.state, act_withoutFault second accepted]
    rw [sameAfter]
    exact ⟨rfl, rfl⟩
  · refine ⟨?_, ?_⟩
    · rw [withoutFault_act first accepted, withoutFault_act second accepted, same.state]
    · cases action with
      | push button =>
          exact absurd rfl accepted
      | press bindings key =>
          have unknown : bindings.resolve? key = none := by
            simpa [Action.isAccepted] using accepted
          simp only [Calculator.act, press, unknown]
          rfl
      | paste text =>
          rw [Calculator.act, Calculator.act, paste_of_not_accepts accepted,
            paste_of_not_accepts accepted]
          exact same.faulty

/-- Calculators that are alike but for the fault show the same screens under the same actions. -/
theorem record_eq
    (same : SameButFault first second)
    (actions : List Action) :
    first.record actions = second.record actions := by
  induction actions generalizing first second with
  | nil =>
      rfl
  | cons action rest inductionHypothesis =>
      have sameAfter := same.act action
      rw [record, record, inductionHypothesis sameAfter, sameAfter.screen_eq]

end SameButFault

/--
Two runs that end with finite numbers and with the same line end in the same state, but for the
fault that is remembered, and every continuation shows the same screens after both.
-/
theorem run_eq_of_stateLine_eq
    (actions others : List Action)
    (finite : (fresh.actAll actions).HoldsFinite)
    (othersFinite : (fresh.actAll others).HoldsFinite)
    (same : (fresh.actAll actions).stateLine = (fresh.actAll others).stateLine) :
    let first := fresh.actAll actions
    let second := fresh.actAll others
    first.chain = second.chain ∧
      first.pendingOperator? = second.pendingOperator? ∧
      first.pendingNumber? = second.pendingNumber? ∧
      first.fault?.isSome = second.fault?.isSome ∧
      first.screen = second.screen ∧
      ∀ continuation, first.record continuation = second.record continuation := by
  intro first second
  obtain ⟨sameState, sameFaulty⟩ :=
    stateLine_inj (allOperands_isLegible actions) (allOperands_isLegible others) finite
      othersFinite same
  have alike : SameButFault first second := ⟨sameState, sameFaulty⟩
  have sameChain : first.withoutFault.chain = second.withoutFault.chain :=
    congrArg chain sameState
  have sameOperator :
      first.withoutFault.pendingOperator? = second.withoutFault.pendingOperator? :=
    congrArg pendingOperator? sameState
  have sameNumber : first.withoutFault.pendingNumber? = second.withoutFault.pendingNumber? :=
    congrArg pendingNumber? sameState
  exact ⟨sameChain, sameOperator, sameNumber, sameFaulty, alike.screen_eq, alike.record_eq⟩

/-- A typed and a pasted five, and two keys without a button: the lines agree, the faults do not. -/
theorem run_eq_of_stateLine_eq_of_unknown_keys :
    let first :=
      fresh.actAll
        [.push (.digit 5), .push (.operator .add), .push (.digit 5), .press .standard "x"]
    let second :=
      fresh.actAll
        [.paste "5", .push (.operator .add), .paste " 05 ", .press .standard "y"]
    first.stateLine = second.stateLine ∧
      first.fault? ≠ second.fault? ∧
      ∀ continuation, first.record continuation = second.record continuation := by
  intro first second
  have firstShape :
      first =
        ⟨.operation (.typed "5") .add (.typed "5"), some .add, some 5,
          some (.unknownKey "x")⟩ := by
    decide +kernel
  have secondShape :
      second =
        ⟨.operation (.typed "5") .add (.typed "5"), some .add, some 5,
          some (.unknownKey "y")⟩ := by
    decide +kernel
  have finite (fault? : Option Fault) :
      HoldsFinite
        ⟨.operation (.typed "5") .add (.typed "5"), some .add, some 5, fault?⟩ := by
    refine ⟨?_, ?_⟩
    · rintro value member
      simp only [Chain.operation, List.mem_cons, List.not_mem_nil, Link.operand.injEq,
        reduceCtorEq, or_false] at member
    · rintro value ⟨⟩
      decide +kernel
  have firstFinite : first.HoldsFinite := by
    rw [firstShape]
    exact finite _
  have secondFinite : second.HoldsFinite := by
    rw [secondShape]
    exact finite _
  have sameLine : first.stateLine = second.stateLine := by
    rw [firstShape, secondShape]
    rfl
  obtain ⟨-, -, -, -, -, sameScreens⟩ :=
    run_eq_of_stateLine_eq _ _ firstFinite secondFinite sameLine
  refine ⟨sameLine, ?_, sameScreens⟩
  rw [firstShape, secondShape]
  decide

end Calculator

end ChainCalculator

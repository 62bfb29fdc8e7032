import Mathlib
import ChainCalculator.Proofs.BindingOrder

namespace ChainCalculator

/-!
# The history of bindings

Keys are bound one after the other, and an attempt that fails changes nothing.  So a key has the
button of the last successful attempt for its name.  Without one it has its standard button, and
without that the button that its single character presses.

The first two cases look at the key in small letters, the last one at the key as it stands.  Keys
with the same small letters still have the same button: the characters that press a button stand in
front of all letters, and such a character is the small letter of itself only.
-/

/-! ## Characters in front of the letters -/

namespace Text

/-- A character that stands in front of all letters. -/
def PrecedesLetters
    (character : Char) :
    Prop :=
  character.toNat < 'A'.toNat

instance (character : Char) : Decidable (PrecedesLetters character) :=
  inferInstanceAs (Decidable (_ < _))

/-- Capitals and their small letters do not stand in front of the letters. -/
private theorem bounds_of_mem_capitalRuns :
    ∀ run ∈ capitalRuns,
      'A'.toNat ≤ run.first ∧
        'A'.toNat ≤ run.small ∧
        (run.small + (run.last - run.first) < 0xD800 ∨
          0xDFFF < run.small ∧ run.small + (run.last - run.first) < 0x110000) := by
  decide +kernel

/-- A run that is found is one of the table, and the code point lies in it. -/
theorem mem_capitalRuns_of_capitalRun?
    {codePoint : Nat}
    {run : CapitalRun}
    (found : capitalRun? codePoint = some run) :
    run ∈ capitalRuns ∧ run.first ≤ codePoint ∧ codePoint ≤ run.last := by
  have inRun := List.find?_some found
  simp only [Bool.and_eq_true, decide_eq_true_eq] at inRun
  exact ⟨List.mem_of_find?_eq_some found, inRun.1⟩

variable {character mark : Char}

/-- A mark in front of the letters is its own small letter. -/
theorem smallLetters_of_precedesLetters
    (precedes : PrecedesLetters mark) :
    smallLetters mark = [mark] := by
  have notDotted : mark ≠ 'İ' := by
    rintro rfl
    exact absurd precedes (by decide)
  rw [smallLetters, if_neg notDotted]
  cases found : capitalRun? mark.toNat with
  | none =>
      rfl
  | some run =>
      obtain ⟨member, behindFirst, -⟩ := mem_capitalRuns_of_capitalRun? found
      have behindLetters := (bounds_of_mem_capitalRuns run member).1
      exact absurd precedes (Nat.not_lt_of_le (behindLetters.trans behindFirst))

/-- Only the mark itself lowers to a mark in front of the letters. -/
theorem eq_of_mem_smallLetters
    (member : mark ∈ smallLetters character)
    (precedes : PrecedesLetters mark) :
    mark = character := by
  rw [smallLetters] at member
  split at member
  · rcases List.mem_pair.mp member with rfl | rfl
    · exact absurd precedes (by decide)
    · exact absurd precedes (by decide)
  · split at member
    case h_1 run found =>
      obtain ⟨inTable, behindFirst, upToLast⟩ := mem_capitalRuns_of_capitalRun? found
      obtain ⟨-, behindLetters, encodable⟩ := bounds_of_mem_capitalRuns run inTable
      have valid : (run.small + (character.toNat - run.first)).isValidChar := by
        rw [Nat.isValidChar]
        omega
      rw [List.mem_singleton.mp member, PrecedesLetters, Char.toNat_ofNat, if_pos valid]
        at precedes
      omega
    case h_2 => exact List.mem_singleton.mp member

/-- No character gets lost when it is lowered. -/
theorem smallLetters_ne_nil
    (character : Char) :
    smallLetters character ≠ [] := by
  rw [smallLetters]
  split
  · exact List.cons_ne_nil _ _
  · split <;> exact List.cons_ne_nil _ _

/-- The small letters of a text begin with those of its first character. -/
theorem exists_smallLettersAfter_cons
    (before : List Char)
    (character : Char)
    (rest : List Char) :
    ∃ letters,
      smallLettersAfter before (character :: rest) =
          letters ++ smallLettersAfter (character :: before) rest ∧
        letters ≠ [] ∧
        ∀ mark ∈ letters, PrecedesLetters mark → mark = character := by
  rw [smallLettersAfter]
  by_cases sigma : character = 'Σ'
  · refine ⟨_, rfl, by simp [sigma], ?_⟩
    intro mark member precedes
    rw [if_pos sigma, List.mem_singleton] at member
    split at member <;> exact absurd (member ▸ precedes) (by decide)
  · rw [if_neg sigma]
    exact
      ⟨_, rfl, smallLetters_ne_nil character, fun mark member => eq_of_mem_smallLetters member⟩

/-- Only the empty text lowers to nothing. -/
theorem smallLettersAfter_eq_nil
    {before text : List Char}
    (none : smallLettersAfter before text = []) :
    text = [] := by
  cases text with
  | nil =>
      rfl
  | cons character rest =>
      obtain ⟨letters, shape, nonempty, -⟩ := exists_smallLettersAfter_cons before character rest
      rw [shape] at none
      exact absurd (List.append_eq_nil_iff.mp none).1 nonempty

/-- A character in front of the letters is the small letter of itself only. -/
theorem smallLettersAfter_eq_singleton_iff
    (precedes : PrecedesLetters mark)
    {before text : List Char} :
    smallLettersAfter before text = [mark] ↔ text = [mark] := by
  constructor
  · intro small
    cases text with
    | nil =>
        cases small
    | cons character rest =>
        obtain ⟨letters, shape, nonempty, own⟩ :=
          exists_smallLettersAfter_cons before character rest
        rw [shape, List.append_eq_singleton_iff] at small
        rcases small with ⟨none, -⟩ | ⟨single, noMore⟩
        · exact absurd none nonempty
        · have same : mark = character := own mark (by simp [single]) precedes
          rw [smallLettersAfter_eq_nil noMore, same]
  · rintro rfl
    have notSigma : mark ≠ 'Σ' := by
      rintro rfl
      exact absurd precedes (by decide)
    rw [smallLettersAfter, if_neg notSigma, smallLetters_of_precedesLetters precedes]
    rfl

/-- A text that lowers like a mark in front of the letters is that mark. -/
theorem toList_eq_singleton_of_lowercase_eq
    (precedes : PrecedesLetters mark)
    {first second : String}
    (same : lowercase first = lowercase second)
    (shape : first.toList = [mark]) :
    second.toList = [mark] := by
  rw [lowercase, lowercase, String.ofList_inj] at same
  rw [← smallLettersAfter_eq_singleton_iff precedes, ← same,
    smallLettersAfter_eq_singleton_iff precedes]
  exact shape

end Text

namespace Button

variable {button : Button}

/-- The characters that press a button stand in front of the letters. -/
theorem precedesLetters_of_ofChar?
    {character : Char}
    (pressed : ofChar? character = some button) :
    Text.PrecedesLetters character := by
  rw [ofChar?.eq_def] at pressed
  split at pressed
  case isTrue digit =>
    simp only [Char.isDigit, Bool.and_eq_true, decide_eq_true_eq] at digit
    exact Nat.lt_of_le_of_lt (UInt32.le_iff_toNat_le.mp digit.2) (by decide)
  case isFalse =>
    split at pressed
    · decide
    · decide
    · decide
    · obtain ⟨operator, symbol, -⟩ := Option.map_eq_some_iff.mp pressed
      rw [Operator.ofSymbol?.eq_def] at symbol
      split at symbol
      · decide
      · decide
      · decide
      · decide
      · cases symbol

/-- Letter case does not matter to the buttons that a single character presses. -/
theorem ofSingle?_of_lowercase_eq
    {first second : String}
    (same : Text.lowercase first = Text.lowercase second)
    (pressed : ofSingle? first.toList = some button) :
    ofSingle? second.toList = some button := by
  rw [ofSingle?.eq_def] at pressed
  split at pressed
  case h_1 character shape =>
    rw [Text.toList_eq_singleton_of_lowercase_eq (precedesLetters_of_ofChar? pressed) same shape]
    exact pressed
  case h_2 => cases pressed

/-- Texts with the same small letters press the same button as single characters. -/
theorem ofSingle?_eq_of_lowercase_eq
    {first second : String}
    (same : Text.lowercase first = Text.lowercase second) :
    ofSingle? first.toList = ofSingle? second.toList := by
  apply Option.ext
  intro button
  exact ⟨ofSingle?_of_lowercase_eq same, ofSingle?_of_lowercase_eq same.symm⟩

end Button

namespace Bindings

/--
The bindings after attempts to bind keys, given with their actions, one after the other.  An attempt
that fails leaves the bindings as they were.
-/
def bindEach
    (bindings : Bindings) :
    List (String × String) → Bindings
  | [] => bindings
  | (key, action) :: rest =>
      match bindings.bind key action with
      | .ok extended => extended.bindEach rest
      | .error _ => bindings.bindEach rest

/-- No attempt for the name of a key succeeds. -/
def Unbound
    (attempts : List (String × String))
    (key : String) :
    Prop :=
  ∀ attempt ∈ attempts,
    Text.lowercase attempt.1 = Text.lowercase key → Button.ofAction? attempt.2 = none

/-- The last successful attempt for the name of a key has an action for the given button. -/
def LastBound
    (attempts : List (String × String))
    (key : String)
    (button : Button) :
    Prop :=
  ∃ earlier attempt later,
    attempts = earlier ++ attempt :: later ∧
      Text.lowercase attempt.1 = Text.lowercase key ∧
      Button.ofAction? attempt.2 = some button ∧
      Unbound later key

/-- A key has a name with a button, from an attempt to bind it or from the standard bindings. -/
def HasName
    (attempts : List (String × String))
    (key : String) :
    Prop :=
  (∃ button, LastBound attempts key button) ∨ (standard.bound? key).isSome

/-- The button that a key stands for after attempts to bind keys to the standard bindings. -/
inductive StandsFor
    (attempts : List (String × String))
    (key : String) :
    Option Button → Prop where
  | bound
      {button : Button}
      (latest : LastBound attempts key button) :
      StandsFor attempts key (some button)
  | standard
      {button : Button}
      (unbound : Unbound attempts key)
      (known : standard.bound? key = some button) :
      StandsFor attempts key (some button)
  | single
      {character : Char}
      (unbound : Unbound attempts key)
      (unknown : standard.bound? key = none)
      (shape : key.toList = [character]) :
      StandsFor attempts key (Button.ofChar? character)
  | nothing
      (unbound : Unbound attempts key)
      (unknown : standard.bound? key = none)
      (shape : key.toList.length ≠ 1) :
      StandsFor attempts key none

variable
  {bindings : Bindings}
  {attempts : List (String × String)}
  {key : String}
  {button : Button}

/-- A key can be bound if and only if its action names a button. -/
theorem isOk_bind_iff
    (bindings : Bindings)
    (key action : String) :
    (bindings.bind key action).isOk ↔ (Button.ofAction? action).isSome := by
  rw [bind]
  cases Button.ofAction? action <;> simp [Except.isOk, Except.toBool]

/-- Attempts in a row may be made in two groups. -/
theorem bindEach_append
    (bindings : Bindings)
    (earlier later : List (String × String)) :
    bindings.bindEach (earlier ++ later) = (bindings.bindEach earlier).bindEach later := by
  induction earlier generalizing bindings with
  | nil =>
      rfl
  | cons attempt rest inductionHypothesis =>
      rw [List.cons_append, bindEach, bindEach]
      split <;> exact inductionHypothesis _

/-- Attempts that do not succeed for a name leave its button as it was. -/
theorem bound?_bindEach_of_unbound
    (unbound : Unbound attempts key) :
    (bindings.bindEach attempts).bound? key = bindings.bound? key := by
  induction attempts generalizing bindings with
  | nil =>
      rfl
  | cons attempt rest inductionHypothesis =>
      obtain ⟨first, others⟩ := List.forall_mem_cons.mp unbound
      rw [bindEach]
      split
      case h_1 extended made =>
        rw [inductionHypothesis others, bound?_of_bind made, if_neg]
        intro named
        have succeeds := (isOk_bind_iff bindings attempt.1 attempt.2).mp (by rw [made]; rfl)
        rw [first named] at succeeds
        cases succeeds
      case h_2 => exact inductionHypothesis others

/-- The last successful attempt for a name is the one that counts. -/
theorem bound?_bindEach_of_lastBound
    (latest : LastBound attempts key button) :
    (bindings.bindEach attempts).bound? key = some button := by
  obtain ⟨earlier, ⟨name, action⟩, later, rfl, named, succeeds, unboundLater⟩ := latest
  rw [bindEach_append, bindEach]
  split
  case h_1 extended made =>
    rw [bound?_bindEach_of_unbound unboundLater, bound?_of_bind made, if_pos named]
    exact succeeds
  case h_2 failed =>
    have isOk := (isOk_bind_iff (bindings.bindEach earlier) name action).mpr (by rw [succeeds]; rfl)
    rw [failed] at isOk
    cases isOk

/-- A key is never bound, or one of its bindings is the last. -/
theorem unbound_or_exists_lastBound
    (attempts : List (String × String))
    (key : String) :
    Unbound attempts key ∨ ∃ button, LastBound attempts key button := by
  induction attempts with
  | nil =>
      exact Or.inl (List.forall_mem_nil _)
  | cons attempt rest inductionHypothesis =>
      rcases inductionHypothesis with unbound | ⟨button, earlier, latest, later, rfl, others⟩
      · by_cases named : Text.lowercase attempt.1 = Text.lowercase key
        · cases action : Button.ofAction? attempt.2 with
          | none =>
              exact Or.inl (List.forall_mem_cons.mpr ⟨fun _ => action, unbound⟩)
          | some button =>
              exact Or.inr ⟨button, [], attempt, rest, rfl, named, action, unbound⟩
        · exact Or.inl (List.forall_mem_cons.mpr ⟨fun same => absurd same named, unbound⟩)
      · exact Or.inr ⟨button, attempt :: earlier, latest, later, rfl, others⟩

/-- A key has a binding of its own if its name was ever bound with success, or from the start. -/
theorem isSome_bound?_bindEach_iff
    (attempts : List (String × String))
    (key : String) :
    ((standard.bindEach attempts).bound? key).isSome ↔ HasName attempts key := by
  rcases unbound_or_exists_lastBound attempts key with unbound | ⟨button, latest⟩
  · rw [bound?_bindEach_of_unbound unbound, HasName]
    refine ⟨Or.inr, ?_⟩
    rintro (⟨button, earlier, attempt, later, rfl, named, succeeds, -⟩ | known)
    · have fails := unbound attempt (List.mem_append_right _ List.mem_cons_self) named
      rw [succeeds] at fails
      cases fails
    · exact known
  · rw [bound?_bindEach_of_lastBound latest]
    exact iff_of_true rfl (Or.inl ⟨button, latest⟩)

/-- The button of a key is the one that the history of the attempts gives it. -/
theorem standsFor_resolve?
    (attempts : List (String × String))
    (key : String) :
    StandsFor attempts key ((standard.bindEach attempts).resolve? key) := by
  rw [resolve?]
  rcases unbound_or_exists_lastBound attempts key with unbound | ⟨button, latest⟩
  · rw [bound?_bindEach_of_unbound unbound]
    cases known : standard.bound? key with
    | some button =>
        exact .standard unbound known
    | none =>
        rw [Option.none_or, Button.ofSingle?.eq_def]
        split
        case h_1 character shape => exact .single unbound known shape
        case h_2 other =>
          refine .nothing unbound known ?_
          intro oneCharacter
          obtain ⟨character, shape⟩ := List.length_eq_one_iff.mp oneCharacter
          exact other character shape
  · rw [bound?_bindEach_of_lastBound latest]
    exact .bound latest

/-- The history leaves only one answer. -/
theorem resolve?_eq_of_standsFor
    {button? : Option Button}
    (stands : StandsFor attempts key button?) :
    (standard.bindEach attempts).resolve? key = button? := by
  rw [resolve?]
  cases stands with
  | bound latest =>
      rw [bound?_bindEach_of_lastBound latest, Option.some_or]
  | standard unbound known =>
      rw [bound?_bindEach_of_unbound unbound, known, Option.some_or]
  | single unbound unknown shape =>
      rw [bound?_bindEach_of_unbound unbound, unknown, Option.none_or, shape, Button.ofSingle?]
  | nothing unbound unknown shape =>
      rw [bound?_bindEach_of_unbound unbound, unknown, Option.none_or, Button.ofSingle?.eq_2]
      intro character single
      exact shape (List.length_eq_one_iff.mpr ⟨character, single⟩)

/-- Keys with the same small letters have the same button, whatever is bound. -/
theorem resolve?_eq_of_lowercase_eq
    (bindings : Bindings)
    {first second : String}
    (same : Text.lowercase first = Text.lowercase second) :
    bindings.resolve? first = bindings.resolve? second := by
  rw [resolve?, resolve?, bound?, bound?, same, Button.ofSingle?_eq_of_lowercase_eq same]

/--
After any attempts to bind keys, a key has the button of the last successful attempt for its name,
else its standard button, else the one that its single character presses, and else none.  A word
with a name that is bound is one key, any other word is one key for each of its characters.  Letter
case makes no difference to the button of a key.
-/
theorem resolve?_after_attempts
    (attempts : List (String × String))
    (key : String) :
    (∀ (bindings : Bindings) (name action : String),
        (bindings.bind name action).isOk ↔ (Button.ofAction? action).isSome) ∧
      (∀ button?,
        (standard.bindEach attempts).resolve? key = button? ↔ StandsFor attempts key button?) ∧
      (HasName attempts key → (standard.bindEach attempts).keysOfWord key = [key]) ∧
      (¬HasName attempts key →
        (standard.bindEach attempts).keysOfWord key = key.toList.map String.singleton) ∧
      ∀ other,
        Text.lowercase other = Text.lowercase key →
          (standard.bindEach attempts).resolve? other =
            (standard.bindEach attempts).resolve? key := by
  have named := isSome_bound?_bindEach_iff attempts key
  refine ⟨isOk_bind_iff, ?_, ?_, ?_, fun other => resolve?_eq_of_lowercase_eq _⟩
  · intro button?
    constructor
    · rintro rfl
      exact standsFor_resolve? attempts key
    · exact resolve?_eq_of_standsFor
  · intro hasName
    rw [keysOfWord, if_pos (named.mpr hasName)]
  · intro nameless
    rw [keysOfWord, if_neg (mt named.mp nameless)]

/-- The Kelvin sign is bound as the letter `k`, and the later attempt for that letter fails. -/
theorem resolve?_after_attempts_for_kelvin_sign :
    let attempts := [("k", "clear-all"), ("\u212A", "="), ("K", "sideways"), ("enter", "+")]
    LastBound attempts "K" .equals ∧
      (standard.bindEach attempts).resolve? "K" = some .equals ∧
      (standard.bindEach attempts).keysOfWord "K" = ["K"] ∧
      (standard.bindEach attempts).resolve? "\u212A" =
        (standard.bindEach attempts).resolve? "K" ∧
      ¬HasName attempts "12" ∧
      (standard.bindEach attempts).keysOfWord "12" = ["1", "2"] := by
  intro attempts
  have unboundLater : Unbound [("K", "sideways"), ("enter", "+")] "K" := by
    rw [Unbound]
    decide +kernel
  have latest : LastBound attempts "K" .equals :=
    ⟨[("k", "clear-all")], ("\u212A", "="), _, rfl, by decide +kernel, by decide, unboundLater⟩
  have nameless : ¬HasName attempts "12" := by
    rw [← isSome_bound?_bindEach_iff]
    decide +kernel
  obtain ⟨-, stands, oneKey, -, sameButton⟩ := resolve?_after_attempts attempts "K"
  obtain ⟨-, -, -, keys, -⟩ := resolve?_after_attempts attempts "12"
  exact
    ⟨latest, (stands _).mpr (.bound latest), oneKey (Or.inl ⟨_, latest⟩),
      sameButton "\u212A" (by decide +kernel), nameless, keys nameless⟩

end Bindings

end ChainCalculator
